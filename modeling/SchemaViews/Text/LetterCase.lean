import SchemaViews.Text.LetterCase.Tables

/-!
# Letter case

Lower and upper case of texts in all scripts. A character may become several ones, and a sigma at
the end of a word has a form of its own.
-/

namespace SchemaViews.Text

def shifted (c : Char) (shift : Int) : Char :=
  Char.ofNat (Int.toNat (c.toNat + shift))

/-- The counterpart of a character in a table of case runs, or the character itself. -/
def counterpart (runs : List CaseRun) (c : Char) : Char :=
  match runs.find? fun entry => entry.run.contains c.toNat with
  | some entry => shifted c entry.shift
  | none => c

def isLowercase (c : Char) : Bool :=
  if c.toNat < 128 then c.isLower else CodeRun.covers lowercaseRuns c

/-- The next character that is not skipped has a case. -/
def meetsCased (neighbours : List Char) : Bool :=
  match neighbours.dropWhile (CodeRun.covers caseIgnorableRuns) with
  | c :: _ => CodeRun.covers casedRuns c
  | [] => false

/-- The lower case of one character between the text before it, in reverse, and the text
after it. A capital sigma that ends a word becomes a final sigma, and the dotted capital I
keeps its dot as a combining mark. -/
def lowerChar (before : List Char) (c : Char) (after : List Char) : List Char :=
  if c.toNat < 128 then [c.toLower]
  else if c == 'Σ' then [if meetsCased before && !meetsCased after then 'ς' else 'σ']
  else if c == 'İ' then ['i', Char.ofNat 0x307]
  else [counterpart lowerRuns c]

def lowerFrom (before : List Char) : List Char → List Char
  | [] => []
  | c :: rest => lowerChar before c rest ++ lowerFrom (c :: before) rest

def lower (text : List Char) : List Char :=
  lowerFrom [] text

def upperChar (c : Char) : List Char :=
  if c.toNat < 128 then [c.toUpper]
  else
    match upperExpansions.find? (·.1 == c.toNat) with
    | some (_, codes) => codes.map Char.ofNat
    | none => [counterpart upperRuns c]

def upper (text : List Char) : List Char :=
  text.flatMap upperChar

def lowered (text : String) : String :=
  String.ofList (lower text.toList)

def uppered (text : String) : String :=
  String.ofList (upper text.toList)

end SchemaViews.Text
