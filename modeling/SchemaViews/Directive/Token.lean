import SchemaViews.Text.Printable

/-!
# Tokens of argument lists

Splits an argument list into words, strings, quoted lists and punctuation. Every token keeps the
span that it was read from, so that faults can point at their place.
-/

namespace SchemaViews.Directive

open SchemaViews.Text

inductive TokenKind where
  | word
  | string
  | quotedList
  | openBracket
  | closeBracket
  | comma
  | colon
  deriving DecidableEq, Repr

inductive EndingKind where
  | closeParen
  | endOfInput
  deriving DecidableEq, Repr

/-- A token and the span of text it was read from. -/
structure Token where
  kind : TokenKind
  value : String
  start : Nat
  stop : Nat
  deriving DecidableEq, Repr

structure Ending where
  kind : EndingKind
  start : Nat
  stop : Nat
  deriving DecidableEq, Repr

def TokenKind.describe : TokenKind → String
  | .word => "word"
  | .string => "string"
  | .quotedList => "quoted list"
  | .openBracket => "'['"
  | .closeBracket => "']'"
  | .comma => "','"
  | .colon => "':'"

def EndingKind.describe : EndingKind → String
  | .closeParen => "')'"
  | .endOfInput => "end of input"

inductive SyntaxCause where
  | unterminatedString
  | unterminatedQuotedList
  | unterminatedArguments
  | unterminatedTag
  | unterminatedList
  | unknownDirective (written : String)
  | missingComma (found : TokenKind)
  | missingKey (found : TokenKind)
  | textAfterFlag
  | missingValue
  | missingList (found : TokenKind)
  | missingListAtEnd (found : EndingKind)
  | strayInList (found : TokenKind)
  deriving DecidableEq, Repr

def SyntaxCause.message : SyntaxCause → String
  | .unterminatedString => "unterminated string"
  | .unterminatedQuotedList => "unterminated quoted list"
  | .unterminatedArguments => "unterminated argument list"
  | .unterminatedTag => "unterminated gql tag"
  | .unterminatedList => "unterminated '['"
  | .unknownDirective written => s!"unknown directive '@{written}'"
  | .missingComma found => s!"expected ',' but found {found.describe}"
  | .missingKey found => s!"expected a flag or key but found {found.describe}"
  | .textAfterFlag => "unexpected text after flag"
  | .missingValue => "missing value after ':'"
  | .missingList found => s!"expected a list but found {found.describe}"
  | .missingListAtEnd found => s!"expected a list but found {found.describe}"
  | .strayInList found => s!"unexpected {found.describe} in list"

/-- A fault with the text it is about, where that text starts, and the unit the text belongs to. -/
structure SyntaxError where
  cause : SyntaxCause
  text : List Char
  position : Int
  source : Option String := none
  deriving DecidableEq, Repr

def SyntaxError.message (error : SyntaxError) : String :=
  let place := match error.source with
    | some source => if source.isEmpty then "" else source ++ ": "
    | none => ""
  s!"{place}{error.cause.message} at position {error.position}: {String.ofList (quoted error.text)}"

def SyntaxError.shift (error : SyntaxError) (offset : Nat) : SyntaxError :=
  { error with position := error.position + offset }

/-- Attributes a fault to a unit; an empty name is no unit. -/
def SyntaxError.attribute (error : SyntaxError) (source : Option String) : SyntaxError :=
  match source with
  | some name => if name.isEmpty then error else { error with source := some name }
  | none => error

/-- The tokens of an argument list, what ended it, and the text after it. -/
structure Scan where
  tokens : List Token
  ending : Ending
  rest : List Char
  deriving DecidableEq, Repr

def Scan.push (token : Token) (scan : Scan) : Scan :=
  { scan with tokens := token :: scan.tokens }

def isSpacing (c : Char) : Bool :=
  c == ' ' || c == '\t' || c == '\r' || c == '\n'

def punctuation? (c : Char) : Option TokenKind :=
  if c == '[' then some .openBracket
  else if c == ']' then some .closeBracket
  else if c == ',' then some .comma
  else if c == ':' then some .colon
  else none

/-- The characters that end a word; a closing parenthesis only does so inside parentheses. -/
def isDelimiter (inParens : Bool) (c : Char) : Bool :=
  isSpacing c || (punctuation? c).isSome || c == '\'' || c == '"' || (inParens && c == ')')

/-- The number of parentheses that words have left open, after one more character of a word. -/
def nestAfter (nesting : Nat) (c : Char) : Nat :=
  if c == '(' then nesting + 1 else if c == ')' then nesting - 1 else nesting

/-- The rest of a word, the parentheses then left open, and the text after the word. A closing
parenthesis belongs to the word if it matches one that words have opened. -/
def scanWord (inParens : Bool) : Nat → List Char → List Char × Nat × List Char
  | nesting, [] => ([], nesting, [])
  | nesting, c :: rest =>
    if isDelimiter inParens c && !(c == ')' && nesting != 0) then ([], nesting, c :: rest)
    else
      let (word, left, after) := scanWord inParens (nestAfter nesting c) rest
      (c :: word, left, after)

/-- The value of a string whose opening quote has been read, the width of what was read, and the
text after the closing quote. A backslash is dropped and the character after it kept. -/
def scanString : List Char → Option (List Char × Nat × List Char)
  | [] => none
  | '"' :: rest => some ([], 1, rest)
  | '\\' :: [] => none
  | '\\' :: c :: rest =>
    (scanString rest).map fun (value, width, after) => (c :: value, width + 2, after)
  | c :: rest => (scanString rest).map fun (value, width, after) => (c :: value, width + 1, after)

theorem length_scanWord_le (inParens : Bool) (nesting : Nat) (text : List Char) :
    (scanWord inParens nesting text).2.2.length ≤ text.length := by
  induction text generalizing nesting with
  | nil => simp [scanWord]
  | cons c rest ih =>
    unfold scanWord
    split
    · exact Nat.le_refl _
    · exact Nat.le_succ_of_le (ih (nestAfter nesting c))

theorem length_scanString_lt {text value after : List Char} {width : Nat}
    (h : scanString text = some (value, width, after)) : after.length < text.length := by
  fun_induction scanString text generalizing value width after with
  | case1 => simp at h
  | case2 rest =>
    simp only [Option.some.injEq, Prod.mk.injEq] at h
    simp [h.2.2]
  | case3 => simp at h
  | case4 c rest ih =>
    obtain ⟨⟨value', width', after'⟩, hrest, heq⟩ := Option.map_eq_some_iff.1 h
    simp only [Prod.mk.injEq] at heq
    have := ih hrest
    simp only [List.length_cons, ← heq.2.2]
    omega
  | case5 c rest _ _ _ ih =>
    obtain ⟨⟨value', width', after'⟩, hrest, heq⟩ := Option.map_eq_some_iff.1 h
    simp only [Prod.mk.injEq] at heq
    have := ih hrest
    simp only [List.length_cons, ← heq.2.2]
    omega

/-- Reads tokens from `position` on. Inside parentheses `unclosed` is the fault of a list that is
never closed, and the list ends at the first closing parenthesis that no word has opened;
otherwise it takes the whole text. -/
def scanFrom (unclosed : Option SyntaxError) (nesting position : Nat) (text : List Char) :
    Except SyntaxError Scan :=
  match text with
  | [] =>
    match unclosed with
    | some error => .error error
    | none => .ok ⟨[], ⟨.endOfInput, position, position⟩, []⟩
  | c :: rest =>
    if isSpacing c then scanFrom unclosed nesting (position + 1) rest
    else if unclosed.isSome && c == ')' && nesting == 0 then
      .ok ⟨[], ⟨.closeParen, position, position + 1⟩, rest⟩
    else if c == '"' then
      match h : scanString rest with
      | none => .error ⟨.unterminatedString, c :: rest, position, none⟩
      | some (value, width, after) =>
        let stop := position + 1 + width
        have : after.length < rest.length := length_scanString_lt h
        (scanFrom unclosed nesting stop after).map
          (Scan.push ⟨.string, String.ofList value, position, stop⟩)
    else if c == '\'' then
      let content := rest.takeWhile (· != '\'')
      match h : rest.dropWhile (· != '\'') with
      | [] => .error ⟨.unterminatedQuotedList, c :: rest, position, none⟩
      | _ :: after =>
        let stop := position + content.length + 2
        have : after.length < rest.length := by
          have hlength := (List.dropWhile_sublist (· != '\'') (l := rest)).length_le
          rw [h, List.length_cons] at hlength
          omega
        (scanFrom unclosed nesting stop after).map
          (Scan.push ⟨.quotedList, String.ofList content, position, stop⟩)
    else
      match punctuation? c with
      | some kind =>
        (scanFrom unclosed nesting (position + 1) rest).map
          (Scan.push ⟨kind, String.singleton c, position, position + 1⟩)
      | none =>
        have := length_scanWord_le unclosed.isSome (nestAfter nesting c) rest
        let word := scanWord unclosed.isSome (nestAfter nesting c) rest
        let stop := position + 1 + word.1.length
        (scanFrom unclosed word.2.1 stop word.2.2).map
          (Scan.push ⟨.word, String.ofList (c :: word.1), position, stop⟩)
  termination_by text.length

/-- The text from the opening parenthesis on, which stands just before `start`; before the very
start of a text its last character is taken. -/
def unclosedAt (text : List Char) (start : Nat) : SyntaxError :=
  let opening := if start = 0 then text.length - 1 else start - 1
  ⟨.unterminatedArguments, text.drop opening, (start : Int) - 1, none⟩

def tokenize (text : List Char) (start : Nat) (inParens : Bool) : Except SyntaxError Scan :=
  scanFrom (if inParens then some (unclosedAt text start) else none) 0 (min start text.length)
    (text.drop start)

end SchemaViews.Directive
