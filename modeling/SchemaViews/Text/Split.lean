/-!
# Parts of texts

White space and texts without it at their ends, the lines of a text, pieces between separators, and
what a text starts or ends with.
-/

namespace SchemaViews.Text

/-! ### White space -/

/-- Unicode white space, and the four separators U+001C to U+001F. -/
def isBlank (c : Char) : Bool :=
  let code := c.toNat
  (9 ≤ code && code ≤ 13) || (28 ≤ code && code ≤ 32) || code == 0x85 || code == 0xA0 ||
    code == 0x1680 || (0x2000 ≤ code && code ≤ 0x200A) || code == 0x2028 || code == 0x2029 ||
    code == 0x202F || code == 0x205F || code == 0x3000

def stripStart (text : List Char) : List Char :=
  text.dropWhile isBlank

def stripEnd (text : List Char) : List Char :=
  (text.reverse.dropWhile isBlank).reverse

def strip (text : List Char) : List Char :=
  stripEnd (stripStart text)

def stripped (text : String) : String :=
  String.ofList (strip text.toList)

theorem length_dropWhile_le (accept : Char → Bool) (text : List Char) :
    (text.dropWhile accept).length ≤ text.length :=
  (List.dropWhile_sublist accept).length_le

theorem length_stripStart_le (text : List Char) : (stripStart text).length ≤ text.length :=
  length_dropWhile_le isBlank text

theorem length_stripEnd_le (text : List Char) : (stripEnd text).length ≤ text.length := by
  simpa [stripEnd] using length_dropWhile_le isBlank text.reverse

theorem length_strip_le (text : List Char) : (strip text).length ≤ text.length :=
  Nat.le_trans (length_stripEnd_le _) (length_stripStart_le text)

/-! ### Lines -/

/-- The characters that end a line: line feed, vertical tab, form feed, carriage return, the file,
group and record separators, next line, and the line and paragraph separators. -/
def isLineBreak (c : Char) : Bool :=
  let code := c.toNat
  (10 ≤ code && code ≤ 13) || (28 ≤ code && code ≤ 30) || code == 0x85 || code == 0x2028 ||
    code == 0x2029

def extendFirst (c : Char) : List (List Char) → List (List Char)
  | [] => [[c]]
  | line :: lines => (c :: line) :: lines

/-- The lines of a text without their breaks; a break at the very end starts no further line. -/
def splitLines : List Char → List (List Char)
  | [] => []
  | '\r' :: '\n' :: rest => [] :: splitLines rest
  | c :: rest => if isLineBreak c then [] :: splitLines rest else extendFirst c (splitLines rest)

def normalizeNewlines : List Char → List Char
  | [] => []
  | '\r' :: '\n' :: rest => '\n' :: normalizeNewlines rest
  | c :: rest => (if c == '\r' then '\n' else c) :: normalizeNewlines rest

def joinLines (lines : List String) : String :=
  "\n".intercalate lines

/-! ### Pieces -/

/-- The pieces between the separators; there is always at least one. -/
def splitOn (separator : Char) : List Char → List (List Char)
  | [] => [[]]
  | c :: rest =>
    match splitOn separator rest with
    | [] => [[]]
    | piece :: pieces => if c == separator then [] :: piece :: pieces else (c :: piece) :: pieces

/-- The comma-separated pieces, trimmed, without the empty ones. -/
def splitNames (text : List Char) : List String :=
  ((splitOn ',' text).map strip).filter (fun piece => !piece.isEmpty) |>.map String.ofList

/-- What follows the last separator, or the whole text if there is none. -/
def afterLast (separator : Char) (text : List Char) : List Char :=
  (text.reverse.takeWhile (· != separator)).reverse

/-- The text without the characters of a class at its two ends. -/
def trimChars (drop : Char → Bool) (text : List Char) : List Char :=
  ((text.dropWhile drop).reverse.dropWhile drop).reverse

def dropStart? : List Char → List Char → Option (List Char)
  | [], text => some text
  | _ :: _, [] => none
  | c :: start, d :: text => if c == d then dropStart? start text else none

def startsWith (text start : String) : Bool :=
  start.toList.isPrefixOf text.toList

def endsWith (text ending : String) : Bool :=
  ending.toList.isSuffixOf text.toList

def hasPart (part : List Char) : List Char → Bool
  | [] => part.isEmpty
  | c :: rest => part.isPrefixOf (c :: rest) || hasPart part rest

/-- The characters from `start` up to, not including, `stop`. -/
def slice (text : List Char) (start stop : Nat) : List Char :=
  (text.drop start).take (stop - start)

end SchemaViews.Text
