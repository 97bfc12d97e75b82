import SchemaViews.Text.Split

/-!
# Numerals

The values of digits and of runs of digits, and integers as they are typed: decimal digits of any
script, with a sign in front and single underscores between digits.
-/

namespace SchemaViews.Text

/-- Decimal integers with more digits than this are not read. -/
def maxDigits : Nat :=
  4300

def decimalValue (digits : List Char) : Nat :=
  digits.foldl (fun value digit => value * 10 + (digit.toNat - 48)) 0

def hexDigit? (c : Char) : Option Nat :=
  if c.isDigit then some (c.toNat - 48)
  else if 'a' ≤ c && c ≤ 'f' then some (c.toNat - 87)
  else if 'A' ≤ c && c ≤ 'F' then some (c.toNat - 55)
  else none

def hexNumber? (digits : List Char) : Option Nat :=
  digits.foldlM (fun value digit => (hexDigit? digit).map (value * 16 + ·)) 0

/-- Whether a number is the code of a character: it is in range and no half of a surrogate pair. -/
def isScalarValue (code : Nat) : Bool :=
  code < 0xD800 || (0xE000 ≤ code && code < 0x110000)

/-- The code points of the digits zero; the digits from one to nine follow each of them. -/
def zeroDigits : List Nat :=
  [0x30, 0x660, 0x6F0, 0x7C0, 0x966, 0x9E6, 0xA66, 0xAE6, 0xB66, 0xBE6, 0xC66, 0xCE6, 0xD66,
    0xDE6, 0xE50, 0xED0, 0xF20, 0x1040, 0x1090, 0x17E0, 0x1810, 0x1946, 0x19D0, 0x1A80, 0x1A90,
    0x1B50, 0x1BB0, 0x1C40, 0x1C50, 0xA620, 0xA8D0, 0xA900, 0xA9D0, 0xA9F0, 0xAA50, 0xABF0, 0xFF10,
    0x104A0, 0x10D30, 0x11066, 0x110F0, 0x11136, 0x111D0, 0x112F0, 0x11450, 0x114D0, 0x11650,
    0x116C0, 0x11730, 0x118E0, 0x11950, 0x11C50, 0x11D50, 0x11DA0, 0x16A60, 0x16AC0, 0x16B50,
    0x1D7CE, 0x1D7D8, 0x1D7E2, 0x1D7EC, 0x1D7F6, 0x1E140, 0x1E2F0, 0x1E950, 0x1FBF0]

def digitValue? (c : Char) : Option Nat :=
  (zeroDigits.find? fun first => first ≤ c.toNat && c.toNat < first + 10).map
    fun first => c.toNat - first

/-- The number that digits with single underscores between them write. -/
def digitsValue? (text : List Char) : Option Nat := do
  let groups ← (splitOn '_' text).mapM fun group => group.mapM digitValue?
  if groups.any List.isEmpty || maxDigits < groups.flatten.length then none
  else some (groups.flatten.foldl (fun value digit => value * 10 + digit) 0)

def splitSign : List Char → Bool × List Char
  | '-' :: rest => (true, rest)
  | '+' :: rest => (false, rest)
  | text => (false, text)

/-- The blanks around a number: white space without the separators U+001C to U+001F. -/
def isNumberBlank (c : Char) : Bool :=
  isBlank c && !(28 ≤ c.toNat && c.toNat ≤ 31)

/-- The integer that a text writes; blanks at its ends do not count. -/
def integer? (text : List Char) : Option Int :=
  let (negative, digits) := splitSign (trimChars isNumberBlank text)
  (digitsValue? digits).map fun value => if negative then -(value : Int) else value

end SchemaViews.Text
