import SchemaViews.Data.Violation
import SchemaViews.Text.Numeral

/-!
# Numbers in settings

A number or a truth value may be given as an integer, as a float, or as a text that writes one. A
float counts only inside the range of machine words, and a text is tidied before it is read: blanks
around it, a plus sign, zeros in front, a fraction of zeros and single underscores do not matter.
-/

namespace SchemaViews.Settings

open SchemaViews.Data SchemaViews.Text

/-- The first number beyond the machine words of 64 bits with a sign. -/
def wordBound : Int :=
  9223372036854775808

def isWord (value : Int) : Bool :=
  -wordBound ≤ value && value < wordBound

def isIntegral (value : Float) : Bool :=
  value.isFinite && value.floor == value

def isWordSized (value : Float) : Bool :=
  -9223372036854775808.0 < value && value < 9223372036854775808.0

/-- The number that a float without a fraction stands for: its significand times a power of two. -/
def integerOfFloat (value : Float) : Int :=
  let bits := value.toBits.toNat
  let exponent := (bits >>> 52) % 2048
  let significand := (1 <<< 52) + bits % (1 <<< 52)
  let magnitude : Nat :=
    if exponent = 0 then 0
    else if 1075 ≤ exponent then significand <<< (exponent - 1075)
    else significand >>> (1075 - exponent)
  if bits >>> 63 = 1 then -(magnitude : Int) else magnitude

/-- The text without a plus sign in front, after which no minus sign may stand. -/
def withoutPlus? : List Char → Option (List Char)
  | '+' :: '-' :: _ => none
  | '+' :: rest => some rest
  | numeral => some numeral

/-- What follows zeros and underscores, the last of which is `last`: it is kept
where no digit comes after it. -/
def afterZeros? (last : Char) : List Char → Option (List Char)
  | [] => some [last]
  | '.' :: rest => some (last :: '.' :: rest)
  | c :: rest =>
    if c == '0' || c == '_' then afterZeros? c rest
    else if c.isDigit || c == '-' then some (c :: rest)
    else none

/-- The text from its first digit that counts, or from its minus sign. -/
def withoutLeadingZeros? : List Char → Option (List Char)
  | [] => none
  | '0' :: rest => afterZeros? '0' rest
  | c :: rest => if c.isDigit || c == '-' then some (c :: rest) else none

def withoutZeroFraction (text : List Char) : List Char :=
  match text.dropWhile (· != '.') with
  | _ :: zeros => if !zeros.isEmpty && zeros.all (· == '0') then text.takeWhile (· != '.') else text
  | [] => text

/-- The text without underscores, if none of them is at an end or beside another one. -/
def withoutUnderscores (text : List Char) : List Char :=
  let groups := splitOn '_' text
  if groups.any List.isEmpty then text else groups.flatten

def tidied? (text : List Char) : Option (List Char) := do
  let significant ← withoutLeadingZeros? (← withoutPlus? (trimChars isNumberBlank text))
  some (withoutUnderscores (withoutZeroFraction significant))

/-- The integer that a plain numeral writes: a minus sign or none, and digits of which the
first one counts. A run of too many digits is refused before what follows it is looked at; the
sign is counted with them. -/
def plainInteger (text : List Char) : Checked Int :=
  let negative := text.head? = some '-'
  let unsigned := if negative then text.tail else text
  let digits := unsigned.takeWhile Char.isDigit
  if unsigned.head? = some '0' then
    if unsigned.length = 1 then .ok 0 else fault .unreadableInteger
  else if digits.isEmpty then fault .unreadableInteger
  else if maxDigits < digits.length + (if negative then 1 else 0) then fault .oversized
  else if digits.length < unsigned.length then fault .unreadableInteger
  else .ok (if negative then -(decimalValue digits : Int) else decimalValue digits)

def integerOfText (text : List Char) : Checked Int :=
  match tidied? text with
  | some plain => plainInteger plain
  | none => fault .unreadableInteger

def readInteger : Data → Checked Int
  | .integer value => .ok value
  | .bool value => .ok (if value then 1 else 0)
  | .float value =>
    if !value.isFinite then fault .notFinite
    else if !isIntegral value then fault .fractional
    else if isWordSized value then .ok (integerOfFloat value)
    else fault .oversized
  | .text value => integerOfText value.toList
  | _ => fault .notInteger

/-- The truth value that a machine word stands for, if it is zero or one. -/
def boolOfWord (value : Int) : Checked Bool :=
  if value = 0 then .ok false else if value = 1 then .ok true else fault .unreadableBool

def trueWords : List String :=
  ["1", "on", "t", "true", "y", "yes"]

def falseWords : List String :=
  ["0", "off", "f", "false", "n", "no"]

/-- A truth value: also the numbers zero and one, and some words in any letter case. -/
def readBool : Data → Checked Bool
  | .bool value => .ok value
  | .integer value => if isWord value then boolOfWord value else fault .notBool
  | .float value =>
    if isIntegral value && isWordSized value then boolOfWord (integerOfFloat value)
      else fault .notBool
  | .text value =>
    let word := String.ofList (value.toList.map Char.toLower)
    if trueWords.contains word then .ok true
    else if falseWords.contains word then .ok false
    else fault .unreadableBool
  | _ => fault .notBool

end SchemaViews.Settings
