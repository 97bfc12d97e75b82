import SchemaViews.Data.Basic
import SchemaViews.Text.CodePoint
import SchemaViews.Text.Numeral
import SchemaViews.Text.Split

/-!
# JSON

A reader for JSON texts. It gives the value that a whole text writes, or
nothing if the text is not JSON.
-/

namespace SchemaViews.Json

open SchemaViews.Text

def isSpace (c : Char) : Bool :=
  c == ' ' || c == '\t' || c == '\n' || c == '\r'

def skipSpace (text : List Char) : List Char :=
  text.dropWhile isSpace

def fourHex? : List Char → Option (Nat × List Char)
  | a :: b :: c :: d :: rest => (hexNumber? [a, b, c, d]).map fun unit => (unit, rest)
  | _ => none

/-- A surrogate without its other half stays in the text as the surrogate that it is. -/
def charOfUnit (unit : Nat) : Char :=
  if 0xD800 ≤ unit && unit < 0xE000 then surrogate unit else Char.ofNat unit

def unicodeEscape? (text : List Char) : Option (Char × List Char) := do
  let (unit, rest) ← fourHex? text
  if 0xD800 ≤ unit && unit < 0xDC00 then
    match rest with
    | '\\' :: 'u' :: second =>
      let (low, after) ← fourHex? second
      if 0xDC00 ≤ low && low < 0xE000 then
        some (Char.ofNat (0x10000 + (unit - 0xD800) * 1024 + (low - 0xDC00)), after)
      else some (charOfUnit unit, rest)
    | _ => some (charOfUnit unit, rest)
  else some (charOfUnit unit, rest)

def simpleEscape? (c : Char) : Option Char :=
  if c == '"' || c == '\\' || c == '/' then some c
  else if c == 'b' then some (Char.ofNat 8)
  else if c == 'f' then some (Char.ofNat 12)
  else if c == 'n' then some '\n'
  else if c == 'r' then some '\r'
  else if c == 't' then some '\t'
  else none

def readString : Nat → List Char → Option (List Char × List Char)
  | 0, _ => none
  | _, [] => none
  | _, '"' :: rest => some ([], rest)
  | fuel + 1, '\\' :: 'u' :: rest => do
    let (c, after) ← unicodeEscape? rest
    let (content, left) ← readString fuel after
    some (c :: content, left)
  | fuel + 1, '\\' :: c :: rest => do
    let escaped ← simpleEscape? c
    let (content, left) ← readString fuel rest
    some (escaped :: content, left)
  | fuel + 1, c :: rest =>
    if c.toNat < 32 || c == '\\' then none
    else do
      let (content, left) ← readString fuel rest
      some (c :: content, left)

def readFraction : List Char → List Char × List Char
  | '.' :: rest =>
    let digits := rest.takeWhile Char.isDigit
    if digits.isEmpty then ([], '.' :: rest) else (digits, rest.dropWhile Char.isDigit)
  | text => ([], text)

def readExponent (text : List Char) : Option Int × List Char :=
  match text with
  | mark :: rest =>
    if mark == 'e' || mark == 'E' then
      let (negative, tail) := splitSign rest
      let digits := tail.takeWhile Char.isDigit
      if digits.isEmpty then (none, text)
      else
        let value : Int := decimalValue digits
        (some (if negative then -value else value), tail.dropWhile Char.isDigit)
    else (none, text)
  | [] => (none, [])

def readNumber (negative : Bool) (text : List Char) : Option (Data × List Char) :=
  let whole := match text with
    | '0' :: _ => ['0']
    | _ => text.takeWhile Char.isDigit
  if whole.isEmpty then none
  else
    let (fraction, afterFraction) := readFraction (text.drop whole.length)
    let (exponent, rest) := readExponent afterFraction
    if fraction.isEmpty && exponent.isNone then
      if maxDigits < whole.length then none
      else
        let value : Int := decimalValue whole
        some (.integer (if negative then -value else value), rest)
    else
      let power := exponent.getD 0 - fraction.length
      some (.float (Data.scaled negative (decimalValue (whole ++ fraction)) power), rest)

def literals : List (List Char × Data) :=
  [("null".toList, .null), ("true".toList, .bool true), ("false".toList, .bool false),
    ("NaN".toList, .float (0.0 / 0.0)), ("Infinity".toList, .float (1.0 / 0.0)),
    ("-Infinity".toList, .float (-1.0 / 0.0))]

def readLiteral (text : List Char) : Option (Data × List Char) :=
  literals.findSome? fun (name, value) => (dropStart? name text).map fun rest => (value, rest)

mutual

def readValue : Nat → List Char → Option (Data × List Char)
  | 0, _ => none
  | fuel + 1, text =>
    match text with
    | '"' :: rest =>
      (readString (rest.length + 1) rest).map fun (content, after) =>
        (.text (String.ofList content), after)
    | '[' :: rest =>
      match skipSpace rest with
      | ']' :: after => some (.list [], after)
      | inner => (readItems fuel inner).map fun (items, after) => (.list items, after)
    | '\x7b' :: rest =>
      match skipSpace rest with
      | '\x7d' :: after => some (.record [], after)
      | inner => (readFields fuel [] inner).map fun (fields, after) => (.record fields, after)
    | _ =>
      match readLiteral text with
      | some found => some found
      | none =>
        match text with
        | '-' :: rest => readNumber true rest
        | _ => readNumber false text

def readItems : Nat → List Char → Option (List Data × List Char)
  | 0, _ => none
  | fuel + 1, text => do
    let (item, rest) ← readValue fuel text
    match skipSpace rest with
    | ']' :: after => some ([item], after)
    | ',' :: more =>
      let (items, after) ← readItems fuel (skipSpace more)
      some (item :: items, after)
    | _ => none

/-- The fields of an object up to its closing brace, added to those before; a repeated
key takes the last value. -/
def readFields : Nat → List (String × Data) → List Char → Option (List (String × Data) × List Char)
  | 0, _, _ => none
  | fuel + 1, before, text =>
    match text with
    | '"' :: rest => do
      let (key, afterKey) ← readString (rest.length + 1) rest
      match skipSpace afterKey with
      | ':' :: valueText =>
        let (value, afterValue) ← readValue fuel (skipSpace valueText)
        let fields := Data.put (String.ofList key) value before
        match skipSpace afterValue with
        | '\x7d' :: after => some (fields, after)
        | ',' :: more => readFields fuel fields (skipSpace more)
        | _ => none
      | _ => none
    | _ => none

end

/-- The data that a whole text writes. Besides the standard the names of the infinities and of
not-a-number are accepted. -/
def read? (text : List Char) : Option Data := do
  let (value, rest) ← readValue (2 * text.length + 2) (skipSpace text)
  if (skipSpace rest).isEmpty then some value else none

end SchemaViews.Json
