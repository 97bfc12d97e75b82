import SchemaViews.Data.Basic
import SchemaViews.Text.Numeral

/-!
# Numbers of TOML

Integers in four bases, and floats. Single underscores may stand between digits.
-/

namespace SchemaViews.Toml

open SchemaViews.Text

/-- A run of digits with single underscores between them, without the
underscores, and the text after it. -/
def digitRun (isDigit : Char → Bool) : List Char → List Char × List Char
  | c :: rest =>
    if isDigit c then
      let (digits, after) := digitRun isDigit rest
      (c :: digits, after)
    else
      match c, rest with
      | '_', d :: tail =>
        if isDigit d then
          let (digits, after) := digitRun isDigit tail
          (d :: digits, after)
        else ([], c :: rest)
      | _, _ => ([], c :: rest)
  | [] => ([], [])

def digits? (isDigit : Char → Bool) (text : List Char) : Option (List Char × List Char) :=
  if text.head?.any isDigit then some (digitRun isDigit text) else none

def digitValue (c : Char) : Nat :=
  if c.isDigit then c.toNat - 48 else c.toLower.toNat - 87

def number (base : Nat) (digits : List Char) : Nat :=
  digits.foldl (fun value digit => value * base + digitValue digit) 0

def isHexDigit (c : Char) : Bool :=
  c.isDigit || ('a' ≤ c.toLower && c.toLower ≤ 'f')

def basedInteger? (text : List Char) : Option (Data × List Char) :=
  let based := fun (base : Nat) (isDigit : Char → Bool) (rest : List Char) =>
    (digits? isDigit rest).map fun (digits, after) => (Data.integer (number base digits), after)
  match text with
  | '0' :: 'x' :: rest => based 16 isHexDigit rest
  | '0' :: 'b' :: rest => based 2 (fun c => c == '0' || c == '1') rest
  | '0' :: 'o' :: rest => based 8 (fun c => c.isDigit && c.toNat < 56) rest
  | _ => none

def fraction (text : List Char) : Option (List Char) × List Char :=
  match text with
  | '.' :: rest =>
    match digits? Char.isDigit rest with
    | some (digits, after) => (some digits, after)
    | none => (none, text)
  | _ => (none, text)

def exponent (text : List Char) : Option Int × List Char :=
  match text with
  | mark :: rest =>
    if mark == 'e' || mark == 'E' then
      let (negative, unsigned) := splitSign rest
      match digits? Char.isDigit unsigned with
      | some (digits, after) =>
        let value : Int := number 10 digits
        (some (if negative then -value else value), after)
      | none => (none, text)
    else (none, text)
  | [] => (none, [])

def decimal? (text : List Char) : Option (Data × List Char) := do
  let (negative, unsigned) := splitSign text
  let (whole, afterWhole) ← match unsigned with
    | '0' :: rest => some (['0'], rest)
    | _ => digits? Char.isDigit unsigned
  let (fractionDigits, afterFraction) := fraction afterWhole
  let (power, after) := exponent afterFraction
  if fractionDigits.isNone && power.isNone then
    if maxDigits < whole.length then none
    else
      let value : Int := number 10 whole
      some (.integer (if negative then -value else value), after)
  else
    let digits := fractionDigits.getD []
    some (.float
      (Data.scaled negative (number 10 (whole ++ digits)) (power.getD 0 - digits.length)), after)

def specialFloat? (text : List Char) : Option (Data × List Char) :=
  let (negative, unsigned) := splitSign text
  match dropStart? "inf".toList unsigned with
  | some after => some (.float (if negative then -1.0 / 0.0 else 1.0 / 0.0), after)
  | none => (dropStart? "nan".toList unsigned).map fun after => (.float (0.0 / 0.0), after)

end SchemaViews.Toml
