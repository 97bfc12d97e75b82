import SchemaViews.Data.Toml.Number

/-!
# Dates and times of TOML

Dates, times of day, and both together with an offset. Only their presence is kept.
-/

namespace SchemaViews.Toml

open SchemaViews.Text

/-- A number of exactly so many digits within bounds, and the text after it. -/
def fixedNumber? (width low high : Nat) (text : List Char) : Option (Nat × List Char) :=
  let digits := text.take width
  let value := number 10 digits
  if digits.length = width && digits.all Char.isDigit && low ≤ value && value ≤ high then
    some (value, text.drop width)
  else none

def time? (text : List Char) : Option (List Char) := do
  let (_, afterHour) ← fixedNumber? 2 0 23 text
  let (_, afterMinute) ← fixedNumber? 2 0 59 (← dropStart? [':'] afterHour)
  let (_, after) ← fixedNumber? 2 0 59 (← dropStart? [':'] afterMinute)
  match after with
  | '.' :: rest => some (if rest.head?.any Char.isDigit then rest.dropWhile Char.isDigit else after)
  | _ => some after

def skipOffset (text : List Char) : List Char :=
  match text with
  | c :: rest =>
    if c == 'Z' || c == 'z' then rest
    else if c == '+' || c == '-' then
      let read := do
        let (_, afterHour) ← fixedNumber? 2 0 23 rest
        let (_, after) ← fixedNumber? 2 0 59 (← dropStart? [':'] afterHour)
        some after
      read.getD text
    else text
  | [] => []

def isLeapYear (year : Nat) : Bool :=
  year % 4 == 0 && (year % 100 != 0 || year % 400 == 0)

def daysIn (year month : Nat) : Nat :=
  if month = 2 then if isLeapYear year then 29 else 28
  else if [4, 6, 9, 11].contains month then 30
  else 31

def date? (text : List Char) : Option ((Nat × Nat × Nat) × List Char) := do
  let (year, afterYear) ← fixedNumber? 4 0 9999 text
  let (month, afterMonth) ← fixedNumber? 2 1 12 (← dropStart? ['-'] afterYear)
  let (day, after) ← fixedNumber? 2 1 31 (← dropStart? ['-'] afterMonth)
  some ((year, month, day), after)

def skipTime (text : List Char) : List Char :=
  match text with
  | c :: rest =>
    if c == 'T' || c == 't' || c == ' ' then
      match time? rest with
      | some after => skipOffset after
      | none => text
    else text
  | [] => []

/-- A date, a time, or both. A date that the calendar does not have is refused. -/
def moment? (text : List Char) : Option (Option (Data × List Char)) :=
  match date? text with
  | some ((year, month, day), after) =>
    some (if year = 0 || daysIn year month < day then none else some (.moment, skipTime after))
  | none => (time? text).map fun after => some (.moment, after)

end SchemaViews.Toml
