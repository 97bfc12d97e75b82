/-!
# Data

The values that settings files and declaration files hold, whatever notation they are written in.
The fields of a record keep the order in which their keys first occur.
-/

namespace SchemaViews

/-- Data as files carry it. A `moment` is a date or a time, of which only the kind matters. -/
inductive Data where
  | null
  | bool (value : Bool)
  | integer (value : Int)
  | float (value : Float)
  | text (value : String)
  | list (items : List Data)
  | record (fields : List (String × Data))
  | moment
  deriving Inhabited

namespace Data

def get? (key : String) (fields : List (String × Data)) : Option Data :=
  (fields.find? (·.1 == key)).map (·.2)

/-- Sets a field: a key that is there keeps its place and takes the new value. -/
def put (key : String) (value : Data) : List (String × Data) → List (String × Data)
  | [] => [(key, value)]
  | field :: fields =>
    if field.1 == key then (key, value) :: fields else field :: put key value fields

def field? (key : String) : Data → Option Data
  | .record fields => get? key fields
  | _ => none

/-- The number with the decimal digits `digits` times ten to the power `exponent`. -/
def scaled (negative : Bool) (digits : Nat) (exponent : Int) : Float :=
  let magnitude := (Nat.toDigits 10 digits).length + exponent
  let value :=
    if digits = 0 || magnitude < -400 then 0.0
    else if 400 < magnitude then 1.0 / 0.0
    else Float.ofScientific digits (exponent < 0) exponent.natAbs
  if negative then -value else value

end Data

end SchemaViews
