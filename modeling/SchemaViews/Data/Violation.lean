import SchemaViews.Data.Basic

/-!
# Checked data

Reading data into typed values. What does not fit is reported with its place, and the
violations of all parts are collected.
-/

namespace SchemaViews.Data

inductive PathStep where
  | key (name : String)
  | index (position : Nat)
  deriving DecidableEq, Repr

inductive Defect where
  | missing
  | unknownKey
  | notText
  | notList
  | notMapping
  | notRecord
  | notChoice
  | notBool
  | unreadableBool
  | notInteger
  | unreadableInteger
  | oversized
  | fractional
  | notFinite
  | tooSmall
  deriving DecidableEq, Repr

structure Violation where
  path : List PathStep
  defect : Defect
  deriving DecidableEq, Repr

def Violation.under (step : PathStep) (violation : Violation) : Violation :=
  { violation with path := step :: violation.path }

abbrev Checked (α : Type) : Type :=
  Except (List Violation) α

def fault {α : Type} (defect : Defect) : Checked α :=
  .error [⟨[], defect⟩]

def violations {α : Type} : Checked α → List Violation
  | .ok _ => []
  | .error found => found

def placed {α : Type} (step : PathStep) (checked : Checked α) : Checked α :=
  checked.mapError fun found => found.map (Violation.under step)

def readText : Data → Checked String
  | .text value => .ok value
  | _ => fault .notText

def readText? : Data → Checked (Option String)
  | .null => .ok none
  | .text value => .ok (some value)
  | _ => fault .notText

/-- The values of all parts, or the violations of all of them. -/
def collect {α : Type} : List (Checked α) → Checked (List α)
  | [] => .ok []
  | part :: parts =>
    match part, collect parts with
    | .ok value, .ok values => .ok (value :: values)
    | first, rest => .error (violations first ++ violations rest)

def readList {α : Type} (read : Data → Checked α) : Data → Checked (List α)
  | .list items =>
    collect (items.zipIdx.map fun (item, position) => placed (.index position) (read item))
  | _ => fault .notList

/-- A field that may be given under two keys, of which the first one counts if both are there. -/
structure FieldKey where
  key : String
  alternative : String

def FieldKey.find? (names : FieldKey) (fields : List (String × Data)) : Option (String × Data) :=
  match Data.get? names.key fields with
  | some value => some (names.key, value)
  | none => (Data.get? names.alternative fields).map fun value => (names.alternative, value)

def FieldKey.require {α : Type} (names : FieldKey) (read : Data → Checked α)
    (fields : List (String × Data)) : Checked α :=
  match names.find? fields with
  | some (key, value) => placed (.key key) (read value)
  | none => .error [⟨[.key names.key], .missing⟩]

def FieldKey.readD {α : Type} (names : FieldKey) (read : Data → Checked α) (default : α)
    (fields : List (String × Data)) : Checked α :=
  match names.find? fields with
  | some (key, value) => placed (.key key) (read value)
  | none => .ok default

end SchemaViews.Data
