import SchemaViews.Settings.Number
import SchemaViews.TypeMapping

/-!
# Settings

The settings of a run, and how they are read from data.
-/

namespace SchemaViews

open SchemaViews.Data

inductive FieldCase where
  | camel
  | snake
  | keep
  deriving DecidableEq, Repr

def FieldCase.word : FieldCase → String
  | .camel => "camel"
  | .snake => "snake"
  | .keep => "keep"

structure Settings where
  typeMap : List (String × String) := []
  fieldCase : FieldCase := .camel
  inputSuffix : String := "Input"
  implicitBindings : Bool := true
  strictNullability : Bool := false
  emitScalars : Bool := true
  header : Option String := none
  maxWorkers : Option Nat := none
  deriving DecidableEq, Repr

namespace Settings

def typeMapping (settings : Settings) : TypeMapping :=
  TypeMapping.withOverrides settings.typeMap

def readFieldCase : Data → Checked FieldCase
  | .text "camel" => .ok .camel
  | .text "snake" => .ok .snake
  | .text "keep" => .ok .keep
  | _ => fault .notChoice

def readWorkers : Data → Checked (Option Nat)
  | .null => .ok none
  | data =>
    match readInteger data with
    | .ok value => if value < 1 then fault .tooSmall else .ok (some value.toNat)
    | .error found => .error found

def readTypeMap : Data → Checked (List (String × String))
  | .record fields =>
    collect (fields.map fun (key, value) => placed (.key key)
      ((readText value).map fun target => (key, target)))
  | _ => fault .notMapping

def keys : List String :=
  ["type_map", "field_case", "input_suffix", "implicit_bindings", "strict_nullability",
    "emit_scalars", "header", "max_workers"]

def readField {α : Type} (key : String) (read : Data → Checked α) (default : α)
    (fields : List (String × Data)) : Checked α :=
  (FieldKey.mk key key).readD read default fields

/-- Reads settings; keys that name no setting are violations too, and
all violations are reported. -/
def ofData : Data → Checked Settings
  | .record fields =>
    let typeMap := readField "type_map" readTypeMap [] fields
    let fieldCase := readField "field_case" readFieldCase .camel fields
    let inputSuffix := readField "input_suffix" readText "Input" fields
    let implicitBindings := readField "implicit_bindings" readBool true fields
    let strictNullability := readField "strict_nullability" readBool false fields
    let emitScalars := readField "emit_scalars" readBool true fields
    let header := readField "header" readText? none fields
    let maxWorkers := readField "max_workers" readWorkers none fields
    let unknown := (fields.filter fun field => !keys.contains field.1).map fun field =>
      (⟨[.key field.1], .unknownKey⟩ : Violation)
    match typeMap, fieldCase, inputSuffix, implicitBindings, strictNullability, emitScalars, header,
      maxWorkers,
      unknown with
    | .ok typeMap, .ok fieldCase, .ok inputSuffix, .ok implicitBindings, .ok strictNullability,
      .ok emitScalars,
      .ok header, .ok maxWorkers, [] =>
      .ok ⟨typeMap, fieldCase, inputSuffix, implicitBindings, strictNullability, emitScalars,
        header, maxWorkers⟩
    | _, _, _, _, _, _, _, _, _ =>
      .error (violations typeMap ++ violations fieldCase ++ violations inputSuffix ++
        violations implicitBindings ++
        violations strictNullability ++ violations emitScalars ++ violations header ++
        violations maxWorkers ++ unknown)
  | _ => fault .notRecord

end Settings

end SchemaViews
