import SchemaViews.Data.Violation
import SchemaViews.Declaration.Basic

/-!
# Declarations as data

Reads declarations from data. Keys may be written in two ways, unknown keys are skipped, and
missing keys take their defaults.
-/

namespace SchemaViews

open SchemaViews.Data

inductive DeclarationFault where
  | notList
  | invalid (violations : List Violation)
  deriving DecidableEq, Repr

def DeclarationFault.message : DeclarationFault → String
  | .notList => "Declarations must be a list of entities"
  | .invalid _ => "Invalid declaration"

namespace Member

def declaredNameKey : FieldKey := ⟨"declaredName", "declared_name"⟩
def declaredTypeKey : FieldKey := ⟨"declaredType", "declared_type"⟩
def rawAnnotationKey : FieldKey := ⟨"rawAnnotation", "raw_annotation"⟩
def valueKey : FieldKey := ⟨"value", "value"⟩

def ofData : Data → Checked Member
  | .record fields =>
    let name := declaredNameKey.require readText fields
    let type := declaredTypeKey.readD readText "" fields
    let annotation := rawAnnotationKey.readD readText "" fields
    let value := valueKey.readD readText? none fields
    match name, type, annotation, value with
    | .ok declaredName, .ok declaredType, .ok rawAnnotation, .ok literal =>
      .ok ⟨declaredName, declaredType, rawAnnotation, literal⟩
    | _, _, _, _ =>
        .error (violations name ++ violations type ++ violations annotation ++ violations value)
  | _ => fault .notRecord

end Member

namespace Declaration

def kindKey : FieldKey := ⟨"kind", "kind"⟩
def membersKey : FieldKey := ⟨"members", "members"⟩
def sourceKey : FieldKey := ⟨"source", "source"⟩

def readKind : Data → Checked DeclarationKind
  | .text "object" => .ok .object
  | .text "enum" => .ok .enum
  | _ => fault .notChoice

def ofData : Data → Checked Declaration
  | .record fields =>
    let kind := kindKey.require readKind fields
    let name := Member.declaredNameKey.require readText fields
    let annotation := Member.rawAnnotationKey.readD readText "" fields
    let members := membersKey.readD (readList Member.ofData) [] fields
    let source := sourceKey.readD readText? none fields
    match kind, name, annotation, members, source with
    | .ok kind, .ok declaredName, .ok rawAnnotation, .ok members, .ok source =>
      .ok ⟨kind, declaredName, rawAnnotation, members, source⟩
    | _, _, _, _, _ =>
      .error (violations kind ++ violations name ++ violations annotation ++ violations members ++
        violations source)
  | _ => fault .notRecord

/-- Reads the items one after the other; the first one that is no declaration stops the reading. -/
def readItems : List Data → Except DeclarationFault (List Declaration)
  | [] => .ok []
  | item :: items =>
    match ofData item with
    | .error found => .error (.invalid found)
    | .ok declaration => (readItems items).map (declaration :: ·)

/-- Reads a list of declarations, or an object that holds one under `entities`. -/
def listOfData (data : Data) : Except DeclarationFault (List Declaration) :=
  let entities := match data with
    | .record fields => (Data.get? "entities" fields).getD (.list [])
    | other => other
  match entities with
  | .list items => readItems items
  | _ => .error .notList

end Declaration

end SchemaViews
