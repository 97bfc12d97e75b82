import SchemaViews.Entity.Basic
import SchemaViews.Text.Split

/-!
# Schemas

Views, and the schema that they form. The views have distinct names; placements whose
names were taken are kept apart.
-/

namespace SchemaViews

/-- Whether a view lists all fields that are not omitted, or only those placed in it. -/
inductive InclusionMode where
  | optOut
  | optIn
  deriving DecidableEq, Repr

def InclusionMode.word : InclusionMode → String
  | .optOut => "opt-out"
  | .optIn => "opt-in"

structure ViewField where
  name : String
  declaredName : String
  typeName : String
  required : Bool
  access : Access
  description : Option String := none
  deprecated : Option String := none
  forceResolver : Bool := false
  deriving DecidableEq, Repr

/-- The type with the mark of a required field, unless it has that already. -/
def ViewField.typeRef (field : ViewField) : String :=
  if field.required && field.typeName.toList.getLast? != some '!' then field.typeName ++ "!"
    else field.typeName

/-- A binding with its entity and the place of the entity in the schema. -/
structure Placement where
  owner : Nat
  entity : Entity
  binding : Binding
  deriving DecidableEq, Repr

/-- A projection of an entity under one of its names. -/
structure View where
  placement : Placement
  mode : InclusionMode := .optOut
  fields : List ViewField := []
  values : List EnumValue := []
  deriving DecidableEq, Repr

namespace View

def name (view : View) : String :=
  view.placement.binding.name

def kind (view : View) : ViewKind :=
  view.placement.binding.kind

def entity (view : View) : Entity :=
  view.placement.entity

def description (view : View) : Option String :=
  view.placement.binding.description

def memberNames (view : View) : List String :=
  if view.kind = .enum then view.values.map (·.name) else view.fields.map (·.name)

/-- The first field that has a name in the view or in its declaration. -/
def field? (view : View) (name : String) : Option ViewField :=
  view.fields.find? fun field => field.name == name || field.declaredName == name

end View

/-- The entities in order, the views with distinct names, the placements whose names were
taken, and the scalars in use. -/
structure Schema where
  entities : List Entity := []
  views : List View := []
  collisions : List Placement := []
  scalars : List String := []
  deriving DecidableEq, Repr

namespace Schema

def view? (schema : Schema) (name : String) : Option View :=
  schema.views.find? (·.name == name)

def viewNames (schema : Schema) : List String :=
  schema.views.map View.name

def hasView (schema : Schema) (name : String) : Bool :=
  schema.viewNames.contains name

def viewsOf (schema : Schema) (owner : Nat) : List View :=
  schema.views.filter fun view => view.placement.owner = owner

end Schema

/-- Which views are kept, by the ends of their names; an absent or empty text decides nothing. -/
structure ViewFilter where
  excludeStart : Option String := none
  excludeEnd : Option String := none
  includeStart : Option String := none
  includeEnd : Option String := none
  deriving DecidableEq, Repr

def ViewFilter.holds (test : String → Bool) (default : Bool) (part : Option String) : Bool :=
  match part with
  | some text => if text.isEmpty then default else test text
  | none => default

def ViewFilter.keeps (filter : ViewFilter) (name : String) : Bool :=
  !holds (Text.startsWith name) false filter.excludeStart &&
    !holds (Text.endsWith name) false filter.excludeEnd &&
    holds (Text.startsWith name) true filter.includeStart &&
    holds (Text.endsWith name) true filter.includeEnd

def Schema.keep (schema : Schema) (filter : ViewFilter) : Schema :=
  { schema with views := schema.views.filter fun view => filter.keeps view.name }

end SchemaViews
