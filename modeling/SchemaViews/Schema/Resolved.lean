import SchemaViews.Naming
import SchemaViews.Schema.Basic
import SchemaViews.TypeMapping

/-!
# Resolving entities

Projects every entity on each of its bindings. A view shows the fields that are neither omitted
there nor barred by their access, and types that name entities lead to a view of those.
-/

namespace SchemaViews

open SchemaViews.Text

/-- A type expression as brackets, a name, and what follows the name. -/
structure TypeParts where
  opening : List Char
  name : List Char
  suffix : List Char
  deriving DecidableEq, Repr

/-- The parts of a type expression. A newline may stand at its very end
only, and belongs to no part. -/
def TypeParts.of? (type : List Char) : Option TypeParts :=
  let rest := type.dropWhile (· == '[')
  let suffix := Naming.dropNewline (rest.dropWhile Naming.isNameChar)
  if rest.head?.any Naming.isNameStart && !suffix.contains '\n' then
    some ⟨type.takeWhile (· == '['), rest.takeWhile Naming.isNameChar, suffix⟩
  else none

namespace Entity

def isBound (entity : Entity) : Bool :=
  !entity.ignoreAll && !entity.bindings.isEmpty

/-- The binding that a reference from a view of some kind leads to: an enum's first enum binding, or
the first binding of the matching kind, and the first one of all if there is none. -/
def referenceBinding? (entity : Entity) (kind : ViewKind) : Option Binding :=
  if entity.kind = .enum then (entity.bindingsOf .enum).head?
  else
    let preferred := if kind = .input then ViewKind.input else .object
    ((entity.bindingsOf preferred).head?).or entity.bindings.head?

def placements (entity : Entity) (owner : Nat) : List Placement :=
  if entity.ignoreAll then [] else entity.bindings.map fun binding => ⟨owner, entity, binding⟩

/-- A view is opt-in if its entity has several views of its kind and a field is
placed in this one by name. -/
def inclusionMode (entity : Entity) (binding : Binding) : InclusionMode :=
  if 2 ≤ (entity.bindingsOf binding.kind).length && entity.fields.any fun field =>
      field.namesView binding.name then
    .optIn
  else .optOut

end Entity

namespace Schema

def byOrder (entities : List Entity) : List Entity :=
  entities.mergeSort fun first second => first.order ≤ second.order

def placements (entities : List Entity) : List Placement :=
  entities.zipIdx.flatMap fun (entity, owner) => entity.placements owner

/-- The placements that are the first ones with their names, given the names already taken. -/
def firstPlacements (taken : List String) : List Placement → List Placement
  | [] => []
  | placement :: rest =>
    if taken.contains placement.binding.name then firstPlacements taken rest
    else placement :: firstPlacements (placement.binding.name :: taken) rest

def laterPlacements (taken : List String) : List Placement → List Placement
  | [] => []
  | placement :: rest =>
    if taken.contains placement.binding.name then placement :: laterPlacements taken rest
    else laterPlacements (placement.binding.name :: taken) rest

/-- The entity that a declared name refers to: the first one with that name that
is bound and not ignored. -/
def target? (entities : List Entity) (name : List Char) : Option Entity :=
  entities.find? fun entity => entity.isBound && entity.declaredName.toList == name

/-- Replaces the name in a type by the view of the entity that it refers to. -/
def rewriteType (entities : List Entity) (kind : ViewKind) (type : String) : String :=
  match TypeParts.of? type.toList with
  | none => type
  | some parts =>
    match (target? entities parts.name).bind fun entity => entity.referenceBinding? kind with
    | none => type
    | some binding => String.ofList (parts.opening ++ binding.name.toList ++ parts.suffix)

def shows (kind : ViewKind) (access : Access) : Bool :=
  !(kind = .input && access = .readOnly) && !(kind = .object && access = .writeOnly)

def textOr (text : Option String) (default : String) : String :=
  match text with
  | some content => if content.isEmpty then default else content
  | none => default

def viewField? (entities : List Entity) (placement : Placement) (mode : InclusionMode)
    (field : Field) : Option ViewField :=
  let view := placement.binding
  let policy := field.policyFor view.name placement.entity.fieldDefaults
  let access := policy.access.getD .readWrite
  if policy.included = some false then none
  else if mode = .optIn && field.isConstrained && !field.targets view.name then none
  else if !shows view.kind access then none
  else
    some
      { name := textOr policy.name field.outputName
        declaredName := field.declaredName
        typeName := rewriteType entities view.kind (textOr policy.type field.scalarType)
        required := policy.required.getD (!field.nullable)
        access := access
        description := policy.description
        deprecated := policy.deprecated
        forceResolver := field.forceResolver && view.kind = .object }

def viewOf (entities : List Entity) (placement : Placement) : View :=
  if placement.binding.kind = .enum then
    { placement := placement, values := placement.entity.values }
  else
    let mode := placement.entity.inclusionMode placement.binding
    { placement := placement, mode := mode
      fields := placement.entity.fields.filterMap (viewField? entities placement mode) }

/-- The custom scalars among the types of the fields, in alphabetical order. -/
def usedScalars (mapping : TypeMapping) (views : List View) : List String :=
  let names := (views.flatMap View.fields).filterMap fun field =>
    (TypeParts.of? field.typeName.toList).map fun parts => String.ofList parts.name
  ((names.filter fun name => mapping.customScalars.contains name).eraseDups).mergeSort
    fun first second =>
    decide (first ≤ second)

/-- The schema of some entities: a view for each binding name, in the order of the
entities and their bindings. -/
def resolve (mapping : TypeMapping) (entities : List Entity) : Schema :=
  let ordered := byOrder entities
  let placements := placements ordered
  let views := (firstPlacements [] placements).map (viewOf ordered)
  { entities := ordered
    views := views
    collisions := laterPlacements [] placements
    scalars := usedScalars mapping views }

end Schema

end SchemaViews
