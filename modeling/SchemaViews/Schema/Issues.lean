import SchemaViews.Naming
import SchemaViews.Schema.Basic
import SchemaViews.TypeMapping

/-!
# Checking a schema

All that is wrong with a schema, in a fixed order. The errors say what would be dropped or refused,
the warnings what has no effect.
-/

namespace SchemaViews

def Setting.dispute? : Setting → Option Dispute
  | .access _ => some .access
  | .inclusion _ => some .inclusion
  | .required _ => some .required
  | _ => none

/-- The scopes of a rule: the views it is qualified with, or everywhere. -/
def Rule.scopes (rule : Rule) : List (Option String) :=
  if rule.scope.isEmpty then [none] else rule.scope.map some

def Rule.belongsTo (dispute : Dispute) (scope : Option String) (rule : Rule) : Bool :=
  rule.setting.dispute? = some dispute && rule.scopes.contains scope

def Rule.firstOfEach : List Rule → List Rule
  | [] => []
  | rule :: rest => rule :: (firstOfEach rest).filter fun later => later.setting ≠ rule.setting

namespace Field

/-- The disputes that the rules of a field touch, with their scopes, by their first occurrence. -/
def disputes (field : Field) : List (Dispute × Option String) :=
  (field.rules.flatMap fun rule =>
    match rule.setting.dispute? with
    | some dispute => rule.scopes.map fun scope => (dispute, scope)
    | none => []).eraseDups

/-- The words of the rules that disagree in a scope, one for each setting. -/
def opposing (field : Field) (dispute : Dispute) (scope : Option String) : List String :=
  (Rule.firstOfEach (field.rules.filter (Rule.belongsTo dispute scope))).map (·.option)

def conflictViews (entity : Entity) : Option String → List (Option String)
  | some view => [some view]
  | none =>
    match entity.bindings.filter fun binding => binding.kind ≠ .enum with
    | [] => [none]
    | bindings => bindings.map fun binding => some binding.name

/-- The scopes in which two rules of one concern disagree. -/
def conflicts (entity : Entity) (field : Field) : List Issue :=
  field.disputes.flatMap fun (dispute, scope) =>
    let options := field.opposing dispute scope
    if options.length < 2 then []
    else
      (conflictViews entity scope).map fun view =>
        ⟨.conflict dispute options scope.isNone, entity.declaredName, some field.declaredName, view⟩

end Field

namespace Schema

/-- Qualifiers that name no view. -/
def referenceIssues (schema : Schema) (entity : Entity) (field : Field) : List Issue :=
  (field.referencedViews.filter fun view => !schema.hasView view).map fun view =>
    ⟨.unknownView view, entity.declaredName, some field.declaredName, some view⟩

/-- What is wrong with placing a field in a view by name: its access keeps it out. -/
def placementCause? (entity : Entity) (field : Field) (view : View) : Option Cause :=
  let policy := field.policyFor view.name entity.fieldDefaults
  if policy.included = some false then none
  else if view.kind = .input && policy.access = some .readOnly then some .readOnlyInInput
  else if view.kind = .object && policy.access = some .writeOnly then some .writeOnlyInObject
  else none

/-- Fields placed by name in views that their access keeps them out of, apart from
views with conflicting access. -/
def placementIssues (schema : Schema) (owner : Nat) (entity : Entity) (field : Field)
    (conflicts : List Issue) : List Issue :=
  let disputed := (conflicts.filter fun issue => issue.kind = .conflictingMutability).map (·.view)
  (schema.viewsOf owner).filterMap fun view =>
    if disputed.contains (some view.name) || view.kind = .enum || !field.namesView view.name then
      none
    else
      (placementCause? entity field view).map fun cause =>
        ⟨cause, entity.declaredName, some field.declaredName, some view.name⟩

def fieldIssues (schema : Schema) (owner : Nat) (entity : Entity) (field : Field) : List Issue :=
  let conflicts := field.conflicts entity
  schema.referenceIssues entity field ++ conflicts ++
    schema.placementIssues owner entity field conflicts

/-- Values with names that are no GraphQL names or that an earlier value has. -/
def valueIssues (entity : Entity) (earlier : List EnumValue) : List EnumValue → List Issue
  | [] => []
  | value :: rest =>
    let view := entity.bindings.head?.map (·.name)
    let issue := fun cause => (⟨cause, entity.declaredName, some value.declaredName, view⟩ : Issue)
    let invalid := if Naming.admits value.name then [] else [issue (.invalidEnumValue value.name)]
    match earlier.find? fun other => other.name == value.name with
    | some other =>
      invalid ++ issue (.duplicateEnumValue value.name other.declaredName) ::
        valueIssues entity earlier rest
    | none => invalid ++ valueIssues entity (earlier ++ [value]) rest

def entityIssues (schema : Schema) (owner : Nat) (entity : Entity) : List Issue :=
  if entity.ignoreAll then []
  else entity.fields.flatMap (schema.fieldIssues owner entity) ++
    valueIssues entity [] entity.values

def bindingIssues (entity : Entity) : List Issue :=
  if entity.ignoreAll then []
  else
    (entity.bindings.filter fun binding => !Naming.admits binding.name).map fun binding =>
      ⟨.invalidTypeName binding.name, entity.declaredName, none, some binding.name⟩

/-- A name that is taken, with the entity whose view has it. -/
def collisionIssue? (schema : Schema) (collision : Placement) : Option Issue :=
  let name := collision.binding.name
  let entity := collision.entity.declaredName
  (schema.view? name).map fun holder =>
    let cause :=
      if holder.placement.owner = collision.owner then Cause.boundRepeatedly name entity
      else .alreadyBound name holder.entity.declaredName
    ⟨cause, entity, none, some name⟩

def viewIssues (view : View) : List Issue :=
  let entity := view.entity.declaredName
  let invalid := (view.fields.filter fun field => !Naming.admits field.name).map fun field =>
    (⟨.invalidFieldName field.name, entity, some field.declaredName, some view.name⟩ : Issue)
  let empty : List Issue :=
    if view.memberNames.isEmpty then [⟨.emptyView view.kind, entity, none, some view.name⟩] else []
  invalid ++ empty

/-- Everything that is wrong with a schema: what was noted when its entities were read, then names,
collisions, fields, values and views. -/
def issues (schema : Schema) : List Issue :=
  schema.entities.flatMap (·.notes) ++ schema.entities.flatMap bindingIssues ++
    schema.collisions.filterMap schema.collisionIssue? ++
    schema.entities.zipIdx.flatMap (fun (entity, owner) => schema.entityIssues owner entity) ++
    schema.views.flatMap viewIssues

/-- Whether every name that is taken still has the view that holds it; a
filter may have removed it. -/
def holdsCollisions (schema : Schema) : Bool :=
  schema.collisions.all fun collision => schema.hasView collision.binding.name

def issues? (schema : Schema) : Option (List Issue) :=
  if schema.holdsCollisions then some schema.issues else none

/-- Fields whose type is the name of a binding without a view. -/
def danglingIssues (schema : Schema) : List Issue :=
  let bound := schema.entities.flatMap fun entity => entity.bindings.map (·.name)
  schema.views.flatMap fun view =>
    view.fields.filterMap fun field =>
      let type := TypeMapping.baseName field.typeName
      if bound.contains type && !schema.hasView type then
        some ⟨.viewNotEmitted type, view.entity.declaredName, some field.declaredName,
          some view.name⟩
      else none

end Schema

end SchemaViews
