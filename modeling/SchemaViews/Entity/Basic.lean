import SchemaViews.Issue

/-!
# Entities

Declared types once their annotations have been read: bindings, fields with their rules, and values.
A rule that is qualified with a view counts more there than a rule for every view, and that more
than the defaults of the entity.
-/

namespace SchemaViews

/-- A field of an entity with its rules in the order in which they were written. An extra field is
one that a directive adds. -/
structure Field where
  declaredName : String
  declaredType : String
  outputName : String
  scalarType : String
  nullable : Bool := true
  rules : List Rule := []
  forceResolver : Bool := false
  isExtra : Bool := false
  deriving DecidableEq, Repr

namespace Field

def defaultPolicy (field : Field) : Policy :=
  .ofRules (field.rules.filter fun rule => rule.views.isNone)

def viewPolicy (field : Field) (view : String) : Policy :=
  .ofRules (field.rules.filter fun rule => rule.scope.contains view)

/-- The views that rules are qualified with, by their first occurrence. -/
def referencedViews (field : Field) : List String :=
  (field.rules.flatMap Rule.scope).eraseDups

def viewPolicies (field : Field) : List (String × Policy) :=
  field.referencedViews.map fun view => (view, field.viewPolicy view)

/-- The settings in force in a view: those qualified with it, then those for every view, then
the defaults of the entity. -/
def policyFor (field : Field) (view : String) (defaults : Policy) : Policy :=
  ((field.viewPolicy view).withBase field.defaultPolicy).withBase defaults

/-- Whether a rule places the field: it includes the field or sets its access. -/
def places (rule : Rule) : Bool :=
  match rule.setting with
  | .inclusion included => included
  | .access _ => true
  | _ => false

/-- Whether a rule qualified with a view places the field there. -/
def namesView (field : Field) (view : String) : Bool :=
  field.rules.any fun rule => rule.scope.contains view && places rule

def includedEverywhere (rule : Rule) : Bool :=
  rule.views.isNone && rule.setting = .inclusion true

/-- Whether the field opts into a view, by name or by an inclusion in every view. -/
def targets (field : Field) (view : String) : Bool :=
  field.namesView view || field.rules.any includedEverywhere

def isConstrained (field : Field) : Bool :=
  field.rules.any fun rule => rule.concern = .inclusion || rule.concern = .access

end Field

structure EnumValue where
  name : String
  literal : String
  declaredName : String
  deprecated : Option String := none
  description : Option String := none
  deriving DecidableEq, Repr

/-- A name under which an entity is emitted. -/
structure Binding where
  name : String
  kind : ViewKind
  description : Option String := none
  position : Nat := 0
  deriving DecidableEq, Repr

/-- A declared type with its bindings and members. The group is a label for several
entities and names no view. -/
structure Entity where
  kind : ViewKind
  declaredName : String
  bindings : List Binding := []
  ignoreAll : Bool := false
  fields : List Field := []
  values : List EnumValue := []
  fieldDefaults : Policy := {}
  order : Int := 0
  source : Option String := none
  group : Option String := none
  notes : List Issue := []
  deriving DecidableEq, Repr

def Entity.bindingsOf (entity : Entity) (kind : ViewKind) : List Binding :=
  entity.bindings.filter fun binding => binding.kind = kind

end SchemaViews
