/-!
# Policies

Rules about a field, and the policies that they add up to: for each concern the last setting counts.
-/

namespace SchemaViews

/-- Whether a field can be read, written, or both, within one view. -/
inductive Access where
  | readOnly
  | writeOnly
  | readWrite
  deriving DecidableEq, Repr

def Access.code : Access → String
  | .readOnly => "ro"
  | .writeOnly => "wo"
  | .readWrite => "rw"

inductive Concern where
  | inclusion
  | access
  | required
  | name
  | type
  | description
  | deprecated
  deriving DecidableEq, Repr

/-- A concern and the value chosen for it. An empty reason marks a deprecation without one. -/
inductive Setting where
  | inclusion (included : Bool)
  | access (access : Access)
  | required (required : Bool)
  | name (name : String)
  | type (type : String)
  | description (text : String)
  | deprecated (reason : String)
  deriving DecidableEq, Repr

def Setting.concern : Setting → Concern
  | .inclusion _ => .inclusion
  | .access _ => .access
  | .required _ => .required
  | .name _ => .name
  | .type _ => .type
  | .description _ => .description
  | .deprecated _ => .deprecated

/-- A setting for every view, or for the views it is qualified with; `option` is
the word it was written as. -/
structure Rule where
  setting : Setting
  views : Option (List String) := none
  option : String := ""
  deriving DecidableEq, Repr

def Rule.concern (rule : Rule) : Concern :=
  rule.setting.concern

def Rule.isQualified (rule : Rule) : Bool :=
  rule.views.isSome

def Rule.scope (rule : Rule) : List String :=
  rule.views.getD []

/-- The settings of a field in one scope, each set or left open. -/
structure Policy where
  included : Option Bool := none
  access : Option Access := none
  required : Option Bool := none
  name : Option String := none
  type : Option String := none
  description : Option String := none
  deprecated : Option String := none
  deriving DecidableEq, Repr

namespace Policy

/-- Takes over a setting in place of an earlier one for the same concern. -/
def apply (policy : Policy) : Setting → Policy
  | .inclusion included => { policy with included := some included }
  | .access access => { policy with access := some access }
  | .required required => { policy with required := some required }
  | .name name => { policy with name := some name }
  | .type type => { policy with type := some type }
  | .description text => { policy with description := some text }
  | .deprecated reason => { policy with deprecated := some reason }

def ofRules (rules : List Rule) : Policy :=
  rules.foldl (fun policy rule => policy.apply rule.setting) {}

/-- The settings of a policy, and those of `base` where it leaves them open. -/
def withBase (policy base : Policy) : Policy where
  included := policy.included.or base.included
  access := policy.access.or base.access
  required := policy.required.or base.required
  name := policy.name.or base.name
  type := policy.type.or base.type
  description := policy.description.or base.description
  deprecated := policy.deprecated.or base.deprecated

end Policy

end SchemaViews
