import SchemaViews.Declaration.Basic
import SchemaViews.Directive.Basic
import SchemaViews.Policy.Basic

/-!
# Issues

What can be wrong with a schema: the causes with their messages, and the severity of each kind.
-/

namespace SchemaViews

inductive ViewKind where
  | object
  | input
  | enum
  deriving DecidableEq, Repr

def ViewKind.word : ViewKind → String
  | .object => "object"
  | .input => "input"
  | .enum => "enum"

def ViewKind.keyword : ViewKind → String
  | .object => "type"
  | .input => "input"
  | .enum => "enum"

inductive Severity where
  | error
  | warning
  deriving DecidableEq, Repr

def Severity.word : Severity → String
  | .error => "error"
  | .warning => "warning"

inductive IssueKind where
  | unknownViewReference
  | conflictingMutability
  | readOnlyInInput
  | writeOnlyInObject
  | duplicateEnumValue
  | duplicateViewName
  | conflictingInclusion
  | conflictingRequiredness
  | invalidBinding
  | invalidName
  | duplicateArgument
  | unknownOption
  | overriddenEntityDefault
  | emptyView
  deriving DecidableEq, Repr

def IssueKind.name : IssueKind → String
  | .unknownViewReference => "UnknownViewReference"
  | .conflictingMutability => "ConflictingMutability"
  | .readOnlyInInput => "ReadOnlyInInput"
  | .writeOnlyInObject => "WriteOnlyInObject"
  | .duplicateEnumValue => "DuplicateEnumValue"
  | .duplicateViewName => "DuplicateViewName"
  | .conflictingInclusion => "ConflictingInclusion"
  | .conflictingRequiredness => "ConflictingRequiredness"
  | .invalidBinding => "InvalidBinding"
  | .invalidName => "InvalidName"
  | .duplicateArgument => "DuplicateArgument"
  | .unknownOption => "UnknownOption"
  | .overriddenEntityDefault => "OverriddenEntityDefault"
  | .emptyView => "EmptyView"

def IssueKind.severity : IssueKind → Severity
  | .duplicateArgument | .unknownOption | .overriddenEntityDefault | .emptyView => .warning
  | _ => .error

/-- Where a directive may stand. -/
inductive Place where
  | type
  | field
  | enumValue
  deriving DecidableEq, Repr

def Place.describe : Place → String
  | .type => "a type declaration"
  | .field => "a field"
  | .enumValue => "an enum value"

/-- A default that a binding directive sets for all fields of an entity. -/
inductive EntityDefault where
  | access (access : Access)
  | required (required : Bool)
  deriving DecidableEq, Repr

def EntityDefault.attribute : EntityDefault → String
  | .access _ => "access"
  | .required _ => "required"

def EntityDefault.word : EntityDefault → String
  | .access mode => mode.code
  | .required true => "required"
  | .required false => "optional"

/-- The concerns whose rules must agree within one scope. -/
inductive Dispute where
  | access
  | inclusion
  | required
  deriving DecidableEq, Repr

inductive Cause where
  | duplicateArgument (key : String) (directive : DirectiveName)
  | unknownOption (option : String)
  | unknownOptionOn (option : String) (directive : DirectiveName)
  | optionWithoutValue (option : String)
  | misplaced (directive : DirectiveName) (place : Place)
  | wrongKind (directive : DirectiveName) (kind : DeclarationKind)
  | nameless (directive : DirectiveName)
  | overriddenDefault (directive : DirectiveName) (before after : EntityDefault)
  | invalidTypeName (name : String)
  | invalidFieldName (name : String)
  | invalidEnumValue (name : String)
  | boundRepeatedly (name entity : String)
  | alreadyBound (name owner : String)
  | unknownView (name : String)
  | viewNotEmitted (name : String)
  | conflict (dispute : Dispute) (options : List String) (everywhere : Bool)
  | readOnlyInInput
  | writeOnlyInObject
  | duplicateEnumValue (name owner : String)
  | emptyView (kind : ViewKind)
  deriving DecidableEq, Repr

def Cause.kind : Cause → IssueKind
  | .duplicateArgument .. => .duplicateArgument
  | .unknownOption .. | .unknownOptionOn .. | .optionWithoutValue .. => .unknownOption
  | .misplaced .. | .wrongKind .. | .nameless .. => .invalidBinding
  | .overriddenDefault .. => .overriddenEntityDefault
  | .invalidTypeName .. | .invalidFieldName .. | .invalidEnumValue .. => .invalidName
  | .boundRepeatedly .. | .alreadyBound .. => .duplicateViewName
  | .unknownView .. | .viewNotEmitted .. => .unknownViewReference
  | .conflict .access .. => .conflictingMutability
  | .conflict .inclusion .. => .conflictingInclusion
  | .conflict .required .. => .conflictingRequiredness
  | .readOnlyInInput => .readOnlyInInput
  | .writeOnlyInObject => .writeOnlyInObject
  | .duplicateEnumValue .. => .duplicateEnumValue
  | .emptyView .. => .emptyView

def Cause.message : Cause → String
  | .duplicateArgument key directive =>
    s!"'{key}' given more than once in @{directive.text}; the last one is used"
  | .unknownOption option => s!"Unknown option '{option}'"
  | .unknownOptionOn option directive => s!"Unknown option '{option}' on @{directive.text}"
  | .optionWithoutValue option => s!"Option '{option}' requires a value"
  | .misplaced directive place => s!"@{directive.text} is not valid on {place.describe}"
  | .wrongKind directive kind => s!"@{directive.text} cannot bind a {kind.word} declaration"
  | .nameless directive => s!"@{directive.text} requires a name"
  | .overriddenDefault directive before after =>
    s!"@{directive.text} overrides the entity default '{after.attribute}' " ++
      s!"({before.word} -> {after.word})"
  | .invalidTypeName name => s!"'{name}' is not a valid GraphQL type name"
  | .invalidFieldName name => s!"'{name}' is not a valid GraphQL field name"
  | .invalidEnumValue name => s!"'{name}' is not a valid GraphQL enum value"
  | .boundRepeatedly name entity => s!"'{name}' is bound more than once by {entity}"
  | .alreadyBound name owner => s!"'{name}' is already bound by {owner}"
  | .unknownView name => s!"References view '{name}', which no entity produces"
  | .viewNotEmitted name => s!"Field type refers to view '{name}', which is not emitted"
  | .conflict _ options everywhere =>
    let words := " and ".intercalate (options.map fun option => "'" ++ option ++ "'")
    if everywhere then "Conflicting " ++ words ++ " for all views" else "Conflicting " ++ words
  | .readOnlyInInput => "Read-only field is explicitly placed in an input view"
  | .writeOnlyInObject => "Write-only field is explicitly placed in an object view"
  | .duplicateEnumValue name owner => s!"Enum value '{name}' is also declared by {owner}"
  | .emptyView .enum => "View has no values"
  | .emptyView _ => "View has no fields"

structure Issue where
  cause : Cause
  entity : String
  member : Option String := none
  view : Option String := none
  deriving DecidableEq, Repr

namespace Issue

def kind (issue : Issue) : IssueKind :=
  issue.cause.kind

def severity (issue : Issue) : Severity :=
  issue.kind.severity

def isError (issue : Issue) : Bool :=
  issue.severity = .error

/-- The entity with the member and the view, of which empty names are left out. -/
def location (issue : Issue) : String :=
  let member := match issue.member with
    | some name => if name.isEmpty then "" else "." ++ name
    | none => ""
  let view := match issue.view with
    | some name => if name.isEmpty then "" else " [" ++ name ++ "]"
    | none => ""
  issue.entity ++ member ++ view

def text (issue : Issue) : String :=
  s!"{issue.severity.word}: {issue.kind.name}: {issue.location}: {issue.cause.message}"

end Issue

end SchemaViews
