import SchemaViews.Directive.Argument
import SchemaViews.Text.LetterCase

/-!
# Directives

The directives by name, and what a directive says when a key is given more than
once: the last argument counts.
-/

namespace SchemaViews

open SchemaViews.Text

inductive DirectiveName where
  | type
  | input
  | enum
  | enumValue
  | ignoreAll
  | field
  | typeExtraField
  | inputExtraField
  | namespace
  | useModelDirective
  deriving DecidableEq, Repr

def DirectiveName.all : List DirectiveName :=
  [.type, .input, .enum, .enumValue, .ignoreAll, .field, .typeExtraField, .inputExtraField,
    .namespace, .useModelDirective]

def DirectiveName.text : DirectiveName → String
  | .type => "GqlType"
  | .input => "GqlInput"
  | .enum => "GqlEnum"
  | .enumValue => "GqlEnumValue"
  | .ignoreAll => "GqlIgnoreAll"
  | .field => "GqlField"
  | .typeExtraField => "GqlTypeExtraField"
  | .inputExtraField => "GqlInputExtraField"
  | .namespace => "GqlNamespace"
  | .useModelDirective => "GqlUseModelDirective"

/-- The directive of a name written in any letter case. -/
def DirectiveName.ofWritten? (written : List Char) : Option DirectiveName :=
  all.find? fun name => lower name.text.toList == lower written

/-- An invocation with its arguments, or a tag, which stands for a field directive. -/
structure Directive where
  name : DirectiveName
  arguments : List Directive.Argument := []
  position : Nat := 0
  fromTag : Bool := false
  deriving DecidableEq, Repr

namespace Directive

/-- The elements that no later element shares its key with. -/
def keepLast {α : Type} (key : α → String) : List α → List α
  | [] => []
  | first :: rest =>
    if rest.any fun later => key later == key first then keepLast key rest
      else first :: keepLast key rest

/-- The last argument with a key. -/
def get? (directive : Directive) (key : String) : Option Argument :=
  directive.arguments.reverse.find? (·.key == key)

def has (directive : Directive) (key : String) : Bool :=
  (directive.get? key).isSome

/-- The keys given more than once, by their first occurrence. -/
def duplicateKeys (directive : Directive) : List String :=
  let keys := directive.arguments.map (·.key)
  keys.eraseDups.filter fun key => 1 < keys.count key

/-- The arguments of which each is the last with its key. -/
def options (directive : Directive) : List Argument :=
  keepLast Argument.key directive.arguments

end Directive

end SchemaViews
