import SchemaViews.Directive.Basic
import SchemaViews.Policy.Basic

/-!
# Options

The words for rules in field directives.
-/

namespace SchemaViews.Policy

open SchemaViews.Text

def accessOption? (key : String) : Option Access :=
  if ["ro", "readonly", "read_only"].contains key then some .readOnly
  else if ["wo", "writeonly", "write_only"].contains key then some .writeOnly
  else if ["rw", "readwrite", "read_write"].contains key then some .readWrite
  else none

def inclusionOption? (key : String) : Option Bool :=
  if key == "include" then some true
  else if ["omit", "ignore", "exclude"].contains key then some false
  else none

def requiredOption? (key : String) : Option Bool :=
  if key == "required" then some true
  else if key == "optional" then some false
  else none

def isResolverOption (key : String) : Bool :=
  ["forceresolver", "force_resolver"].contains key

def flagSetting? (key : String) : Option Setting :=
  match accessOption? key with
  | some access => some (.access access)
  | none =>
    match inclusionOption? key with
    | some included => some (.inclusion included)
    | none => (requiredOption? key).map .required

def textSetting? (key text : String) : Option Setting :=
  if key == "name" then some (.name text)
  else if key == "type" then some (.type text)
  else if key == "description" then some (.description text)
  else if key == "deprecated" then some (.deprecated text)
  else none

/-- Whether a bare key is an option of a field, and so not a name for it. -/
def isFlagOption (key : String) : Bool :=
  let key := lowered key
  (flagSetting? key).isSome || isResolverOption key || key == "deprecated"

/-- The views that names qualify a rule with; no names, or a star among
them, stand for all views. -/
def scopeOf (names : List String) : Option (List String) :=
  if names.isEmpty || names.contains "*" then none else some names.eraseDups

inductive Reading where
  | rule (rule : Rule)
  | forceResolver
  | missingValue
  | unknown
  deriving DecidableEq, Repr

/-- Reads an option. The words for access, inclusion and requiredness take views as their value and
as their qualifier, the others a text and, as their qualifier, views. -/
def readOption (argument : Directive.Argument) : Reading :=
  let key := lowered argument.key
  let qualifier := argument.qualifier.getD []
  if isResolverOption key then .forceResolver
  else
    match flagSetting? key with
    | some setting => .rule ⟨setting, scopeOf (argument.items ++ qualifier), key⟩
    | none =>
      match argument.text? with
      | some text =>
        match textSetting? key text with
        | some setting => .rule ⟨setting, scopeOf qualifier, key⟩
        | none => .unknown
      | none =>
        if key == "deprecated" then .rule ⟨.deprecated "", scopeOf qualifier, key⟩
        else if (textSetting? key "").isSome then .missingValue
        else .unknown

end SchemaViews.Policy
