import SchemaViews.Directive.Annotation
import SchemaViews.Entity.Basic
import SchemaViews.Naming
import SchemaViews.Policy.Option
import SchemaViews.Settings

/-!
# The entity of a declaration

Reads the annotations of a declaration and of its members into an entity. Directives that make no
sense where they stand become notes; only text that is no directive at all is a fault.
-/

namespace SchemaViews

open SchemaViews.Directive (Argument SyntaxError)
open SchemaViews.Policy (accessOption? requiredOption? isFlagOption readOption)
open SchemaViews.Text

def DirectiveName.bindingKind? : DirectiveName → Option ViewKind
  | .type => some .object
  | .input => some .input
  | .enum => some .enum
  | _ => none

/-- The access of the fields that a directive adds. -/
def DirectiveName.extraAccess? : DirectiveName → Option Access
  | .typeExtraField => some .readOnly
  | .inputExtraField => some .writeOnly
  | _ => none

def DeclarationKind.viewKind : DeclarationKind → ViewKind
  | .object => .object
  | .enum => .enum

def nonempty (text : Option String) : Option String :=
  text.filter fun content => !content.isEmpty

def Directive.duplicateCauses (directive : Directive) : List Cause :=
  directive.duplicateKeys.map fun key => .duplicateArgument key directive.name

/-- What the directives of a type declaration say about the entity. -/
structure Heading where
  bindings : List Binding := []
  defaults : Policy := {}
  group : Option String := none
  extras : List Directive := []
  causes : List Cause := []
  deriving DecidableEq, Repr

namespace Heading

def note (heading : Heading) (cause : Cause) : Heading :=
  { heading with causes := heading.causes ++ [cause] }

def defaultOption? (key : String) : Option EntityDefault :=
  match accessOption? key with
  | some access => some (.access access)
  | none => (requiredOption? key).map .required

def currentDefault (defaults : Policy) : EntityDefault → Option EntityDefault
  | .access _ => defaults.access.map .access
  | .required _ => defaults.required.map .required

/-- Sets a default of the entity; the last directive wins. -/
def setDefault (heading : Heading) (directive : DirectiveName) (value : EntityDefault) : Heading :=
  let noted := match currentDefault heading.defaults value with
    | some before =>
      if before = value then heading else heading.note (.overriddenDefault directive before value)
    | none => heading
  let setting := match value with
    | .access access => Setting.access access
    | .required required => Setting.required required
  { noted with defaults := noted.defaults.apply setting }

/-- The name and description that the options of a binding directive have given so far. -/
structure Label where
  name : Option String := none
  description : Option String := none
  deriving DecidableEq, Repr

def bindingOption (directive : DirectiveName) (state : Heading × Label) (argument : Argument) :
    Heading × Label :=
  let (heading, label) := state
  let key := lowered argument.key
  let text := nonempty argument.text?
  if key == "name" && text.isSome then (heading, { label with name := text })
  else if key == "description" && text.isSome then (heading, { label with description := text })
  else
    match if argument.isFlag then defaultOption? key else none with
    | some value => (heading.setDefault directive value, label)
    | none => (heading.note (.unknownOptionOn argument.key directive), label)

/-- The name of a binding that is given none: the declared name, with a suffix for an input. -/
def defaultName (settings : Settings) (declaredName : String) (kind : ViewKind) : String :=
  if kind = .input then declaredName ++ settings.inputSuffix else declaredName

def addBinding (settings : Settings) (declaration : Declaration) (heading : Heading)
    (directive : Directive) (kind : ViewKind) : Heading :=
  if (kind = .enum) ≠ (declaration.kind = .enum) then
    heading.note (.wrongKind directive.name declaration.kind)
  else
    let (read, label) := directive.options.foldl (bindingOption directive.name) (heading, {})
    let name := label.name.getD (defaultName settings declaration.declaredName kind)
    { read with bindings := read.bindings ++ [⟨name, kind, label.description,
      read.bindings.length⟩] }

def setNamespace (heading : Heading) (directive : Directive) : Heading :=
  match nonempty ((directive.get? "name").bind Argument.text?) with
  | some name => { heading with group := some name }
  | none => heading.note (.nameless directive.name)

def take (settings : Settings) (declaration : Declaration) (heading : Heading)
    (directive : Directive) : Heading :=
  let noted := { heading with causes := heading.causes ++ directive.duplicateCauses }
  match directive.name.bindingKind? with
  | some kind => noted.addBinding settings declaration directive kind
  | none =>
    if directive.name.extraAccess?.isSome then { noted with extras := noted.extras ++ [directive] }
    else
      match directive.name with
      | .namespace => noted.setNamespace directive
      | .useModelDirective => noted
      | name => noted.note (.misplaced name .type)

/-- The bindings, with the declared name for one if no directive binds a name
and the settings ask for it. -/
def allBindings (settings : Settings) (declaration : Declaration) (directives : List Directive)
    (heading : Heading) : List Binding :=
  if settings.implicitBindings && !directives.any fun directive =>
      directive.name.bindingKind?.isSome then
    heading.bindings ++ [⟨declaration.declaredName, declaration.kind.viewKind, none, 0⟩]
  else heading.bindings

end Heading

namespace Field

def takeOption (state : Field × List Cause) (argument : Argument) : Field × List Cause :=
  let (field, causes) := state
  match readOption argument with
  | .rule rule => ({ field with rules := field.rules ++ [rule] }, causes)
  | .forceResolver => ({ field with forceResolver := true }, causes)
  | .missingValue => (field, causes ++ [.optionWithoutValue argument.key])
  | .unknown => (field, causes ++ [.unknownOption argument.key])

/-- The bare argument at the head of a field directive that names the field, or
omits it if it is a dash. -/
def positional? (directive : Directive) : Option Argument :=
  match directive.arguments.head? with
  | some first =>
    if first.isFlag && !isFlagOption first.key && directive.options.contains first then
      some first else none
  | none => none

def rename (field : Field) (name : String) : Field :=
  if name == "-" then { field with rules := field.rules ++ [⟨.inclusion false, none, "-"⟩] }
  else { field with outputName := name }

def takeDirective (field : Field) (directive : Directive) : Field × List Cause :=
  match positional? directive with
  | some first => (directive.options.erase first).foldl takeOption (field.rename first.key, [])
  | none => directive.options.foldl takeOption (field, [])

/-- Takes the next directive of a member; only field directives may stand there. -/
def take (state : Field × List Cause) (directive : Directive) : Field × List Cause :=
  let (field, causes) := state
  if directive.name = .field then
    let (taken, found) := field.takeDirective directive
    (taken, causes ++ directive.duplicateCauses ++ found)
  else (field, causes ++ [.misplaced directive.name .field])

def nameFor (settings : Settings) (declaredName : String) : String :=
  match settings.fieldCase with
  | .camel => Naming.camelCase declaredName
  | .snake => Naming.snakeCase declaredName
  | .keep => declaredName

def plain (settings : Settings) (mapping : TypeMapping) (member : Member) : Field where
  declaredName := member.declaredName
  declaredType := member.declaredType
  outputName := nameFor settings member.declaredName
  scalarType := mapping.mapType member.declaredType
  nullable := !settings.strictNullability || TypeMapping.isNullable member.declaredType

def ofMember (settings : Settings) (mapping : TypeMapping) (declaration : Declaration)
    (member : Member) : Except SyntaxError (Field × List Cause) :=
  (Directive.ofAnnotation member.rawAnnotation.toList (some (declaration.memberUnit member))).map
    fun directives =>
    directives.foldl take (plain settings mapping member, [])

/-- The field that a directive adds, if it names one. -/
def ofExtra (directive : Directive) (access : Access) : Option (Field × List Cause) :=
  (nonempty ((directive.get? "name").bind Argument.text?)).map fun name =>
    let type := (nonempty ((directive.get? "type").bind Argument.text?)).getD "String"
    let rest := directive.arguments.filter fun argument =>
      !(["name", "type"].contains (lowered argument.key))
    let field : Field :=
      { declaredName := name, declaredType := type, outputName := name, scalarType := type,
        isExtra := true,
        rules := [⟨.access access, none, directive.name.text⟩] }
    ({ directive with arguments := rest } : Directive).options.foldl takeOption (field, [])

end Field

namespace EnumValue

def isJoint (c : Char) : Bool :=
  isBlank c || c == '-' || c == '.'

/-- Writes each run of blanks, hyphens and points as one underscore. -/
def joinWords (afterJoint : Bool) : List Char → List Char
  | [] => []
  | c :: rest =>
    if isJoint c then if afterJoint then joinWords true rest else '_' :: joinWords true rest
    else c :: joinWords false rest

/-- The declared name without the name of its type, unless nothing else is left. -/
def dropTypeName (declaredName typeName : String) : String :=
  if startsWith declaredName typeName && typeName.length < declaredName.length then
    String.ofList (declaredName.toList.drop typeName.length)
  else declaredName

/-- The literal in capitals if it can be a GraphQL name, and otherwise the
declared name without its type. -/
def nameFor (literal : Option String) (declaredName typeName : String) : String :=
  let candidate := String.ofList (joinWords false (strip (literal.getD "").toList))
  if Naming.admits candidate then uppered candidate
  else Naming.upperSnakeCase (dropTypeName declaredName typeName)

def plain (entityName : String) (member : Member) : EnumValue where
  name := nameFor member.value member.declaredName entityName
  literal := member.value.getD member.declaredName
  declaredName := member.declaredName

/-- A value that is being read, whether it is omitted, and what was found wrong. -/
structure Draft where
  value : EnumValue
  omitted : Bool := false
  causes : List Cause := []
  deriving DecidableEq, Repr

def Draft.takeOption (draft : Draft) (argument : Argument) : Draft :=
  let key := lowered argument.key
  let text := nonempty argument.text?
  if key == "deprecated" then
    { draft with value := { draft.value with deprecated := some (text.getD "") } }
  else if key == "description" && text.isSome then
    { draft with value := { draft.value with description := text } }
  else
    match if key == "name" then text else none with
    | some name => { draft with value := { draft.value with name := name } }
    | none =>
      if (key == "omit" || key == "ignore") && argument.isFlag then { draft with omitted := true }
      else { draft with causes := draft.causes ++ [.unknownOptionOn argument.key .enumValue] }

def Draft.take (draft : Draft) (directive : Directive) : Draft :=
  if directive.name = .enumValue then
    directive.options.foldl takeOption
    { draft with causes := draft.causes ++ directive.duplicateCauses }
  else { draft with causes := draft.causes ++ [.misplaced directive.name .enumValue] }

def ofMember (declaration : Declaration) (member : Member) : Except SyntaxError Draft :=
  (Directive.ofAnnotation member.rawAnnotation.toList (some (declaration.memberUnit member))).map
    fun directives =>
    directives.foldl Draft.take { value := plain declaration.declaredName member }

end EnumValue

namespace Entity

/-- Reads every element; the first fault stops the reading. -/
def readAll {α β ε : Type} (read : α → Except ε β) : List α → Except ε (List β)
  | [] => .ok []
  | first :: rest =>
    match read first with
    | .error error => .error error
    | .ok value => (readAll read rest).map (value :: ·)

def blank (declaration : Declaration) (order : Int) : Entity where
  kind := declaration.kind.viewKind
  declaredName := declaration.declaredName
  order := order
  source := declaration.source

def issuesOf (entity : String) (member : Option String) (causes : List Cause) : List Issue :=
  causes.map fun cause => ⟨cause, entity, member, none⟩

def extraFields (entity : String) (extras : List Directive) : List Field × List Issue :=
  let read := extras.filterMap fun directive =>
    directive.name.extraAccess?.map fun access =>
      match Field.ofExtra directive access with
      | some (field, causes) => ([field], issuesOf entity (some field.declaredName) causes)
      | none => ([], issuesOf entity none [.nameless directive.name])
  (read.flatMap (·.1), read.flatMap (·.2))

def addMembers (settings : Settings) (mapping : TypeMapping) (declaration : Declaration)
    (extras : List Directive) (entity : Entity) : Except SyntaxError Entity :=
  let name := declaration.declaredName
  match declaration.kind with
  | .enum =>
    (readAll (EnumValue.ofMember declaration) declaration.members).map fun drafts =>
      { entity with
        values := (drafts.filter fun draft => !draft.omitted).map (·.value)
        notes := entity.notes ++ drafts.flatMap fun draft =>
          issuesOf name (some draft.value.declaredName) draft.causes }
  | .object =>
    (readAll (Field.ofMember settings mapping declaration) declaration.members).map fun read =>
      let (extra, extraIssues) := extraFields name extras
      { entity with
        fields := read.map (·.1) ++ extra
        notes := entity.notes ++
          read.flatMap (fun (field, causes) => issuesOf name (some field.declaredName) causes) ++
          extraIssues }

/-- The entity of a declaration. An ignored declaration has neither bindings nor members, and the
annotations of its members are not read. -/
def ofDeclaration (settings : Settings) (declaration : Declaration) (order : Int) :
    Except SyntaxError Entity :=
  match Directive.ofAnnotation declaration.rawAnnotation.toList (some declaration.unitName) with
  | .error error => .error error
  | .ok directives =>
    if directives.any fun directive => directive.name = .ignoreAll then
      .ok { blank declaration order with ignoreAll := true }
    else
      let heading := directives.foldl (Heading.take settings declaration) {}
      let bindings := heading.allBindings settings declaration directives
      addMembers settings settings.typeMapping declaration heading.extras
        { blank declaration order with
          kind := (bindings.head?.map (·.kind)).getD declaration.kind.viewKind
          bindings := bindings
          fieldDefaults := heading.defaults
          group := heading.group
          notes := issuesOf declaration.declaredName none heading.causes }

end Entity

end SchemaViews
