import SchemaViews.Declaration.Basic
import SchemaViews.GoSource.Line

/-!
# Extraction of declarations

Reads Go source line by line and collects its declarations. A comment belongs to the line right
below it. Constants may follow in another text than their type.
-/

namespace SchemaViews.GoSource

open SchemaViews.Text

/-- A type whose constants, if it is an enumeration, may still follow in another text. -/
structure Pending where
  kind : DeclarationKind
  name : String
  annotation : String
  source : Option String
  members : List Member := []
  deriving DecidableEq, Repr

/-- The types found in the texts read so far, and the constants with the names of their types. -/
structure Extraction where
  types : List Pending := []
  constants : List (String × Member) := []
  deriving DecidableEq, Repr

def Extraction.addType (extraction : Extraction) (type : Pending) : Extraction :=
  { extraction with types := extraction.types ++ [type] }

def Extraction.addConstant (extraction : Extraction) (type : String) (constant : Member) :
    Extraction :=
  { extraction with constants := extraction.constants ++ [(type, constant)] }

/-- Where the next line stands: in a struct with so many braces open, in a block of constants of
which the last one has a type, or in neither. -/
inductive Position where
  | top
  | inStruct (type : Pending) (depth : Int)
  | inConstants (type : String)
  deriving DecidableEq, Repr

structure State where
  extraction : Extraction
  comments : List String := []
  inComment : Bool := false
  position : Position := .top
  deriving DecidableEq, Repr

def enumBases : List String :=
  ["string", "int", "int8", "int16", "int32", "int64", "uint", "uint8", "uint16", "uint32"]

def optional (part : Option (List Char)) : List String :=
  (part.map String.ofList).toList

/-- The members that a line of a struct declares: one for each exported name. -/
def fieldMembers (line : List Char) (comments : List String) : List Member :=
  match fieldLine? line with
  | none => []
  | some field =>
    let annotation := joinLines (comments ++ optional field.comment ++ optional field.tag)
    (field.names.filter fun name => name.head?.any Char.isUpper).map fun name =>
      ⟨String.ofList name, String.ofList field.type, annotation, none⟩

/-- Records a constant under the type it names, or else under the type of the constant before it;
the result also has the type for the constants after it. -/
def recordConstant (extraction : Extraction) (constant : Option ConstantLine)
    (comments : List String) (inherited : String) : Extraction × String :=
  match constant with
  | none => (extraction, inherited)
  | some constant =>
    let type := match constant.type with
      | some named => String.ofList named
      | none => inherited
    if type.isEmpty then (extraction, inherited)
    else
      let annotation := joinLines (comments ++ optional constant.comment)
      (extraction.addConstant type
        ⟨String.ofList constant.name, type, annotation, constant.literal.map String.ofList⟩, type)

/-- Takes a line of a struct. A nested body is skipped to its end. -/
def State.structLine (state : State) (type : Pending) (depth : Int) (line : List Char) : State :=
  if depth = 1 && line.head? == some '\x7d' then
    { state with extraction := state.extraction.addType type, comments := [], position := .top }
  else if 1 < depth || line.getLast? == some '\x7b' then
    let left := depth + line.count '\x7b' - line.count '\x7d'
    { state with comments := [], position := .inStruct type left }
  else
    let members := type.members ++ fieldMembers line state.comments
    { state with comments := [], position := .inStruct { type with members := members } depth }

def State.constantLine (state : State) (inherited : String) (line : List Char) : State :=
  if line.head? == some ')' then { state with comments := [], position := .top }
  else
    let (extraction, next) :=
      recordConstant state.extraction (constantLine? line) state.comments inherited
    { state with extraction := extraction, comments := [], position := .inConstants next }

def State.topLine (state : State) (source : Option String) (line : List Char) : State :=
  let annotation := joinLines state.comments
  let cleared := { state with comments := [] }
  match structHeader? line with
  | some (name, rest) =>
    let type : Pending := ⟨.object, String.ofList name, annotation, source, []⟩
    if rest.contains '\x7d' then { cleared with extraction := state.extraction.addType type }
    else { cleared with position := .inStruct type 1 }
  | none =>
    let enumName := (namedType? line).bind fun (name, base) =>
      if enumBases.contains (String.ofList base) then some name else none
    match enumName with
    | some name =>
      let type : Pending := ⟨.enum, String.ofList name, annotation, source, []⟩
      { cleared with extraction := state.extraction.addType type }
    | none =>
      if "const (".toList.isPrefixOf line then { cleared with position := .inConstants "" }
      else
        { cleared with
          extraction :=
            (recordConstant state.extraction (singleConstant? line) state.comments "").1 }

/-- Takes one line. Comment lines are kept for the line after them; a blank line forgets them. -/
def State.line (source : Option String) (state : State) (raw : List Char) : State :=
  let line := strip raw
  let commented := { state with comments := state.comments ++ [String.ofList line] }
  let closes := hasPart ['*', '/'] line
  if state.inComment then { commented with inComment := !closes }
  else if ['/', '*'].isPrefixOf line then { commented with inComment := !closes }
  else if ['/', '/'].isPrefixOf line then commented
  else if line.isEmpty then { state with comments := [] }
  else
    match state.position with
    | .inStruct type depth => state.structLine type depth line
    | .inConstants inherited => state.constantLine inherited line
    | .top => state.topLine source line

namespace Extraction

/-- Reads one more text. A struct that the text leaves open is not kept. -/
def feed (extraction : Extraction) (text : List Char) (source : Option String) : Extraction :=
  ((splitLines text).foldl (State.line source) { extraction := extraction }).extraction

def constantsOf (extraction : Extraction) (type : String) : List Member :=
  (extraction.constants.filter (·.1 == type)).map (·.2)

/-- The declaration of a type. A named type is one only if it has constants or an
at sign in its annotation. -/
def declaration? (extraction : Extraction) (type : Pending) : Option Declaration :=
  match type.kind with
  | .object => some ⟨.object, type.name, type.annotation, type.members, type.source⟩
  | .enum =>
    let members := extraction.constantsOf type.name
    if members.isEmpty && !type.annotation.toList.contains '@' then none
    else some ⟨.enum, type.name, type.annotation, members, type.source⟩

def declarations (extraction : Extraction) : List Declaration :=
  extraction.types.filterMap extraction.declaration?

end Extraction

def extract (text : List Char) (source : Option String) : List Declaration :=
  (Extraction.feed {} text source).declarations

end SchemaViews.GoSource
