import SchemaViews.Document.Literal
import SchemaViews.Document.Reader
import SchemaViews.FileTree.Basic
import SchemaViews.Schema.Basic

/-!
# The text of a schema

Writes scalars and views as GraphQL definitions, and lets a text through only if it is a GraphQL
document. A folder may hold a text that is emitted in place of it.
-/

namespace SchemaViews

open SchemaViews.Text

def descriptionLine (indent : String) (text : Option String) : String :=
  match text with
  | some content => if content.isEmpty then "" else indent ++ Document.description content ++ "\n"
  | none => ""

def EnumValue.lines (value : EnumValue) : String :=
  descriptionLine "  " value.description ++ "  " ++ value.name ++
    Document.deprecation value.deprecated ++ "\n"

def ViewField.lines (field : ViewField) : String :=
  let resolver := if field.forceResolver then " @goField(forceResolver: true)" else ""
  descriptionLine "  " field.description ++ "  " ++ field.name ++ ": " ++ field.typeRef ++
    Document.deprecation field.deprecated ++ resolver ++ "\n"

/-- The definition of a view; one without members has no braces. -/
def View.text (view : View) : String :=
  let head := descriptionLine "" view.description ++ view.kind.keyword ++ " " ++ view.name
  if view.memberNames.isEmpty then head ++ "\n"
  else
    head ++ " \x7b\n" ++ String.join (view.values.map EnumValue.lines) ++
      String.join (view.fields.map ViewField.lines) ++ "\x7d\n"

namespace Schema

def scalarLines (scalars : List String) : String :=
  String.join (scalars.map fun name => "scalar " ++ name ++ "\n")

/-- The definitions of views with a blank line before each, except before one at
the head of the document. -/
def viewTexts (atHead : Bool) : List View → String
  | [] => ""
  | view :: rest => (if atHead then "" else "\n") ++ view.text ++ viewTexts false rest

def text (emitScalars : Bool) (schema : Schema) : String :=
  let scalars := if emitScalars then schema.scalars else []
  scalarLines scalars ++ viewTexts scalars.isEmpty schema.views

/-- Whether a text can be emitted: the parser takes it for a GraphQL document, or
it is nothing but blanks. -/
def isEmittable (text : String) (parse : Document.Parser := Document.read?) : Bool :=
  (strip text.toList).isEmpty || (parse text.toList).isSome

/-- The text of a schema, or a fixed text in its place, if it can be emitted. -/
def emit? (emitScalars : Bool) (fixed : Option String) (schema : Schema)
    (parse : Document.Parser := Document.read?) : Option String :=
  let content := fixed.getD (schema.text emitScalars)
  if isEmittable content parse then some content else none

end Schema

/-! ### Overrides -/

def overrideName : String :=
  "schema.graphql.j2"

/-- The text that a folder holds in place of the text of a schema. It is a template of which nothing
is filled in: a text with tags in it comes out as it is. -/
def FileTree.override? (files : FileTree) (folder : String) : Option String := do
  let location ← files.locate? folder
  let content ← files.content? (location ++ [overrideName])
  some (String.ofList (normalizeNewlines content.toList))

/-- The text of a schema, or the text that a folder holds in its place, if it can be emitted. -/
def Schema.emitWith? (files : FileTree) (folder : Option String) (emitScalars : Bool)
    (schema : Schema) (parse : Document.Parser := Document.read?) : Option String :=
  schema.emit? emitScalars (folder.bind files.override?) parse

end SchemaViews
