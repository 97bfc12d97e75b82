import SchemaViews.Document.Literal
import SchemaViews.Entity.Declared
import SchemaViews.Schema.Issues
import SchemaViews.Schema.Resolved
import SchemaViews.Schema.Text

/-!
# From declarations to text

Builds the entities of declarations, resolves them to a schema, checks the schema and
emits its text. Syntax errors of all declarations are reported together, and no text is
given for a schema with errors.
-/

namespace SchemaViews

inductive Failure where
  | syntaxErrors (errors : List Directive.SyntaxError)
  | invalid (issues : List Issue)
  | notGraphQL
  deriving DecidableEq, Repr

def syntaxErrorsMessage (errors : List Directive.SyntaxError) : String :=
  Text.joinLines (s!"{errors.length} directive syntax error(s):" :: errors.map fun error => "  " ++
    error.message)

/-- The errors of a list of issues, without its warnings. -/
def invalidMessage (issues : List Issue) : String :=
  let errors := issues.filter Issue.isError
  Text.joinLines (s!"{errors.length} schema validation error(s):" :: errors.map fun issue => "  " ++
    issue.text)

structure Output where
  text : String
  schema : Schema
  warnings : List Issue
  deriving DecidableEq, Repr

namespace Pipeline

def results (settings : Settings) (declarations : List Declaration) :
    List (Except Directive.SyntaxError Entity) :=
  declarations.zipIdx.map fun (declaration, position) =>
    Entity.ofDeclaration settings declaration position

def errorsOf {ε α : Type} (results : List (Except ε α)) : List ε :=
  results.filterMap fun result =>
    match result with
    | .error error => some error
    | .ok _ => none

def valuesOf {ε α : Type} (results : List (Except ε α)) : List α :=
  results.filterMap Except.toOption

/-- The entities of all declarations, or the syntax errors of all that have one. -/
def build (settings : Settings) (declarations : List Declaration) : Except Failure (List Entity) :=
  let results := results settings declarations
  let errors := errorsOf results
  if errors.isEmpty then .ok (valuesOf results) else .error (.syntaxErrors errors)

def resolve (settings : Settings) (declarations : List Declaration) : Except Failure Schema :=
  (build settings declarations).map (Schema.resolve settings.typeMapping)

def check (settings : Settings) (declarations : List Declaration) : Except Failure (List Issue) :=
  (resolve settings declarations).map Schema.issues

/-- The text of a schema that is free of errors: its views are filtered, and headers are put in
front, the one of the settings last. -/
def render (settings : Settings) (filters : List ViewFilter) (headers : List String)
    (schema : Schema) (parse : Document.Parser := Document.read?) : Except Failure Output :=
  let issues := schema.issues
  if issues.any Issue.isError then .error (.invalid issues)
  else
    let kept := filters.foldl Schema.keep schema
    let dangling := kept.danglingIssues
    if dangling.isEmpty then
      match kept.emit? settings.emitScalars none parse with
      | none => .error .notGraphQL
      | some content =>
        let own := (nonempty settings.header).toList
        .ok ⟨Document.addHeaders (headers ++ own) content, kept,
          issues.filter fun issue => !issue.isError⟩
    else .error (.invalid dangling)

/-- The schema text of some declarations. -/
def run (settings : Settings) (filters : List ViewFilter) (headers : List String)
    (declarations : List Declaration) (parse : Document.Parser := Document.read?) :
    Except Failure Output :=
  match resolve settings declarations with
  | .error failure => .error failure
  | .ok schema => render settings filters headers schema parse

end Pipeline

end SchemaViews
