import SchemaViews.Data.Json
import SchemaViews.Data.Toml
import SchemaViews.FileTree.Path
import SchemaViews.Settings

/-!
# Settings files

Settings are kept as TOML or, in a file that says so by its name, as JSON. The project file of a
package holds them in a table among those of other tools.
-/

namespace SchemaViews

inductive SettingsFault where
  | unreadable (path : String)
  | invalid (path : String) (violations : List Data.Violation)
  | toolsNotTable
  deriving DecidableEq, Repr

def SettingsFault.message : SettingsFault → String
  | .unreadable path => "Cannot read config " ++ path
  | .invalid path _ => "Invalid config " ++ path
  | .toolsNotTable => "The tools of the project are not a table"

namespace Settings

/-- The file of a package that has a table for each tool. -/
def projectFile : String :=
  "pyproject.toml"

/-- The name of the program, under which its table stands. -/
def programName : String :=
  "gql-viewgen"

def fileData? (path content : String) : Option Data :=
  if Path.ending path == ".json" then Json.read? content.toList else Toml.read? content.toList

/-- The settings among the tables of a project; a table that is missing is empty. -/
def ofProject? (data : Data) : Option Data :=
  match (data.field? "tool").getD (.record []) with
  | .record tools => some ((Data.get? programName tools).getD (.record []))
  | _ => none

/-- Reads the settings of a file, given what it holds if it can be read at all. -/
def ofFile (path : String) (content : Option String) : Except SettingsFault Settings :=
  let shown := Path.normalized path
  match content.bind (fileData? path) with
  | none => .error (.unreadable shown)
  | some data =>
    match if Path.name path == projectFile then ofProject? data else some data with
    | none => .error .toolsNotTable
    | some settings => (ofData settings).mapError (SettingsFault.invalid shown)

end Settings

end SchemaViews
