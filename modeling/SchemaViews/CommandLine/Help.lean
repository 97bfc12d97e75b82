import SchemaViews.CommandLine.Request
import SchemaViews.Settings.File

/-!
# Help

The texts that describe the commands and their options, in two columns. The second column starts two
characters after the longest entry of the first one.
-/

namespace SchemaViews.CommandLine

def versionLine : String :=
  Settings.programName ++ ", version 0.1.0"

namespace OptionName

def valueWord : OptionName → String
  | .source | .output | .config => " PATH"
  | .header => " TEXT"
  | .workers => " INTEGER"
  | _ => ""

def entry (name : OptionName) : String :=
  match name.letter? with
  | some letter => "-" ++ String.singleton letter ++ ", " ++ name.long ++ name.valueWord
  | none => name.long ++ name.valueWord

/-- What an option is for, in lines of at most 57 characters. -/
def about : OptionName → List String
  | .source =>
    ["Path to a Go source file, a declarations JSON file, or a", "directory of them.  [required]"]
  | .output => ["Output file for the generated schema (e.g.,", "schema.graphql).  [required]"]
  | .config => ["Configuration file (.toml, .json, or pyproject.toml)."]
  | .header => ["Comment header to put at the top of the schema."]
  | .explicitOnly => ["Only emit types carrying an explicit", "@GqlType/@GqlInput/@GqlEnum."]
  | .workers => ["Number of parser threads."]
  | .verbose => ["Enable verbose output."]
  | .version => ["Show the version and exit."]
  | .help => ["Show this message and exit."]

end OptionName

def Command.summary : Command → String
  | .generate => "Generate a GraphQL schema from annotated declarations."
  | .check => "Validate annotations without writing a schema."
  | .views => "List every resolved view with its fields."

def Command.details : Command → List String
  | .generate =>
    ["  Examples:", "", "      gql-viewgen generate --source ./models --output ./schema.graphql",
      "", "      gql-viewgen generate -s ./user.go -o ./schema.graphql --explicit-only"]
  | .check => ["  Exits with status 1 if any error is found."]
  | .views =>
    ["  Views are listed even when validation would fail, to help track down the", "  cause."]

def blanks (count : Nat) : String :=
  String.ofList (List.replicate count ' ')

/-- Rows of two columns: an entry, and the lines about it. -/
def columns (rows : List (String × List String)) : List String :=
  let width := (rows.map fun row => row.1.length).foldl max 0 + 2
  rows.flatMap fun (entry, lines) =>
    lines.zipIdx.map fun (line, position) =>
      let start := if position = 0 then entry else ""
      "  " ++ start ++ blanks (width - start.length) ++ line

def optionLines (names : List OptionName) : List String :=
  "Options:" :: columns (names.map fun name => (name.entry, name.about))

def Command.help (command : Command) : List String :=
  ["Usage: main " ++ command.word ++ " [OPTIONS]", "", "  " ++ command.summary, ""] ++
    command.details ++ [""] ++
    optionLines command.options

def help : List String :=
  ["Usage: main [OPTIONS] COMMAND [ARGS]...", "",
    "  GraphQL view synthesis from annotated declarations.", "",
    "  Generate GraphQL SDL with several named views per declared type.", ""] ++
    optionLines [.version, .help] ++ ["", "Commands:"] ++
    columns (Command.all.map fun command => (command.word, [command.summary]))

end SchemaViews.CommandLine
