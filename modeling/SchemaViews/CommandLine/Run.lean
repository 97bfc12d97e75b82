import SchemaViews.CommandLine.Help
import SchemaViews.CommandLine.Outcome
import SchemaViews.Declaration.Source
import SchemaViews.Pipeline

/-!
# Running a command

The commands over a tree of files. Only `generate` changes the tree: it writes its output when
nothing is wrong, and leaves it empty when only the encoding of the text fails.
-/

namespace SchemaViews.CommandLine

def errorLine (message : String) : String :=
  "error: " ++ message

def countErrors (issues : List Issue) : Nat :=
  (issues.filter Issue.isError).length

def Trouble.ofSettingsFault : SettingsFault → Trouble
  | .toolsNotTable => .breakdown .toolsNotTable
  | fault => .reported [errorLine fault.message]

def Trouble.ofSourceFault (fault : SourceFault) : Trouble :=
  .reported [errorLine fault.message]

def Trouble.ofFailure : Failure → Trouble
  | .syntaxErrors errors =>
    .reported (errors.map (fun error => errorLine ("DirectiveSyntax: " ++ error.message)) ++
      [s!"{errors.length} syntax error(s); nothing was generated."])
  | .invalid issues =>
    .reported (issues.map Issue.text ++ [s!"{countErrors issues} error(s); nothing was generated."])
  | .notGraphQL => .breakdown .notGraphQL

/-- Settings with those of the command line in their place; a number of
workers below one is refused. -/
def Overrides.apply? (overrides : Overrides) (settings : Settings) : Option Settings :=
  let changed := { settings with
    header := overrides.header.or settings.header
    implicitBindings := settings.implicitBindings && !overrides.explicitOnly }
  match overrides.workers with
  | none => some changed
  | some count => if count < 1 then none else some { changed with maxWorkers := some count.toNat }

namespace Input

def isThere (files : FileTree) (input : Input) : Bool :=
  files.has input.source && input.config.all files.has

def settings (files : FileTree) (input : Input) : Except Trouble Settings :=
  match input.config with
  | none => .ok {}
  | some path => (Settings.ofFile path (files.read? path)).mapError Trouble.ofSettingsFault

def sources (files : FileTree) (input : Input) : List SourceFile :=
  files.sources input.source

def listing (files : FileTree) (input : Input) : List String :=
  let sources := input.sources files
  if input.verbose then
    s!"Sources: {sources.length} file(s)" :: sources.map fun file => "  " ++ file.path
  else []

def declarations (files : FileTree) (input : Input) : Except Trouble (List Declaration) :=
  (Declaration.ofSources (input.sources files)).mapError Trouble.ofSourceFault

end Input

/-- Reads the settings and then the declarations, and goes on with them and with
the lines written so far. -/
def withDeclarations (files : FileTree) (input : Input) (settings : Except Trouble Settings)
    (use : Settings → List String → List Declaration → Outcome) : Outcome :=
  match settings with
  | .error trouble => .ofTrouble files [] trouble
  | .ok settings =>
    let listing := input.listing files
    match input.declarations files with
    | .error trouble => .ofTrouble files listing trouble
    | .ok declarations => use settings listing declarations

/-- The settings that count: those of the file, with those of the command line over them. -/
def effectiveSettings (files : FileTree) (input : Input) (overrides : Overrides) :
    Except Trouble Settings :=
  match input.settings files with
  | .error trouble => .error trouble
  | .ok settings =>
    match overrides.apply? settings with
    | some changed => .ok changed
    | none => .error (.breakdown .invalidSettings)

def writeSchema (files : FileTree) (target : Location) (verbose : Bool) (before : List String)
    (result : Output) : Outcome :=
  let warnings := result.warnings.map Issue.text
  let counts := if verbose then
      [s!"  Views: {result.schema.views.length}", s!"  Scalars: {result.schema.scalars.length}"]
    else []
  match files.folderFault? target.parent with
  | some fault => ⟨1, before ++ counts, warnings, files, some (.unwritable fault)⟩
  | none =>
    let announced := before ++ counts ++ [s!"Writing to {target.text}..."]
    if files.isFolder target then ⟨1, announced, warnings, files, some (.unwritable .isFolder)⟩
    -- The output is opened, and so emptied, before its text is encoded.
    else if !Text.isEncodable result.text.toList then
      ⟨1, announced, warnings, files.write target "", some .unencodable⟩
    else
      ⟨0, announced ++ [s!"Done! Generated {result.schema.views.length} view(s)."], warnings,
        files.write target result.text, none⟩

def generate (files : FileTree) (input : Input) (output : String) (overrides : Overrides)
    (parse : Document.Parser := Document.read?) : Outcome :=
  withDeclarations files input (effectiveSettings files input overrides)
    fun settings listing declarations =>
    let started := listing ++ [s!"Building {declarations.length} declaration(s)..."]
    match Pipeline.run settings [] [] declarations parse.ofCodePoints with
    | .error failure => .ofTrouble files started (.ofFailure failure)
    | .ok result => writeSchema files (files.target output) input.verbose started result

/-- The status is one if there is an error. -/
def check (files : FileTree) (input : Input) : Outcome :=
  withDeclarations files input (input.settings files) fun settings listing declarations =>
    match Pipeline.check settings declarations with
    | .error failure => .ofTrouble files listing (.ofFailure failure)
    | .ok issues =>
      let errors := countErrors issues
      let summary := s!"{errors} error(s), {issues.length - errors} warning(s)"
      .printing files (if errors = 0 then 0 else 1) listing (issues.map Issue.text ++ [summary])

def viewLines (view : View) : List String :=
  let start := view.kind.keyword ++ " " ++ view.name ++ " (" ++ view.entity.declaredName
  match view.kind with
  | .enum => (start ++ ")") :: view.values.map fun value => "  " ++ value.name
  | _ =>
    (start ++ ", " ++ view.mode.word ++ ")") :: view.fields.map fun field =>
      "  " ++ field.name ++ ": " ++ field.typeRef ++ " [" ++ field.access.code ++ "]"

def views (files : FileTree) (input : Input) : Outcome :=
  withDeclarations files input (input.settings files) fun settings listing declarations =>
    match Pipeline.resolve settings declarations with
    | .error failure => .ofTrouble files listing (.ofFailure failure)
    | .ok schema => .printing files 0 listing (schema.views.flatMap viewLines)

def withInput (files : FileTree) (input : Input) (outcome : Outcome) : Outcome :=
  if input.isThere files then outcome else .misused files

def Request.run (files : FileTree) (request : Request) (parse : Document.Parser := Document.read?) :
    Outcome :=
  match request with
  | .version => .succeeded files [versionLine]
  | .help none => .succeeded files CommandLine.help
  | .help (some command) => .succeeded files command.help
  | .generate input output overrides =>
    withInput files input (CommandLine.generate files input output overrides parse)
  | .check input => withInput files input (CommandLine.check files input)
  | .views input => withInput files input (CommandLine.views files input)

/-- Runs the program over a tree of files, with a parser of GraphQL documents. -/
def run (files : FileTree) (arguments : List String) (parse : Document.Parser := Document.read?) :
    Outcome :=
  match Request.ofArguments? arguments with
  | none => .misused files
  | some request => request.run files parse

end SchemaViews.CommandLine
