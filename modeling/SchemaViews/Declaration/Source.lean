import SchemaViews.Data.Json
import SchemaViews.Declaration.Reader
import SchemaViews.FileTree.Basic
import SchemaViews.GoSource.Extraction
import SchemaViews.Text.Split

/-!
# Sources

The files that declarations are read from: Go texts, and JSON files that list declarations. The
declarations of all JSON files come before those of the Go texts, which are read together.
-/

namespace SchemaViews

open SchemaViews.Text

/-- A text with the path that it was found under. -/
structure SourceFile where
  path : String
  text : String
  deriving DecidableEq, Repr

namespace SourceFile

def isData (file : SourceFile) : Bool :=
  endsWith file.path ".json"

def isSourceName (name : String) : Bool :=
  endsWith name ".go" || endsWith name ".json"

/-- A source found below a folder; files of tests are left out. -/
def below? (folder : String) (names : List String) (content : String) : Option SourceFile :=
  let name := names.getLastD ""
  if isSourceName name && !endsWith name "_test.go" then
    some ⟨Path.join folder ("/".intercalate names), content⟩
  else none

/-- A file as it is read: with line feeds for line endings of every kind. -/
def withLineFeeds (file : SourceFile) : SourceFile :=
  { file with text := String.ofList (normalizeNewlines file.text.toList) }

end SourceFile

/-- The sources that a path leads to, in the order of their paths: the file
itself, or those below a folder. -/
def FileTree.sources (tree : FileTree) (path : String) : List SourceFile :=
  let found : List SourceFile := match tree.locate? path with
    | none => []
    | some location =>
      match tree.content? location with
      | some content => if SourceFile.isSourceName path then [⟨path, content⟩] else []
      | none =>
          (tree.filesBelow location).filterMap fun (names, content) =>
            SourceFile.below? path names content
  (found.mergeSort fun first second => decide (first.path ≤ second.path)).map
    SourceFile.withLineFeeds

inductive SourceFault where
  | unreadable (path : String)
  | declarations (fault : DeclarationFault)
  deriving DecidableEq, Repr

def SourceFault.message : SourceFault → String
  | .unreadable path => "Cannot read declarations from " ++ path
  | .declarations fault => fault.message

namespace Declaration

/-- Gives a declaration that names no source the source it was read from. -/
def withSource (source : String) (declaration : Declaration) : Declaration :=
  match declaration.source with
  | some named => if named.isEmpty then { declaration with source := some source } else declaration
  | none => { declaration with source := some source }

def ofDataFile (file : SourceFile) : Except SourceFault (List Declaration) :=
  let path := Path.normalized file.path
  match Json.read? file.text.toList with
  | none => .error (.unreadable path)
  | some data =>
      ((listOfData data).mapError .declarations).map fun declarations =>
        declarations.map (withSource path)

/-- The declarations of JSON files in order, or what is wrong with the first file that has none. -/
def ofDataFiles : List SourceFile → Except SourceFault (List Declaration)
  | [] => .ok []
  | file :: files =>
    match ofDataFile file with
    | .error fault => .error fault
    | .ok declarations => (ofDataFiles files).map (declarations ++ ·)

def ofGoFiles (files : List SourceFile) : List Declaration :=
  (files.foldl (fun extraction file => extraction.feed file.text.toList (some file.path))
    ({} : GoSource.Extraction)).declarations

def ofSources (files : List SourceFile) : Except SourceFault (List Declaration) :=
  (ofDataFiles (files.filter SourceFile.isData)).map fun declarations =>
    declarations ++ ofGoFiles (files.filter fun file => !file.isData)

end Declaration

end SchemaViews
