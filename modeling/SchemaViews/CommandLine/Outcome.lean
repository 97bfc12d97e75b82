import SchemaViews.FileTree.Basic
import SchemaViews.Text.Printable

/-!
# Outcomes

What a run of the program leaves behind: a status, lines of output, and the files.
-/

namespace SchemaViews.CommandLine

open SchemaViews.Text

/-- A failure for which the program has no message. -/
inductive Breakdown where
  | invalidSettings
  | toolsNotTable
  | notGraphQL
  | unwritable (fault : WriteFault)
  | unencodable
  deriving DecidableEq, Repr

def Breakdown.message : Breakdown → String
  | .invalidSettings => "The number of workers is at least one"
  | .toolsNotTable => "The tools of the project are not a table"
  | .notGraphQL => "Generated invalid GraphQL SDL"
  | .unwritable .folderIsFile => "The folder of the output is a file"
  | .unwritable .leadsThroughFile => "The path of the output leads through a file"
  | .unwritable .isFolder => "The output is a folder"
  | .unencodable => "A surrogate cannot be written"

/-- Why a command ends before its work is done: it reports lines, or it breaks down. -/
inductive Trouble where
  | reported (lines : List String)
  | breakdown (cause : Breakdown)
  deriving DecidableEq, Repr

/-- The status of a run, its lines of output and of errors, and the files after it. -/
structure Outcome where
  status : Nat
  output : List String
  errors : List String
  files : FileTree
  breakdown : Option Breakdown := none
  deriving DecidableEq, Repr

namespace Outcome

def succeeded (files : FileTree) (output : List String) : Outcome :=
  ⟨0, output, [], files, none⟩

/-- The arguments make no sense, or name a file that is not there. -/
def misused (files : FileTree) : Outcome :=
  ⟨2, [], ["Usage: main [OPTIONS] COMMAND [ARGS]..."], files, none⟩

/-- Writes lines out and ends with a status. A line with a surrogate cannot be
written, and breaks the run down. -/
def printing (files : FileTree) (status : Nat) (before lines : List String) : Outcome :=
  let isWritable := fun (line : String) => isEncodable line.toList
  if lines.all isWritable then ⟨status, before ++ lines, [], files, none⟩
  else ⟨1, before ++ lines.takeWhile isWritable, [], files, some .unencodable⟩

def ofTrouble (files : FileTree) (output : List String) : Trouble → Outcome
  | .reported lines => ⟨1, output, lines, files, none⟩
  | .breakdown cause => ⟨1, output, [], files, some cause⟩

end Outcome

/-- What follows a control sequence, if the text starts with one: an escape and a bracket,
parameters, intermediate characters, and a final one. -/
def afterControl? : List Char → Option (List Char)
  | escape :: '[' :: rest =>
    let isParameter := fun (c : Char) => '0' ≤ c && c ≤ '?'
    let isIntermediate := fun (c : Char) => ' ' ≤ c && c ≤ '/'
    match (rest.dropWhile isParameter).dropWhile isIntermediate with
    | last :: after => if escape.toNat = 27 && '@' ≤ last && last ≤ '~' then some after else none
    | [] => none
  | _ => none

def withoutControls : Nat → List Char → List Char
  | 0, text => text
  | _, [] => []
  | fuel + 1, c :: rest =>
    match afterControl? (c :: rest) with
    | some after => withoutControls fuel after
    | none => c :: withoutControls fuel rest

/-- Lines as they come out. Among the lines of errors a surrogate is shown by its code. -/
def shown (lines : List String) : String :=
  let text := (String.join (lines.map (· ++ "\n"))).toList
  String.ofList <| (withoutControls text.length text).flatMap fun c =>
    if isSurrogate c then surrogateEscape c else [c]

end SchemaViews.CommandLine
