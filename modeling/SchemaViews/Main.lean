import SchemaViews.CommandLine.Run

/-!
# The program

Reads the files that the arguments name, runs the command over them, and
writes what it leaves behind.
-/

namespace SchemaViews

open SchemaViews.CommandLine

partial def readPath (path : String) (location : Location) (tree : FileTree) : IO FileTree := do
  let place := (← IO.currentDir) / path
  if ← place.isDir then
    let mut read := { tree with folders := tree.folders ++ [location] }
    for entry in ← place.readDir do
      if (← entry.path.isDir) || SourceFile.isSourceName entry.fileName then
        read ← readPath (Path.join path entry.fileName) (location ++ [entry.fileName]) read
    return read
  else if ← place.pathExists then return tree.write location (← IO.FS.readFile path)
  else return tree

def readWay (location : Location) (tree : FileTree) : IO FileTree := do
  let mut read := tree
  for count in List.range location.length do
    let step : Location := location.take (count + 1)
    let place := (← IO.currentDir) / step.text
    if ← place.isDir then read := { read with folders := read.folders ++ [step] }
    else if ← place.pathExists then read := read.write step ""
  return read

def readFor (request : Request) (tree : FileTree) : IO FileTree := do
  let input? := match request with
    | .generate input _ _ | .check input | .views input => some input
    | .version | .help _ => none
  let onWay ← match request with
    | .generate _ output _ => readWay (tree.target output) tree
    | _ => pure tree
  match input? with
  | none => return onWay
  | some input =>
    let mut read := onWay
    for path in input.source :: input.config.toList do
      read ← readPath path (tree.target path) read
    return read

def save (files : FileTree) (location : Location) : IO Unit := do
  match files.content? location with
  | some content =>
    IO.FS.createDirAll location.parent.text
    IO.FS.writeFile location.text content
  | none => return

/-- Runs the program in the current folder; the result is its status. -/
def runProgram (arguments : List String) : IO UInt32 := do
  let empty : FileTree := ⟨Path.segments (← IO.currentDir).toString, [], []⟩
  let request? := Request.ofArguments? arguments
  let files ← match request? with
    | some request => readFor request empty
    | none => pure empty
  let outcome := run files arguments Document.readInstalled?
  match request? with
  | some (.generate _ output _) =>
      if outcome.files != files then save outcome.files (files.target output)
  | _ => pure ()
  (← IO.getStdout).putStr (shown outcome.output)
  (← IO.getStderr).putStr
    (shown (outcome.errors ++ (outcome.breakdown.map Breakdown.message).toList))
  return UInt32.ofNat outcome.status

end SchemaViews

def main (arguments : List String) : IO UInt32 :=
  SchemaViews.runProgram arguments
