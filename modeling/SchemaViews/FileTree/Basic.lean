import SchemaViews.FileTree.Path

/-!
# File trees

The files and folders that a run of the program can see, and what a path leads to among them.
-/

namespace SchemaViews

/-- The names from a root down to a file or folder; the first of them names the root. -/
abbrev Location : Type :=
  List String

namespace Location

/-- The folder that holds a file or folder; a root holds itself. -/
def parent (location : Location) : Location :=
  if location.length ≤ 1 then location else location.dropLast

/-- Goes one segment of a path on, whatever may be there. -/
def move (location : Location) (segment : String) : Location :=
  if segment == "" || segment == "." then location
  else if segment == ".." then location.parent
  else location ++ [segment]

def text (location : Location) : String :=
  if location == [""] then "/" else "/".intercalate location

end Location

/-- Files with their contents, the folder in which paths start, and folders that are
there even without a file. -/
structure FileTree where
  current : Location
  files : List (Location × String)
  folders : List Location := []
  deriving DecidableEq, Repr

inductive WriteFault where
  | folderIsFile
  | leadsThroughFile
  | isFolder
  deriving DecidableEq, Repr

namespace FileTree

def content? (tree : FileTree) (location : Location) : Option String :=
  (tree.files.find? (·.1 == location)).map (·.2)

def isFile (tree : FileTree) (location : Location) : Bool :=
  (tree.content? location).isSome

def isFolder (tree : FileTree) (location : Location) : Bool :=
  location.isPrefixOf tree.current || tree.folders.any location.isPrefixOf ||
    tree.files.any fun file => location.isPrefixOf file.1 && location != file.1

def origin (tree : FileTree) (path : String) : Location :=
  if Path.isAbsolute path then [""] else tree.current

/-- Goes one segment of a path on if that leads from a folder to something that is there. -/
def move? (tree : FileTree) (location : Location) (segment : String) : Option Location :=
  let next := location.move segment
  if tree.isFolder location && (tree.isFile next || tree.isFolder next) then some next else none

/-- The file or folder that a path leads to; the empty path leads nowhere. -/
def locate? (tree : FileTree) (path : String) : Option Location :=
  if path.isEmpty then none else (Path.segments path).foldlM tree.move? (tree.origin path)

def has (tree : FileTree) (path : String) : Bool :=
  (tree.locate? path).isSome

def read? (tree : FileTree) (path : String) : Option String :=
  (tree.locate? path).bind tree.content?

/-- The place that a path means, whether or not anything is there. -/
def target (tree : FileTree) (path : String) : Location :=
  (Path.segments path).foldl Location.move (tree.origin path)

def filesBelow (tree : FileTree) (folder : Location) : List (List String × String) :=
  tree.files.filterMap fun (location, content) =>
    if folder.isPrefixOf location && location != folder then
      some (location.drop folder.length, content) else none

def folderFault? (tree : FileTree) (folder : Location) : Option WriteFault :=
  if tree.isFile folder then some .folderIsFile
  else if tree.files.any (fun file => file.1.isPrefixOf folder) then some .leadsThroughFile
  else none

def write (tree : FileTree) (location : Location) (content : String) : FileTree :=
  { tree with files := tree.files.filter (·.1 != location) ++ [(location, content)] }

end FileTree

end SchemaViews
