import SchemaViews.Text.Split

/-!
# Paths

Texts that name files, with slashes between their segments.
-/

namespace SchemaViews.Path

open SchemaViews.Text

def segments (path : String) : List String :=
  (splitOn '/' path.toList).map String.ofList

/-- The segments that lead somewhere: not the empty ones, and not the points
that stay where they are. -/
def steps (path : String) : List String :=
  (segments path).filter fun segment => segment != "" && segment != "."

def isAbsolute (path : String) : Bool :=
  startsWith path "/"

/-- Exactly two slashes at the start are kept; any other number of them is one. -/
def root (path : String) : String :=
  if startsWith path "//" && !startsWith path "///" then "//"
  else if isAbsolute path then "/"
  else ""

def normalized (path : String) : String :=
  let whole := root path ++ "/".intercalate (steps path)
  if whole.isEmpty then "." else whole

def name (path : String) : String :=
  (steps path).getLastD ""

/-- The part of the name from its last point on, unless that point is its
first or its last character. -/
def ending (path : String) : String :=
  let letters := (name path).toList
  let tail := afterLast '.' letters
  if !tail.isEmpty && tail.length + 1 < letters.length then "." ++ String.ofList tail else ""

def join (folder path : String) : String :=
  if folder.isEmpty || endsWith folder "/" then folder ++ path else folder ++ "/" ++ path

end SchemaViews.Path
