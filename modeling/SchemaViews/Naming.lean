import SchemaViews.Text.LetterCase
import SchemaViews.Text.Split

/-!
# Names

Names in camel case and snake case, and the names that GraphQL lets through.
-/

namespace SchemaViews.Naming

open SchemaViews.Text

def isNameStart (c : Char) : Bool :=
  c.isAlpha || c == '_'

def isNameChar (c : Char) : Bool :=
  c.isAlphanum || c == '_'

/-- A GraphQL name: a letter or underscore, then letters, digits and underscores. -/
def isName : List Char → Bool
  | [] => false
  | c :: rest => isNameStart c && rest.all isNameChar

def dropNewline (text : List Char) : List Char :=
  if text.getLast? == some '\n' then text.dropLast else text

/-- The names that are let through: those of GraphQL, and those with one newline after them. -/
def admits (name : String) : Bool :=
  isName name.toList || isName (dropNewline name.toList)

/-- Puts an underscore before each capital that starts a capitalized word and follows another
character. A word that has been split off is copied to the end of its small letters (`inWord`). -/
def splitWords (inWord : Bool) : List Char → List Char
  | c :: capital :: small :: rest =>
    if inWord && c.isLower then c :: splitWords true (capital :: small :: rest)
    else if c != '\n' && capital.isUpper && small.isLower then
      c :: '_' :: capital :: splitWords true (small :: rest)
    else c :: splitWords false (capital :: small :: rest)
  | text => text

/-- Puts an underscore between a small letter or a digit and the capital after it. -/
def splitCapitals : List Char → List Char
  | c :: next :: rest =>
    if (c.isLower || c.isDigit) && next.isUpper then c :: '_' :: splitCapitals (next :: rest)
    else c :: splitCapitals (next :: rest)
  | text => text

def snakeCase (name : String) : String :=
  String.ofList (lower (splitCapitals (splitWords false name.toList)))

def upperSnakeCase (name : String) : String :=
  uppered (snakeCase name)

/-- Lowers the capitals that a name without underscores begins with; the last of several belongs to
the word after them when that goes on with a small letter. -/
def camelWord (name : List Char) : List Char :=
  let capitals := name.takeWhile Char.isUpper
  match name.drop capitals.length with
  | [] => capitals.map Char.toLower
  | next :: rest =>
    let run := if 1 < capitals.length && isLowercase next then capitals.dropLast else capitals
    run.map Char.toLower ++ capitals.drop run.length ++ next :: rest

def capitalize : List Char → List Char
  | [] => []
  | c :: rest => upperChar c ++ rest

/-- The parts between underscores joined in camel case; a name of underscores alone is kept. -/
def camelCase (name : String) : String :=
  match (splitOn '_' name.toList).filter fun part => !part.isEmpty with
  | [] => name
  | first :: rest => String.ofList (camelWord first ++ (rest.map capitalize).flatten)

end SchemaViews.Naming
