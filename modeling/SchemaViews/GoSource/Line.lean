import SchemaViews.Text.Split
import SchemaViews.Text.Word

/-!
# Lines of Go source

The lines that matter in Go source: headers of structs and named types, fields, and constants.
-/

namespace SchemaViews.GoSource

open SchemaViews.Text

def identifier? (text : List Char) : Option (List Char × List Char) :=
  match text with
  | c :: _ =>
    if isIdentifierStart c then some (text.takeWhile isWordChar, text.dropWhile isWordChar)
    else none
  | [] => none

def blanks? (text : List Char) : Option (List Char) :=
  match text with
  | c :: _ => if isBlank c then some (stripStart text) else none
  | [] => none

def isTypeNameChar (c : Char) : Bool :=
  isWordChar c || c == '.'

/-- Whether a text is empty or a line comment. -/
def isTail (text : List Char) : Bool :=
  text.isEmpty || ['/', '/'].isPrefixOf text

def comment? (tail : List Char) : Option (List Char) :=
  if tail.isEmpty then none else some tail

/-- The name after the keyword of a type declaration, and the text after the name and
the blanks that follow it. -/
def typeHeader? (line : List Char) : Option (List Char × List Char) := do
  let afterKeyword ← dropStart? "type".toList line
  let (name, afterName) ← identifier? (← blanks? afterKeyword)
  some (name, ← blanks? afterName)

/-- The header of a struct: its name, and the text after the opening brace. -/
def structHeader? (line : List Char) : Option (List Char × List Char) := do
  let (name, rest) ← typeHeader? line
  let afterWord ← dropStart? "struct".toList rest
  some (name, ← dropStart? ['\x7b'] (stripStart afterWord))

def namedType? (line : List Char) : Option (List Char × List Char) := do
  let (name, rest) ← typeHeader? line
  let base := rest.takeWhile isTypeNameChar
  if base.isEmpty || !isTail (stripStart (rest.dropWhile isTypeNameChar)) then none
  else some (name, base)

/-- A field line: its names, its type, its tag with the backquotes, and its trailing comment. -/
structure FieldLine where
  names : List (List Char)
  type : List Char
  tag : Option (List Char)
  comment : Option (List Char)

def backquote : Char :=
  Char.ofNat 96

/-- What may follow the type of a field: a tag, a comment, both or nothing. -/
def fieldTail? (text : List Char) : Option (Option (List Char) × Option (List Char)) :=
  match stripStart text with
  | c :: rest =>
    if c == backquote then
      match rest.dropWhile (· != backquote) with
      | _ :: after =>
        let tail := stripStart after
        if isTail tail then some (some (c :: rest.takeWhile (· != backquote) ++ [backquote]),
          comment? tail) else none
      | [] => none
    else if isTail (c :: rest) then some (none, some (c :: rest))
    else none
  | [] => some (none, none)

def isTypeChar (c : Char) : Bool :=
  c != backquote && c != '/'

/-- The type and tail of a field, given the text after its names. The type is all that comes before
a tag or a comment, without its blanks; it may be empty only if at least two blanks stand in its
place. -/
def fieldType? (text : List Char) :
    Option (List Char × Option (List Char) × Option (List Char)) := do
  let body ← blanks? text
  let type := body.takeWhile isTypeChar
  let (tag, comment) ← fieldTail? (body.dropWhile isTypeChar)
  if type.isEmpty && text.length < body.length + 2 then none else some (strip type, tag, comment)

def nextName? (text : List Char) : Option (List Char × List Char) := do
  let afterComma ← dropStart? [','] (stripStart text)
  identifier? (stripStart afterComma)

/-- The ways to begin a text with names between commas, the longest first,
each with the text after it. -/
def nameLists : Nat → List Char → List (List (List Char) × List Char)
  | 0, text => [([], text)]
  | fuel + 1, text =>
    match nextName? text with
    | none => [([], text)]
    | some (name, after) =>
      (nameLists fuel after).map (fun (names, rest) => (name :: names, rest)) ++ [([], text)]

def fieldLine? (line : List Char) : Option FieldLine := do
  let (first, rest) ← identifier? line
  (nameLists rest.length rest).findSome? fun (names, after) =>
    (fieldType? after).map fun (type, tag, comment) => ⟨first :: names, type, tag, comment⟩

/-- A constant line: its name, the type it names, the literal of a text constant,
and its trailing comment. -/
structure ConstantLine where
  name : List Char
  type : Option (List Char)
  literal : Option (List Char)
  comment : Option (List Char)

def quotedContent? : List Char → Option (List Char × List Char)
  | [] => none
  | '"' :: rest => some ([], rest)
  | '\\' :: [] => none
  | '\\' :: c :: rest =>
    if c == '\n' then none else (quotedContent? rest).map fun (content, after) =>
      ('\\' :: c :: content, after)
  | c :: rest => (quotedContent? rest).map fun (content, after) => (c :: content, after)

def rawContent? (text : List Char) : Option (List Char × List Char) :=
  match text.dropWhile (· != backquote) with
  | _ :: after => some (text.takeWhile (· != backquote), after)
  | [] => none

/-- The literal of a value, if it is a string, and the comment after the value. A value that is no
string holds neither quotes nor a slash, and at least one character, which may be a blank. -/
def constantValue? (text : List Char) : Option (Option (List Char) × Option (List Char)) :=
  let closed (found : Option (List Char × List Char)) :
      Option (Option (List Char) × Option (List Char)) := do
    let (content, after) ← found
    let tail := stripStart after
    if isTail tail then some (some content, comment? tail) else none
  match stripStart text with
  | '"' :: rest => closed (quotedContent? rest)
  | c :: rest =>
    if c == backquote then closed (rawContent? rest)
    else
      let isPlain := fun c => isTypeChar c && c != '"'
      let tail := text.dropWhile isPlain
      if (text.takeWhile isPlain).isEmpty || !isTail tail then none else some (none, comment? tail)
  | [] => if text.isEmpty then none else some (none, none)

def constantType (text : List Char) : Option (List Char) × List Char :=
  match blanks? text with
  | some rest =>
    let type := rest.takeWhile isTypeNameChar
    if type.isEmpty then (none, text) else (some type, rest.dropWhile isTypeNameChar)
  | none => (none, text)

def constantLine? (line : List Char) : Option ConstantLine := do
  let (name, afterName) ← identifier? line
  let (type, afterType) := constantType afterName
  match stripStart afterType with
  | '=' :: rest =>
    let (literal, comment) ← constantValue? rest
    some ⟨name, type, literal, comment⟩
  | tail => if isTail tail then some ⟨name, type, none, comment? tail⟩ else none

def singleConstant? (line : List Char) : Option ConstantLine := do
  let afterKeyword ← dropStart? "const".toList line
  constantLine? (← blanks? afterKeyword)

end SchemaViews.GoSource
