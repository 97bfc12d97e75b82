import SchemaViews.Text.Numeral

/-!
# Strings and keys of TOML

What separates the parts of a document, its strings in all four notations, and its keys.
-/

namespace SchemaViews.Toml

open SchemaViews.Text

abbrev Path : Type :=
  List String

def isSpace (c : Char) : Bool :=
  c == ' ' || c == '\t'

def isSpaceOrNewline (c : Char) : Bool :=
  isSpace c || c == '\n'

def skipSpace (text : List Char) : List Char :=
  text.dropWhile isSpace

/-- The control characters, of which only the tab may stand in a document outside line ends. -/
def isControl (c : Char) : Bool :=
  (c.toNat < 32 && c != '\t') || c.toNat == 127

def isKeyChar (c : Char) : Bool :=
  c.isAlphanum || c == '-' || c == '_'

def joinLineEnds : List Char → List Char
  | '\r' :: '\n' :: rest => '\n' :: joinLineEnds rest
  | c :: rest => c :: joinLineEnds rest
  | [] => []

def skipComment? (text : List Char) : Option (List Char) :=
  match text with
  | '#' :: rest =>
    if (rest.takeWhile (· != '\n')).any isControl then none else some (rest.dropWhile (· != '\n'))
  | _ => some text

def skipFiller? : Nat → List Char → Option (List Char)
  | 0, text => some text
  | fuel + 1, text =>
    match text.dropWhile isSpaceOrNewline with
    | '#' :: rest => (skipComment? ('#' :: rest)).bind (skipFiller? fuel)
    | after => some after

def escapeTable : List (Char × Char) :=
  [('b', Char.ofNat 8), ('t', '\t'), ('n', '\n'), ('f', Char.ofNat 12), ('r', '\r'), ('"', '"'),
    ('\\', '\\')]

def hexChar? (width : Nat) (text : List Char) : Option (List Char × List Char) :=
  if text.length < width then none
  else
    match hexNumber? (text.take width) with
    | some code => if isScalarValue code then some ([Char.ofNat code], text.drop width) else none
    | none => none

/-- What an escape stands for, and the text after it; the backslash has been read. In a text of
several lines a backslash at the end of a line swallows the blanks and newlines after it. -/
def escape? (multiline : Bool) : List Char → Option (List Char × List Char)
  | [] => none
  | c :: rest =>
    if multiline && isSpaceOrNewline c then
      match skipSpace (c :: rest) with
      | '\n' :: after => some ([], after.dropWhile isSpaceOrNewline)
      | [] => some ([], [])
      | _ => none
    else if c == 'u' then hexChar? 4 rest
    else if c == 'U' then hexChar? 8 rest
    else (escapeTable.find? (·.1 == c)).map fun entry => ([entry.2], rest)

def basic? (multiline : Bool) : Nat → List Char → Option (List Char × List Char)
  | 0, _ => none
  | _, [] => none
  | fuel + 1, c :: rest =>
    if c == '"' then
      if !multiline then some ([], rest)
      else
        match rest with
        | '"' :: '"' :: after => some ([], after)
        | _ => (basic? multiline fuel rest).map fun (content, after) => ('"' :: content, after)
    else if c == '\\' then do
      let (meant, afterEscape) ← escape? multiline rest
      let (content, after) ← basic? multiline fuel afterEscape
      some (meant ++ content, after)
    else if isControl c && !(multiline && c == '\n') then none
    else (basic? multiline fuel rest).map fun (content, after) => (c :: content, after)

def literal? (text : List Char) : Option (List Char × List Char) :=
  let content := text.takeWhile (· != '\'')
  match text.dropWhile (· != '\'') with
  | _ :: after => if content.any isControl then none else some (content, after)
  | [] => none

def longLiteral? : List Char → Option (List Char × List Char)
  | [] => none
  | '\'' :: '\'' :: '\'' :: after => some ([], after)
  | c :: rest =>
    if isControl c && c != '\n' then none
    else (longLiteral? rest).map fun (content, after) => (c :: content, after)

/-- Takes up to two more quotes after the closing quotes into the content. -/
def extraQuotes (quote : Char) (read : List Char × List Char) : List Char × List Char :=
  let extra := (read.2.take 2).takeWhile (· == quote)
  (read.1 ++ extra, read.2.drop extra.length)

def dropNewline : List Char → List Char
  | '\n' :: rest => rest
  | text => text

def string? (text : List Char) : Option (List Char × List Char) :=
  match text with
  | '"' :: '"' :: '"' :: rest =>
      (basic? true (rest.length + 1) (dropNewline rest)).map (extraQuotes '"')
  | '"' :: rest => basic? false (rest.length + 1) rest
  | '\'' :: '\'' :: '\'' :: rest => (longLiteral? (dropNewline rest)).map (extraQuotes '\'')
  | '\'' :: rest => literal? rest
  | _ => none

/-- One part of a key. A quoted part takes a single line. -/
def keyPart? (text : List Char) : Option (String × List Char) :=
  match text with
  | '"' :: rest =>
      (basic? false (rest.length + 1) rest).map fun (content, after) =>
        (String.ofList content, after)
  | '\'' :: rest => (literal? rest).map fun (content, after) => (String.ofList content, after)
  | _ =>
    let bare := text.takeWhile isKeyChar
    if bare.isEmpty then none else some (String.ofList bare, text.dropWhile isKeyChar)

def key? : Nat → List Char → Option (Path × List Char)
  | 0, _ => none
  | fuel + 1, text => do
    let (part, afterPart) ← keyPart? text
    match skipSpace afterPart with
    | '.' :: rest =>
      let (parts, after) ← key? fuel (skipSpace rest)
      some (part :: parts, after)
    | after => some ([part], after)

end SchemaViews.Toml
