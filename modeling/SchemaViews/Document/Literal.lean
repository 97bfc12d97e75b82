import SchemaViews.Text.Printable
import SchemaViews.Text.Split

/-!
# Literals and comments of GraphQL

Texts as quoted strings and block strings, the description and deprecation that are made of them,
and headers: comments in front of a document, which add nothing that a reader of it would see.
-/

namespace SchemaViews.Document

open SchemaViews.Text

/-- One character inside a quoted string: quotes, backslashes and the controls
below the space are escaped. -/
def escapeChar (c : Char) : List Char :=
  if c == '"' then ['\\', '"']
  else if c == '\\' then ['\\', '\\']
  else if c == '\n' then ['\\', 'n']
  else if c == '\r' then ['\\', 'r']
  else if c == '\t' then ['\\', 't']
  else if c.toNat == 8 then ['\\', 'b']
  else if c.toNat == 12 then ['\\', 'f']
  else if c.toNat < 32 then unitEscape c.toNat
  else [c]

def stringLiteral (text : List Char) : List Char :=
  '"' :: text.flatMap escapeChar ++ ['"']

/-- Puts a backslash before three quotes in a row. -/
def escapeTripleQuotes : List Char → List Char
  | '"' :: '"' :: '"' :: rest => '\\' :: '"' :: '"' :: '"' :: escapeTripleQuotes rest
  | c :: rest => c :: escapeTripleQuotes rest
  | [] => []

def tripleQuote : List Char :=
  ['"', '"', '"']

def blockLiteral (text : List Char) : List Char :=
  tripleQuote ++ escapeTripleQuotes text ++ tripleQuote

/-- A description as a block string, or as a quoted string when it has several lines or ends in a
quote. The empty description is written as nothing. -/
def description (text : String) : String :=
  let chars := text.toList
  String.ofList <|
    if chars.isEmpty then []
    else if chars.contains '\n' || chars.getLast? == some '"' then stringLiteral chars
    else blockLiteral chars

/-- The directive that marks a deprecation, without a reason if that is empty. -/
def deprecation : Option String → String
  | none => ""
  | some reason =>
    if reason.isEmpty then " @deprecated"
    else " @deprecated(reason: " ++ String.ofList (stringLiteral reason.toList) ++ ")"

/-! ### Headers -/

def dropTrailingNewlines (text : List Char) : List Char :=
  (text.reverse.dropWhile (· == '\n')).reverse

/-- A line as a comment; a line that is one already is kept. -/
def commentLine (line : List Char) : List Char :=
  if line.head? == some '#' then line else stripEnd ('#' :: ' ' :: line)

/-- Puts a header in front of a text, each of its lines as a comment, and a
blank line between the two. -/
def addHeader (header text : String) : String :=
  let lines := (splitLines (dropTrailingNewlines header.toList)).map fun line =>
    String.ofList (commentLine line)
  joinLines lines ++ "\n\n" ++ text

/-- Adds the headers one after the other, so that the last one comes first. -/
def addHeaders (headers : List String) (text : String) : String :=
  headers.foldl (fun content header => addHeader header content) text

end SchemaViews.Document
