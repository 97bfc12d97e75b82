import SchemaViews.Document.Basic
import SchemaViews.Document.Lexeme
import SchemaViews.Text.CodePoint

/-!
# Reading GraphQL documents

A reader for the grammar of GraphQL documents, both of the type system and of executable
definitions. It recurses on how many lists, objects and selections may still be opened inside each
other, which are its `levels`.
-/

namespace SchemaViews.Document

/-- Reads a part of a document from the tokens that are left. -/
abbrev Reader (α : Type) : Type :=
  StateT (List Lexeme) Option α

namespace Reader

def next : Reader Lexeme := fun lexemes =>
  match lexemes with
  | [] => none
  | lexeme :: rest => some (lexeme, rest)

def sees (lexeme : Lexeme) : Reader Bool := fun lexemes =>
  some (lexemes.head? = some lexeme, lexemes)

def accept (lexeme : Lexeme) : Reader Bool := fun lexemes =>
  match lexemes with
  | first :: rest => if first = lexeme then some (true, rest) else some (false, lexemes)
  | [] => some (false, [])

def expect (lexeme : Lexeme) : Reader Unit := fun lexemes =>
  match lexemes with
  | first :: rest => if first = lexeme then some ((), rest) else none
  | [] => none

def mark (c : Char) : Lexeme :=
  .punctuator c

def name : Reader String := do
  match ← next with
  | .name text => return text
  | _ => failure

def name? : Reader (Option String) := fun lexemes =>
  match lexemes with
  | .name text :: rest => some (some text, rest)
  | _ => some (none, lexemes)

def untilClose {α : Type} (close : Lexeme) (item : Reader α) : Nat → Reader (List α)
  | 0 => failure
  | fuel + 1 => do
    if ← accept close then return []
    let first ← item
    let rest ← untilClose close item fuel
    return first :: rest

def manyUntil {α : Type} (close : Lexeme) (item : Reader α) (fuel : Nat) : Reader (List α) := do
  let first ← item
  let rest ← untilClose close item fuel
  return first :: rest

/-- At least one item between two tokens, or nothing if the first one does not stand next. -/
def optionalMany {α : Type} (opening close : Lexeme) (item : Reader α) (fuel : Nat) :
    Reader (List α) := do if ← accept opening then manyUntil close item fuel else return []

def separated {α : Type} (separator : Lexeme) (item : Reader α) : Nat → Reader (List α)
  | 0 => failure
  | fuel + 1 => do
    let first ← item
    if ← accept separator then
      let rest ← separated separator item fuel
      return first :: rest
    else return [first]

/-- Items with a separator between them, which may also stand before the first one. -/
def delimited {α : Type} (separator : Lexeme) (item : Reader α) (fuel : Nat) : Reader (List α) := do
  let _ ← accept separator
  separated separator item fuel

/-- A variable after its dollar sign is none where a constant is needed. -/
def variableName (constant : Bool) : Reader Value := do
  if constant then failure else return .variable (← name)

def nameValue (text : String) : Value :=
  if text == "true" then .bool true
  else if text == "false" then .bool false
  else if text == "null" then .null
  else .enum text

/-- A value that opens neither a list nor an object. -/
def leafOf (constant : Bool) : Lexeme → Reader Value
  | .int source => return .int source
  | .float source => return .float source
  | .string content => return .string content
  | .blockString content => return .string content
  | .name text => return nameValue text
  | .punctuator '$' => variableName constant
  | _ => failure

def labelled {α : Type} (item : Reader α) : Reader (String × α) := do
  let key ← name
  expect (mark ':')
  return (key, ← item)

def value (constant : Bool) (fuel : Nat) : Nat → Reader Value
  | 0 => do leafOf constant (← next)
  | levels + 1 => do
    match ← next with
    | .punctuator '[' => return .list (← untilClose (mark ']') (value constant fuel levels) fuel)
    | .punctuator '\x7b' =>
      return .object (← untilClose (mark '\x7d') (labelled (value constant fuel levels)) fuel)
    | lexeme => leafOf constant lexeme

def arguments (constant : Bool) (fuel levels : Nat) : Reader (List (String × Value)) :=
  optionalMany (mark '(') (mark ')') (labelled (value constant fuel levels)) fuel

def directivesOf (given : Reader (List (String × Value))) : Nat → Reader (List Applied)
  | 0 => failure
  | fuel + 1 => do
    if ← accept (mark '@') then
      let first : Applied := ⟨← name, ← given⟩
      let rest ← directivesOf given fuel
      return first :: rest
    else return []

def directives (constant : Bool) (fuel levels : Nat) : Reader (List Applied) :=
  directivesOf (arguments constant fuel levels) fuel

def constantDirectives (fuel levels : Nat) : Reader (List Applied) :=
  directives true fuel levels

def withNonNull (type : TypeRef) : Reader TypeRef := do
  if ← accept (mark '!') then return .nonNull type else return type

def typeRef : Nat → Reader TypeRef
  | 0 => do withNonNull (.named (← name))
  | levels + 1 => do
    if ← accept (mark '[') then
      let item ← typeRef levels
      expect (mark ']')
      withNonNull (.list item)
    else withNonNull (.named (← name))

def description : Reader (Option (List Char)) := fun lexemes =>
  match lexemes with
  | .string content :: rest => some (some content, rest)
  | .blockString content :: rest => some (some content, rest)
  | _ => some (none, lexemes)

def default? (fuel levels : Nat) : Reader (Option Value) := do
  if ← accept (mark '=') then return some (← value true fuel levels) else return none

def inputValue (fuel levels : Nat) : Reader InputValue := do
  let text ← description
  let label ← name
  expect (mark ':')
  return ⟨text, label, ← typeRef levels, ← default? fuel levels, ← constantDirectives fuel levels⟩

def inputValues (opening close : Char) (fuel levels : Nat) : Reader (List InputValue) :=
  optionalMany (mark opening) (mark close) (inputValue fuel levels) fuel

def fieldDefinition (fuel levels : Nat) : Reader FieldDefinition := do
  let text ← description
  let label ← name
  let parameters ← inputValues '(' ')' fuel levels
  expect (mark ':')
  return ⟨text, label, parameters, ← typeRef levels, ← constantDirectives fuel levels⟩

def fieldDefinitions (fuel levels : Nat) : Reader (List FieldDefinition) :=
  optionalMany (mark '\x7b') (mark '\x7d') (fieldDefinition fuel levels) fuel

/-- The names that are values of their own and so name no enum value. -/
def reservedNames : List String :=
  ["true", "false", "null"]

def enumValue (fuel levels : Nat) : Reader EnumValueDefinition := do
  let text ← description
  let label ← name
  if reservedNames.contains label then failure
  return ⟨text, label, ← constantDirectives fuel levels⟩

def keyword (word : String) : Reader Bool :=
  accept (.name word)

def interfaces (fuel : Nat) : Reader (List String) := do
  if ← keyword "implements" then delimited (mark '&') name fuel else return []

def operationKinds : List String :=
  ["query", "mutation", "subscription"]

def operationKind : Reader String := do
  let kind ← name
  if operationKinds.contains kind then return kind else failure

def root : Reader (String × String) := do
  let kind ← operationKind
  expect (mark ':')
  return (kind, ← name)

def unionMembers (fuel : Nat) : Reader (List String) := do
  if ← accept (mark '=') then delimited (mark '|') name fuel else return []

/-- The body of a definition after its keyword. A schema has to name roots unless it is extended. -/
def typeSystem (extended : Bool) (word : String) (fuel levels : Nat) : Reader TypeSystem := do
  match word with
  | "schema" =>
    let applied ← constantDirectives fuel levels
    if extended then return .schema applied (← optionalMany (mark '\x7b') (mark '\x7d') root fuel)
    else
      expect (mark '\x7b')
      return .schema applied (← manyUntil (mark '\x7d') root fuel)
  | "scalar" => return .scalar (← name) (← constantDirectives fuel levels)
  | "type" =>
    return .object (← name) (← interfaces fuel) (← constantDirectives fuel levels)
      (← fieldDefinitions fuel levels)
  | "interface" =>
    return .interface (← name) (← interfaces fuel) (← constantDirectives fuel levels)
      (← fieldDefinitions fuel levels)
  | "union" => return .union (← name) (← constantDirectives fuel levels) (← unionMembers fuel)
  | "enum" =>
    return .enum (← name) (← constantDirectives fuel levels)
      (← optionalMany (mark '\x7b') (mark '\x7d') (enumValue fuel levels) fuel)
  | "input" =>
      return .input (← name) (← constantDirectives fuel levels)
        (← inputValues '\x7b' '\x7d' fuel levels)
  | _ => failure

def extends? : TypeSystem → Bool
  | .schema applied roots => !applied.isEmpty || !roots.isEmpty
  | .scalar _ applied => !applied.isEmpty
  | .object _ interfaces applied fields =>
    !interfaces.isEmpty || !applied.isEmpty || !fields.isEmpty
  | .interface _ interfaces applied fields =>
    !interfaces.isEmpty || !applied.isEmpty || !fields.isEmpty
  | .union _ applied members => !applied.isEmpty || !members.isEmpty
  | .enum _ applied values => !applied.isEmpty || !values.isEmpty
  | .input _ applied fields => !applied.isEmpty || !fields.isEmpty

def locationNames : List String :=
  ["QUERY", "MUTATION", "SUBSCRIPTION", "FIELD", "FRAGMENT_DEFINITION", "FRAGMENT_SPREAD",
    "INLINE_FRAGMENT",
    "VARIABLE_DEFINITION", "FRAGMENT_VARIABLE_DEFINITION", "SCHEMA", "SCALAR", "OBJECT",
    "FIELD_DEFINITION",
    "ARGUMENT_DEFINITION", "INTERFACE", "UNION", "ENUM", "ENUM_VALUE", "INPUT_OBJECT",
    "INPUT_FIELD_DEFINITION", "DIRECTIVE_DEFINITION"]

def location : Reader String := do
  let label ← name
  if locationNames.contains label then return label else failure

def directiveDefinition (text : Option (List Char)) (fuel levels : Nat) : Reader Definition := do
  expect (mark '@')
  let label ← name
  let parameters ← inputValues '(' ')' fuel levels
  let applied ← constantDirectives fuel levels
  let repeatable ← keyword "repeatable"
  expect (.name "on")
  return .directive text label parameters applied repeatable (← delimited (mark '|') location fuel)

/-- The name of a fragment, which is not the word that introduces a type condition. -/
def fragmentName : Reader String := do
  let label ← name
  if label == "on" then failure else return label

/-- One item of a selection, where `levels` and `inner` are for what is inside it. -/
def selection (fuel levels : Nat) (inner : Reader (List Selection)) : Reader Selection := do
  if ← accept .spread then
    if ← keyword "on" then
      let type ← name
      return .inline (some type) (← directives false fuel levels) (← inner)
    else
      match ← name? with
      | some label => return .spread label (← directives false fuel levels)
      | none => return .inline none (← directives false fuel levels) (← inner)
  else
    let first ← name
    let second ← do if ← accept (mark ':') then pure (some (← name)) else pure none
    let given ← arguments false fuel levels
    let applied ← directives false fuel levels
    let selected ← do if ← sees (mark '\x7b') then inner else pure []
    match second with
    | some label => return .field (some first) label given applied selected
    | none => return .field none first given applied selected

/-- A selection. A `lax` reader lets it be empty. -/
def selectionSet (lax : Bool) (fuel : Nat) : Nat → Reader (List Selection)
  | 0 => failure
  | levels + 1 => do
    expect (mark '\x7b')
    let item := selection fuel levels (selectionSet lax fuel levels)
    if lax then untilClose (mark '\x7d') item fuel else manyUntil (mark '\x7d') item fuel

def body (lax : Bool) (fuel levels : Nat) : Reader (List Applied × List Selection) := do
  return (← directives false fuel levels, ← selectionSet lax fuel levels)

def variableDefinition (fuel levels : Nat) : Reader VariableDefinition := do
  let text ← description
  expect (mark '$')
  let label ← name
  expect (mark ':')
  return ⟨text, label, ← typeRef levels, ← default? fuel levels, ← constantDirectives fuel levels⟩

def operation (lax : Bool) (text : Option (List Char)) (kind : String)
    (fuel levels : Nat) : Reader Definition := do
  let label ← name?
  let parameters ← optionalMany (mark '(') (mark ')') (variableDefinition fuel levels) fuel
  let (applied, selected) ← body lax fuel levels
  return .operation text kind label parameters applied selected

def fragment (lax : Bool) (text : Option (List Char)) (fuel levels : Nat) : Reader Definition := do
  let label ← fragmentName
  expect (.name "on")
  let type ← name
  let (applied, selected) ← body lax fuel levels
  return .fragment text label type applied selected

def extension (fuel levels : Nat) : Reader Definition := do
  let word ← name
  if word == "directive" then
    expect (mark '@')
    let label ← name
    let applied ← constantDirectives fuel levels
    if applied.isEmpty then failure else return .directiveExtension label applied
  else
    let body ← typeSystem true word fuel levels
    if extends? body then return .extension body else failure

/-- One definition. Only an operation without a keyword and an extension take no description. -/
def definition (lax : Bool) (fuel levels : Nat) : Reader Definition := do
  let text ← description
  if ← sees (mark '\x7b') then
    if text.isSome then failure
    return .operation none "query" none [] [] (← selectionSet lax fuel levels)
  else
    let word ← name
    if word == "directive" then directiveDefinition text fuel levels
    else if operationKinds.contains word then operation lax text word fuel levels
    else if word == "fragment" then fragment lax text fuel levels
    else if word == "extend" then
      if text.isSome then failure
      extension fuel levels
    else return .typeSystem text (← typeSystem false word fuel levels)

def definitions (lax : Bool) (fuel levels : Nat) : Nat → Reader (List Definition)
  | 0 => failure
  | count + 1 => do
    let first ← definition lax fuel levels
    if (← get).isEmpty then return [first]
    let rest ← definitions lax fuel levels count
    return first :: rest

end Reader

/-- The definitions that tokens make, of which there is at least one. -/
def readTokens? (lax : Bool) (levels : Nat) (tokens : List Lexeme) : Option (List Definition) :=
  (Reader.definitions lax (tokens.length + 1) levels (tokens.length + 1) tokens).map Prod.fst

/-- A parser of GraphQL documents: the definitions of a text that is one. -/
abbrev Parser : Type :=
  List Char → Option (List Definition)

/-- The grammar. It bounds no nesting, and nothing nests more deeply than there are tokens. -/
def read? : Parser := fun text =>
  (lexemes text).bind fun tokens => readTokens? false tokens.length tokens

/-- What the program runs with: this parser gives up below two hundred levels, and it
lets a selection be empty. -/
def readInstalled? : Parser := fun text =>
  (lexemes text).bind (readTokens? true 200)

/-- A parser of texts in which surrogates can stand. Only a pair of them is a character to it, and
one alone is an error wherever it stands. -/
def Parser.ofCodePoints (parse : Parser) : Parser := fun text =>
  if Text.hasOnlyPairs text then parse text else none

end SchemaViews.Document
