import SchemaViews.Text.Split

/-!
# Types

The GraphQL types of declared types. A type expression is taken apart
until a registered part is found.
-/

namespace SchemaViews

open SchemaViews.Text

/-- The GraphQL types of declared types, in the order in which they were registered. -/
structure TypeMapping where
  entries : List (String × String)
  deriving DecidableEq, Repr

namespace TypeMapping

def builtinScalars : List String :=
  ["String", "Int", "Float", "Boolean", "ID"]

def defaults : List (String × String) :=
  [("string", "String"), ("bool", "Boolean"), ("int", "Int"), ("int8", "Int"), ("int16", "Int"),
    ("int32", "Int"), ("int64", "Int"), ("uint", "Int"), ("uint8", "Int"), ("uint16", "Int"),
    ("uint32", "Int"), ("uint64", "Int"), ("byte", "Int"), ("rune", "Int"), ("float32", "Float"),
    ("float64", "Float"), ("[]byte", "String"), ("time.Time", "Time"), ("time.Duration", "Int"),
    ("uuid.UUID", "UUID"), ("any", "Map"), ("interface\x7b\x7d", "Map"),
    ("json.RawMessage", "Map")]

/-- Replaces the entry of a declared type, or adds one at the end. -/
def register (mapping : TypeMapping) (declared target : String) : TypeMapping :=
  let rec put : List (String × String) → List (String × String)
    | [] => [(declared, target)]
    | entry :: rest => if entry.1 == declared then (declared, target) :: rest else entry :: put rest
  ⟨put mapping.entries⟩

def withOverrides (overrides : List (String × String)) : TypeMapping :=
  overrides.foldl (fun mapping entry => mapping.register entry.1 entry.2) ⟨defaults⟩

def get? (mapping : TypeMapping) (declared : String) : Option String :=
  (mapping.entries.find? (·.1 == declared)).map (·.2)

def has (mapping : TypeMapping) (declared : String) : Bool :=
  (mapping.get? declared).isSome

/-- A map type: the word and a bracket that is closed. -/
def isMap (declared : List Char) : Bool :=
  match dropStart? ['m', 'a', 'p', '['] declared with
  | some rest => rest.contains ']'
  | none => false

def afterBracket (text : List Char) : List Char :=
  (text.dropWhile (· != ']')).tail

theorem length_afterBracket_le (text : List Char) : (afterBracket text).length ≤ text.length := by
  have := length_dropWhile_le (· != ']') text
  simp only [afterBracket, List.length_tail]
  omega

theorem length_lt_of_strip_eq_cons {text rest : List Char} {c : Char} (h : strip text = c :: rest) :
    rest.length < text.length := by
  have hstrip := length_strip_le text
  rw [h, List.length_cons] at hstrip
  exact hstrip

/-- The GraphQL type of a type expression. Registered expressions come first at every level;
pointers are dropped, slices and arrays become lists, maps take the type of `any`, and another
name loses its qualifier. -/
def mapChars (mapping : TypeMapping) (declared : List Char) : List Char :=
  match mapping.get? (String.ofList (strip declared)) with
  | some target => target.toList
  | none =>
    match h : strip declared with
    | '*' :: rest =>
      have : rest.length < declared.length := length_lt_of_strip_eq_cons h
      mapChars mapping rest
    | '[' :: rest =>
      have : (afterBracket rest).length < declared.length :=
        Nat.lt_of_le_of_lt (length_afterBracket_le rest) (length_lt_of_strip_eq_cons h)
      if rest.contains ']' then '[' :: mapChars mapping (afterBracket rest) ++ [']']
      else afterLast '.' ('[' :: rest)
    | name => if isMap name then ((mapping.get? "any").getD "Map").toList else afterLast '.' name
  termination_by declared.length

def mapType (mapping : TypeMapping) (declared : String) : String :=
  String.ofList (mapping.mapChars declared.toList)

def nilable : List String :=
  ["any", "interface\x7b\x7d", "error", "json.RawMessage"]

/-- Whether a declared type can hold nil. -/
def isNullable (declared : String) : Bool :=
  let name := stripped declared
  startsWith name "*" || startsWith name "[]" || startsWith name "map[" || nilable.contains name

def isWrapper (c : Char) : Bool :=
  c == '[' || c == ']' || c == '!'

/-- The name inside the list and non-null markers of a type. -/
def baseName (type : String) : String :=
  String.ofList (trimChars isWrapper type.toList)

/-- The registered GraphQL types that are no built-in scalars. -/
def customScalars (mapping : TypeMapping) : List String :=
  ((mapping.entries.map fun entry => baseName entry.2).filter
    fun name => !builtinScalars.contains name).eraseDups

end TypeMapping

end SchemaViews
