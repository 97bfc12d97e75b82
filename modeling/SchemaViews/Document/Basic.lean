/-!
# GraphQL documents

The definitions of a GraphQL document: of the type system, and of operations and fragments.
-/

namespace SchemaViews.Document

inductive TypeRef where
  | named (name : String)
  | list (item : TypeRef)
  | nonNull (type : TypeRef)
  deriving DecidableEq, Repr

/-- A value as a document writes it; numbers keep their source. -/
inductive Value where
  | variable (name : String)
  | int (source : List Char)
  | float (source : List Char)
  | string (content : List Char)
  | bool (value : Bool)
  | null
  | enum (name : String)
  | list (items : List Value)
  | object (fields : List (String × Value))

structure Applied where
  name : String
  arguments : List (String × Value) := []

structure InputValue where
  description : Option (List Char) := none
  name : String
  type : TypeRef
  default? : Option Value := none
  directives : List Applied := []

structure FieldDefinition where
  description : Option (List Char) := none
  name : String
  arguments : List InputValue := []
  type : TypeRef
  directives : List Applied := []

structure EnumValueDefinition where
  description : Option (List Char) := none
  name : String
  directives : List Applied := []

inductive Selection where
  | field (label : Option String) (name : String) (arguments : List (String × Value))
      (directives : List Applied) (selections : List Selection)
  | spread (name : String) (directives : List Applied)
  | inline (type : Option String) (directives : List Applied) (selections : List Selection)

structure VariableDefinition where
  description : Option (List Char) := none
  name : String
  type : TypeRef
  default? : Option Value := none
  directives : List Applied := []

inductive TypeSystem where
  | schema (directives : List Applied) (roots : List (String × String))
  | scalar (name : String) (directives : List Applied)
  | object (name : String) (interfaces : List String) (directives : List Applied)
      (fields : List FieldDefinition)
  | interface (name : String) (interfaces : List String) (directives : List Applied)
      (fields : List FieldDefinition)
  | union (name : String) (directives : List Applied) (members : List String)
  | enum (name : String) (directives : List Applied) (values : List EnumValueDefinition)
  | input (name : String) (directives : List Applied) (fields : List InputValue)

inductive Definition where
  | typeSystem (description : Option (List Char)) (body : TypeSystem)
  | directive (description : Option (List Char)) (name : String) (arguments : List InputValue)
      (directives : List Applied) (repeatable : Bool) (locations : List String)
  | extension (body : TypeSystem)
  | directiveExtension (name : String) (directives : List Applied)
  | operation (description : Option (List Char)) (kind : String) (name : Option String)
      (parameters : List VariableDefinition) (directives : List Applied)
      (selections : List Selection)
  | fragment (description : Option (List Char)) (name type : String) (directives : List Applied)
      (selections : List Selection)

end SchemaViews.Document
