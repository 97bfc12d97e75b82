/-!
# Declarations

Declared types with their members and the annotations on both, before any annotation is read.
-/

namespace SchemaViews

/-- A field of a declared type, or a constant of an enumeration with its literal. -/
structure Member where
  declaredName : String
  declaredType : String := ""
  rawAnnotation : String := ""
  value : Option String := none
  deriving DecidableEq, Repr

inductive DeclarationKind where
  | object
  | enum
  deriving DecidableEq, Repr

def DeclarationKind.word : DeclarationKind → String
  | .object => "object"
  | .enum => "enum"

/-- A declared type with its members in order. -/
structure Declaration where
  kind : DeclarationKind
  declaredName : String
  rawAnnotation : String := ""
  members : List Member := []
  source : Option String := none
  deriving DecidableEq, Repr

/-- The name of a declaration in messages: its source, unless that is
empty, and its declared name. -/
def Declaration.unitName (declaration : Declaration) : String :=
  match declaration.source with
  | some source =>
      if source.isEmpty then declaration.declaredName else source ++ ":" ++ declaration.declaredName
  | none => declaration.declaredName

def Declaration.memberUnit (declaration : Declaration) (member : Member) : String :=
  declaration.unitName ++ "." ++ member.declaredName

end SchemaViews
