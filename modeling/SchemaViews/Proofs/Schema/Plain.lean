import SchemaViews.Proofs.Schema.ReadBack

/-!
# Schemas of plain views

An object or input view is plain if all that it writes is of the simplest form: its names are names,
and its types are names inside lists. A schema of plain views can always be emitted.
-/

namespace SchemaViews

open SchemaViews.Document

namespace Document.TypeRef

def inLists (name : String) : Nat → TypeRef
  | 0 => .named name
  | depth + 1 => .list (inLists name depth)

variable {name : String}

theorem written_inLists (h : Naming.isName name.toList = true) (depth : Nat) :
    (inLists name depth).Written (List.replicate depth '[' ++ name.toList ++
      List.replicate depth ']') := by
  induction depth with
  | zero =>
      have hnamed := Written.named h
      rw [String.ofList_toList] at hnamed
      rwa [inLists, List.replicate_zero, List.replicate_zero, List.append_nil, List.nil_append]
  | succ depth ih =>
      have hlist := Written.list ih IsGap.nil IsGap.nil
      rw [List.replicate_succ, List.replicate_succ', inLists]
      simpa only [List.append_nil, List.append_assoc, List.cons_append, List.nil_append] using hlist

end Document.TypeRef

def bracketDepth (type : String) : Nat :=
  (type.toList.takeWhile (· == '[')).length

def listType (type : String) : TypeRef :=
  .inLists (TypeMapping.baseName type) (bracketDepth type)

/-- A field with a name and a type that are names, the type inside any number of lists. -/
structure ViewField.IsPlain (field : ViewField) : Prop where
  name : Naming.isName field.name.toList = true
  base : Naming.isName (TypeMapping.baseName field.typeName).toList = true
  type : field.typeName.toList = List.replicate (bracketDepth field.typeName) '[' ++
    (TypeMapping.baseName field.typeName).toList ++ List.replicate (bracketDepth field.typeName) ']'
  description : IsDescription field.description

structure View.IsPlain (view : View) : Prop where
  kind : view.kind ≠ .enum
  name : Naming.isName view.name.toList = true
  description : IsDescription view.description
  fields : ∀ field ∈ view.fields, field.IsPlain
  values : view.values = []

instance (field : ViewField) : Decidable field.IsPlain :=
  decidable_of_iff
    (Naming.isName field.name.toList = true ∧
      Naming.isName (TypeMapping.baseName field.typeName).toList = true ∧
      field.typeName.toList = List.replicate (bracketDepth field.typeName) '[' ++
        (TypeMapping.baseName field.typeName).toList ++
        List.replicate (bracketDepth field.typeName) ']' ∧
      IsDescription field.description)
    ⟨fun h => ⟨h.1, h.2.1, h.2.2.1, h.2.2.2⟩, fun h => ⟨h.name, h.base, h.type, h.description⟩⟩

instance (view : View) : Decidable view.IsPlain :=
  decidable_of_iff
    (view.kind ≠ .enum ∧ Naming.isName view.name.toList = true ∧ IsDescription view.description ∧
      (∀ field ∈ view.fields, field.IsPlain) ∧ view.values = [])
    ⟨fun h => ⟨h.1, h.2.1, h.2.2.1, h.2.2.2.1, h.2.2.2.2⟩,
      fun h => ⟨h.kind, h.name, h.description, h.fields, h.values⟩⟩

theorem ViewField.IsPlain.isWritable {field : ViewField} (h : field.IsPlain) :
    field.IsWritable listType where
  name := h.name
  type := by
    rw [h.type]
    exact TypeRef.written_inLists h.base _
  description := h.description

theorem View.IsPlain.isWritable {view : View} (h : view.IsPlain) : view.IsWritable listType where
  name := h.name
  description := h.description
  fields field hfield := (h.fields field hfield).isWritable
  values value hvalue := by
    rw [h.values] at hvalue
    cases hvalue

theorem View.IsPlain.hasOwnMembers {view : View} (h : view.IsPlain) : view.HasOwnMembers := by
  rw [HasOwnMembers, if_neg h.kind]
  exact h.values

namespace Schema

variable {schema : Schema}

theorem read?_of_isPlain (hne : schema.views ≠ []) (hplain : ∀ view ∈ schema.views, view.IsPlain)
    (hscalars : ∀ name ∈ schema.scalars, Naming.isName name.toList = true) (emitScalars : Bool) :
    read? (schema.text emitScalars).toList = some (schema.definitions listType emitScalars) :=
  read?_text hne (fun view hview => (hplain view hview).isWritable)
    (fun view hview => (hplain view hview).hasOwnMembers) hscalars emitScalars

theorem isEmittable_of_isPlain (hne : schema.views ≠ [])
    (hplain : ∀ view ∈ schema.views, view.IsPlain)
    (hscalars : ∀ name ∈ schema.scalars, Naming.isName name.toList = true) (emitScalars : Bool) :
    isEmittable (schema.text emitScalars) = true := by
  rw [isEmittable, read?_of_isPlain hne hplain hscalars emitScalars, Option.isSome_some,
    Bool.or_true]

end Schema

end SchemaViews
