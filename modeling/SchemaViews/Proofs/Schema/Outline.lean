import SchemaViews.Proofs.Related
import SchemaViews.Proofs.Schema.Addition
import SchemaViews.Schema.Issues

/-!
# Entities with other fields

The outline of an entity is all of it but its fields. Outlines alone decide which views there are,
in which order, and where types lead; fields decide what the views of their own entity show. So if
entities are replaced by others of the same outlines, every view has its counterpart, and only the
fields of the replaced entities have to be looked at.
-/

namespace SchemaViews

def Entity.withFields (entity : Entity) (fields : List Field) : Entity :=
  { entity with fields := fields }

def Entity.outline (entity : Entity) : Entity :=
  entity.withFields []

theorem Entity.value_eq_of_outline {α : Type} {entity other : Entity}
    (h : entity.outline = other.outline) (value : Entity → α)
    (hvalue : ∀ entity : Entity, value entity.outline = value entity) :
    value entity = value other := by
  rw [← hvalue, h, hvalue]

theorem Entity.eq_of_outline {entity other : Entity} (h : entity.outline = other.outline) :
    other = entity.withFields other.fields :=
  congrArg (fun bare => bare.withFields other.fields) h.symm

theorem Schema.viewField?_withFields (entities : List Entity) (owner : Nat) (entity : Entity)
    (fields : List Field)
    (binding : Binding) : Schema.viewField? entities ⟨owner, entity.withFields fields, binding⟩ =
      Schema.viewField? entities ⟨owner, entity, binding⟩ := rfl

theorem Schema.valueIssues_outline (entity : Entity) (earlier values : List EnumValue) :
    Schema.valueIssues entity.outline earlier values =
      Schema.valueIssues entity earlier values := by
  induction values generalizing earlier with
  | nil => rfl
  | cons value rest ih =>
      unfold Schema.valueIssues
      simp only [ih]
      rfl

/-- A placement, and one at the same place whose entity is related to its own. -/
structure Placement.Replaced (related : Entity → Entity → Prop) (placement other : Placement) :
    Prop where
  owner : other.owner = placement.owner
  binding : other.binding = placement.binding
  entity : related placement.entity other.entity

namespace Schema

section Orders

variable {related : Entity → Entity → Prop} {entities others : List Entity}

theorem forall₂_orderedInsert {first other : Entity}
    (horder : ∀ entity other, related entity other → entity.order = other.order)
    (h : List.Forall₂ related entities others) (hfirst : related first other) :
    List.Forall₂ related (entities.orderedInsert Precedes first)
      (others.orderedInsert Precedes other) := by
  induction h with
  | nil => exact .cons hfirst .nil
  | @cons entity otherEntity entities others hentity hrest ih =>
      have hprecedes : Precedes first entity ↔ Precedes other otherEntity := by
        rw [Precedes, Precedes, horder _ _ hfirst, horder _ _ hentity]
      rw [List.orderedInsert_cons, List.orderedInsert_cons]
      by_cases hle : Precedes first entity
      · rw [if_pos hle, if_pos (hprecedes.1 hle)]
        exact .cons hfirst (.cons hentity hrest)
      · rw [if_neg hle, if_neg (mt hprecedes.2 hle)]
        exact .cons hentity ih

theorem forall₂_byOrder (horder : ∀ entity other, related entity other → entity.order = other.order)
    (h : List.Forall₂ related entities others) :
    List.Forall₂ related (byOrder entities) (byOrder others) := by
  induction h with
  | nil => simp only [byOrder, List.mergeSort_nil, List.forall₂_nil_left_iff]
  | cons hfirst _ ih =>
      rw [byOrder_cons_eq, byOrder_cons_eq]
      exact forall₂_orderedInsert horder ih hfirst

end Orders

section Outlines

variable {related : Entity → Entity → Prop} {entities others : List Entity}
  (houtline : ∀ entity other, related entity other → entity.outline = other.outline)
  (h : List.Forall₂ related entities others)
include houtline h

theorem rewriteType_eq_of_outlines : rewriteType entities = rewriteType others := by
  have htarget (name : List Char) :
      Option.Rel related (target? entities name) (target? others name) :=
    rel_find? h fun entity other hentity => Entity.value_eq_of_outline (houtline _ _ hentity)
      (fun entity => entity.isBound && entity.declaredName.toList == name) fun _ => rfl
  have hbinding (name : List Char) (kind : ViewKind) :
      ((target? entities name).bind fun entity => entity.referenceBinding? kind) =
        (target? others name).bind fun entity => entity.referenceBinding? kind := by
    have hrel := htarget name
    generalize target? entities name = found, target? others name = foundOther at hrel
    cases hrel with
    | none => rfl
    | some hentity =>
        exact Entity.value_eq_of_outline (houtline _ _ hentity)
          (fun entity => entity.referenceBinding? kind) fun _ => rfl
  funext kind type
  unfold rewriteType
  simp only [hbinding]

theorem viewOf_eq_of_outlines : viewOf entities = viewOf others := by
  funext placement
  unfold viewOf viewField?
  rw [rewriteType_eq_of_outlines houtline h]

theorem forall₂_placements :
    List.Forall₂ (Placement.Replaced related) (placements entities) (placements others) := by
  refine List.rel_flatMap (forall₂_zipIdx h 0) ?_
  rintro ⟨entity, owner⟩ ⟨other, _⟩ ⟨hentity, rfl⟩
  have hignored : entity.ignoreAll = other.ignoreAll :=
    Entity.value_eq_of_outline (houtline _ _ hentity) Entity.ignoreAll fun _ => rfl
  have hbindings : entity.bindings = other.bindings :=
    Entity.value_eq_of_outline (houtline _ _ hentity) Entity.bindings fun _ => rfl
  simp only [Entity.placements, hignored, hbindings]
  split
  · exact .nil
  · rw [List.forall₂_map_left_iff, List.forall₂_map_right_iff, List.forall₂_same]
    intro binding _
    exact ⟨rfl, rfl, hentity⟩

end Outlines

section Resolved

variable {related : Entity → Entity → Prop} {entities others : List Entity}
  (houtline : ∀ entity other, related entity other → entity.outline = other.outline)
  (h : List.Forall₂ related entities others)
include houtline h

theorem forall₂_entities : List.Forall₂ related (byOrder entities) (byOrder others) :=
  forall₂_byOrder (fun _ _ hentity => Entity.value_eq_of_outline (houtline _ _ hentity) Entity.order
    fun _ => rfl) h

/-- Views correspond to each other one by one. It is enough to compare those of one placement. -/
theorem forall₂_views (mapping : TypeMapping) {shown : View → View → Prop}
    (hview : ∀ placement other, placement.Replaced related other →
      shown (viewOf (byOrder entities) placement) (viewOf (byOrder entities) other)) :
    List.Forall₂ shown (resolve mapping entities).views (resolve mapping others).views := by
  have hordered := forall₂_entities houtline h
  have hplacements :
      List.Forall₂ (Placement.Replaced related) (firstPlacements [] (placements (byOrder entities)))
      (firstPlacements [] (placements (byOrder others))) :=
    (forall₂_parts (fun _ _ hplacement => congrArg Binding.name hplacement.binding.symm)
      (forall₂_placements houtline hordered)).1
  rw [resolve, resolve, ← viewOf_eq_of_outlines houtline hordered]
  simp only [List.forall₂_map_left_iff, List.forall₂_map_right_iff]
  exact hplacements.imp hview

theorem forall₂_collisions (mapping : TypeMapping) :
    List.Forall₂ (Placement.Replaced related) (resolve mapping entities).collisions
      (resolve mapping others).collisions :=
  (forall₂_parts (fun _ _ hplacement => congrArg Binding.name hplacement.binding.symm)
    (forall₂_placements houtline (forall₂_entities houtline h))).2

end Resolved

end Schema

end SchemaViews
