import Mathlib.Data.List.Sort
import SchemaViews.Proofs.Schema.Occurrences
import SchemaViews.Proofs.Schema.References

/-!
# One more entity

An entity is added to others, anywhere in the list and at any place of the order, and binds none of
their names. The views of the others stay what they are: which ones there are and in which order,
and what each of them shows. Only a type that refers to the new entity leads to a view of it then.
-/

namespace SchemaViews.Schema

section Order

variable {front back : List Entity} {added : Entity}

/-- Whether one entity may stand in front of another one. -/
def Precedes (first second : Entity) : Prop :=
  first.order ≤ second.order

instance : DecidableRel Precedes :=
  fun first second => inferInstanceAs (Decidable (first.order ≤ second.order))

theorem byOrder_cons_eq (first : Entity) (rest : List Entity) :
    byOrder (first :: rest) = (byOrder rest).orderedInsert Precedes first := by
  obtain ⟨lower, others, hsorted, hrest, hlower, hothers⟩ := byOrder_cons first rest
  rw [hsorted, hrest]
  clear hsorted hrest
  induction lower with
  | nil =>
      cases others with
      | nil => rfl
      | cons other others =>
          have hle : Precedes first other := hothers other List.mem_cons_self
          rw [List.nil_append, List.nil_append, List.orderedInsert_cons_of_le Precedes others hle]
  | cons entity lower ih =>
      have hlt : ¬Precedes first entity := by
        have hbelow := hlower entity List.mem_cons_self
        rw [Precedes]
        omega
      rw [List.cons_append, List.cons_append, List.orderedInsert_of_not_le Precedes _ hlt,
        ih fun other hother => hlower other (List.mem_cons_of_mem _ hother)]

/-- Inserting an entity into a sorted list does not depend on another one that stands there, apart
from where they stand to each other. -/
theorem orderedInsert_insert {lower others : List Entity} (first : Entity)
    (hadded : ∀ other ∈ others, Precedes added other) :
    ∃ lower' others', (lower ++ added :: others).orderedInsert Precedes first =
      lower' ++ added :: others' ∧
      (lower ++ others).orderedInsert Precedes first = lower' ++ others' := by
  induction lower with
  | nil =>
      by_cases hle : Precedes first added
      · refine ⟨[first], others, List.orderedInsert_cons_of_le Precedes others hle, ?_⟩
        cases others with
        | nil => rfl
        | cons other others =>
            have hnext : Precedes first other := le_trans hle (hadded other List.mem_cons_self)
            exact List.orderedInsert_cons_of_le Precedes others hnext
      · exact ⟨[], others.orderedInsert Precedes first,
          List.orderedInsert_of_not_le Precedes others hle, rfl⟩
  | cons entity lower ih =>
      by_cases hle : Precedes first entity
      · exact ⟨first :: entity :: lower, others, List.orderedInsert_cons_of_le Precedes _ hle,
          List.orderedInsert_cons_of_le Precedes _ hle⟩
      · obtain ⟨lower', others', hwith, hwithout⟩ := ih
        refine ⟨entity :: lower', others', ?_, ?_⟩
        · rw [List.cons_append, List.orderedInsert_of_not_le Precedes _ hle, hwith,
            List.cons_append]
        · rw [List.cons_append, List.orderedInsert_of_not_le Precedes _ hle, hwithout,
            List.cons_append]

/-- In the order of the schema too, the list with one more entity is the list without it
and that entity somewhere. -/
theorem byOrder_insert (front back : List Entity) (added : Entity) :
    ∃ lower others, byOrder (front ++ added :: back) = lower ++ added :: others ∧
      byOrder (front ++ back) = lower ++ others := by
  induction front with
  | nil =>
      obtain ⟨lower, others, hwith, hwithout, -⟩ := byOrder_cons added back
      exact ⟨lower, others, hwith, hwithout⟩
  | cons first front ih =>
      obtain ⟨lower, others, hwith, hwithout⟩ := ih
      have hsorted := (@isOrdering_byOrder (front ++ added :: back)).sorted
      rw [hwith, List.pairwise_append, List.pairwise_cons] at hsorted
      rw [List.cons_append, List.cons_append, byOrder_cons_eq, byOrder_cons_eq, hwith, hwithout]
      exact orderedInsert_insert first hsorted.2.1.1

end Order

section Names

variable {placements others : List Placement} {taken names : List String}

/-- Lists of placements with the same names fall into the same first and later ones,
whatever else is related. -/
theorem forall₂_parts {related : Placement → Placement → Prop}
    (hname : ∀ placement other, related placement other →
      placement.binding.name = other.binding.name) (h : List.Forall₂ related placements others) :
    List.Forall₂ related (firstPlacements taken placements) (firstPlacements taken others) ∧
      List.Forall₂ related (laterPlacements taken placements) (laterPlacements taken others) := by
  induction h generalizing taken with
  | nil => exact ⟨.nil, .nil⟩
  | @cons placement other _ _ hpair _ ih =>
      rw [firstPlacements, firstPlacements, laterPlacements, laterPlacements, hname _ _ hpair]
      by_cases htaken : taken.contains other.binding.name = true
      · obtain ⟨hfirst, hlater⟩ := @ih taken
        simp only [if_pos htaken]
        exact ⟨hfirst, .cons hpair hlater⟩
      · obtain ⟨hfirst, hlater⟩ := @ih (other.binding.name :: taken)
        simp only [if_neg htaken]
        exact ⟨.cons hpair hfirst, hlater⟩

theorem firstPlacements_congr
    (h : ∀ placement ∈ placements,
      taken.contains placement.binding.name = names.contains placement.binding.name) :
    firstPlacements taken placements = firstPlacements names placements := by
  induction placements generalizing taken names with
  | nil => rfl
  | cons placement rest ih =>
      obtain ⟨hplacement, hrest⟩ := List.forall_mem_cons.1 h
      have hcons : firstPlacements (placement.binding.name :: taken) rest =
          firstPlacements (placement.binding.name :: names) rest :=
        ih fun other hother => by rw [List.contains_cons, List.contains_cons, hrest other hother]
      rw [firstPlacements, firstPlacements, hplacement, ih hrest, hcons]

/-- Placements that share no name with the others can be left out before or after
first occurrences are taken. -/
theorem filter_firstPlacements {kept : Placement → Bool}
    (h : ∀ placement ∈ placements, ∀ other ∈ placements, kept placement = true →
      kept other = false → placement.binding.name ≠ other.binding.name) :
    (firstPlacements taken placements).filter kept =
      firstPlacements taken (placements.filter kept) := by
  induction placements generalizing taken with
  | nil => rfl
  | cons placement rest ih =>
      have hrest : ∀ first ∈ rest, ∀ other ∈ rest, kept first = true → kept other = false →
          first.binding.name ≠ other.binding.name := fun first hfirst other hother =>
        h first (List.mem_cons_of_mem _ hfirst) other (List.mem_cons_of_mem _ hother)
      rw [firstPlacements]
      cases hkept : kept placement with
      | true =>
          rw [List.filter_cons_of_pos hkept, firstPlacements]
          split
          · exact ih hrest
          · rw [List.filter_cons_of_pos hkept, ih hrest]
      | false =>
          have hdropped : ¬kept placement = true := Bool.eq_false_iff.1 hkept
          rw [List.filter_cons_of_neg hdropped]
          split
          · exact ih hrest
          · -- the name that is taken now is none of the names that are kept
            rw [List.filter_cons_of_neg hdropped, ih hrest]
            refine firstPlacements_congr fun other hother => ?_
            obtain ⟨hother, hkeptOther⟩ := List.mem_filter.1 hother
            have hne :=
              h other (List.mem_cons_of_mem _ hother) placement List.mem_cons_self hkeptOther hkept
            rw [List.contains_cons, beq_false_of_ne hne, Bool.false_or]

end Names

section References

variable {lower others : List Entity} {added : Entity} {name : List Char} {kind : ViewKind}
    {type : String}

theorem target?_insert (lower others : List Entity) (added : Entity) (name : List Char) :
    target? (lower ++ added :: others) name = target? (lower ++ others) name ∨
      target? (lower ++ added :: others) name = some added := by
  rw [target?_append, target?_append]
  cases target? lower name with
  | some entity => exact Or.inl rfl
  | none =>
      by_cases hnamed : added.IsNamed name
      · exact Or.inr (target?_cons_of_isNamed hnamed)
      · exact Or.inl (target?_cons_of_not_isNamed hnamed)

/-- One more entity changes only what becomes of types that refer to it. -/
theorem rewriteType_insert (front back : List Entity) (added : Entity) (kind : ViewKind)
    (type : String) :
    rewriteType (byOrder (front ++ added :: back)) kind type =
      rewriteType (byOrder (front ++ back)) kind type ∨
      ∃ parts, RefersTo (front ++ added :: back) type parts added := by
  cases hparts : TypeParts.of? type.toList with
  | none =>
      left
      simp only [rewriteType, hparts]
  | some parts =>
      obtain ⟨lower, others, hwith, hwithout⟩ := byOrder_insert front back added
      rcases target?_insert lower others added parts.name with hsame | hadded
      · left
        simp only [rewriteType, hparts, hwith, hwithout, hsame]
      · right
        exact ⟨parts, refersTo_iff.2 ⟨hparts, by rw [hwith, hadded]⟩⟩

end References

section Views

variable {mapping : TypeMapping} {front back : List Entity} {added : Entity}

/-- An entry of a view without and with one more entity. They differ in their types at most, and
only if the type of their field refers to that entity. -/
structure KeepsEntry (front back : List Entity) (added : Entity) (view : View) (field : Field)
    (entry other : ViewField) : Prop where
  entry_eq : entry = field.entryIn view.entity view.placement.binding (byOrder (front ++ back))
  other_eq :
    other = field.entryIn view.entity view.placement.binding (byOrder (front ++ added :: back))
  eq_up_to_type : other = { entry with typeName := other.typeName }
  typeName : other.typeName ≠ entry.typeName →
    ∃ parts, RefersTo (front ++ added :: back) (field.typeIn view.name) parts added

/-- A view without and with one more entity, up to the types that refer to that entity. -/
structure KeepsView (front back : List Entity) (added : Entity) (view other : View) : Prop where
  entity : other.entity = view.entity
  binding : other.placement.binding = view.placement.binding
  mode : other.mode = view.mode
  values : other.values = view.values
  fields : List.Forall₂ (fun entry otherEntry => ∃ field ∈ view.entity.fields,
    KeepsEntry front back added view field entry otherEntry) view.fields other.fields

theorem keepsEntry (view : View) (field : Field) : KeepsEntry front back added view field
    (field.entryIn view.entity view.placement.binding (byOrder (front ++ back)))
    (field.entryIn view.entity view.placement.binding (byOrder (front ++ added :: back))) where
  entry_eq := rfl
  other_eq := rfl
  eq_up_to_type := rfl
  typeName hne :=
    (rewriteType_insert front back added view.kind (field.typeIn view.name)).resolve_left hne

theorem keepsView_viewOf {entity : Entity} (hdefaults : entity.fieldDefaults.IsFieldDefault)
    (owner place : Nat) (binding : Binding) :
    KeepsView front back added (viewOf (byOrder (front ++ back)) ⟨owner, entity, binding⟩)
      (viewOf (byOrder (front ++ added :: back)) ⟨place, entity, binding⟩) := by
  by_cases henum : binding.kind = .enum
  · rw [viewOf, viewOf, if_pos henum, if_pos henum]
    exact ⟨rfl, rfl, rfl, rfl, .nil⟩
  · have hfields : List.Forall₂ (fun entry other => ∃ field ∈ entity.fields,
        KeepsEntry front back added (viewOf (byOrder (front ++ back)) ⟨owner, entity, binding⟩)
        field entry other)
        (viewOf (byOrder (front ++ back)) ⟨owner, entity, binding⟩).fields
        (viewOf (byOrder (front ++ added :: back)) ⟨place, entity, binding⟩).fields := by
      rw [fields_viewOf hdefaults henum, fields_viewOf hdefaults henum, List.forall₂_map_left_iff,
        List.forall₂_map_right_iff, List.forall₂_same]
      intro field hfield
      have hentry :
          KeepsEntry front back added (viewOf (byOrder (front ++ back)) ⟨owner, entity, binding⟩)
          field _ _ :=
        keepsEntry _ field
      rw [View.entity, placement_viewOf] at hentry
      exact ⟨field, List.mem_of_mem_filter hfield, hentry⟩
    rw [viewOf, viewOf, if_neg henum, if_neg henum] at hfields ⊢
    exact ⟨rfl, rfl, rfl, rfl, hfields⟩

theorem boundPairs_append (front back : List Entity) :
    boundPairs (front ++ back) = boundPairs front ++ boundPairs back := by
  rw [boundPairs, List.filter_append, List.flatMap_append]
  rfl

theorem mem_of_mem_boundPairs {entities : List Entity} {pair : Entity × Binding}
    (h : pair ∈ boundPairs entities) : pair.1 ∈ entities ∧ pair.2 ∈ pair.1.bindings := by
  obtain ⟨entity, hentity, hpair⟩ := List.mem_flatMap.1 h
  obtain ⟨binding, hbinding, rfl⟩ := List.mem_map.1 hpair
  exact ⟨List.mem_of_mem_filter hentity, hbinding⟩

theorem filter_boundPairs_insert {lower others : List Entity}
    (h : ∀ pair ∈ boundPairs (lower ++ others), pair.1 ≠ added) :
    (boundPairs (lower ++ added :: others)).filter (fun pair => pair.1 ≠ added) =
      boundPairs (lower ++ others) := by
  have hown : ∀ pair ∈ boundPairs [added], pair.1 = added := fun pair hpair =>
    List.mem_singleton.1 (mem_of_mem_boundPairs hpair).1
  rw [boundPairs_append, List.forall_mem_append] at h
  calc
    (boundPairs (lower ++ added :: others)).filter (fun pair => pair.1 ≠ added) =
        (boundPairs lower ++ (boundPairs [added] ++ boundPairs others)).filter
        (fun pair => pair.1 ≠ added) := by
      rw [List.append_cons, boundPairs_append, boundPairs_append, List.append_assoc]
    _ = boundPairs lower ++ boundPairs others := by
      rw [List.filter_append, List.filter_append,
        List.filter_eq_self.2 fun pair hpair => decide_eq_true (h.1 pair hpair),
        List.filter_eq_self.2 fun pair hpair => decide_eq_true (h.2 pair hpair),
        List.filter_eq_nil_iff.2 fun pair hpair => by simpa using hown pair hpair, List.nil_append]
    _ = boundPairs (lower ++ others) := (boundPairs_append lower others).symm

theorem forall₂_placements_insert (hdisjoint : ∀ entity ∈ front ++ back,
      ∀ binding ∈ entity.bindings, ∀ own ∈ added.bindings, binding.name ≠ own.name) :
    List.Forall₂ (fun placement other => placement.entity = other.entity ∧
      placement.binding = other.binding) (placements (byOrder (front ++ back)))
      ((placements (byOrder (front ++ added :: back))).filter
        fun placement => placement.entity ≠ added) := by
  obtain ⟨lower, others, hwith, hwithout⟩ := byOrder_insert front back added
  -- an entity that is the added one would share the names of its bindings with it
  have hother : ∀ pair ∈ boundPairs (lower ++ others), pair.1 ≠ added := by
    intro pair hpair heq
    obtain ⟨hentity, hbinding⟩ := mem_of_mem_boundPairs hpair
    rw [← hwithout, mem_byOrder] at hentity
    exact hdisjoint pair.1 hentity pair.2 hbinding pair.2 (heq ▸ hbinding) rfl
  have hpairs :
      (placements (byOrder (front ++ back))).map
          (fun placement => (placement.entity, placement.binding)) =
        ((placements (byOrder (front ++ added :: back))).filter
          fun placement => placement.entity ≠ added).map
          fun placement => (placement.entity, placement.binding) := by
    calc
      (placements (byOrder (front ++ back))).map
        (fun placement => (placement.entity, placement.binding)) =
          boundPairs (lower ++ others) := by rw [pairs_placements, hwithout]
      _ = (boundPairs (byOrder (front ++ added :: back))).filter (fun pair => pair.1 ≠ added) := by
        rw [← filter_boundPairs_insert hother, hwith]
      _ = ((placements (byOrder (front ++ added :: back))).filter
            fun placement => placement.entity ≠ added).map
              fun placement => (placement.entity, placement.binding) := by
        rw [← pairs_placements, List.filter_map]
        rfl
  rw [← List.forall₂_eq_eq_eq, List.forall₂_map_left_iff, List.forall₂_map_right_iff] at hpairs
  exact hpairs.imp fun _ _ h => Prod.mk.inj h

theorem filter_views_insert (hdisjoint : ∀ entity ∈ front ++ back, ∀ binding ∈ entity.bindings,
      ∀ own ∈ added.bindings, binding.name ≠ own.name) :
    (resolve mapping (front ++ added :: back)).views.filter (fun view => view.entity ≠ added) =
      (firstPlacements [] ((placements (byOrder (front ++ added :: back))).filter
        fun placement => placement.entity ≠ added)).map (viewOf
          (byOrder (front ++ added :: back))) := by
  have hplacement :
      (fun view : View => decide (view.entity ≠ added)) ∘ viewOf
      (byOrder (front ++ added :: back)) =
        fun placement => decide (placement.entity ≠ added) := by
    funext placement
    rw [Function.comp_apply, View.entity, placement_viewOf]
  rw [resolve, List.filter_map, hplacement, filter_firstPlacements]
  intro placement hplacement other hother hkept hdropped
  obtain ⟨hplace, -, hbinding⟩ := mem_placements.1 hplacement
  obtain ⟨-, -, hown⟩ := mem_placements.1 hother
  rw [decide_eq_true_eq] at hkept
  rw [decide_eq_false_iff_not, not_not] at hdropped
  have hmem := mem_byOrder.1 (List.mem_of_getElem? hplace)
  rw [List.mem_append, List.mem_cons] at hmem
  refine hdisjoint placement.entity ?_ placement.binding hbinding other.binding (hdropped ▸ hown)
  exact List.mem_append.2 (hmem.imp id fun h => h.resolve_left hkept)

/-- Adding an entity that binds names of its own is conservative. Apart from the views of that
entity there are the same views in the same order, of the same entities and bindings, with the same
modes, values and fields, and a field has another type only if its type refers to the new entity. -/
theorem addition_keeps_views (mapping : TypeMapping) {front back : List Entity} {added : Entity}
    (hbuilt : ∀ entity ∈ front ++ added :: back, entity.IsBuilt)
    (hdisjoint : ∀ entity ∈ front ++ back, ∀ binding ∈ entity.bindings,
      ∀ own ∈ added.bindings, binding.name ≠ own.name) :
    List.Forall₂ (KeepsView front back added) (resolve mapping (front ++ back)).views
      ((resolve mapping (front ++ added :: back)).views.filter
        fun view => view.entity ≠ added) := by
  have hdefaults : ∀ placement ∈ firstPlacements [] (placements (byOrder (front ++ back))),
      placement.entity.fieldDefaults.IsFieldDefault := by
    intro placement hmem
    have hplace := (mem_placements.1 ((sublist_placements _ _).1.subset hmem)).1
    have hentity := mem_byOrder.1 (List.mem_of_getElem? hplace)
    refine (hbuilt placement.entity ?_).isFieldDefault
    exact List.mem_append.2 ((List.mem_append.1 hentity).imp id (List.mem_cons_of_mem _))
  have hplacements := (List.forall₂_and_left _ _).2 ⟨hdefaults,
    (forall₂_parts (fun _ _ h => congrArg Binding.name h.2)
      (forall₂_placements_insert hdisjoint)).1⟩
  rw [filter_views_insert hdisjoint, resolve, List.forall₂_map_left_iff, List.forall₂_map_right_iff]
  refine hplacements.imp fun placement other h => ?_
  obtain ⟨owner, entity, binding⟩ := placement
  obtain ⟨place, _, _⟩ := other
  obtain ⟨hdefault, rfl, rfl⟩ := h
  exact keepsView_viewOf hdefault owner place binding

def leafDeclaration : Declaration where
  kind := .object
  declaredName := "Node"
  rawAnnotation := "@GqlType(name:Leaf)"
  members := [{ declaredName := "Made", declaredType := "time.Time" }]

def leaf : Entity where
  kind := .object
  declaredName := "Node"
  bindings := [⟨"Leaf", .object, none, 0⟩]
  fields :=
    [{ declaredName := "Made", declaredType := "time.Time", outputName := "made",
       scalarType := "Time" }]
  order := -1

theorem byOrder_leaf : byOrder [leaf, node] = [leaf, node] :=
  List.mergeSort_of_pairwise (by decide)

theorem addition_keeps_views_leaf : (∀ entity ∈ [leaf, node], entity.IsBuilt) ∧
    (∀ entity ∈ [node], ∀ binding ∈ entity.bindings, ∀ own ∈ leaf.bindings,
      binding.name ≠ own.name) ∧
    List.Forall₂ (KeepsView [] [node] leaf) (resolve ⟨TypeMapping.defaults⟩ [node]).views
      ((resolve ⟨TypeMapping.defaults⟩ [leaf, node]).views.filter fun view => view.entity ≠ leaf) ∧
    (resolve ⟨TypeMapping.defaults⟩ [leaf, node]).viewNames =
      ["Leaf", "Public", "Admin", "NodeInput"] ∧
    (resolve ⟨TypeMapping.defaults⟩ [leaf, node]).views.map
      (fun view => view.fields.map (·.typeName)) =
        [["Time"], ["Time", "[Leaf]"], ["Time", "[Leaf]"], ["Time", "[Leaf]"]] := by
  have hbuilt : ∀ entity ∈ [leaf, node], entity.IsBuilt := by
    intro entity hmem
    rcases List.mem_cons.1 hmem with rfl | hmem
    · exact ⟨{}, leafDeclaration, -1, by decide +kernel⟩
    · exact isBuilt_of_mem_node entity hmem
  have hdisjoint : ∀ entity ∈ [node], ∀ binding ∈ entity.bindings, ∀ own ∈ leaf.bindings,
      binding.name ≠ own.name := by
    decide
  refine ⟨hbuilt, hdisjoint, addition_keeps_views _ hbuilt hdisjoint, ?_, ?_⟩
  · rw [resolve, byOrder_leaf]
    decide +kernel
  · rw [resolve, byOrder_leaf]
    decide +kernel

end Views

end SchemaViews.Schema
