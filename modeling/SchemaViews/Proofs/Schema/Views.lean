import Mathlib.Data.List.Basic
import SchemaViews.Schema.Resolved

/-!
# Where views come from

Every view of a resolved schema is the projection of one placement: a binding of an entity that is
not ignored, at the place of the entity in the order of the schema.
-/

namespace SchemaViews.Schema

variable {mapping : TypeMapping} {entities : List Entity} {view : View}

theorem order_trans (first second third : Entity) (h : decide (first.order ≤ second.order) = true)
    (hnext : decide (second.order ≤ third.order) = true) :
    decide (first.order ≤ third.order) = true := by
  simp only [decide_eq_true_eq] at h hnext ⊢
  omega

theorem order_total (first second : Entity) :
    (decide (first.order ≤ second.order) || decide (second.order ≤ first.order)) = true := by
  simp only [Bool.or_eq_true, decide_eq_true_eq]
  omega

theorem mem_byOrder {entity : Entity} : entity ∈ byOrder entities ↔ entity ∈ entities :=
  List.mem_mergeSort

theorem byOrder_perm : (byOrder entities).Perm entities :=
  List.mergeSort_perm _ _

/-- Placements fall into the first ones with their names and the later ones. -/
theorem sublist_placements (taken : List String) (placements : List Placement) :
    (firstPlacements taken placements).Sublist placements ∧
    (laterPlacements taken placements).Sublist placements := by
  induction placements generalizing taken with
  | nil => exact ⟨List.Sublist.refl _, List.Sublist.refl _⟩
  | cons placement rest ih =>
      rw [firstPlacements, laterPlacements]
      by_cases htaken : taken.contains placement.binding.name = true
      · obtain ⟨hfirst, hlater⟩ := ih taken
        rw [if_pos htaken, if_pos htaken]
        exact ⟨hfirst.cons placement, hlater.cons_cons placement⟩
      · obtain ⟨hfirst, hlater⟩ := ih (placement.binding.name :: taken)
        rw [if_neg htaken, if_neg htaken]
        exact ⟨hfirst.cons_cons placement, hlater.cons placement⟩

theorem mem_placements {placement : Placement} :
    placement ∈ placements entities ↔
      entities[placement.owner]? = some placement.entity ∧ placement.entity.ignoreAll = false ∧
        placement.binding ∈ placement.entity.bindings := by
  obtain ⟨owner, entity, binding⟩ := placement
  simp only [placements, List.mem_flatMap, Prod.exists, List.mem_zipIdx_iff_getElem?]
  constructor
  · rintro ⟨other, place, hplace, hmem⟩
    unfold Entity.placements at hmem
    split at hmem
    · cases hmem
    · rename_i hignored
      obtain ⟨_, hbinding, heq⟩ := List.mem_map.1 hmem
      cases heq
      exact ⟨hplace, Bool.eq_false_iff.2 hignored, hbinding⟩
  · rintro ⟨hplace, hignored, hbinding⟩
    refine ⟨entity, owner, hplace, ?_⟩
    rw [Entity.placements, if_neg (Bool.eq_false_iff.1 hignored)]
    exact List.mem_map.2 ⟨binding, hbinding, rfl⟩

theorem owner_of_mem_placements {entity : Entity} {owner : Nat} {placement : Placement}
    (h : placement ∈ entity.placements owner) : placement.owner = owner := by
  unfold Entity.placements at h
  split at h
  · cases h
  · obtain ⟨binding, -, rfl⟩ := List.mem_map.1 h
    rfl

theorem filter_owner_eq_nil {owned : List (Entity × Nat)} {owner : Nat}
    (h : ∀ entry ∈ owned, entry.2 ≠ owner) :
    (owned.flatMap fun (entity, place) => entity.placements place).filter
      (fun placement => placement.owner = owner) = [] := by
  refine List.filter_eq_nil_iff.2 fun placement hmem => ?_
  obtain ⟨entry, hentry, hplacement⟩ := List.mem_flatMap.1 hmem
  rw [decide_eq_true_eq, owner_of_mem_placements hplacement]
  exact h entry hentry

theorem filter_owner_placements {entity : Entity} {owner : Nat}
    (h : entities[owner]? = some entity) :
    (placements entities).filter (fun placement => placement.owner = owner) =
      entity.placements owner := by
  obtain ⟨hlt, rfl⟩ := List.getElem?_eq_some_iff.1 h
  have hlength : (entities.take owner).length = owner := List.length_take_of_le (Nat.le_of_lt hlt)
  have hcut : entities.zipIdx = (entities.take owner).zipIdx ++
      (entities[owner], owner) :: (entities.drop (owner + 1)).zipIdx (owner + 1) := by
    have hzip := @List.zipIdx_append _ (entities.take owner) (entities.drop owner) 0
    rwa [List.take_append_drop, hlength, Nat.zero_add, List.drop_eq_getElem_cons hlt,
      List.zipIdx_cons] at hzip
  have hbefore : ∀ entry ∈ (entities.take owner).zipIdx, entry.2 ≠ owner := by
    rintro ⟨other, place⟩ hmem
    have hbound := (List.mem_zipIdx hmem).2.1
    simp only
    omega
  have hafter : ∀ entry ∈ (entities.drop (owner + 1)).zipIdx (owner + 1), entry.2 ≠ owner := by
    rintro ⟨other, place⟩ hmem
    have hbound := (List.mem_zipIdx hmem).1
    simp only
    omega
  have hown : (entities[owner].placements owner).filter (fun placement => placement.owner = owner) =
      entities[owner].placements owner :=
    List.filter_eq_self.2 fun placement hmem => decide_eq_true (owner_of_mem_placements hmem)
  calc
    (placements entities).filter (fun placement => placement.owner = owner) =
        (((entities.take owner).zipIdx.flatMap fun (entity, place) => entity.placements place) ++
          (entities[owner].placements owner ++
            ((entities.drop (owner + 1)).zipIdx (owner + 1)).flatMap
              fun (entity, place) => entity.placements place)).filter
          (fun placement => placement.owner = owner) := by
      rw [placements, hcut, List.flatMap_append, List.flatMap_cons]
    _ = [] ++ (entities[owner].placements owner ++ []) := by
      rw [List.filter_append, List.filter_append, filter_owner_eq_nil hbefore, hown,
        filter_owner_eq_nil hafter]
    _ = entities[owner].placements owner := List.append_nil _

theorem placement_viewOf (placement : Placement) :
    (viewOf entities placement).placement = placement := by
  unfold viewOf
  split <;> rfl

theorem view_eq_viewOf (hview : view ∈ (resolve mapping entities).views) :
    view = viewOf (byOrder entities) view.placement := by
  obtain ⟨placement, _, rfl⟩ := List.mem_map.1 hview
  rw [placement_viewOf]

theorem placement_mem (hview : view ∈ (resolve mapping entities).views) :
    view.placement ∈ placements (byOrder entities) := by
  obtain ⟨placement, hmem, rfl⟩ := List.mem_map.1 hview
  rw [placement_viewOf]
  exact (sublist_placements _ _).1.subset hmem

theorem entity_mem (hview : view ∈ (resolve mapping entities).views) : view.entity ∈ entities :=
  mem_byOrder.1 (List.mem_of_getElem? (mem_placements.1 (placement_mem hview)).1)

theorem binding_mem (hview : view ∈ (resolve mapping entities).views) :
    view.placement.binding ∈ view.entity.bindings :=
  (mem_placements.1 (placement_mem hview)).2.2

end SchemaViews.Schema
