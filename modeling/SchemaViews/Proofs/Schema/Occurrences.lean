import Mathlib.Data.List.Forall2
import SchemaViews.Proofs.Entity.Notes
import SchemaViews.Proofs.Schema.Collisions

/-!
# First and later occurrences of names

The bindings of all entities are walked once, entity by entity. A binding whose name occurs for the
first time becomes a view, and every other one a collision, so that views and collisions split the
bindings by their positions. Validation reports each collision once.
-/

namespace SchemaViews.Schema

variable {mapping : TypeMapping} {entities : List Entity} {schema : Schema}

/-- Entities sorted by their order, those of one order as they stand in the list. -/
structure IsOrdering (entities ordered : List Entity) : Prop where
  perm : ordered.Perm entities
  sorted : ordered.Pairwise fun first second => first.order ≤ second.order
  stable : ∀ order, (ordered.filter fun entity => entity.order = order) =
    entities.filter fun entity => entity.order = order

theorem isOrdering_byOrder : IsOrdering entities (byOrder entities) where
  perm := byOrder_perm
  sorted := (List.pairwise_mergeSort order_trans order_total entities).imp of_decide_eq_true
  stable order := by
    -- the entities of one order are sorted already, so the sort keeps their sublist
    have hsorted : (entities.filter fun entity => entity.order = order).Pairwise
        fun first second => decide (first.order ≤ second.order) = true := by
      refine List.pairwise_iff_forall_sublist.2 fun {first second} hpair => ?_
      have hfirst := hpair.subset List.mem_cons_self
      have hsecond := hpair.subset (List.mem_cons_of_mem _ List.mem_cons_self)
      simp only [List.mem_filter, decide_eq_true_eq] at hfirst hsecond ⊢
      omega
    have hsublist :=
      (List.sublist_mergeSort order_trans order_total hsorted List.filter_sublist).filter
      fun entity => decide (entity.order = order)
    rw [List.filter_filter] at hsublist
    simp only [Bool.and_self] at hsublist
    exact (hsublist.eq_of_length ((byOrder_perm.filter _).length_eq.symm)).symm

/-- The bindings that ask for a view, each with its entity: those of the
entities that are not ignored. -/
def boundPairs (ordered : List Entity) : List (Entity × Binding) :=
  (ordered.filter fun entity => !entity.ignoreAll).flatMap fun entity =>
    entity.bindings.map fun binding => (entity, binding)

theorem map_placements {α : Type} {value : Placement → α} {ofEntity : Entity → List α}
    (h : ∀ entity owner, (entity.placements owner).map value = ofEntity entity)
    (ordered : List Entity) : (placements ordered).map value = ordered.flatMap ofEntity := by
  have hvalues (owned : Entity × Nat) :
      (owned.1.placements owned.2).map value = ofEntity owned.1 := h _ _
  rw [placements, List.map_flatMap]
  simp only [hvalues]
  rw [← List.flatMap_map Prod.fst, List.zipIdx_map_fst]

theorem pairs_placements (ordered : List Entity) :
    (placements ordered).map (fun placement => (placement.entity, placement.binding)) =
      boundPairs ordered := by
  have hentity (entity : Entity) (owner : Nat) :
      (entity.placements owner).map (fun placement => (placement.entity, placement.binding)) =
        if entity.ignoreAll then [] else entity.bindings.map fun binding => (entity, binding) := by
    unfold Entity.placements
    split
    · rfl
    · rw [List.map_map]
      rfl
  rw [map_placements hentity, boundPairs]
  induction ordered with
  | nil => rfl
  | cons entity rest ih => cases hignored : entity.ignoreAll <;> simp [hignored, ih]

/-- The name of the placement at a position occurs in front of it. -/
def isRepeated (placements : List Placement) (entry : Placement × Nat) : Bool :=
  (placements.take entry.2).any fun earlier => earlier.binding.name == entry.1.binding.name

/-- With the names of `front` taken, the placements behind it are told apart by their positions. -/
theorem occurrences_behind {taken : List String} {front rest : List Placement}
    (htaken : ∀ name, taken.contains name = front.any fun earlier => earlier.binding.name == name) :
    firstPlacements taken rest =
        ((rest.zipIdx front.length).filter fun entry => !isRepeated (front ++ rest) entry).map
          Prod.fst ∧
      laterPlacements taken rest =
        ((rest.zipIdx front.length).filter (isRepeated (front ++ rest))).map Prod.fst := by
  induction rest generalizing taken front with
  | nil => exact ⟨rfl, rfl⟩
  | cons placement rest ih =>
      have hrepeated : isRepeated (front ++ placement :: rest) (placement, front.length) =
          taken.contains placement.binding.name := by
        rw [isRepeated, List.take_left, htaken]
      rw [firstPlacements, laterPlacements, List.zipIdx_cons, List.filter_cons, List.filter_cons,
        hrepeated]
      -- the placement itself joins those in front
      cases hcontains : taken.contains placement.binding.name with
      | true =>
          have hfront (name : String) : taken.contains name =
              (front ++ [placement]).any fun earlier => earlier.binding.name == name := by
            rw [htaken, List.any_append, List.any_cons, List.any_nil, Bool.or_false]
            cases hname : placement.binding.name == name with
            | false => rw [Bool.or_false]
            | true => rw [← htaken, ← beq_iff_eq.1 hname, hcontains, Bool.or_true]
          have hrest := ih hfront
          rw [List.length_append, List.length_singleton, List.append_assoc,
            List.singleton_append] at hrest
          simpa using hrest
      | false =>
          have hfront (name : String) : (placement.binding.name :: taken).contains name =
              (front ++ [placement]).any fun earlier => earlier.binding.name == name := by
            calc
              (placement.binding.name :: taken).contains name =
                  (name == placement.binding.name ||
                    front.any fun earlier => earlier.binding.name == name) := by
                rw [List.contains_cons, htaken]
              _ = ((front.any fun earlier => earlier.binding.name == name) ||
                    placement.binding.name == name) := by
                rw [Bool.or_comm, Bool.beq_comm]
              _ = (front ++ [placement]).any fun earlier => earlier.binding.name == name := by
                rw [List.any_append, List.any_cons, List.any_nil, Bool.or_false]
          have hrest := ih hfront
          rw [List.length_append, List.length_singleton, List.append_assoc,
            List.singleton_append] at hrest
          simpa using hrest

theorem names_firstPlacements (taken : List String) (placements : List Placement) :
    (firstPlacements taken placements).map (fun first => first.binding.name) =
      ((placements.map fun placement => placement.binding.name).filter
        fun name => !taken.contains name).eraseDups := by
  induction placements generalizing taken with
  | nil => rfl
  | cons placement rest ih =>
      rw [firstPlacements, List.map_cons, List.filter_cons]
      cases hcontains : taken.contains placement.binding.name with
      | true => simpa using ih taken
      | false =>
          simp only [Bool.not_false, if_true]
          rw [if_neg Bool.false_ne_true, List.map_cons, List.eraseDups_cons, ih, List.filter_filter]
          simp only [List.contains_cons, Bool.not_or]

/-- Views and collisions split the placements: the views are those whose names occur first, and the
collisions all others, both in the order of the placements. -/
structure Splits (schema : Schema) (placements : List Placement) : Prop where
  viewNames : schema.viewNames = (placements.map fun placement => placement.binding.name).eraseDups
  views : schema.views.map (·.placement) =
    (placements.zipIdx.filter fun entry => !isRepeated placements entry).map Prod.fst
  collisions : schema.collisions = (placements.zipIdx.filter (isRepeated placements)).map Prod.fst

theorem placements_views :
    (resolve mapping entities).views.map (·.placement) =
      firstPlacements [] (placements (byOrder entities)) := by
  rw [resolve, List.map_map]
  exact (List.map_congr_left fun placement _ => placement_viewOf placement).trans (List.map_id _)

theorem splits_resolve : (resolve mapping entities).Splits (placements (byOrder entities)) := by
  obtain ⟨hfirst, hlater⟩ := @occurrences_behind [] [] (placements (byOrder entities))
    fun name => rfl
  have huntaken (names : List String) :
      (names.filter fun name => !([] : List String).contains name) = names :=
    List.filter_eq_self.2 fun name _ => rfl
  have hnames := names_firstPlacements [] (placements (byOrder entities))
  refine ⟨?_, placements_views.trans hfirst, hlater⟩
  rw [viewNames_resolve, hnames, huntaken]

section Reports

variable {entity : Entity} {issue : Issue}

theorem kind_of_mem_bindingIssues (h : issue ∈ bindingIssues entity) :
    issue.kind = .invalidName := by
  unfold bindingIssues at h
  split at h
  · cases h
  · obtain ⟨binding, -, rfl⟩ := List.mem_map.1 h
    rfl

theorem eq_or_eq_of_placementCause? {field : Field} {view : View} {cause : Cause}
    (h : placementCause? entity field view = some cause) :
    cause = .readOnlyInInput ∨ cause = .writeOnlyInObject := by
  unfold placementCause? at h
  simp only at h
  split at h
  · cases h
  · split at h
    · cases h
      exact Or.inl rfl
    · split at h
      · cases h
        exact Or.inr rfl
      · cases h

theorem kind_ne_of_mem_fieldIssues {owner : Nat} {field : Field}
    (h : issue ∈ schema.fieldIssues owner entity field) : issue.kind ≠ .duplicateViewName := by
  unfold fieldIssues at h
  simp only [List.mem_append] at h
  rcases h with (hreference | hconflict) | hplacement
  · obtain ⟨view, -, rfl⟩ := List.mem_map.1 hreference
    exact fun hkind => by cases hkind
  · obtain ⟨⟨dispute, scope⟩, -, hmem⟩ := List.mem_flatMap.1 hconflict
    simp only at hmem
    split at hmem
    · cases hmem
    · obtain ⟨view, -, rfl⟩ := List.mem_map.1 hmem
      cases dispute <;> exact fun hkind => by cases hkind
  · obtain ⟨view, -, hmem⟩ := List.mem_filterMap.1 hplacement
    split at hmem
    · cases hmem
    · obtain ⟨cause, hcause, rfl⟩ := Option.map_eq_some_iff.1 hmem
      rcases eq_or_eq_of_placementCause? hcause with rfl | rfl
      · exact fun hkind => by cases hkind
      · exact fun hkind => by cases hkind

theorem kind_ne_of_mem_valueIssues {earlier values : List EnumValue}
    (h : issue ∈ valueIssues entity earlier values) : issue.kind ≠ .duplicateViewName := by
  induction values generalizing earlier with
  | nil => cases h
  | cons value rest ih =>
      rw [valueIssues] at h
      simp only at h
      have hinvalid : ∀ other ∈ (if Naming.admits value.name then [] else
          [(⟨.invalidEnumValue value.name, entity.declaredName, some value.declaredName,
            entity.bindings.head?.map (·.name)⟩ : Issue)]), other.kind ≠ .duplicateViewName := by
        intro other hmem
        split at hmem
        · cases hmem
        · rw [List.mem_singleton.1 hmem]
          exact fun hkind => by cases hkind
      split at h
      · rcases List.mem_append.1 h with hmem | hmem
        · exact hinvalid issue hmem
        · rcases List.mem_cons.1 hmem with rfl | hrest
          · exact fun hkind => by cases hkind
          · exact ih hrest
      · rcases List.mem_append.1 h with hmem | hrest
        · exact hinvalid issue hmem
        · exact ih hrest

theorem kind_ne_of_mem_entityIssues {owner : Nat} (h : issue ∈ schema.entityIssues owner entity) :
    issue.kind ≠ .duplicateViewName := by
  unfold entityIssues at h
  split at h
  · cases h
  · rcases List.mem_append.1 h with hfield | hvalue
    · obtain ⟨field, -, hmem⟩ := List.mem_flatMap.1 hfield
      exact kind_ne_of_mem_fieldIssues hmem
    · exact kind_ne_of_mem_valueIssues hvalue

theorem kind_ne_of_mem_entitiesIssues
    (h : issue ∈ schema.entities.zipIdx.flatMap
      fun (entity, owner) => schema.entityIssues owner entity) :
    issue.kind ≠ .duplicateViewName := by
  obtain ⟨⟨entity, owner⟩, -, hissue⟩ := List.mem_flatMap.1 h
  exact kind_ne_of_mem_entityIssues hissue

theorem kind_ne_of_mem_viewIssues {view : View} (h : issue ∈ viewIssues view) :
    issue.kind ≠ .duplicateViewName := by
  unfold viewIssues at h
  rcases List.mem_append.1 h with hinvalid | hempty
  · obtain ⟨field, -, rfl⟩ := List.mem_map.1 hinvalid
    exact fun hkind => by cases hkind
  · split at hempty
    · rw [List.mem_singleton.1 hempty]
      exact fun hkind => by cases hkind
    · cases hempty

/-- Each collision of a resolved schema has its report, in the order of the collisions. -/
theorem forall₂_reports :
    List.Forall₂ (resolve mapping entities).Reports (resolve mapping entities).collisions
      ((resolve mapping entities).collisions.filterMap
        (resolve mapping entities).collisionIssue?) := by
  have hreports : ∀ collisions : List Placement,
      (∀ collision ∈ collisions, collision ∈ (resolve mapping entities).collisions) →
      List.Forall₂ (resolve mapping entities).Reports collisions
        (collisions.filterMap (resolve mapping entities).collisionIssue?) := by
    intro collisions hall
    induction collisions with
    | nil => exact .nil
    | cons collision rest ih =>
        obtain ⟨issue, hissue, hreport⟩ := exists_report (hall collision List.mem_cons_self)
        rw [List.filterMap_cons_some hissue]
        exact .cons hreport (ih fun other hother => hall other (List.mem_cons_of_mem _ hother))
  exact hreports _ fun collision hmem => hmem

/-- The issues about names that are taken, beyond those that entities bring with them,
are those of the collisions. -/
theorem filter_issues_duplicateViewName :
    (resolve mapping entities).issues.filter (fun issue => issue.kind = .duplicateViewName) =
      ((resolve mapping entities).entities.flatMap (·.notes)).filter
        (fun issue => issue.kind = .duplicateViewName) ++
        (resolve mapping entities).collisions.filterMap
          (resolve mapping entities).collisionIssue? := by
  have hnone {issues : List Issue} (h : ∀ issue ∈ issues, issue.kind ≠ .duplicateViewName) :
      issues.filter (fun issue => issue.kind = .duplicateViewName) = [] :=
    List.filter_eq_nil_iff.2 fun issue hmem => by simpa using h issue hmem
  have hbindings : ∀ issue ∈ (resolve mapping entities).entities.flatMap bindingIssues,
      issue.kind ≠ .duplicateViewName := by
    intro issue hmem
    obtain ⟨entity, -, hissue⟩ := List.mem_flatMap.1 hmem
    rw [kind_of_mem_bindingIssues hissue]
    exact fun hkind => by cases hkind
  have hviews : ∀ issue ∈ (resolve mapping entities).views.flatMap viewIssues,
      issue.kind ≠ .duplicateViewName := by
    intro issue hmem
    obtain ⟨view, -, hissue⟩ := List.mem_flatMap.1 hmem
    exact kind_ne_of_mem_viewIssues hissue
  have hreports :
      ((resolve mapping entities).collisions.filterMap
        (resolve mapping entities).collisionIssue?).filter
      (fun issue => issue.kind = .duplicateViewName) =
        (resolve mapping entities).collisions.filterMap
        (resolve mapping entities).collisionIssue? := by
    refine List.filter_eq_self.2 fun issue hmem => ?_
    obtain ⟨collision, hcollision, hissue⟩ := List.mem_filterMap.1 hmem
    obtain ⟨other, hother, hreport⟩ := exists_report hcollision
    rw [hissue, Option.some.injEq] at hother
    rw [hother, hreport.kind, decide_eq_true_eq]
  calc
    (resolve mapping entities).issues.filter (fun issue => issue.kind = .duplicateViewName) =
        ((resolve mapping entities).entities.flatMap (·.notes)).filter
            (fun issue => issue.kind = .duplicateViewName) ++ [] ++
          (resolve mapping entities).collisions.filterMap
            (resolve mapping entities).collisionIssue? ++ [] ++ [] := by
      simp only [issues, List.filter_append]
      rw [hnone hbindings, hreports, hnone fun _ => kind_ne_of_mem_entitiesIssues, hnone hviews]
    _ = ((resolve mapping entities).entities.flatMap (·.notes)).filter
            (fun issue => issue.kind = .duplicateViewName) ++
          (resolve mapping entities).collisions.filterMap
            (resolve mapping entities).collisionIssue? := by
      rw [List.append_nil, List.append_nil, List.append_nil]

end Reports

end SchemaViews.Schema
