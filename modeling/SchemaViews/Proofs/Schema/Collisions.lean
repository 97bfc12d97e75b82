import Mathlib.Data.List.Nodup
import SchemaViews.Proofs.Schema.Placed

/-!
# Names that are taken

The views of a resolved schema have distinct names, so a name leads to one view. A placement without
a view is one whose name was taken, and that is always reported: a schema without such an issue has
a view for each of its placements.
-/

namespace SchemaViews.Schema

variable {mapping : TypeMapping} {entities : List Entity} {view : View}

theorem nodup_firstPlacements (taken : List String) (placements : List Placement) :
    ((firstPlacements taken placements).map fun first => first.binding.name).Nodup ∧
      ∀ name ∈ (firstPlacements taken placements).map fun first => first.binding.name,
        name ∉ taken := by
  induction placements generalizing taken with
  | nil => exact ⟨List.nodup_nil, fun name hmem => by cases hmem⟩
  | cons placement rest ih =>
      rw [firstPlacements]
      split
      · exact ih taken
      · rename_i hfree
        obtain ⟨hnodup, hnotTaken⟩ := ih (placement.binding.name :: taken)
        rw [List.map_cons, List.nodup_cons]
        refine ⟨⟨fun hmem => hnotTaken _ hmem List.mem_cons_self, hnodup⟩, fun name hname => ?_⟩
        rcases List.mem_cons.1 hname with rfl | hrest
        · rwa [List.contains_iff_mem] at hfree
        · exact fun htaken => hnotTaken name hrest (List.mem_cons_of_mem _ htaken)

theorem firstPlacements_eq_self {taken : List String} {placements : List Placement}
    (h : laterPlacements taken placements = []) :
    firstPlacements taken placements = placements := by
  induction placements generalizing taken with
  | nil => rfl
  | cons placement rest ih =>
      rw [laterPlacements] at h
      rw [firstPlacements]
      split at h
      · cases h
      · rename_i hfree
        rw [if_neg hfree, ih h]

theorem laterPlacements_eq_nil {taken : List String} {placements : List Placement}
    (hnodup : (placements.map fun placement => placement.binding.name).Nodup)
    (hfree : ∀ placement ∈ placements, placement.binding.name ∉ taken) :
    laterPlacements taken placements = [] := by
  induction placements generalizing taken with
  | nil => rfl
  | cons placement rest ih =>
      rw [List.map_cons, List.nodup_cons] at hnodup
      have hnew : ¬taken.contains placement.binding.name = true := by
        rw [List.contains_iff_mem]
        exact hfree placement List.mem_cons_self
      rw [laterPlacements, if_neg hnew]
      refine ih hnodup.2 fun other hother hmem => ?_
      rcases List.mem_cons.1 hmem with hname | htaken
      · exact hnodup.1 (hname ▸ List.mem_map_of_mem hother)
      · exact hfree other (List.mem_cons_of_mem _ hother) htaken

theorem viewNames_nodup : (resolve mapping entities).viewNames.Nodup := by
  rw [viewNames_resolve]
  exact (nodup_firstPlacements [] _).1

theorem eq_of_name_eq {other : View} (hview : view ∈ (resolve mapping entities).views)
    (hother : other ∈ (resolve mapping entities).views) (hname : view.name = other.name) :
    view = other :=
  List.inj_on_of_nodup_map viewNames_nodup hview hother hname

theorem view?_name (hview : view ∈ (resolve mapping entities).views) :
    (resolve mapping entities).view? view.name = some view := by
  cases hfound : (resolve mapping entities).view? view.name with
  | none => exact absurd (beq_self_eq_true _) (List.find?_eq_none.1 hfound view hview)
  | some other =>
      have hname : other.name = view.name := by simpa using List.find?_some hfound
      rw [eq_of_name_eq (List.mem_of_find?_eq_some hfound) hview hname]

/-- What is reported about a placement whose name is taken: the issue names it, and the
entity that holds the name. -/
structure Reports (schema : Schema) (collision : Placement) (issue : Issue) : Prop where
  entity : issue.entity = collision.entity.declaredName
  member : issue.member = none
  view : issue.view = some collision.binding.name
  cause : ∃ holder, schema.view? collision.binding.name = some holder ∧
    (holder.placement.owner = collision.owner ∧
        issue.cause = .boundRepeatedly collision.binding.name holder.entity.declaredName ∨
      holder.placement.owner ≠ collision.owner ∧
        issue.cause = .alreadyBound collision.binding.name holder.entity.declaredName)

theorem Reports.kind {schema : Schema} {collision : Placement} {issue : Issue}
    (h : schema.Reports collision issue) : issue.kind = .duplicateViewName := by
  obtain ⟨holder, -, ⟨-, hcause⟩ | ⟨-, hcause⟩⟩ := h.cause
  · rw [Issue.kind, hcause]
    rfl
  · rw [Issue.kind, hcause]
    rfl

theorem exists_report {collision : Placement}
    (hmem : collision ∈ (resolve mapping entities).collisions) :
    ∃ issue, (resolve mapping entities).collisionIssue? collision = some issue ∧
      (resolve mapping entities).Reports collision issue := by
  have hheld : collision.binding.name ∈ (resolve mapping entities).viewNames := by
    rw [viewNames_resolve]
    exact (name_mem_of_mem_laterPlacements hmem).resolve_left (by simp)
  obtain ⟨holder, hholder, hname⟩ := List.mem_map.1 hheld
  have hfound : (resolve mapping entities).view? collision.binding.name = some holder :=
    hname ▸ view?_name hholder
  have hplace := (mem_placements.1 (placement_mem hholder)).1
  have hother := (mem_placements.1 ((sublist_placements _ _).2.subset hmem)).1
  unfold collisionIssue?
  simp only [hfound, Option.map_some]
  refine ⟨_, rfl, rfl, rfl, rfl, holder, hfound, ?_⟩
  split
  · rename_i howner
    rw [howner, hother, Option.some.injEq] at hplace
    exact Or.inl ⟨howner, by rw [View.entity, ← hplace]⟩
  · rename_i howner
    exact Or.inr ⟨howner, rfl⟩

/-- No placement has lost its name. -/
def IsUncontested (schema : Schema) : Prop :=
  ∀ issue ∈ schema.issues, issue.kind ≠ .duplicateViewName

theorem IsUncontested.collisions_eq_nil (h : (resolve mapping entities).IsUncontested) :
    (resolve mapping entities).collisions = [] := by
  rw [List.eq_nil_iff_forall_not_mem]
  intro collision hmem
  obtain ⟨issue, hsome, hreport⟩ := exists_report hmem
  refine h issue ?_ hreport.kind
  rw [issues]
  refine List.mem_append_left _ (List.mem_append_left _ (List.mem_append_right _ ?_))
  exact List.mem_filterMap.2 ⟨collision, hmem, hsome⟩

theorem IsUncontested.view?_binding (h : (resolve mapping entities).IsUncontested) {entity : Entity}
    (hentity : entity ∈ entities) (hignored : entity.ignoreAll = false) {binding : Binding}
    (hbinding : binding ∈ entity.bindings) :
    ∃ other, (resolve mapping entities).view? binding.name = some other ∧ other.entity = entity ∧
      other.placement.binding = binding := by
  obtain ⟨owner, howner⟩ := List.mem_iff_getElem?.1 (mem_byOrder.2 hentity)
  have hplacement : (⟨owner, entity, binding⟩ : Placement) ∈ placements (byOrder entities) :=
    mem_placements.2 ⟨howner, hignored, hbinding⟩
  have hview :
      viewOf (byOrder entities) ⟨owner, entity, binding⟩ ∈ (resolve mapping entities).views := by
    rw [← firstPlacements_eq_self h.collisions_eq_nil] at hplacement
    exact List.mem_map.2 ⟨_, hplacement, rfl⟩
  refine ⟨viewOf (byOrder entities) ⟨owner, entity, binding⟩, ?_, ?_, ?_⟩
  · have hname := view?_name hview
    rwa [View.name, placement_viewOf] at hname
  · rw [View.entity, placement_viewOf]
  · rw [placement_viewOf]

theorem isUncontested_of_clean {schema : Schema}
    (hclean : ∀ issue ∈ schema.issues, issue.isError = false) : schema.IsUncontested := by
  intro issue hmem hkind
  have herror := hclean issue hmem
  rw [Issue.isError, Issue.severity, hkind] at herror
  cases herror

end SchemaViews.Schema
