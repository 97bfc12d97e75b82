import SchemaViews.Proofs.Schema.Projection
import SchemaViews.Schema.Issues

/-!
# Fields that are placed by name

A rule that is qualified with a view asks for the field there. If validation reports no error, the
view exists, and it shows the field unless a rule omits it: the checks cover every other way in
which a view leaves a field out.
-/

namespace SchemaViews.Schema

variable {mapping : TypeMapping} {entities : List Entity} {schema : Schema} {view : View}
    {field : Field}

theorem name_mem_of_mem_laterPlacements {taken : List String} {placements : List Placement}
    {placement : Placement} (h : placement ∈ laterPlacements taken placements) :
    placement.binding.name ∈ taken ∨
      placement.binding.name ∈ (firstPlacements taken placements).map
        fun first => first.binding.name := by
  induction placements generalizing taken with
  | nil => cases h
  | cons first rest ih =>
      rw [laterPlacements] at h
      rw [firstPlacements]
      by_cases htaken : taken.contains first.binding.name = true
      · rw [if_pos htaken] at h ⊢
        rcases List.mem_cons.1 h with rfl | hrest
        · exact Or.inl (List.contains_iff_mem.1 htaken)
        · exact ih hrest
      · rw [if_neg htaken] at h ⊢
        rw [List.map_cons, List.mem_cons]
        rcases ih h with hmem | hmem
        · rcases List.mem_cons.1 hmem with heq | hold
          · exact Or.inr (Or.inl heq)
          · exact Or.inl hold
        · exact Or.inr (Or.inr hmem)

theorem viewNames_resolve : (resolve mapping entities).viewNames =
    (firstPlacements [] (placements (byOrder entities))).map fun first => first.binding.name := by
  rw [viewNames, resolve, List.map_map]
  congr 1
  funext placement
  rw [Function.comp_apply, View.name, placement_viewOf]

theorem issues?_resolve : (resolve mapping entities).issues? =
      some (resolve mapping entities).issues := by
  rw [issues?, if_pos]
  rw [holdsCollisions, List.all_eq_true]
  intro placement hmem
  rw [hasView, List.contains_iff_mem, viewNames_resolve]
  rcases name_mem_of_mem_laterPlacements hmem with htaken | hfirst
  · cases htaken
  · exact hfirst

theorem mem_issues_of_mem_entityIssues {owner : Nat} {entity : Entity} {issue : Issue}
    (howner : schema.entities[owner]? = some entity)
    (h : issue ∈ schema.entityIssues owner entity) : issue ∈ schema.issues := by
  rw [issues]
  refine List.mem_append_left _ (List.mem_append_right _ ?_)
  exact List.mem_flatMap.2 ⟨(entity, owner), List.mem_zipIdx_iff_getElem?.2 howner, h⟩

theorem mem_issues_of_mem_fieldIssues {owner : Nat} {entity : Entity} {issue : Issue}
    (howner : schema.entities[owner]? = some entity) (hignored : entity.ignoreAll = false)
    (hfield : field ∈ entity.fields) (h : issue ∈ schema.fieldIssues owner entity field) :
    issue ∈ schema.issues := by
  refine mem_issues_of_mem_entityIssues howner ?_
  rw [entityIssues, if_neg (Bool.eq_false_iff.1 hignored)]
  exact List.mem_append_left _ (List.mem_flatMap.2 ⟨field, hfield, h⟩)

theorem hasView_of_clean {owner : Nat} {entity : Entity}
    (hclean : ∀ issue ∈ schema.issues, issue.isError = false)
    (howner : schema.entities[owner]? = some entity) (hignored : entity.ignoreAll = false)
    (hfield : field ∈ entity.fields) {rule : Rule} (hrule : rule ∈ field.rules) {name : String}
    (hname : name ∈ rule.scope) : name ∈ schema.viewNames := by
  by_contra hmissing
  have hreferenced : name ∈ field.referencedViews := by
    rw [Field.referencedViews, List.mem_eraseDups, List.mem_flatMap]
    exact ⟨rule, hrule, hname⟩
  have hissue : ⟨.unknownView name, entity.declaredName, some field.declaredName, some name⟩ ∈
      schema.fieldIssues owner entity field := by
    rw [fieldIssues, referenceIssues]
    refine List.mem_append_left _ (List.mem_append_left _ (List.mem_map.2 ⟨name, ?_, rfl⟩))
    rw [List.mem_filter, hasView, Bool.not_eq_true', ← Bool.not_eq_true, List.contains_iff_mem]
    exact ⟨hreferenced, hmissing⟩
  have herror := hclean _ (mem_issues_of_mem_fieldIssues howner hignored hfield hissue)
  cases herror

/-- A field that is placed in a view and whose access keeps it out is an error, be it
for that or for a conflict. -/
theorem placementCause_eq_none_of_clean (hclean : ∀ issue ∈ schema.issues, issue.isError = false)
    (hview : view ∈ schema.views)
    (howner : schema.entities[view.placement.owner]? = some view.entity)
    (hignored : view.entity.ignoreAll = false) (hfield : field ∈ view.entity.fields)
    (hkind : view.kind ≠ .enum)
    (hplaced : field.IsPlacedIn view.name) : placementCause? view.entity field view = none := by
  have hissues
      {issue : Issue} (hmem : issue ∈ schema.fieldIssues view.placement.owner view.entity field) :=
    mem_issues_of_mem_fieldIssues howner hignored hfield hmem
  have hundisputed :
      (((field.conflicts view.entity).filter fun issue => issue.kind = .conflictingMutability).map
      (·.view)).contains (some view.name) = false := by
    rw [Bool.eq_false_iff, ne_eq, List.contains_iff_mem, List.mem_map]
    rintro ⟨issue, hmem, -⟩
    obtain ⟨hconflict, hmutability⟩ := List.mem_filter.1 hmem
    have herror :=
      hclean issue (hissues (List.mem_append_left _ (List.mem_append_right _ hconflict)))
    rw [Issue.isError, Issue.severity, of_decide_eq_true hmutability] at herror
    cases herror
  cases hcause : placementCause? view.entity field view with
  | none => rfl
  | some cause =>
      have hissue : ⟨cause, view.entity.declaredName, some field.declaredName, some view.name⟩ ∈
          schema.fieldIssues view.placement.owner view.entity field := by
        refine List.mem_append_right _ (List.mem_filterMap.2 ⟨view, ?_, ?_⟩)
        · exact List.mem_filter.2 ⟨hview, by simp⟩
        · simp only [hundisputed, hkind, Field.namesView_iff.2 hplaced, hcause]
          rfl
      have herror := hclean _ (hissues hissue)
      unfold placementCause? at hcause
      simp only at hcause
      split at hcause
      · cases hcause
      · split at hcause
        · cases hcause
          cases herror
        · split at hcause
          · cases hcause
            cases herror
          · cases hcause

theorem isShownIn_of_placementCause_eq_none (hdefaults : view.entity.fieldDefaults.IsFieldDefault)
    (hplaced : field.IsPlacedIn view.name) (hcause : placementCause? view.entity field view = none)
    (hnotOmitted : Aspect.inclusion.ofField field view.name ≠ some false) :
    field.IsShownIn view.entity view.placement.binding := by
  have hincluded : (field.policyFor view.name view.entity.fieldDefaults).included ≠ some false := by
    rw [Policy.IsFieldDefault] at hdefaults
    rw [Field.policyFor_eq, hdefaults]
    simpa using hnotOmitted
  have haccess {access : Access} (haccess : access ≠ .readWrite)
      (h : field.accessIn view.name view.entity.fieldDefaults = access) :
      (field.policyFor view.name view.entity.fieldDefaults).access = some access := by
    rw [Field.accessIn] at h
    rw [Field.policyFor_eq]
    simp only
    cases hread : (Aspect.access.ofField field view.name).or view.entity.fieldDefaults.access with
    | none =>
        rw [hread] at h
        exact absurd h.symm haccess
    | some value =>
        rw [hread] at h
        exact congrArg some h
  refine ⟨hnotOmitted, fun _ _ => Or.inl hplaced, ?_, ?_⟩
  · intro hkind hreadOnly
    unfold placementCause? at hcause
    rw [if_neg hincluded,
      if_pos (by simp [View.kind, hkind, haccess (by decide) hreadOnly])] at hcause
    cases hcause
  · intro hkind hwriteOnly
    unfold placementCause? at hcause
    rw [if_neg hincluded, if_neg (by simp [View.kind, hkind]),
      if_pos (by simp [View.kind, hkind, haccess (by decide) hwriteOnly])] at hcause
    cases hcause

/-- If validation reports no error, every view that a rule names exists, and a field that is placed
in a view by name is omitted there or shown. -/
theorem placed_is_shown_or_omitted (hbuilt : ∀ entity ∈ entities, entity.IsBuilt)
    {issues : List Issue} (hissues : (resolve mapping entities).issues? = some issues)
    (hclean : ∀ issue ∈ issues, issue.isError = false) :
    (∀ entity ∈ entities, entity.ignoreAll = false → ∀ field ∈ entity.fields, ∀ rule ∈ field.rules,
        ∀ name ∈ rule.scope, name ∈ (resolve mapping entities).viewNames) ∧
      ∀ view ∈ (resolve mapping entities).views, ∀ field ∈ view.entity.fields,
        field.IsPlacedIn view.name → Aspect.inclusion.ofField field view.name = some false ∨
          field.entryIn view.entity view.placement.binding (byOrder entities) ∈ view.fields := by
  rw [issues?_resolve, Option.some.injEq] at hissues
  subst hissues
  constructor
  · intro entity hentity hignored field hfield rule hrule name hname
    obtain ⟨owner, howner⟩ := List.mem_iff_getElem?.1 (mem_byOrder.2 hentity)
    exact hasView_of_clean hclean howner hignored hfield hrule hname
  · intro view hview field hfield hplaced
    obtain ⟨howner, hignored, hbinding⟩ := mem_placements.1 (placement_mem hview)
    have hentity := hbuilt _ (entity_mem hview)
    have hkind : view.kind ≠ .enum := hentity.kind_ne_enum (List.ne_nil_of_mem hfield) _ hbinding
    by_cases homitted : Aspect.inclusion.ofField field view.name = some false
    · exact Or.inl homitted
    · have hcause :=
        placementCause_eq_none_of_clean hclean hview howner hignored hfield hkind hplaced
      have hshown :=
        isShownIn_of_placementCause_eq_none hentity.isFieldDefault hplaced hcause homitted
      rw [fields_of_mem_views hview hentity.isFieldDefault hkind]
      exact Or.inr (List.mem_map.2 ⟨field, List.mem_filter.2 ⟨hfield, by simpa using hshown⟩, rfl⟩)

theorem placed_is_shown_or_omitted_account : (∀ entity ∈ [account], entity.IsBuilt) ∧
    (∀ issue ∈ (resolve ⟨TypeMapping.defaults⟩ [account]).issues, issue.isError = false) ∧
    ∀ view ∈ (resolve ⟨TypeMapping.defaults⟩ [account]).views, ∀ field ∈ view.entity.fields,
      field.IsPlacedIn view.name → Aspect.inclusion.ofField field view.name = some false ∨
        field.entryIn view.entity view.placement.binding (byOrder [account]) ∈ view.fields := by
  have hclean : ∀ issue ∈ (resolve ⟨TypeMapping.defaults⟩ [account]).issues,
      issue.isError = false := by decide +kernel
  exact ⟨isBuilt_of_mem_account, hclean,
    (placed_is_shown_or_omitted isBuilt_of_mem_account issues?_resolve hclean).2⟩

end SchemaViews.Schema
