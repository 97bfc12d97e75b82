import SchemaViews.Proofs.Entity.Ignored
import SchemaViews.Proofs.Pipeline.Bindings
import SchemaViews.Proofs.Pipeline.Gathering

/-!
# Checking and running

A check reports what is wrong with declarations without emitting them. A run checks the same things,
and then, behind its filters, it looks for references to views that are gone. Without filters no
view is gone: each name that is bound is the name of a view, be it that of another entity. So the
check tells what the run will say.
-/

namespace SchemaViews

namespace Schema

variable {mapping : TypeMapping} {entities : List Entity}

/-- A name that is bound has a view, though another entity may hold it. -/
theorem hasView_binding (hbuilt : ∀ entity ∈ entities, entity.IsBuilt) {entity : Entity}
    (hentity : entity ∈ entities) {binding : Binding} (hbinding : binding ∈ entity.bindings) :
    (resolve mapping entities).hasView binding.name = true := by
  have hkept : entity.ignoreAll = false := by
    by_contra hignored
    rw [(hbuilt entity hentity).bindings_eq_nil (Bool.not_eq_false _ ▸ hignored)] at hbinding
    cases hbinding
  obtain ⟨owner, howner⟩ := List.mem_iff_getElem?.1 (mem_byOrder.2 hentity)
  have hplacement : (⟨owner, entity, binding⟩ : Placement) ∈ placements (byOrder entities) :=
    mem_placements.2 ⟨howner, hkept, hbinding⟩
  rw [hasView, List.contains_iff_mem, splits_resolve.viewNames, List.mem_eraseDups]
  exact List.mem_map.2 ⟨_, hplacement, rfl⟩

/-- Before views are filtered, no reference is left without its view. -/
theorem danglingIssues_resolve (hbuilt : ∀ entity ∈ entities, entity.IsBuilt) :
    (resolve mapping entities).danglingIssues = [] := by
  rw [danglingIssues, List.flatMap_eq_nil_iff]
  intro view _
  rw [List.filterMap_eq_nil_iff]
  intro field _
  simp only
  rw [if_neg]
  intro hdangling
  obtain ⟨hbound, hmissing⟩ := Bool.and_eq_true_iff.1 hdangling
  rw [List.contains_iff_mem] at hbound
  obtain ⟨entity, hentity, hname⟩ := List.mem_flatMap.1 hbound
  obtain ⟨binding, hbinding, hname⟩ := List.mem_map.1 hname
  have hview : (resolve mapping entities).hasView binding.name = true :=
    hasView_binding hbuilt (mem_byOrder.1 hentity) hbinding
  rw [hname] at hview
  rw [hview] at hmissing
  cases hmissing

end Schema

namespace Pipeline

variable {settings : Settings} {declarations : List Declaration} {schema : Schema}
    {issues : List Issue} {failure : Failure}

theorem danglingIssues_of_resolve (h : resolve settings declarations = .ok schema) :
    schema.danglingIssues = [] := by
  obtain ⟨entities, hbuild, rfl⟩ := map_eq_ok_iff.1 h
  exact Schema.danglingIssues_resolve (isBuilt_of_build hbuild)

theorem check_eq_ok_iff : check settings declarations = .ok issues ↔
    ∃ schema, resolve settings declarations = .ok schema ∧ schema.issues = issues :=
  map_eq_ok_iff

theorem check_eq_error_iff : check settings declarations = .error failure ↔
    build settings declarations = .error failure :=
  map_eq_error_iff.trans map_eq_error_iff

example : check {} faultyDeclarations = .error (.syntaxErrors faultyErrors) := by decide +kernel

/-- Without filters, a run either reports the errors of the schema that was checked, or
emits this schema if it can. -/
theorem run_outcome (headers : List String) (h : resolve settings declarations = .ok schema) :
    (∃ issue ∈ schema.issues, issue.isError = true) ∧
        run settings [] headers declarations = .error (.invalid schema.issues) ∨
      (∀ issue ∈ schema.issues, issue.isError = false) ∧
        (schema.emit? settings.emitScalars none = none ∧
          run settings [] headers declarations = .error .notGraphQL ∨
          ∃ content, schema.emit? settings.emitScalars none = some content ∧
            run settings [] headers declarations = .ok
              ⟨Document.addHeaders (headers ++ (nonempty settings.header).toList) content, schema,
                schema.issues⟩) := by
  rw [run, h]
  by_cases herror : schema.issues.any Issue.isError = true
  · exact Or.inl ⟨List.any_eq_true.1 herror, if_pos herror⟩
  · have hclean : ∀ issue ∈ schema.issues, issue.isError = false := fun issue hmem =>
      Bool.eq_false_iff.2 fun hissue => herror (List.any_eq_true.2 ⟨issue, hmem, hissue⟩)
    have hwarnings : schema.issues.filter (fun issue => !issue.isError) = schema.issues :=
      List.filter_eq_self.2 fun issue hmem => by rw [hclean issue hmem, Bool.not_false]
    refine Or.inr ⟨hclean, ?_⟩
    simp only [render, if_neg herror, List.foldl_nil, danglingIssues_of_resolve h, List.isEmpty_nil,
      if_true, hwarnings]
    cases schema.emit? settings.emitScalars none with
    | none => exact Or.inl ⟨rfl, rfl⟩
    | some content => exact Or.inr ⟨content, rfl, rfl⟩

/-- Without filters, a run says what the check says. Both report the same syntax errors; a run is
refused for an invalid schema if and only if the check finds an error, and then it reports what the
check has found. Otherwise no reference is left without its view, and what is emitted comes with the
issues of the check, which are warnings. -/
theorem check_agrees_with_run (settings : Settings) (headers : List String)
    (declarations : List Declaration) :
    (∀ errors, run settings [] headers declarations = .error (.syntaxErrors errors) ↔
        check settings declarations = .error (.syntaxErrors errors)) ∧
      (∀ failure, check settings declarations = .error failure →
        ∃ errors, failure = .syntaxErrors errors) ∧
      ∀ issues, check settings declarations = .ok issues →
        (∀ reported, run settings [] headers declarations = .error (.invalid reported) ↔
          reported = issues ∧ ∃ issue ∈ issues, issue.isError = true) ∧
        (∃ schema, resolve settings declarations = .ok schema ∧ schema.danglingIssues = [] ∧
          ((∀ issue ∈ issues, issue.isError = false) →
            ∀ content, schema.emit? settings.emitScalars none = some content →
              run settings [] headers declarations = .ok
                ⟨Document.addHeaders (headers ++ (nonempty settings.header).toList) content, schema,
                  issues⟩)) ∧
        ∀ output, run settings [] headers declarations = .ok output →
          output.warnings = issues ∧ ∀ issue ∈ issues, issue.isError = false := by
  refine ⟨fun errors => ?_, fun failure h => ?_, fun issues hcheck => ?_⟩
  · rw [check_eq_error_iff]
    cases hbuild : build settings declarations with
    | error failure =>
        rw [run_of_build_error hbuild]
        simp only [Except.error.injEq]
    | ok entities =>
        rcases run_outcome headers (resolve_of_build hbuild) with
          ⟨-, hrun⟩ | ⟨-, ⟨-, hrun⟩ | ⟨content, -, hrun⟩⟩
        all_goals
          rw [hrun]
          exact ⟨nofun, nofun⟩
  · obtain ⟨-, rfl⟩ := build_eq_error_iff.1 (check_eq_error_iff.1 h)
    exact ⟨_, rfl⟩
  · obtain ⟨schema, hresolve, rfl⟩ := check_eq_ok_iff.1 hcheck
    have hclosed := danglingIssues_of_resolve hresolve
    have hexclusive : (∀ issue ∈ schema.issues, issue.isError = false) → ¬∃ issue ∈ schema.issues,
        issue.isError = true := by
      rintro hclean ⟨issue, hmem, herror⟩
      rw [hclean issue hmem] at herror
      cases herror
    -- the schema is invalid, or it is no GraphQL, or it is emitted
    rcases run_outcome headers hresolve with
      ⟨herror, hrun⟩ | ⟨hclean, ⟨hcontent, hrun⟩ | ⟨content, hcontent, hrun⟩⟩
    · rw [hrun]
      refine ⟨fun reported => ⟨fun h => ?_, fun h => by rw [h.1]⟩,
        ⟨schema, hresolve, hclosed, fun hclean => ?_⟩, nofun⟩
      · cases h
        exact ⟨rfl, herror⟩
      · exact absurd herror (hexclusive hclean)
    · rw [hrun]
      refine ⟨fun reported => ⟨nofun, fun h => absurd h.2 (hexclusive hclean)⟩,
        ⟨schema, hresolve, hclosed, fun _ content h => ?_⟩, nofun⟩
      rw [hcontent] at h
      cases h
    · rw [hrun]
      refine ⟨fun reported => ⟨nofun, fun h => absurd h.2 (hexclusive hclean)⟩,
        ⟨schema, hresolve, hclosed, fun _ other h => ?_⟩, fun output h => ?_⟩
      · rw [hcontent, Option.some.injEq] at h
        rw [h]
      · cases h
        exact ⟨rfl, hclean⟩

theorem build_person : build {} (memberDeclarations.take 1) = .ok (members.take 1) := by
  decide +kernel

theorem check_agrees_with_run_members :
    run {} [] [] faultyDeclarations = .error (.syntaxErrors faultyErrors) ∧
      (∃ issues, check {} (memberDeclarations.take 1) = .ok issues ∧ issues ≠ [] ∧
        run {} [] [] (memberDeclarations.take 1) = .error (.invalid issues)) ∧
      ∃ output, run {} [] [] [Schema.nodeDeclaration] = .ok output ∧ output.warnings = [] := by
  obtain ⟨hfaults, -, -⟩ := check_agrees_with_run {} [] faultyDeclarations
  obtain ⟨-, -, hperson⟩ := check_agrees_with_run {} [] (memberDeclarations.take 1)
  obtain ⟨-, -, hnode⟩ := check_agrees_with_run {} [] [Schema.nodeDeclaration]
  have hcheck : check {} (memberDeclarations.take 1) =
      .ok (Schema.resolve ⟨TypeMapping.defaults⟩ (members.take 1)).issues :=
    check_eq_ok_iff.2 ⟨_, resolve_of_build build_person, rfl⟩
  have herror : ∃ issue ∈ (Schema.resolve ⟨TypeMapping.defaults⟩ (members.take 1)).issues,
      issue.isError = true := by
    decide +kernel
  have hclean : check {} [Schema.nodeDeclaration] = .ok [] :=
    check_eq_ok_iff.2 ⟨_, resolve_of_build build_node, by decide +kernel⟩
  refine ⟨(hfaults faultyErrors).2 (check_eq_error_iff.2 build_faulty), ⟨_, hcheck, ?_, ?_⟩, ?_⟩
  · obtain ⟨issue, hmem, -⟩ := herror
    exact List.ne_nil_of_mem hmem
  · exact ((hperson _ hcheck).1 _).2 ⟨rfl, herror⟩
  · have hrun : ∃ output, run {} [] [] [Schema.nodeDeclaration] = .ok output :=
      ⟨_, run_eq_ok_of_isPlain build_node (by decide +kernel) rfl (by decide +kernel)
        (by decide +kernel)
        (by decide +kernel)⟩
    obtain ⟨output, houtput⟩ := hrun
    exact ⟨output, houtput, ((hnode [] hclean).2.2 output houtput).1⟩

end Pipeline

end SchemaViews
