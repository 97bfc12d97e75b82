import SchemaViews.Proofs.Pipeline.Emission
import SchemaViews.Proofs.Schema.Occurrences

/-!
# What becomes of bindings

Every binding of an entity that is not ignored is the origin of a view, or of one report
that its name is taken. A run without filters that succeeds has nothing to report, so it
emits a view for every one of them.
-/

namespace SchemaViews

open SchemaViews.Schema (byOrder boundPairs placements IsOrdering)

theorem Schema.Reports.message {schema : Schema} {collision : Placement} {issue : Issue}
    (h : schema.Reports collision issue) :
    ∃ holder words, schema.view? collision.binding.name = some holder ∧
      issue.cause.message = words ++ holder.entity.declaredName := by
  obtain ⟨holder, hholder, ⟨-, hcause⟩ | ⟨-, hcause⟩⟩ := h.cause
  · exact ⟨holder, _, hholder, by rw [hcause]; rfl⟩
  · exact ⟨holder, _, hholder, by rw [hcause]; rfl⟩

namespace Pipeline

variable {settings : Settings} {headers : List String} {declarations : List Declaration}
    {output : Output} {entities : List Entity}

/-- Without filters, the views of a run are those of the bindings, in the order of these. -/
theorem Emits.views_of_bindings (h : Emits settings [] headers declarations entities output) :
    output.schema.views.map (fun view => (view.entity, view.placement.binding)) =
      boundPairs (byOrder entities) ∧ output.schema.viewNames.Nodup := by
  have hschema : output.schema = Schema.resolve settings.typeMapping entities := h.schema
  have huncontested := (Schema.isUncontested_of_clean h.clean).collisions_eq_nil
  have hviews : output.schema.views.map (·.placement) = placements (byOrder entities) := by
    rw [hschema, Schema.placements_views]
    exact Schema.firstPlacements_eq_self huncontested
  constructor
  · calc output.schema.views.map (fun view => (view.entity, view.placement.binding))
        = (output.schema.views.map (·.placement)).map fun placement =>
          (placement.entity, placement.binding) := by
          rw [List.map_map]
          rfl
      _ = (placements (byOrder entities)).map fun placement =>
        (placement.entity, placement.binding) := by rw [hviews]
      _ = boundPairs (byOrder entities) := Schema.pairs_placements _
  · rw [hschema]
    exact Schema.viewNames_nodup

/-- Views and collisions split the bindings. The bindings of the entities that are not ignored
are taken by the order of these, those of one order as they stand in the list. The first ones
with their names become the views, the others are the collisions, and validation reports each
collision once, by the entity that holds the name. A run without filters that succeeds emits
every binding as a view of its own. -/
theorem views_and_collisions_split_bindings (mapping : TypeMapping) (entities : List Entity) :
    IsOrdering entities (Schema.resolve mapping entities).entities ∧
      (placements (Schema.resolve mapping entities).entities).map
        (fun placement => (placement.entity, placement.binding)) =
          boundPairs (Schema.resolve mapping entities).entities ∧
      (Schema.resolve mapping entities).Splits
        (placements (Schema.resolve mapping entities).entities) ∧
      (∃ issues reports, (Schema.resolve mapping entities).issues? = some issues ∧
        List.Forall₂ (Schema.resolve mapping entities).Reports
          (Schema.resolve mapping entities).collisions reports ∧
        (∀ collision report, (Schema.resolve mapping entities).Reports collision report →
          ∃ holder words, (Schema.resolve mapping entities).view? collision.binding.name =
            some holder ∧ report.cause.message = words ++ holder.entity.declaredName) ∧
        issues.filter (fun issue => issue.kind = .duplicateViewName) =
          ((Schema.resolve mapping entities).entities.flatMap (·.notes)).filter
            (fun issue => issue.kind = .duplicateViewName) ++ reports ∧
        ((∀ entity ∈ entities, entity.IsBuilt) →
          issues.filter (fun issue => issue.kind = .duplicateViewName) = reports)) ∧
      ∀ settings headers declarations output, run settings [] headers declarations = .ok output →
        ∃ built, build settings declarations = .ok built ∧
          output.schema.views.map (fun view => (view.entity, view.placement.binding)) =
            boundPairs (byOrder built) ∧ output.schema.viewNames.Nodup ∧
          output.text = Document.addHeaders (headers ++ (nonempty settings.header).toList)
            (output.schema.text settings.emitScalars) := by
  refine ⟨Schema.isOrdering_byOrder, Schema.pairs_placements _, Schema.splits_resolve, ?_, ?_⟩
  · refine ⟨_, _, Schema.issues?_resolve, Schema.forall₂_reports,
      fun _ _ hreport => hreport.message,
      Schema.filter_issues_duplicateViewName, fun hbuilt => ?_⟩
    rw [Schema.filter_issues_duplicateViewName, List.append_left_eq_self, List.filter_eq_nil_iff]
    intro issue hmem
    obtain ⟨entity, hentity, hnote⟩ := List.mem_flatMap.1 hmem
    have hbuilt := hbuilt entity (Schema.mem_byOrder.1 hentity)
    rw [decide_eq_true_eq, Issue.kind]
    exact (hbuilt.isNote issue hnote).kind_ne
  · intro settings headers declarations output hrun
    obtain ⟨built, hemits⟩ := run_eq_ok_iff.1 hrun
    obtain ⟨hviews, hnodup⟩ := hemits.views_of_bindings
    exact ⟨built, hemits.built, hviews, hnodup, hemits.text⟩

def memberDeclarations : List Declaration :=
  [{ kind := .object, declaredName := "Person",
     rawAnnotation := "@GqlType(name:Member) @GqlInput(name:Member)" },
    { kind := .object, declaredName := "Guest",
      rawAnnotation := "@GqlType(name:Visitor) @GqlType(name:Member)" }]

def members : List Entity :=
  [{ kind := .object, declaredName := "Person",
     bindings := [⟨"Member", .object, none, 0⟩, ⟨"Member", .input, none, 1⟩] },
    { kind := .object, declaredName := "Guest", order := 1
      bindings := [⟨"Visitor", .object, none, 0⟩, ⟨"Member", .object, none, 1⟩] }]

theorem build_members : build {} memberDeclarations = .ok members := by decide +kernel

theorem views_and_collisions_split_members :
    (∀ entity ∈ members, entity.IsBuilt) ∧
      (Schema.resolve ⟨TypeMapping.defaults⟩ members).viewNames = ["Member", "Visitor"] ∧
      (∃ issues reports, (Schema.resolve ⟨TypeMapping.defaults⟩ members).issues? = some issues ∧
        issues.filter (fun issue => issue.kind = .duplicateViewName) = reports ∧
        reports.map (·.entity) = ["Person", "Guest"]) ∧
      ∃ output, run {} [] [] [Schema.nodeDeclaration] = .ok output ∧
        output.schema.views.map (fun view => (view.entity, view.placement.binding)) =
          boundPairs [Schema.node] := by
  obtain ⟨-, -, hsplits, ⟨issues, reports, hissues, hreports, -, -, hbuilt⟩, -⟩ :=
    views_and_collisions_split_bindings ⟨TypeMapping.defaults⟩ members
  obtain ⟨-, -, -, -, hrun⟩ := views_and_collisions_split_bindings ⟨TypeMapping.defaults⟩ []
  have hplain : ∃ output, run {} [] [] [Schema.nodeDeclaration] = .ok output :=
    ⟨_, run_eq_ok_of_isPlain build_node (by decide +kernel) rfl (by decide +kernel)
      (by decide +kernel)
      (by decide +kernel)⟩
  obtain ⟨output, houtput⟩ := hplain
  obtain ⟨built, hbuild, hviews, -⟩ := hrun {} [] [Schema.nodeDeclaration] output houtput
  have hnode : built = [Schema.node] := Except.ok.inj (hbuild.symm.trans build_node)
  have hmembers := isBuilt_of_build build_members
  have hentities :
      (Schema.resolve ⟨TypeMapping.defaults⟩ members).collisions.map (·.entity.declaredName) =
        reports.map (·.entity) := by
    rw [← List.forall₂_eq_eq_eq, List.forall₂_map_left_iff, List.forall₂_map_right_iff]
    exact hreports.imp fun _ _ hreport => hreport.entity.symm
  have hsorted : (Schema.resolve ⟨TypeMapping.defaults⟩ members).entities = members :=
    List.mergeSort_of_pairwise (by decide)
  rw [hsorted] at hsplits
  refine ⟨hmembers, hsplits.viewNames.trans (by decide +kernel), ?_, output, houtput, ?_⟩
  · refine ⟨issues, reports, hissues, hbuilt hmembers, hentities.symm.trans ?_⟩
    rw [hsplits.collisions]
    decide +kernel
  · rw [hviews, hnode, byOrder, List.mergeSort_singleton]

end Pipeline

end SchemaViews
