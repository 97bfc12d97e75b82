import SchemaViews.Proofs.Pipeline.Building
import SchemaViews.Proofs.Repetitions
import SchemaViews.Proofs.Schema.Plain
import SchemaViews.Proofs.Schema.References

/-!
# What a run emits

A run that succeeds has built its entities, found no error in their schema, and emitted the views
that all of its filters keep. It emits no reference to a view that a filter has removed, and it
declares the custom scalars that it uses.
-/

namespace SchemaViews

/-- The type of a field is a name inside brackets and marks. -/
def ViewField.Wraps (field : ViewField) (name : String) : Prop :=
  ∃ opening closing, field.typeName.toList = opening ++ name.toList ++ closing ∧
    (∀ c ∈ opening, c = '[') ∧
    Naming.isName name.toList = true ∧ ∀ c ∈ closing, c = ']' ∨ c = '!'

/-- The name in the type of a field: what stands behind the brackets in front, as long as it is a
name. A newline at the very end of the type belongs to none of its parts. -/
def ViewField.HasBase (field : ViewField) (name : String) : Prop :=
  ∃ parts : TypeParts, parts.IsExact ∧ String.ofList parts.name = name ∧
    (field.typeName.toList = parts.text ∨ field.typeName.toList = parts.text ++ ['\n'])

namespace ViewField.Wraps

variable {field : ViewField} {name : String}

theorem baseName_eq (h : field.Wraps name) : TypeMapping.baseName field.typeName = name := by
  obtain ⟨opening, closing, htype, hopening, hname, hclosing⟩ := h
  have hne : name.toList ≠ [] := by
    intro hnil
    rw [hnil] at hname
    cases hname
  have hchars : ∀ c ∈ name.toList, TypeMapping.isWrapper c = false := fun c hc =>
    TypeMapping.isWrapper_of_isNameChar (Document.isNameChar_of_isName hname hc)
  have hmarks : closing.reverse.dropWhile TypeMapping.isWrapper = [] := by
    refine List.dropWhile_eq_nil_iff.2 fun c hc => ?_
    rcases hclosing c (List.mem_reverse.1 hc) with rfl | rfl <;> rfl
  calc
    TypeMapping.baseName field.typeName =
        String.ofList
        (name.toList ++ (closing.reverse.dropWhile TypeMapping.isWrapper).reverse) := by
      rw [TypeMapping.baseName, htype, TypeMapping.trimChars_isWrapper hopening hne hchars]
    _ = String.ofList name.toList := by rw [hmarks, List.reverse_nil, List.append_nil]
    _ = name := String.ofList_toList

theorem hasBase (h : field.Wraps name) : field.HasBase name := by
  obtain ⟨opening, closing, htype, hopening, hname, hclosing⟩ := h
  have hexact : TypeParts.IsExact ⟨opening, name.toList, closing⟩ := by
    refine ⟨hopening, hname, fun c hc => ?_, fun hline => ?_⟩
    · rcases hclosing c (List.mem_of_head? hc) with rfl | rfl <;> rfl
    · rcases hclosing _ hline with hbracket | hmark
      · cases hbracket
      · cases hmark
  exact ⟨_, hexact, String.ofList_toList, Or.inl htype⟩

end ViewField.Wraps

namespace Schema

variable {mapping : TypeMapping} {schema : Schema} {views : List View} {view : View}
    {field : ViewField} {name : String}

theorem foldl_keep (filters : List ViewFilter) (schema : Schema) : filters.foldl keep schema =
    { schema with views := schema.views.filter fun view => ∀ filter ∈ filters,
                  filter.keeps view.name = true } := by
  induction filters generalizing schema with
  | nil => simp
  | cons filter rest ih =>
      rw [List.foldl_cons, ih, keep]
      simp only [List.filter_filter, List.forall_mem_cons, Bool.decide_and, Bool.decide_eq_true,
        Bool.and_comm]

theorem mem_viewNames_of_danglingIssues_eq_nil (h : schema.danglingIssues = [])
    (hview : view ∈ schema.views) (hfield : field ∈ view.fields) {entity : Entity}
    (hentity : entity ∈ schema.entities) {binding : Binding} (hbinding : binding ∈ entity.bindings)
    (hname : TypeMapping.baseName field.typeName = binding.name) :
    binding.name ∈ schema.viewNames := by
  by_contra hmissing
  have hbound : binding.name ∈ schema.entities.flatMap fun entity => entity.bindings.map (·.name) :=
    List.mem_flatMap.2 ⟨entity, hentity, List.mem_map_of_mem hbinding⟩
  have hissue : ⟨.viewNotEmitted binding.name, view.entity.declaredName, some field.declaredName,
      some view.name⟩ ∈
      schema.danglingIssues := by
    refine List.mem_flatMap.2 ⟨view, hview, List.mem_filterMap.2 ⟨field, hfield, ?_⟩⟩
    rw [hname, if_pos]
    rw [Bool.and_eq_true, List.contains_iff_mem, Bool.not_eq_true', hasView, Bool.eq_false_iff,
      ne_eq, List.contains_iff_mem]
    exact ⟨hbound, hmissing⟩
  rw [h] at hissue
  cases hissue

theorem nodup_usedScalars : (usedScalars mapping views).Nodup :=
  (List.mergeSort_perm _ _).nodup_iff.2 (nodup_eraseDups _)

def UsesScalar (mapping : TypeMapping) (views : List View) (name : String) : Prop :=
  name ∈ mapping.customScalars ∧ ∃ view ∈ views, ∃ field ∈ view.fields, field.HasBase name

theorem mem_usedScalars_iff : name ∈ usedScalars mapping views ↔ UsesScalar mapping views name := by
  simp only [usedScalars, List.mem_mergeSort, List.mem_eraseDups, List.mem_filter,
    List.mem_filterMap,
    List.contains_iff_mem, List.mem_flatMap, Option.map_eq_some_iff, TypeParts.of?_eq_some_iff]
  constructor
  · rintro ⟨⟨field, ⟨view, hview, hfield⟩, parts, ⟨hexact, htype⟩, hname⟩, hscalar⟩
    exact ⟨hscalar, view, hview, field, hfield, parts, hexact, hname, htype⟩
  · rintro ⟨hscalar, view, hview, field, hfield, parts, hexact, hname, htype⟩
    exact ⟨⟨field, ⟨view, hview, hfield⟩, parts, ⟨hexact, htype⟩, hname⟩, hscalar⟩

theorem mem_usedScalars (hview : view ∈ views) (hfield : field ∈ view.fields)
    (hname : field.Wraps name)
    (hscalar : name ∈ mapping.customScalars) : name ∈ usedScalars mapping views :=
  mem_usedScalars_iff.2 ⟨hscalar, view, hview, field, hfield, hname.hasBase⟩

example : usedScalars ⟨TypeMapping.defaults⟩ (resolve ⟨TypeMapping.defaults⟩ [node]).views =
      ["Time"] := by
  decide +kernel

theorem text_of_mem_scalars (hname : name ∈ schema.scalars) :
    schema.text true = scalarLines schema.scalars ++ viewTexts false schema.views := by
  have hscalars : schema.scalars.isEmpty = false :=
    List.isEmpty_eq_false_iff.2 (List.ne_nil_of_mem hname)
  simp only [text, if_true, hscalars]

theorem emit?_eq_some_iff {emitScalars : Bool} {content : String} :
    schema.emit? emitScalars none = some content ↔
      isEmittable (schema.text emitScalars) = true ∧ schema.text emitScalars = content := by
  rw [emit?, Option.getD_none]
  split <;> simp_all

end Schema

namespace Pipeline

variable {settings : Settings} {filters : List ViewFilter} {headers : List String}
    {declarations : List Declaration} {output : Output} {entities : List Entity}

structure Emits (settings : Settings) (filters : List ViewFilter) (headers : List String)
    (declarations : List Declaration) (entities : List Entity) (output : Output) : Prop where
  built : build settings declarations = .ok entities
  clean : ∀ issue ∈ (Schema.resolve settings.typeMapping entities).issues, issue.isError = false
  schema : output.schema = filters.foldl Schema.keep (Schema.resolve settings.typeMapping entities)
  closed : output.schema.danglingIssues = []
  emittable : Schema.isEmittable (output.schema.text settings.emitScalars) = true
  text : output.text =
    Document.addHeaders (headers ++ (nonempty settings.header).toList)
    (output.schema.text settings.emitScalars)
  warnings : output.warnings =
    (Schema.resolve settings.typeMapping entities).issues.filter fun issue => !issue.isError

theorem run_eq_ok_iff : run settings filters headers declarations = .ok output ↔
    ∃ entities, Emits settings filters headers declarations entities output := by
  constructor
  · intro h
    unfold run resolve at h
    cases hbuild : build settings declarations with
    | error failure =>
        rw [hbuild] at h
        cases h
    | ok entities =>
        rw [hbuild] at h
        simp only [Except.map, render] at h
        split at h
        case isTrue => cases h
        case isFalse hclean =>
          split at h
          case isFalse => cases h
          case isTrue hclosed =>
            split at h
            case h_1 => cases h
            case h_2 content hcontent =>
              obtain ⟨hemittable, rfl⟩ := Schema.emit?_eq_some_iff.1 hcontent
              cases h
              refine ⟨entities, hbuild, fun issue hmem => ?_, rfl, List.isEmpty_iff.1 hclosed,
                hemittable, rfl, rfl⟩
              exact Bool.eq_false_iff.2 fun herror =>
                hclean (List.any_eq_true.2 ⟨issue, hmem, herror⟩)
  · rintro ⟨entities, h⟩
    obtain ⟨text, schema, warnings⟩ := output
    obtain ⟨hbuilt, hclean, hschema, hclosed, hemittable, htext, hwarnings⟩ := h
    simp only at hschema hclosed hemittable htext hwarnings
    have hnone : ¬(Schema.resolve settings.typeMapping entities).issues.any Issue.isError =
        true := by
      intro hany
      obtain ⟨issue, hmem, herror⟩ := List.any_eq_true.1 hany
      rw [hclean issue hmem] at herror
      cases herror
    have hemitted := Schema.emit?_eq_some_iff.2 ⟨hemittable, rfl⟩
    simp only [run, resolve, hbuilt, Except.map, render, if_neg hnone, ← hschema, hclosed,
      List.isEmpty_nil, if_true, hemitted, ← htext, ← hwarnings]

namespace Emits

theorem entities_eq (h : Emits settings filters headers declarations entities output) :
    output.schema.entities = Schema.byOrder entities := by
  rw [h.schema, Schema.foldl_keep, Schema.resolve]

theorem scalars_eq (h : Emits settings filters headers declarations entities output) :
    output.schema.scalars = (Schema.resolve settings.typeMapping entities).scalars := by
  rw [h.schema, Schema.foldl_keep]

theorem views_eq (h : Emits settings filters headers declarations entities output) :
    output.schema.views = (Schema.resolve settings.typeMapping entities).views.filter fun view =>
      ∀ filter ∈ filters, filter.keeps view.name = true := by
  rw [h.schema, Schema.foldl_keep]

theorem mem_views (h : Emits settings filters headers declarations entities output) {view : View}
    (hview : view ∈ output.schema.views) :
    view ∈ (Schema.resolve settings.typeMapping entities).views := by
  rw [h.views_eq] at hview
  exact List.mem_of_mem_filter hview

end Emits

/-- A run over plain views succeeds if nothing is wrong with their schema and its filters
leave no reference behind. -/
theorem run_eq_ok_of_isPlain {schema : Schema} (hbuilt : build settings declarations = .ok entities)
    (hissues : (Schema.resolve settings.typeMapping entities).issues = [])
    (hschema : schema = filters.foldl Schema.keep (Schema.resolve settings.typeMapping entities))
    (hclosed : schema.danglingIssues = []) (hne : schema.views ≠ [])
    (hplain : ∀ view ∈ schema.views, view.IsPlain) : run settings filters headers declarations = .ok
      ⟨Document.addHeaders (headers ++ (nonempty settings.header).toList)
        (schema.text settings.emitScalars), schema, []⟩ := by
  have hscalars : ∀ name ∈ schema.scalars, Naming.isName name.toList = true := by
    intro name hname
    rw [hschema, Schema.foldl_keep] at hname
    exact Schema.isName_of_mem_scalars hname
  refine run_eq_ok_iff.2 ⟨entities, hbuilt, fun issue hmem => ?_, hschema, hclosed, ?_, rfl, ?_⟩
  · rw [hissues] at hmem
    cases hmem
  · exact Schema.isEmittable_of_isPlain hne hplain hscalars settings.emitScalars
  · rw [hissues, List.filter_nil]

theorem run_congr {others : List ViewFilter} (h : ∀ filter, filter ∈ others ↔ filter ∈ filters) :
    run settings others headers declarations = run settings filters headers declarations := by
  have hkept (schema : Schema) :
      others.foldl Schema.keep schema = filters.foldl Schema.keep schema := by
    simp only [Schema.foldl_keep, h]
  simp only [run, render, hkept]

/-- Filters form a set, and they leave no reference behind. Runs with the same filters have the
same outcome, however often and in whichever order these come. A run that succeeds emits the
views that all filters keep, in the order of the schema; a name of an entity that is the type of
an emitted field is the name of an emitted view, and a custom scalar that is one is declared
once, in front of the views. -/
theorem run_is_closed (settings : Settings) (filters : List ViewFilter) (headers : List String)
    (declarations : List Declaration) :
    (∀ others : List ViewFilter, (∀ filter, filter ∈ others ↔ filter ∈ filters) →
        run settings others headers declarations = run settings filters headers declarations) ∧
      ∀ output, run settings filters headers declarations = .ok output →
        ∃ entities, build settings declarations = .ok entities ∧
          output.schema.views = (Schema.resolve settings.typeMapping entities).views.filter
            (fun view => ∀ filter ∈ filters, filter.keeps view.name = true) ∧
          ∀ view ∈ output.schema.views, ∀ field ∈ view.fields, ∀ name, field.Wraps name →
            ((∃ entity ∈ entities, ∃ binding ∈ entity.bindings, binding.name = name) →
              name ∈ output.schema.viewNames) ∧
            (name ∈ settings.typeMapping.customScalars → settings.emitScalars = true →
              output.schema.scalars.count name = 1 ∧
              output.text = Document.addHeaders (headers ++ (nonempty settings.header).toList)
                (Schema.scalarLines output.schema.scalars ++
                  Schema.viewTexts false output.schema.views)) := by
  refine ⟨fun others hothers => run_congr hothers, fun output hrun => ?_⟩
  obtain ⟨entities, hemits⟩ := run_eq_ok_iff.1 hrun
  refine ⟨entities, hemits.built, hemits.views_eq,
    fun view hview field hfield name hname => ⟨?_, ?_⟩⟩
  · rintro ⟨entity, hentity, binding, hbinding, rfl⟩
    rw [← Schema.mem_byOrder, ← hemits.entities_eq] at hentity
    exact Schema.mem_viewNames_of_danglingIssues_eq_nil hemits.closed hview hfield hentity hbinding
      hname.baseName_eq
  · intro hscalar hemit
    have hused : name ∈ output.schema.scalars := by
      rw [hemits.scalars_eq]
      exact Schema.mem_usedScalars (hemits.mem_views hview) hfield hname hscalar
    have hnodup : output.schema.scalars.Nodup := by
      rw [hemits.scalars_eq]
      exact Schema.nodup_usedScalars
    refine ⟨List.count_eq_one_of_mem hnodup hused, ?_⟩
    rw [hemits.text, hemit, Schema.text_of_mem_scalars hused]

def nodeFilters : List ViewFilter :=
  [{ excludeStart := some "Adm" }, { excludeEnd := some "Output" }]

def nodeOutput : Output :=
  let schema := nodeFilters.foldl Schema.keep (Schema.resolve ⟨TypeMapping.defaults⟩ [Schema.node])
  ⟨schema.text true, schema, []⟩

theorem build_node : build {} [Schema.nodeDeclaration] = .ok [Schema.node] := by decide +kernel

theorem run_node : run {} nodeFilters [] [Schema.nodeDeclaration] = .ok nodeOutput :=
  run_eq_ok_of_isPlain build_node (by decide +kernel) rfl (by decide +kernel) (by decide +kernel)
    (by decide +kernel)

theorem run_is_closed_node : run {} nodeFilters [] [Schema.nodeDeclaration] = .ok nodeOutput ∧
    run {} (nodeFilters.reverse ++ nodeFilters) [] [Schema.nodeDeclaration] = .ok nodeOutput ∧
    (∃ view ∈ nodeOutput.schema.views, ∃ child ∈ view.fields, ∃ made ∈ view.fields,
      child.Wraps "NodeInput" ∧ made.Wraps "Time") ∧
    "Admin" ∉ nodeOutput.schema.viewNames ∧ "NodeInput" ∈ nodeOutput.schema.viewNames ∧
    nodeOutput.schema.scalars.count "Time" = 1 := by
  obtain ⟨hsame, hclosed⟩ := run_is_closed {} nodeFilters [] [Schema.nodeDeclaration]
  obtain ⟨entities, hbuilt, -, hnames⟩ := hclosed nodeOutput run_node
  have hentities : entities = [Schema.node] := Except.ok.inj (hbuilt.symm.trans build_node)
  subst hentities
  obtain ⟨view, hview, child, hchild, made, hmade, hchildType, hmadeType⟩ :
      ∃ view ∈ nodeOutput.schema.views, ∃ child ∈ view.fields, ∃ made ∈ view.fields,
        child.typeName = "[NodeInput]" ∧ made.typeName = "Time" := by decide +kernel
  have hchildWraps : child.Wraps "NodeInput" :=
    ⟨['['], [']'], by rw [hchildType]; decide, by simp, by decide, by simp⟩
  have hmadeWraps : made.Wraps "Time" :=
    ⟨[], [], by rw [hmadeType]; decide, by simp, by decide, by simp⟩
  have hothers : ∀ filter, filter ∈ nodeFilters.reverse ++ nodeFilters ↔ filter ∈ nodeFilters := by
    simp
  have hbound : ∃ entity ∈ [Schema.node], ∃ binding ∈ entity.bindings,
      binding.name = "NodeInput" := by decide
  refine ⟨run_node, (hsame _ hothers).trans run_node,
    ⟨view, hview, child, hchild, made, hmade, hchildWraps, hmadeWraps⟩, by decide +kernel, ?_, ?_⟩
  · exact (hnames view hview child hchild _ hchildWraps).1 hbound
  · exact ((hnames view hview made hmade _ hmadeWraps).2 (by decide +kernel) rfl).1

end Pipeline

end SchemaViews
