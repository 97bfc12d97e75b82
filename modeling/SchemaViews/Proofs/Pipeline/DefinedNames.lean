import SchemaViews.Proofs.Pipeline.Emission
import SchemaViews.Proofs.Schema.Names

/-!
# The names that a document defines

Scalars are declared by their names, and views by theirs. Each of the two lists is free of
repetitions, but nothing keeps them apart: the document defines a name twice exactly if a view is
named like a custom scalar that stands in the type of some field, or if two names differ in a
newline behind one of them only.
-/

namespace SchemaViews

open SchemaViews.Document

/-- The name of a view as a reader finds it. The newline that may stand behind it
is space between two words. -/
def View.writtenName (view : View) : String :=
  String.ofList (Naming.dropNewline view.name.toList)

/-- The names that the document of a schema defines: those of its scalars, if they are
declared, and of its views. -/
def Schema.definedNames (emitScalars : Bool) (schema : Schema) : List String :=
  (if emitScalars then schema.scalars else []) ++ schema.views.map View.writtenName

def Document.Definition.typeName? : Definition → Option String
  | .typeSystem _ (.scalar name _) | .typeSystem _ (.object name _ _ _) | .typeSystem
    _ (.interface name _ _ _)
  | .typeSystem _ (.union name _ _) | .typeSystem _ (.enum name _ _) | .typeSystem
    _ (.input name _ _) => some name
  | _ => none

namespace View

variable {view other : View}

theorem writtenName_of_isName (h : Naming.isName view.name.toList = true) :
    view.writtenName = view.name := by
  rw [writtenName, Naming.dropNewline_of_notMem (Naming.newline_notMem_of_isName h),
    String.ofList_toList]

theorem name_eq_or (view : View) :
    view.name = view.writtenName ∨ view.name = view.writtenName ++ "\n" := by
  rcases Naming.eq_dropNewline_or view.name.toList with hsame | hline
  · left
    rw [writtenName, ← hsame, String.ofList_toList]
  · right
    refine String.toList_injective ?_
    rw [writtenName, String.toList_append, String.toList_ofList]
    exact hline

/-- A name that is let through has no second newline, so it is written like the
name without its newline. -/
theorem writtenName_of_newline (hadmits : Naming.admits view.name = true)
    (h : view.name = other.name ++ "\n") : view.writtenName = other.writtenName := by
  have hlist : view.name.toList = other.name.toList ++ ['\n'] := by
    rw [h, String.toList_append]
    rfl
  obtain ⟨core, hcore, hsame | hline⟩ := Naming.admits_iff.1 hadmits
  · refine absurd ?_ (Naming.newline_notMem_of_isName hcore)
    rw [← hsame, hlist]
    exact List.mem_append_right _ List.mem_cons_self
  · have hname : Naming.isName other.name.toList = true := by
      rwa [List.append_inj_left' (hlist.symm.trans hline) rfl]
    have hdropped : Naming.dropNewline view.name.toList = other.name.toList := by
      rw [hlist, Naming.dropNewline_concat]
    calc
      view.writtenName = String.ofList other.name.toList := by rw [writtenName, hdropped]
      _ = other.writtenName := by rw [String.ofList_toList, writtenName_of_isName hname]

theorem eq_or_newline_of_writtenName_eq (h : view.writtenName = other.writtenName) :
    view.name = other.name ∨ view.name = other.name ++ "\n" ∨ other.name = view.name ++ "\n" := by
  rcases view.name_eq_or with hview | hview <;> rcases other.name_eq_or with hother | hother
  · exact Or.inl (by rw [hview, hother, h])
  · exact Or.inr (Or.inr (by rw [hview, hother, h]))
  · exact Or.inr (Or.inl (by rw [hview, hother, h]))
  · exact Or.inl (by rw [hview, hother, h])

end View

namespace Schema

variable {typeOf : String → TypeRef} {schema : Schema}

theorem typeName?_definition (view : View) :
    (view.definition typeOf).typeName? = some view.name := by
  unfold View.definition View.body
  split <;> rfl

theorem typeNames_definitions (hnames : ∀ view ∈ schema.views,
      Naming.isName view.name.toList = true) (emitScalars : Bool) :
    (schema.definitions typeOf emitScalars).filterMap Definition.typeName? =
      schema.definedNames emitScalars := by
  have hscalars (names : List String) :
      (names.map scalarDefinition).filterMap Definition.typeName? = names := by
    rw [List.filterMap_map]
    exact List.filterMap_some
  have hviews : (schema.views.map (View.definition typeOf)).filterMap Definition.typeName? =
      schema.views.map View.writtenName := by
    rw [List.filterMap_map, ← List.filterMap_eq_map]
    refine List.filterMap_congr fun view hview => ?_
    rw [Function.comp_apply, Function.comp_apply, typeName?_definition,
      View.writtenName_of_isName (hnames view hview)]
  rw [definitions, List.filterMap_append, hscalars, hviews, definedNames]

/-- The names that the views are written by are distinct unless two of them
differ in a newline only. -/
theorem writtenNames_nodup_iff (hnodup : schema.viewNames.Nodup)
    (hadmits : ∀ view ∈ schema.views, Naming.admits view.name = true) :
    (schema.views.map View.writtenName).Nodup ↔
      ∀ view ∈ schema.views, ∀ other ∈ schema.views, view.name ≠ other.name ++ "\n" := by
  constructor
  · intro hwritten view hview other hother hline
    have hsame :=
      List.inj_on_of_nodup_map hwritten hview hother
        (View.writtenName_of_newline (hadmits view hview) hline)
    have hlength := congrArg String.length hline
    rw [hsame, String.length_append] at hlength
    exact absurd hlength (by simp)
  · intro hlines
    refine List.Nodup.map_on (fun view hview other hother hwritten => ?_)
      (List.Nodup.of_map _ hnodup)
    rcases View.eq_or_newline_of_writtenName_eq hwritten with hname | hline | hline
    · exact List.inj_on_of_nodup_map hnodup hview hother hname
    · exact absurd hline (hlines view hview other hother)
    · exact absurd hline (hlines other hother view hview)

end Schema

namespace Pipeline

variable {settings : Settings} {filters : List ViewFilter} {headers : List String}
    {declarations : List Declaration} {output : Output} {entities : List Entity}

namespace Emits

theorem viewNames_nodup (h : Emits settings filters headers declarations entities output) :
    output.schema.viewNames.Nodup := by
  rw [Schema.viewNames, h.views_eq]
  exact Schema.viewNames_nodup.sublist (List.filter_sublist.map View.name)

theorem admits_name (h : Emits settings filters headers declarations entities output) {view : View}
    (hview : view ∈ output.schema.views) : Naming.admits view.name = true :=
  (Schema.hasValidNames_of_clean h.clean).admits_names (h.mem_views hview) List.mem_cons_self

end Emits

/-- The names that the document of a run defines are distinct if and only if no view is named like a
custom scalar that is declared for the type of some field, and no name of a view is that of another
one with a newline behind it. -/
theorem definedNames_nodup_iff (h : run settings filters headers declarations = .ok output) :
    ∃ entities, build settings declarations = .ok entities ∧
      ((output.schema.definedNames settings.emitScalars).Nodup ↔
        (settings.emitScalars = true → ∀ view ∈ output.schema.views,
          ¬Schema.UsesScalar settings.typeMapping
          (Schema.resolve settings.typeMapping entities).views view.writtenName) ∧
        ∀ view ∈ output.schema.views, ∀ other ∈ output.schema.views,
          view.name ≠ other.name ++ "\n") := by
  obtain ⟨entities, hemits⟩ := run_eq_ok_iff.1 h
  refine ⟨entities, hemits.built, ?_⟩
  have hwritten := Schema.writtenNames_nodup_iff hemits.viewNames_nodup
    fun view hview => hemits.admits_name hview
  have hmem (name : String) : name ∈ output.schema.scalars ↔ Schema.UsesScalar settings.typeMapping
      (Schema.resolve settings.typeMapping entities).views name := by
    rw [hemits.scalars_eq]
    exact Schema.mem_usedScalars_iff
  have hscalars : (if settings.emitScalars then output.schema.scalars else []).Nodup := by
    split
    · rw [hemits.scalars_eq]
      exact Schema.nodup_usedScalars
    · exact List.nodup_nil
  have hdisjoint : (∀ name ∈ if settings.emitScalars then output.schema.scalars else [],
      ∀ written ∈ output.schema.views.map View.writtenName, name ≠ written) ↔
      (settings.emitScalars = true → ∀ view ∈ output.schema.views,
        ¬Schema.UsesScalar settings.typeMapping
        (Schema.resolve settings.typeMapping entities).views view.writtenName) := by
    constructor
    · intro hne hemit view hview huses
      rw [if_pos hemit] at hne
      exact hne _ ((hmem _).2 huses) _ (List.mem_map_of_mem hview) rfl
    · intro hunused name hname written hmap heq
      split at hname
      · rename_i hemit
        obtain ⟨view, hview, rfl⟩ := List.mem_map.1 hmap
        exact hunused hemit view hview ((hmem _).1 (heq ▸ hname))
      · cases hname
  rw [Schema.definedNames, List.nodup_append, hwritten, hdisjoint]
  exact ⟨fun hall => ⟨hall.2.2, hall.2.1⟩, fun hall => ⟨hscalars, hall.2, hall.1⟩⟩

theorem definedNames_nodup_iff_node :
    run {} nodeFilters [] [Schema.nodeDeclaration] = .ok nodeOutput ∧
      nodeOutput.schema.definedNames true = ["Time", "Public", "NodeInput"] ∧
      ∀ view ∈ nodeOutput.schema.views, ¬Schema.UsesScalar ⟨TypeMapping.defaults⟩
        (Schema.resolve ⟨TypeMapping.defaults⟩ [Schema.node]).views view.writtenName := by
  obtain ⟨entities, hbuilt, hiff⟩ := definedNames_nodup_iff run_node
  have hentities : entities = [Schema.node] := Except.ok.inj (hbuilt.symm.trans build_node)
  subst hentities
  have hnames : nodeOutput.schema.definedNames true = ["Time", "Public", "NodeInput"] := by
    decide +kernel
  have hnodup : (nodeOutput.schema.definedNames true).Nodup := by
    rw [hnames]
    decide
  exact ⟨run_node, hnames, (hiff.1 hnodup).1 rfl⟩

def clockDeclaration : Declaration where
  kind := .object
  declaredName := "Clock"
  rawAnnotation := "@GqlType(name:Time)"
  members := [{ declaredName := "At", declaredType := "time.Time" }]

def clock : Entity where
  kind := .object
  declaredName := "Clock"
  bindings := [⟨"Time", .object, none, 0⟩]
  fields :=
    [{ declaredName := "At", declaredType := "time.Time", outputName := "at",
       scalarType := "Time" }]

def clockOutput : Output :=
  let schema := Schema.resolve ⟨TypeMapping.defaults⟩ [clock]
  ⟨schema.text true, schema, []⟩

theorem run_clock : run {} [] [] [clockDeclaration] = .ok clockOutput :=
  run_eq_ok_of_isPlain (by decide +kernel) (by decide +kernel) rfl (by decide +kernel)
    (by decide +kernel)
    (by decide +kernel)

/-- Nothing is reported about the clock, and a reader of what is emitted
finds one name defined twice. -/
theorem names_may_be_defined_twice : run {} [] [] [clockDeclaration] = .ok clockOutput ∧
    clockOutput.schema.definedNames true = ["Time", "Time"] ∧
    ∃ definitions, read? clockOutput.text.toList = some definitions ∧
      definitions.filterMap Definition.typeName? = ["Time", "Time"] := by
  have hnames : clockOutput.schema.definedNames true = ["Time", "Time"] := by decide +kernel
  have hplain : ∀ view ∈ clockOutput.schema.views, view.IsPlain := by decide +kernel
  refine ⟨run_clock, hnames, _,
    Schema.read?_of_isPlain (by decide +kernel) hplain (by decide +kernel) true, ?_⟩
  rw [Schema.typeNames_definitions fun view hview => (hplain view hview).name, hnames]

end Pipeline

end SchemaViews
