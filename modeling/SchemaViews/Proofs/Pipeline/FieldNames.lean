import SchemaViews.Proofs.Pipeline.Emission

/-!
# The names of the fields of a view

A field is shown under the name that its rules give it in the view, or under its own. Nothing
compares these names with each other, so the fields of an emitted view have distinct names if and
only if the rules keep them apart.
-/

namespace SchemaViews

namespace Field

def nameIn (field : Field) (view : String) : String :=
  Schema.textOr (Aspect.name.ofField field view) field.outputName

/-- The names that a field can have in a view: its own, and those that its rules for that
view and for all views give. -/
def namesFor (field : Field) (view : String) : List String :=
  field.outputName ::
    (field.rules.filter fun rule => view ∈ rule.scope ∨ rule.views = none).filterMap fun rule =>
      Aspect.name.select rule.setting

variable {field : Field} {view name : String}

theorem mem_namesFor_of_ofField (h : Aspect.name.ofField field view = some name) :
    name ∈ field.namesFor view := by
  have hlast {holds : Rule → Bool}
      (hlast : Aspect.name.lastOf (field.rules.filter holds) = some name)
      (himp : ∀ rule, holds rule = true → view ∈ rule.scope ∨ rule.views = none) :
      name ∈ field.namesFor view := by
    obtain ⟨rule, hrule, hselect⟩ := List.mem_filterMap.1 (List.mem_of_getLast? hlast)
    obtain ⟨hmem, hholds⟩ := List.mem_filter.1 hrule
    refine List.mem_cons_of_mem _ (List.mem_filterMap.2 ⟨rule, List.mem_filter.2 ⟨hmem, ?_⟩,
      hselect⟩)
    exact decide_eq_true (himp rule hholds)
  rw [Aspect.ofField, Option.or_eq_some_iff] at h
  rcases h with hown | ⟨-, hdefault⟩
  · exact hlast hown fun rule hrule => Or.inl (of_decide_eq_true hrule)
  · exact hlast hdefault fun rule hrule => Or.inr (of_decide_eq_true hrule)

theorem nameIn_mem_namesFor : field.nameIn view ∈ field.namesFor view := by
  unfold nameIn Schema.textOr
  split
  · rename_i name hname
    split
    · exact List.mem_cons_self
    · exact mem_namesFor_of_ofField hname
  · exact List.mem_cons_self

example : ["Admin", "Public"].map (nameIn ⟨"ID", "string", "id", "String", true,
    [{ setting := .name "key", views := some ["Admin"] }], false, false⟩) = ["key", "id"] := by
  decide +kernel

end Field

namespace Pipeline

variable {settings : Settings} {filters : List ViewFilter} {headers : List String}
    {declarations : List Declaration} {output : Output} {view : View}

/-- The fields of an emitted object or input view have distinct names if and only if no two of the
fields that it shows have the same name there. So they do if no two fields of its entity can have
the same name in that view. -/
theorem fieldNames_nodup_iff (h : run settings filters headers declarations = .ok output)
    (hview : view ∈ output.schema.views) (hkind : view.kind ≠ .enum) :
    ((view.fields.map ViewField.name).Nodup ↔
        (view.entity.fields.filter fun field => field.IsShownIn view.entity
          view.placement.binding).Pairwise
          fun first second => first.nameIn view.name ≠ second.nameIn view.name) ∧
      ((view.entity.fields.Pairwise fun first second =>
          ∀ name ∈ first.namesFor view.name, name ∉ second.namesFor view.name) →
        (view.fields.map ViewField.name).Nodup) := by
  obtain ⟨entities, hemits⟩ := run_eq_ok_iff.1 h
  have hresolved := hemits.mem_views hview
  have hdefaults := (isBuilt_of_build hemits.built _ (Schema.entity_mem hresolved)).isFieldDefault
  have hiff : (view.fields.map ViewField.name).Nodup ↔
      (view.entity.fields.filter fun field => field.IsShownIn view.entity
        view.placement.binding).Pairwise
        fun first second => first.nameIn view.name ≠ second.nameIn view.name := by
    rw [Schema.fields_of_mem_views hresolved hdefaults hkind, List.map_map, List.Nodup,
      List.pairwise_map]
    rfl
  refine ⟨hiff, fun hdisjoint => hiff.2 ((hdisjoint.filter _).imp ?_)⟩
  intro first second hnames hsame
  exact hnames _ Field.nameIn_mem_namesFor (hsame ▸ Field.nameIn_mem_namesFor)

theorem fieldNames_nodup_iff_node :
    run {} nodeFilters [] [Schema.nodeDeclaration] = .ok nodeOutput ∧
      Schema.nodeInput ∈ nodeOutput.schema.views ∧ Schema.nodeInput.kind ≠ .enum ∧
      (Schema.nodeInput.fields.map ViewField.name).Nodup := by
  have hview : Schema.nodeInput ∈ nodeOutput.schema.views := by decide +kernel
  have hkind : Schema.nodeInput.kind ≠ .enum := by decide
  refine ⟨run_node, hview, hkind, (fieldNames_nodup_iff run_node hview hkind).2 ?_⟩
  decide +kernel

def userDeclaration : Declaration where
  kind := .object
  declaredName := "User"
  members :=
    [{ declaredName := "ID", declaredType := "string" },
      { declaredName := "Id", declaredType := "string" }]

def user : Entity where
  kind := .object
  declaredName := "User"
  bindings := [⟨"User", .object, none, 0⟩]
  fields :=
    [{ declaredName := "ID", declaredType := "string", outputName := "id", scalarType := "String" },
      { declaredName := "Id", declaredType := "string", outputName := "id",
        scalarType := "String" }]

def userOutput : Output :=
  let schema := Schema.resolve ⟨TypeMapping.defaults⟩ [user]
  ⟨schema.text true, schema, []⟩

/-- Nothing is reported about the user, and both of its members are emitted under one name. -/
theorem fields_may_share_a_name : run {} [] [] [userDeclaration] = .ok userOutput ∧
    ∃ view ∈ userOutput.schema.views, view.kind = .object ∧
      view.fields.map ViewField.name = ["id", "id"] :=
  ⟨run_eq_ok_of_isPlain (by decide +kernel) (by decide +kernel) rfl (by decide +kernel)
    (by decide +kernel)
    (by decide +kernel), by decide +kernel⟩

end Pipeline

end SchemaViews
