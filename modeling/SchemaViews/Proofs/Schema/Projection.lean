import SchemaViews.Proofs.Entity.Built
import SchemaViews.Proofs.Policy.Aspect
import SchemaViews.Proofs.Schema.Views

/-!
# What a view shows

The fields of an object or input view in terms of the rules alone: which fields are shown,
by three conditions that do not mention policies, and the entry of each, by the most
specific rule for each of its parts.
-/

namespace SchemaViews

namespace Field

variable (field : Field) (entity : Entity) (binding : Binding)

/-- A rule qualified with the view includes the field or sets its access. -/
def IsPlacedIn (view : String) : Prop :=
  ∃ rule ∈ field.rules, view ∈ rule.scope ∧
    (rule.setting = .inclusion true ∨ rule.concern = .access)

/-- A rule for every view includes the field. -/
def IsIncludedEverywhere : Prop :=
  ∃ rule ∈ field.rules, rule.views = none ∧ rule.setting = .inclusion true

/-- No rule is about inclusion or access. -/
def IsUnconstrained : Prop :=
  ∀ rule ∈ field.rules, rule.concern ≠ .inclusion ∧ rule.concern ≠ .access

instance (view : String) : Decidable (field.IsPlacedIn view) :=
  inferInstanceAs (Decidable (∃ rule ∈ field.rules, _))

instance : Decidable field.IsIncludedEverywhere :=
  inferInstanceAs (Decidable (∃ rule ∈ field.rules, _))

instance : Decidable field.IsUnconstrained :=
  inferInstanceAs (Decidable (∀ rule ∈ field.rules, _))

def accessIn (view : String) (defaults : Policy) : Access :=
  ((Aspect.access.ofField field view).or defaults.access).getD .readWrite

/-- Whether the view of an entity under a binding shows a field. -/
structure IsShownIn : Prop where
  notOmitted : Aspect.inclusion.ofField field binding.name ≠ some false
  optedIn : 2 ≤ (entity.bindingsOf binding.kind).length →
    (∃ other ∈ entity.fields, other.IsPlacedIn binding.name) →
    field.IsPlacedIn binding.name ∨ field.IsIncludedEverywhere ∨ field.IsUnconstrained
  writable : binding.kind = .input → field.accessIn binding.name entity.fieldDefaults ≠ .readOnly
  readable : binding.kind = .object → field.accessIn binding.name entity.fieldDefaults ≠ .writeOnly

instance : Decidable (field.IsShownIn entity binding) :=
  decidable_of_iff
    (Aspect.inclusion.ofField field binding.name ≠ some false ∧
      (2 ≤ (entity.bindingsOf binding.kind).length →
        (∃ other ∈ entity.fields, other.IsPlacedIn binding.name) →
        field.IsPlacedIn binding.name ∨ field.IsIncludedEverywhere ∨ field.IsUnconstrained) ∧
      (binding.kind = .input → field.accessIn binding.name entity.fieldDefaults ≠ .readOnly) ∧
      (binding.kind = .object → field.accessIn binding.name entity.fieldDefaults ≠ .writeOnly))
    ⟨fun h => ⟨h.1, h.2.1, h.2.2.1, h.2.2.2⟩,
      fun h => ⟨h.notOmitted, h.optedIn, h.writable, h.readable⟩⟩

/-- The entry of a field in the view of an entity under a binding, where types
lead to views of `entities`. -/
def entryIn (entities : List Entity) : ViewField where
  name := Schema.textOr (Aspect.name.ofField field binding.name) field.outputName
  declaredName := field.declaredName
  typeName := Schema.rewriteType entities binding.kind
    (Schema.textOr (Aspect.type.ofField field binding.name) field.scalarType)
  required := ((Aspect.required.ofField field binding.name).or entity.fieldDefaults.required).getD
    (!field.nullable)
  access := field.accessIn binding.name entity.fieldDefaults
  description := Aspect.description.ofField field binding.name
  deprecated := Aspect.deprecated.ofField field binding.name
  forceResolver := field.forceResolver && binding.kind = .object

variable {field entity binding}

theorem places_iff {rule : Rule} :
    places rule = true ↔ rule.setting = .inclusion true ∨ rule.concern = .access := by
  unfold places Rule.concern
  cases rule.setting <;> simp [Setting.concern]

theorem namesView_iff {view : String} : field.namesView view = true ↔ field.IsPlacedIn view := by
  simp only [namesView, List.any_eq_true, Bool.and_eq_true, List.contains_iff_mem, places_iff,
    IsPlacedIn]

theorem targets_iff {view : String} :
    field.targets view = true ↔ field.IsPlacedIn view ∨ field.IsIncludedEverywhere := by
  rw [targets, Bool.or_eq_true, namesView_iff, List.any_eq_true]
  simp only [includedEverywhere, Bool.and_eq_true, Option.isNone_iff_eq_none, decide_eq_true_eq,
    IsIncludedEverywhere]

theorem isConstrained_eq_false_iff : field.isConstrained = false ↔ field.IsUnconstrained := by
  simp only [isConstrained, List.any_eq_false, Bool.or_eq_true, decide_eq_true_eq, not_or,
    IsUnconstrained, ne_eq]

theorem optedIn_iff :
    ¬(entity.inclusionMode binding = .optIn ∧ field.isConstrained = true ∧
      field.targets binding.name = false) ↔
      (2 ≤ (entity.bindingsOf binding.kind).length →
        (∃ other ∈ entity.fields, other.IsPlacedIn binding.name) →
        field.IsPlacedIn binding.name ∨ field.IsIncludedEverywhere ∨ field.IsUnconstrained) := by
  have hmode : entity.inclusionMode binding = .optIn ↔ 2 ≤ (entity.bindingsOf binding.kind).length ∧
      ∃ other ∈ entity.fields, other.IsPlacedIn binding.name := by
    rw [Entity.inclusionMode]
    simp only [Bool.and_eq_true, decide_eq_true_eq, List.any_eq_true, namesView_iff]
    split <;> simp_all
  rw [hmode, ← Bool.not_eq_true, targets_iff, ← Bool.not_eq_false, isConstrained_eq_false_iff]
  constructor
  · intro h hsiblings hplaced
    by_contra hnone
    rw [not_or, not_or] at hnone
    exact h ⟨⟨hsiblings, hplaced⟩, hnone.2.2, fun htargets => htargets.elim hnone.1 hnone.2.1⟩
  · rintro h ⟨⟨hsiblings, hplaced⟩, hconstrained, htargets⟩
    rcases h hsiblings hplaced with hplace | heverywhere | hunconstrained
    · exact htargets (Or.inl hplace)
    · exact htargets (Or.inr heverywhere)
    · exact hconstrained hunconstrained

theorem isShownIn_iff : field.IsShownIn entity binding ↔
    Aspect.inclusion.ofField field binding.name ≠ some false ∧
      ¬(entity.inclusionMode binding = .optIn ∧ field.isConstrained = true ∧
        field.targets binding.name = false) ∧
      Schema.shows binding.kind (field.accessIn binding.name entity.fieldDefaults) = true := by
  have hshows :
      Schema.shows binding.kind (field.accessIn binding.name entity.fieldDefaults) = true ↔
      (binding.kind = .input → field.accessIn binding.name entity.fieldDefaults ≠ .readOnly) ∧
        (binding.kind = .object →
          field.accessIn binding.name entity.fieldDefaults ≠ .writeOnly) := by
    simp only [Schema.shows, Bool.and_eq_true, Bool.not_eq_true', decide_eq_false_iff_not,
      Bool.and_eq_false_imp, decide_eq_true_eq, ne_eq]
  rw [hshows, optedIn_iff]
  exact ⟨fun h => ⟨h.notOmitted, h.optedIn, h.writable, h.readable⟩,
    fun h => ⟨h.1, h.2.1, h.2.2.1, h.2.2.2⟩⟩

end Field

namespace Schema

variable {mapping : TypeMapping} {entities : List Entity} {view : View}

/-- The resolver decides about one field of a built entity as the rules say. -/
theorem viewField_eq {placement : Placement}
    (hdefaults : placement.entity.fieldDefaults.IsFieldDefault) (field : Field) :
    viewField? entities placement (placement.entity.inclusionMode placement.binding) field =
      if field.IsShownIn placement.entity placement.binding then
        some (field.entryIn placement.entity placement.binding entities)
      else none := by
  have hpolicy : field.policyFor placement.binding.name placement.entity.fieldDefaults =
      { included := Aspect.inclusion.ofField field placement.binding.name
        access :=
          (Aspect.access.ofField field placement.binding.name).or
          placement.entity.fieldDefaults.access
        required :=
          (Aspect.required.ofField field placement.binding.name).or
          placement.entity.fieldDefaults.required
        name := Aspect.name.ofField field placement.binding.name
        type := Aspect.type.ofField field placement.binding.name
        description := Aspect.description.ofField field placement.binding.name
        deprecated := Aspect.deprecated.ofField field placement.binding.name } := by
    rw [Field.policyFor_eq]
    rw [Policy.IsFieldDefault] at hdefaults
    rw [hdefaults]
    simp only [Option.or_none]
  unfold viewField?
  simp only [hpolicy]
  change (if Aspect.inclusion.ofField field placement.binding.name = some false then none
    else if _ then none
    else if (!shows placement.binding.kind
      (field.accessIn placement.binding.name placement.entity.fieldDefaults)) = true then none
    else some (field.entryIn placement.entity placement.binding entities)) = _
  simp only [Field.isShownIn_iff]
  split
  · rename_i homitted
    rw [if_neg fun h => h.1 homitted]
  · rename_i hincluded
    split
    · rename_i hbarred
      simp only [Bool.and_eq_true, decide_eq_true_eq, Bool.not_eq_true'] at hbarred
      rw [if_neg fun h => h.2.1 ⟨hbarred.1.1, hbarred.1.2, hbarred.2⟩]
    · rename_i hopted
      simp only [Bool.and_eq_true, decide_eq_true_eq, Bool.not_eq_true'] at hopted
      split
      · rename_i hhidden
        rw [if_neg fun h => by simp [h.2.2] at hhidden]
      · rename_i hshown
        rw [if_pos ⟨hincluded, fun h => hopted ⟨⟨h.1, h.2.1⟩, h.2.2⟩, by simpa using hshown⟩]

theorem fields_viewOf {placement : Placement}
    (hdefaults : placement.entity.fieldDefaults.IsFieldDefault)
    (hkind : placement.binding.kind ≠ .enum) :
    (viewOf entities placement).fields =
      (placement.entity.fields.filter
        fun field => field.IsShownIn placement.entity placement.binding).map
        fun field => field.entryIn placement.entity placement.binding entities := by
  rw [viewOf, if_neg hkind]
  simp only
  induction placement.entity.fields with
  | nil => rfl
  | cons field rest ih =>
      by_cases hshown : field.IsShownIn placement.entity placement.binding
      · rw [List.filterMap_cons_some (by rw [viewField_eq hdefaults, if_pos hshown]), ih,
          List.filter_cons_of_pos (by simpa using hshown), List.map_cons]
      · rw [List.filterMap_cons_none (by rw [viewField_eq hdefaults, if_neg hshown]), ih,
          List.filter_cons_of_neg (by simpa using hshown)]

theorem fields_of_mem_views (hview : view ∈ (resolve mapping entities).views)
    (hdefaults : view.entity.fieldDefaults.IsFieldDefault) (hkind : view.kind ≠ .enum) :
    view.fields =
      (view.entity.fields.filter fun field => field.IsShownIn view.entity
        view.placement.binding).map
        fun field => field.entryIn view.entity view.placement.binding (byOrder entities) := by
  conv_lhs => rw [view_eq_viewOf hview]
  exact fields_viewOf hdefaults hkind

/-- An object or input view of built entities shows exactly the fields that the rules place there,
in the order of its entity, and says of each what its most specific rules say. -/
theorem fields_eq_shown (hbuilt : ∀ entity ∈ entities, entity.IsBuilt)
    (hview : view ∈ (resolve mapping entities).views) (hkind : view.kind ≠ .enum) :
    view.entity ∈ entities ∧ view.placement.binding ∈ view.entity.bindings ∧
      view.fields =
        (view.entity.fields.filter fun field => field.IsShownIn view.entity
          view.placement.binding).map
          fun field => field.entryIn view.entity view.placement.binding (byOrder entities) := by
  have hentity := entity_mem hview
  exact ⟨hentity, binding_mem hview,
    fields_of_mem_views hview (hbuilt _ hentity).isFieldDefault hkind⟩

def accountAdmin : View :=
  viewOf [account] ⟨0, account, ⟨"Admin", .object, none, 1⟩⟩

theorem fields_eq_shown_account : (∀ entity ∈ [account], entity.IsBuilt) ∧
    accountAdmin ∈ (resolve ⟨TypeMapping.defaults⟩ [account]).views ∧ accountAdmin.kind ≠ .enum ∧
    accountAdmin.fields.map (fun field => (field.name, field.access)) =
      [("id", .readWrite), ("role", .readOnly)] := by
  have hview : accountAdmin ∈ (resolve ⟨TypeMapping.defaults⟩ [account]).views := by decide +kernel
  have hkind : accountAdmin.kind ≠ .enum := by decide
  refine ⟨isBuilt_of_mem_account, hview, hkind, ?_⟩
  rw [(fields_eq_shown isBuilt_of_mem_account hview hkind).2.2]
  decide +kernel

end Schema

end SchemaViews
