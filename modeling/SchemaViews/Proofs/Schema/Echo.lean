import SchemaViews.Proofs.Pipeline.Reordering
import SchemaViews.Proofs.Schema.Outline

/-!
# Rules that say the same

A schema never looks at the rules of a field themselves. All that it reads of them is listed here,
and fields with other rules that say the same can take the place of those of an entity: the views,
the scalars and the issues stay what they are.
-/

namespace SchemaViews

/-- A field with other rules that say the same. -/
structure Field.Echoes (field other : Field) : Prop where
  eq_up_to_rules : other = { field with rules := other.rules }
  defaultPolicy : other.defaultPolicy = field.defaultPolicy
  viewPolicy : ∀ view, other.viewPolicy view = field.viewPolicy view
  namesView : ∀ view, other.namesView view = field.namesView view
  includedEverywhere : other.rules.any Field.includedEverywhere =
    field.rules.any Field.includedEverywhere
  isConstrained : other.isConstrained = field.isConstrained
  referencedViews : other.referencedViews = field.referencedViews
  disputes : other.disputes = field.disputes
  opposing : ∀ dispute scope, other.opposing dispute scope = field.opposing dispute scope

structure Entity.Echoes (entity other : Entity) : Prop where
  outline : entity.outline = other.outline
  fields : List.Forall₂ Field.Echoes entity.fields other.fields

/-- A view with the same name, kind, mode and members, of an entity whose fields have
other rules that say the same. -/
structure View.Echoes (view other : View) : Prop where
  owner : other.placement.owner = view.placement.owner
  binding : other.placement.binding = view.placement.binding
  entity : view.entity.Echoes other.entity
  mode : other.mode = view.mode
  fields : other.fields = view.fields
  values : other.values = view.values

namespace Field.Echoes

variable {field other : Field} (h : field.Echoes other)
include h

theorem policyFor (view : String) (defaults : Policy) :
    other.policyFor view defaults = field.policyFor view defaults := by
  rw [Field.policyFor, Field.policyFor, h.viewPolicy, h.defaultPolicy]

theorem targets (view : String) : other.targets view = field.targets view := by
  rw [Field.targets, Field.targets, h.namesView, h.includedEverywhere]

theorem declaredName : other.declaredName = field.declaredName := by
  rw [h.eq_up_to_rules]

theorem viewField? (entities : List Entity) (placement : Placement) (mode : InclusionMode) :
    Schema.viewField? entities placement mode other =
      Schema.viewField? entities placement mode field := by
  simp only [Schema.viewField?, h.policyFor, h.targets, h.isConstrained]
  rw [h.eq_up_to_rules]

theorem conflicts {entity otherEntity : Entity} (hentity : entity.outline = otherEntity.outline) :
    other.conflicts otherEntity = field.conflicts entity := by
  have hname : entity.declaredName = otherEntity.declaredName :=
    Entity.value_eq_of_outline hentity Entity.declaredName fun _ => rfl
  have hviews : conflictViews entity = conflictViews otherEntity :=
    Entity.value_eq_of_outline hentity conflictViews fun _ => rfl
  simp only [Field.conflicts, h.disputes, h.opposing, h.declaredName, hname, hviews]

end Field.Echoes

theorem Entity.Echoes.inclusionMode {entity other : Entity} (h : entity.Echoes other)
    (binding : Binding) : other.inclusionMode binding = entity.inclusionMode binding := by
  have hnamed : other.fields.any (fun field => field.namesView binding.name) =
      entity.fields.any fun field => field.namesView binding.name := by
    obtain ⟨-, hfields⟩ := h
    generalize entity.fields = fields, other.fields = otherFields at hfields
    induction hfields with
    | nil => rfl
    | cons hfield _ ih => rw [List.any_cons, List.any_cons, hfield.namesView, ih]
  have hbindings : entity.bindingsOf = other.bindingsOf :=
    Entity.value_eq_of_outline h.outline Entity.bindingsOf fun _ => rfl
  rw [Entity.inclusionMode, Entity.inclusionMode, hnamed, hbindings]

theorem Entity.Echoes.value_eq {α : Type} {entity other : Entity} (h : entity.Echoes other)
    (value : Entity → α) (hvalue : ∀ entity : Entity, value entity.outline = value entity) :
    value other = value entity :=
  Entity.value_eq_of_outline h.outline.symm value hvalue

namespace View.Echoes

variable {view other : View} (h : view.Echoes other)
include h

theorem name_eq : other.name = view.name :=
  congrArg Binding.name h.binding

theorem kind_eq : other.kind = view.kind :=
  congrArg Binding.kind h.binding

theorem declaredName_eq : other.entity.declaredName = view.entity.declaredName :=
  h.entity.value_eq Entity.declaredName fun _ => rfl

theorem viewIssues_eq : Schema.viewIssues other = Schema.viewIssues view := by
  have hnames : other.memberNames = view.memberNames := by
    rw [View.memberNames, View.memberNames, h.kind_eq, h.fields, h.values]
  rw [Schema.viewIssues, Schema.viewIssues, h.name_eq, h.kind_eq, h.declaredName_eq, h.fields,
    hnames]

end View.Echoes

namespace Schema

section Views

variable {entities others : List Entity}

theorem echoes_viewOf (entities : List Entity) {placement other : Placement}
    (hplacement : placement.Replaced Entity.Echoes other) :
    (viewOf entities placement).Echoes (viewOf entities other) := by
  obtain ⟨_, entity, _⟩ := placement
  obtain ⟨owner, otherEntity, binding⟩ := other
  obtain ⟨rfl, rfl, hentity⟩ := hplacement
  replace hentity : entity.Echoes otherEntity := hentity
  by_cases henum : binding.kind = .enum
  · simp only [viewOf, henum, if_true]
    exact ⟨rfl, rfl, hentity, rfl, rfl, hentity.value_eq Entity.values fun _ => rfl⟩
  · simp only [viewOf, henum, if_false, hentity.inclusionMode]
    refine ⟨rfl, rfl, hentity, rfl, ?_, rfl⟩
    refine (filterMap_eq_of_forall₂ hentity.fields fun field other hfield => ?_).symm
    rw [hfield.viewField?, Entity.eq_of_outline hentity.outline, viewField?_withFields]

/-- A schema with the same views, scalars and names, of entities whose fields have
other rules that say the same. -/
structure Echoes (schema other : Schema) : Prop where
  entities : List.Forall₂ Entity.Echoes schema.entities other.entities
  views : List.Forall₂ View.Echoes schema.views other.views
  collisions : List.Forall₂ (Placement.Replaced Entity.Echoes) schema.collisions other.collisions
  scalars : other.scalars = schema.scalars

theorem echoes_resolve (mapping : TypeMapping) (h : List.Forall₂ Entity.Echoes entities others) :
    (resolve mapping entities).Echoes (resolve mapping others) := by
  have houtline (entity other : Entity) (hentity : entity.Echoes other) := hentity.outline
  have hviews := forall₂_views houtline h mapping fun _ _ => echoes_viewOf (byOrder entities)
  have hfields : (resolve mapping others).views.flatMap View.fields =
      (resolve mapping entities).views.flatMap View.fields :=
    (flatMap_eq_of_forall₂ hviews fun _ _ hview => hview.fields.symm).symm
  refine ⟨forall₂_entities houtline h, hviews, forall₂_collisions houtline h mapping, ?_⟩
  change usedScalars mapping (resolve mapping others).views =
    usedScalars mapping (resolve mapping entities).views
  simp only [usedScalars, hfields]

end Views

namespace Echoes

variable {schema other : Schema} (h : schema.Echoes other)
include h

theorem hasView_eq (name : String) : other.hasView name = schema.hasView name := by
  have hnames : schema.viewNames = other.viewNames :=
    map_eq_of_forall₂ h.views fun _ _ hview => hview.name_eq.symm
  rw [hasView, hasView, hnames]

theorem bindings_viewsOf (owner : Nat) :
    (other.viewsOf owner).map (·.placement.binding) =
      (schema.viewsOf owner).map (·.placement.binding) := by
  refine (map_eq_of_forall₂ (List.rel_filter (fun view other hview => ?_) h.views)
    fun _ _ hview => ?_).symm
  · simp only [hview.owner]
  · exact hview.binding.symm

theorem collisionIssue?_eq {collision otherCollision : Placement}
    (hcollision : collision.Replaced Entity.Echoes otherCollision) :
    other.collisionIssue? otherCollision = schema.collisionIssue? collision := by
  have hname : otherCollision.entity.declaredName = collision.entity.declaredName :=
    hcollision.entity.value_eq Entity.declaredName fun _ => rfl
  simp only [collisionIssue?, hcollision.binding, hname, hcollision.owner]
  refine (map_eq_of_rel (rel_find? h.views fun view other hview => ?_)
    fun holder otherHolder hholder => ?_).symm
  · rw [hview.name_eq]
  · simp only [hholder.owner, hholder.declaredName_eq]

theorem fieldIssues_eq (owner : Nat) {entity otherEntity : Entity}
    (hentity : entity.outline = otherEntity.outline) {field otherField : Field}
    (hfield : field.Echoes otherField) :
    other.fieldIssues owner otherEntity otherField = schema.fieldIssues owner entity field := by
  have hname : otherEntity.declaredName = entity.declaredName :=
    Entity.value_eq_of_outline hentity.symm Entity.declaredName fun _ => rfl
  have hdefaults : otherEntity.fieldDefaults = entity.fieldDefaults :=
    Entity.value_eq_of_outline hentity.symm Entity.fieldDefaults fun _ => rfl
  have hcause : placementCause? otherEntity otherField = placementCause? entity field := by
    funext view
    simp only [placementCause?, hfield.policyFor, hdefaults]
  have hplaced (conflicts : List Issue) :
      other.placementIssues owner otherEntity otherField conflicts =
        schema.placementIssues owner entity field conflicts := by
    rw [← placementIssues_congr (h.bindings_viewsOf owner)]
    simp only [placementIssues, hfield.namesView, hcause, hname, hfield.declaredName]
  have hreferences : other.referenceIssues otherEntity otherField =
      schema.referenceIssues entity field := by
    simp only [referenceIssues, hfield.referencedViews, h.hasView_eq, hname, hfield.declaredName]
  rw [fieldIssues, fieldIssues, hreferences, hfield.conflicts hentity, hplaced]

theorem entityIssues_eq (owner : Nat) {entity otherEntity : Entity}
    (hentity : entity.Echoes otherEntity) :
    other.entityIssues owner otherEntity = schema.entityIssues owner entity := by
  have hignored : otherEntity.ignoreAll = entity.ignoreAll :=
    hentity.value_eq Entity.ignoreAll fun _ => rfl
  have hvalues : valueIssues otherEntity [] otherEntity.values =
      valueIssues entity [] entity.values :=
    hentity.value_eq (fun entity => valueIssues entity [] entity.values) fun entity =>
      valueIssues_outline entity [] _
  rw [entityIssues, entityIssues, hignored, hvalues]
  split
  · rfl
  · rw [flatMap_eq_of_forall₂ hentity.fields
      fun _ _ hfield => (h.fieldIssues_eq owner hentity.outline hfield).symm]

theorem entitiesIssues_eq :
    (schema.entities.zipIdx.flatMap fun (entity, owner) => schema.entityIssues owner entity) =
      other.entities.zipIdx.flatMap fun (entity, owner) => other.entityIssues owner entity := by
  refine flatMap_eq_of_forall₂ (forall₂_zipIdx h.entities 0) ?_
  rintro ⟨entity, owner⟩ ⟨otherEntity, _⟩ ⟨hentity, rfl⟩
  exact (h.entityIssues_eq owner hentity).symm

theorem issues_eq : other.issues = schema.issues := by
  have hnotes : schema.entities.flatMap (·.notes) = other.entities.flatMap (·.notes) :=
    flatMap_eq_of_forall₂ h.entities fun _ _ hentity =>
      (hentity.value_eq Entity.notes fun _ => rfl).symm
  have hbindings : schema.entities.flatMap bindingIssues = other.entities.flatMap bindingIssues :=
    flatMap_eq_of_forall₂ h.entities fun _ _ hentity =>
      (hentity.value_eq bindingIssues fun _ => rfl).symm
  have hcollisions : schema.collisions.filterMap schema.collisionIssue? =
      other.collisions.filterMap other.collisionIssue? :=
    filterMap_eq_of_forall₂ h.collisions fun _ _ hcollision =>
      (h.collisionIssue?_eq hcollision).symm
  have hviews : schema.views.flatMap viewIssues = other.views.flatMap viewIssues :=
    flatMap_eq_of_forall₂ h.views fun _ _ hview => hview.viewIssues_eq.symm
  calc
    other.issues =
        other.entities.flatMap (·.notes) ++ other.entities.flatMap bindingIssues ++
          other.collisions.filterMap other.collisionIssue? ++
          schema.entities.zipIdx.flatMap
          (fun (entity, owner) => schema.entityIssues owner entity) ++
          other.views.flatMap viewIssues := by rw [issues, h.entitiesIssues_eq]
    _ = schema.issues := by rw [← hnotes, ← hbindings, ← hcollisions, ← hviews, issues]

end Echoes

end Schema

end SchemaViews
