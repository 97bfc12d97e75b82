import Mathlib.Data.List.Forall2
import SchemaViews.Proofs.Schema.Collisions
import SchemaViews.Proofs.Schema.TypeParts

/-!
# References between entities

The declared name of an entity may stand in the type of a field. In a view it is replaced by the
name of a view of that entity, and the brackets and marks around it are kept. Of several
entities with one declared name the first by order is meant, and as long as no name is taken
twice the new name leads back to it.
-/

namespace SchemaViews

namespace Entity

/-- A declared name may stand for an entity that has a name in the schema. -/
structure IsNamed (name : List Char) (entity : Entity) : Prop where
  notIgnored : entity.ignoreAll = false
  bound : entity.bindings ≠ []
  declaredName : entity.declaredName.toList = name

/-- Of the entities that a declared name may stand for, the first one by order, and the first of the
list among those of one order. -/
structure IsReferent (entities : List Entity) (name : List Char) (entity : Entity) : Prop where
  isNamed : entity.IsNamed name
  first : ∃ before after, entities = before ++ entity :: after ∧
    (∀ other ∈ before, other.IsNamed name → entity.order < other.order) ∧
    ∀ other ∈ after, other.IsNamed name → entity.order ≤ other.order

variable {entities : List Entity} {name : List Char} {entity other : Entity}

theorem isNamed_iff : (entity.isBound && entity.declaredName.toList == name) = true ↔
      entity.IsNamed name := by
  simp only [isBound, Bool.and_eq_true, Bool.not_eq_true', List.isEmpty_eq_false_iff, beq_iff_eq]
  exact ⟨fun h => ⟨h.1.1, h.1.2, h.2⟩, fun h => ⟨⟨h.notIgnored, h.bound⟩, h.declaredName⟩⟩

theorem IsReferent.mem (h : IsReferent entities name entity) : entity ∈ entities := by
  obtain ⟨before, after, rfl, -⟩ := h.first
  exact List.mem_append_right _ List.mem_cons_self

theorem IsReferent.unique (h : IsReferent entities name entity)
    (hother : IsReferent entities name other) : entity = other := by
  obtain ⟨before, after, hcut, hbefore, hafter⟩ := h.first
  obtain ⟨before', after', hcut', hbefore', hafter'⟩ := hother.first
  rw [hcut] at hcut'
  rcases List.append_eq_append_iff.1 hcut' with ⟨between, rfl, hrest⟩ | ⟨between, rfl, hrest⟩
  · cases between with
    | nil => exact (List.cons.inj hrest).1
    | cons first between =>
        obtain ⟨rfl, rfl⟩ := List.cons.inj hrest
        have hle := hafter other (List.mem_append_right _ List.mem_cons_self) hother.isNamed
        have hlt := hbefore' entity (List.mem_append_right _ List.mem_cons_self) h.isNamed
        omega
  · cases between with
    | nil => exact (List.cons.inj hrest).1.symm
    | cons first between =>
        obtain ⟨rfl, rfl⟩ := List.cons.inj hrest
        have hle := hafter' entity (List.mem_append_right _ List.mem_cons_self) h.isNamed
        have hlt := hbefore other (List.mem_append_right _ List.mem_cons_self) hother.isNamed
        omega

/-- The binding that a reference from views of some kind leads to: the first enum binding of an
enum, else the first binding of that kind, else the first one of all. -/
structure IsReferenceBinding (entity : Entity) (kind : ViewKind) (binding : Binding) : Prop where
  mem : binding ∈ entity.bindings
  enum : entity.kind = .enum → (entity.bindingsOf .enum).head? = some binding
  own : entity.kind ≠ .enum → ∀ first, (entity.bindingsOf kind).head? = some first → binding = first
  fallback : entity.kind ≠ .enum → entity.bindingsOf kind = [] →
    entity.bindings.head? = some binding

theorem mem_bindingsOf {kind : ViewKind} {binding : Binding} :
    binding ∈ entity.bindingsOf kind ↔ binding ∈ entity.bindings ∧ binding.kind = kind := by
  rw [bindingsOf, List.mem_filter, decide_eq_true_eq]

theorem IsReferenceBinding.first_of_kind_ne {kind : ViewKind} {binding : Binding}
    (h : entity.IsReferenceBinding kind binding) (henum : binding.kind ≠ .enum)
    (hkind : binding.kind ≠ kind) :
    entity.bindings.head? = some binding ∧ entity.bindingsOf kind = [] := by
  have hnotEnum : entity.kind ≠ .enum := by
    intro hentity
    exact henum (mem_bindingsOf.1 (List.mem_of_head? (h.enum hentity))).2
  have hmissing : entity.bindingsOf kind = [] := by
    cases hown : entity.bindingsOf kind with
    | nil => rfl
    | cons first rest =>
        have hfirst := h.own hnotEnum first (by rw [hown, List.head?_cons])
        have hmem : first ∈ entity.bindingsOf kind := hown ▸ List.mem_cons_self
        rw [← hfirst] at hmem
        exact absurd (mem_bindingsOf.1 hmem).2 hkind
  exact ⟨h.fallback hnotEnum hmissing, hmissing⟩

theorem IsBuilt.exists_referenceBinding (h : entity.IsBuilt) (hbound : entity.bindings ≠ [])
    {kind : ViewKind} (hkind : kind ≠ .enum) :
    ∃ binding, entity.referenceBinding? kind = some binding ∧
      entity.IsReferenceBinding kind binding := by
  obtain ⟨first, rest, hbindings⟩ := List.exists_cons_of_ne_nil hbound
  have hhead : entity.bindings.head? = some first := by rw [hbindings, List.head?_cons]
  have hfirst : first ∈ entity.bindings := List.mem_of_head? hhead
  by_cases henum : entity.kind = .enum
  · have hof : (entity.bindingsOf .enum).head? = some first := by
      rw [bindingsOf, hbindings,
        List.filter_cons_of_pos (by simpa using (h.kind_eq_of_head? hhead).symm.trans henum),
        List.head?_cons]
    refine ⟨first, by rw [referenceBinding?, if_pos henum, hof], hfirst, fun _ => hof, ?_, ?_⟩
    · exact fun hnot => absurd henum hnot
    · exact fun hnot => absurd henum hnot
  · have hpreferred : (if kind = .input then ViewKind.input else .object) = kind := by
      cases kind with
      | object | input => rfl
      | enum => exact absurd rfl hkind
    have hchosen : entity.referenceBinding? kind =
        ((entity.bindingsOf kind).head?).or (some first) := by
      rw [referenceBinding?, if_neg henum]
      simp only [hpreferred, hhead]
    cases hown : (entity.bindingsOf kind).head? with
    | some own =>
        rw [hown, Option.some_or] at hchosen
        refine ⟨own, hchosen, List.mem_of_mem_filter (List.mem_of_head? hown),
          fun hnot => absurd hnot henum, ?_, ?_⟩
        · exact fun _ other hother => Option.some.inj (hown.symm.trans hother)
        · intro _ hnone
          rw [hnone] at hown
          cases hown
    | none =>
        rw [hown, Option.none_or] at hchosen
        refine ⟨first, hchosen, hfirst, fun hnot => absurd hnot henum, ?_, fun _ _ => hhead⟩
        intro _ other hother
        rw [hown] at hother
        cases hother

end Entity

/-- The type that a field has in a view before references are followed. -/
def Field.typeIn (field : Field) (view : String) : String :=
  Schema.textOr (Aspect.type.ofField field view) field.scalarType

namespace Schema

open Entity (IsReferent isNamed_iff)

variable {mapping : TypeMapping} {entities : List Entity} {name : List Char} {entity : Entity}

theorem target?_append (front back : List Entity) :
    target? (front ++ back) name = (target? front name).or (target? back name) :=
  List.find?_append

theorem target?_cons_of_isNamed (h : entity.IsNamed name) :
    target? (entity :: entities) name = some entity := by
  rw [target?, List.find?_cons, isNamed_iff.2 h]

theorem target?_cons_of_not_isNamed (h : ¬entity.IsNamed name) :
    target? (entity :: entities) name = target? entities name := by
  rw [target?, List.find?_cons, Bool.eq_false_iff.2 fun hnamed => h (isNamed_iff.1 hnamed)]
  rfl

theorem not_isNamed_of_target?_eq_none (h : target? entities name = none)
    (hmem : entity ∈ entities) : ¬entity.IsNamed name :=
  fun hnamed => List.find?_eq_none.1 h entity hmem (isNamed_iff.2 hnamed)

/-- Taking one more entity at the head of the list: in the order of the schema it stands behind
those of a lower order and in front of all others. -/
theorem byOrder_cons (first : Entity) (rest : List Entity) :
    ∃ lower others, byOrder (first :: rest) = lower ++ first :: others ∧
      byOrder rest = lower ++ others ∧
      (∀ entity ∈ lower, entity.order < first.order) ∧
      ∀ entity ∈ others, first.order ≤ entity.order := by
  obtain ⟨lower, others, hsorted, hrest, hlower⟩ :=
    List.mergeSort_cons order_trans order_total first rest
  have hpairs := List.pairwise_mergeSort order_trans order_total (first :: rest)
  rw [hsorted, List.pairwise_append, List.pairwise_cons] at hpairs
  refine ⟨lower, others, hsorted, hrest, fun entity hmem => ?_, fun entity hmem => ?_⟩
  · simpa using hlower entity hmem
  · simpa using hpairs.2.1.1 entity hmem

theorem isReferent_of_target? (h : target? (byOrder entities) name = some entity) :
    IsReferent entities name entity := by
  induction entities with
  | nil =>
      rw [byOrder, List.mergeSort_nil] at h
      cases h
  | cons first rest ih =>
      obtain ⟨lower, others, hsorted, hrest, hlower, hothers⟩ := byOrder_cons first rest
      rw [hsorted, target?_append] at h
      rw [hrest, target?_append] at ih
      -- an entity that is meant in the rest is meant still, unless `first` takes its place
      have hkeep (hreferent : IsReferent rest name entity) (hfirst : first.IsNamed name →
          entity.order < first.order) :
          IsReferent (first :: rest) name entity := by
        obtain ⟨before, after, rfl, hbefore, hafter⟩ := hreferent.first
        refine ⟨hreferent.isNamed, first :: before, after, rfl, fun other hmem hnamed => ?_, hafter⟩
        rcases List.mem_cons.1 hmem with rfl | hmem
        · exact hfirst hnamed
        · exact hbefore other hmem hnamed
      cases hlow : target? lower name with
      | some found =>
          rw [hlow, Option.some_or] at h ih
          exact hkeep (ih h) fun _ => hlower entity
            (Option.some.inj h ▸ List.mem_of_find?_eq_some hlow)
      | none =>
          rw [hlow, Option.none_or] at h ih
          by_cases hfirst : first.IsNamed name
          · rw [target?_cons_of_isNamed hfirst, Option.some.injEq] at h
            subst h
            refine ⟨hfirst, [], rest, rfl, fun other hmem => absurd hmem List.not_mem_nil,
              fun other hmem hnamed => ?_⟩
            have hother : other ∈ lower ++ others := hrest ▸ mem_byOrder.2 hmem
            rcases List.mem_append.1 hother with hmem | hmem
            · exact absurd hnamed (not_isNamed_of_target?_eq_none hlow hmem)
            · exact hothers other hmem
          · rw [target?_cons_of_not_isNamed hfirst] at h
            exact hkeep (ih h) fun hnamed => absurd hnamed hfirst

/-- The resolver finds the entity that a declared name stands for. -/
theorem target?_eq_some_iff : target? (byOrder entities) name = some entity ↔
      IsReferent entities name entity := by
  refine ⟨isReferent_of_target?, fun h => ?_⟩
  cases hfound : target? (byOrder entities) name with
  | none => exact absurd h.isNamed (not_isNamed_of_target?_eq_none hfound (mem_byOrder.2 h.mem))
  | some other => rw [(isReferent_of_target? hfound).unique h]

/-- A type refers to an entity: its parts are brackets, the declared name of the entity, and a rest
of the line. A newline at the very end of the type belongs to no part. -/
structure RefersTo (entities : List Entity) (type : String) (parts : TypeParts) (entity : Entity) :
    Prop where
  isExact : parts.IsExact
  type_eq : type.toList = parts.text ∨ type.toList = parts.text ++ ['\n']
  isReferent : IsReferent entities parts.name entity

section Rewriting

variable {kind : ViewKind} {type : String} {parts : TypeParts} {binding : Binding}

theorem refersTo_iff : RefersTo entities type parts entity ↔
    TypeParts.of? type.toList = some parts ∧ target? (byOrder entities) parts.name =
      some entity := by
  rw [TypeParts.of?_eq_some_iff, target?_eq_some_iff]
  exact ⟨fun h => ⟨⟨h.isExact, h.type_eq⟩, h.isReferent⟩, fun h => ⟨h.1.1, h.1.2, h.2⟩⟩

theorem RefersTo.rewriteType_eq (h : RefersTo entities type parts entity)
    (hbinding : entity.referenceBinding? kind = some binding) :
    (rewriteType (byOrder entities) kind type).toList = parts.opening ++ binding.name.toList ++
      parts.suffix := by
  obtain ⟨hparts, htarget⟩ := refersTo_iff.1 h
  simp only [rewriteType, hparts, htarget, Option.bind_some, hbinding, String.toList_ofList]

theorem rewriteType_eq_self (h : ¬∃ parts entity, RefersTo entities type parts entity) :
    rewriteType (byOrder entities) kind type = type := by
  unfold rewriteType
  cases hparts : TypeParts.of? type.toList with
  | none => rfl
  | some parts =>
      cases htarget : target? (byOrder entities) parts.name with
      | none => simp only [htarget, Option.bind_none]
      | some entity => exact absurd ⟨parts, entity, refersTo_iff.2 ⟨hparts, htarget⟩⟩ h

end Rewriting

/-- What becomes of a type in a view of some kind. If it names an entity, the name of one of the
views of that entity takes the place of the name, and any other type is kept. -/
structure LeadsTo (schema : Schema) (entities : List Entity) (kind : ViewKind)
    (type shown : String) : Prop where
  referent : ∀ (parts : TypeParts) (entity : Entity), RefersTo entities type parts entity →
    ∃ binding, entity.IsReferenceBinding kind binding ∧
      shown.toList = parts.opening ++ binding.name.toList ++ parts.suffix ∧
      (schema.IsUncontested → ∃ view, schema.view? binding.name = some view ∧ view.entity = entity)
  kept : (¬∃ parts entity, RefersTo entities type parts entity) → shown = type

theorem leadsTo_rewriteType (hbuilt : ∀ entity ∈ entities, entity.IsBuilt) {kind : ViewKind}
    (hkind : kind ≠ .enum) (type : String) :
    (resolve mapping entities).LeadsTo entities kind type
      (rewriteType (byOrder entities) kind type) where
  referent parts entity hrefers := by
    have hentity := hrefers.isReferent.mem
    obtain ⟨binding, hchosen, hbinding⟩ :=
      (hbuilt entity hentity).exists_referenceBinding hrefers.isReferent.isNamed.bound hkind
    refine ⟨binding, hbinding, hrefers.rewriteType_eq hchosen, fun huncontested => ?_⟩
    obtain ⟨view, hview, hsame, -⟩ :=
      huncontested.view?_binding hentity hrefers.isReferent.isNamed.notIgnored hbinding.mem
    exact ⟨view, hview, hsame⟩
  kept := rewriteType_eq_self

variable {view : View}

/-- In an object or input view of built entities, the type of each field leads to a view of the
entity that it names: the first one of the kind that is needed, if the entity has one. -/
theorem types_lead_to_own_views (hbuilt : ∀ entity ∈ entities, entity.IsBuilt)
    (hview : view ∈ (resolve mapping entities).views) (hkind : view.kind ≠ .enum) :
    List.Forall₂
      (fun field entry => entry.declaredName = field.declaredName ∧
        (resolve mapping entities).LeadsTo entities view.kind
          (field.typeIn view.name) entry.typeName)
      (view.entity.fields.filter fun field => field.IsShownIn view.entity view.placement.binding)
        view.fields := by
  rw [fields_of_mem_views hview (hbuilt _ (entity_mem hview)).isFieldDefault hkind,
    List.forall₂_map_right_iff, List.forall₂_same]
  exact fun field _ => ⟨rfl, leadsTo_rewriteType hbuilt hkind _⟩

def nodeDeclaration : Declaration where
  kind := .object
  declaredName := "Node"
  rawAnnotation := "@GqlType(name:Public) @GqlType(name:Admin) @GqlInput"
  members :=
    [{ declaredName := "Made", declaredType := "time.Time" },
      { declaredName := "Children", declaredType := "[]Node" }]

def node : Entity where
  kind := .object
  declaredName := "Node"
  bindings := [⟨"Public", .object, none, 0⟩, ⟨"Admin", .object, none, 1⟩,
    ⟨"NodeInput", .input, none, 2⟩]
  fields :=
    [{ declaredName := "Made", declaredType := "time.Time", outputName := "made",
       scalarType := "Time" },
      { declaredName := "Children", declaredType := "[]Node", outputName := "children",
        scalarType := "[Node]" }]

theorem isBuilt_of_mem_node : ∀ entity ∈ [node], entity.IsBuilt := by
  intro entity hmem
  rw [List.mem_singleton.1 hmem]
  exact ⟨{}, nodeDeclaration, 0, by decide +kernel⟩

def nodeInput : View :=
  viewOf [node] ⟨0, node, ⟨"NodeInput", .input, none, 2⟩⟩

theorem types_lead_to_own_views_node : (∀ entity ∈ [node], entity.IsBuilt) ∧
    nodeInput ∈ (resolve ⟨TypeMapping.defaults⟩ [node]).views ∧ nodeInput.kind ≠ .enum ∧
    nodeInput.fields.map ViewField.typeName = ["Time", "[NodeInput]"] ∧
    ∀ pair ∈ node.fields.zip nodeInput.fields,
      (resolve ⟨TypeMapping.defaults⟩ [node]).LeadsTo [node] .input
        (pair.1.typeIn nodeInput.name) pair.2.typeName := by
  have hview : nodeInput ∈ (resolve ⟨TypeMapping.defaults⟩ [node]).views := by decide +kernel
  have hkind : nodeInput.kind ≠ .enum := by decide
  have hleads := types_lead_to_own_views isBuilt_of_mem_node hview hkind
  have hshown : (nodeInput.entity.fields.filter fun field =>
      field.IsShownIn nodeInput.entity nodeInput.placement.binding) = node.fields := by
        decide +kernel
  rw [hshown, List.forall₂_iff_zip] at hleads
  refine ⟨isBuilt_of_mem_node, hview, hkind, by decide +kernel, fun pair hpair => ?_⟩
  exact (hleads.2 hpair).2

end Schema

end SchemaViews
