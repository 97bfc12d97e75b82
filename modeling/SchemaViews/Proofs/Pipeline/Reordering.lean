import Mathlib.Data.List.Perm.Basic
import SchemaViews.Proofs.Pipeline.Kinds
import SchemaViews.Proofs.Schema.Occurrences

/-!
# The order of entities

Entities come in an order, and of several with one name the first one wins. If no name is given
twice there is nothing to win: another order of the entities changes the order of the views and of
the issues, and nothing else.
-/

namespace SchemaViews

open SchemaViews.Schema (boundPairs)

def Entity.unordered (entity : Entity) : Entity :=
  { entity with order := 0 }

@[simp]
theorem Entity.ignoreAll_unordered (entity : Entity) :
    entity.unordered.ignoreAll = entity.ignoreAll :=
  rfl

@[simp]
theorem Entity.bindings_unordered (entity : Entity) : entity.unordered.bindings = entity.bindings :=
  rfl

def Placement.unordered (placement : Placement) : Placement :=
  ⟨0, placement.entity.unordered, placement.binding⟩

/-- The view apart from the place of its entity. Its name, kind and description, its mode, its
fields and its values are kept. -/
def View.unordered (view : View) : View :=
  { view with placement := view.placement.unordered }

section Keys

variable {α β γ κ : Type}

/-- A search that can find one element only does not depend on the order of the list. -/
theorem find?_eq_of_perm {items others : List α} {test : α → Bool} (hperm : items.Perm others)
    (hunique : ∀ item ∈ items, ∀ other ∈ items, test item = true → test other = true →
      item = other) : items.find? test = others.find? test := by
  cases hfound : items.find? test with
  | none =>
      refine (List.find?_eq_none.2 fun other hother => ?_).symm
      exact List.find?_eq_none.1 hfound other (hperm.mem_iff.2 hother)
  | some item =>
      have hitem := List.find?_some hfound
      cases hother : others.find? test with
      | none =>
          exact absurd hitem
            (List.find?_eq_none.1 hother item (hperm.subset (List.mem_of_find?_eq_some hfound)))
      | some other =>
          have hmem := hperm.mem_iff.2 (List.mem_of_find?_eq_some hother)
          rw [hunique item (List.mem_of_find?_eq_some hfound) other hmem hitem
            (List.find?_some hother)]

/-- What two lists with the same keys are made into, if it depends on the keys only, is
the same in another order. -/
theorem flatMap_perm_of_keys {items : List α} {others : List β} {key : α → κ} {otherKey : β → κ}
    {f : α → List γ} {g : β → List γ} (hperm : (items.map key).Perm (others.map otherKey))
    (hsame : ∀ item ∈ items, ∀ other ∈ others, key item = otherKey other → f item = g other) :
    (items.flatMap f).Perm (others.flatMap g) := by
  have hkeys :
      List.Forall₂ (fun found other => found = otherKey other) (others.map otherKey) others :=
    List.forall₂_map_left_iff.2 (List.forall₂_same.2 fun _ _ => rfl)
  obtain ⟨matched, hmatched, hothers⟩ := List.perm_comp_forall₂ hperm hkeys
  rw [List.forall₂_map_left_iff] at hmatched
  have hflat : items.flatMap f = matched.flatMap g := by
    replace hsame : ∀ item ∈ items, ∀ other ∈ matched, key item = otherKey other →
      f item = g other :=
      fun item hitem other hother => hsame item hitem other (hothers.subset hother)
    clear hothers hperm hkeys
    induction hmatched with
    | nil => rfl
    | cons hkey _ ih =>
        rw [List.flatMap_cons, List.flatMap_cons,
          hsame _ List.mem_cons_self _ List.mem_cons_self hkey, ih fun item hitem other hother =>
            hsame item (List.mem_cons_of_mem _ hitem) other (List.mem_cons_of_mem _ hother)]
  rw [hflat]
  exact hothers.flatMap_right g

theorem map_perm_of_keys {items : List α} {others : List β} {key : α → κ} {otherKey : β → κ}
    {f : α → γ} {g : β → γ} (hperm : (items.map key).Perm (others.map otherKey))
    (hsame : ∀ item ∈ items, ∀ other ∈ others, key item = otherKey other → f item = g other) :
    (items.map f).Perm (others.map g) := by
  rw [List.map_eq_flatMap, List.map_eq_flatMap]
  exact flatMap_perm_of_keys hperm fun item hitem other hother hkey => by
    rw [hsame item hitem other hother hkey]

end Keys

namespace Schema

variable {mapping : TypeMapping} {entities others : List Entity}

/-- The same entities up to their places in the order: their order values are others, or they stand
in other places of the list. -/
def IsReordering (entities others : List Entity) : Prop :=
  (entities.map Entity.unordered).Perm (others.map Entity.unordered)

/-- No two bindings that ask for a view have one name, and no two bound
entities have one declared name. -/
structure IsUnambiguous (entities : List Entity) : Prop where
  bindings : ((boundPairs entities).map fun pair => pair.2.name).Nodup
  declared : ((entities.filter Entity.isBound).map (·.declaredName)).Nodup

theorem isReordering_byOrder : IsReordering entities (byOrder entities) :=
  byOrder_perm.symm.map _

theorem boundNames_eq (entities : List Entity) :
    ((boundPairs entities).map fun pair => pair.2.name) =
      entities.flatMap fun entity =>
        if entity.ignoreAll then [] else entity.bindings.map (·.name) := by
  induction entities with
  | nil => rfl
  | cons entity rest ih =>
      rw [List.flatMap_cons, ← ih]
      cases hignored : entity.ignoreAll <;> simp [boundPairs, hignored]

namespace IsReordering

theorem symm (h : IsReordering entities others) : IsReordering others entities :=
  List.Perm.symm h

theorem byOrder (h : IsReordering entities others) :
    IsReordering (byOrder entities) (byOrder others) :=
  (isReordering_byOrder.symm.trans h).trans isReordering_byOrder

theorem flatMap_perm {α : Type} (h : IsReordering entities others) (f : Entity → List α)
    (hplace : ∀ entity, f entity.unordered = f entity) :
    (entities.flatMap f).Perm (others.flatMap f) := by
  have hmapped := List.Perm.flatMap_right f h
  simpa only [List.flatMap_map, hplace] using hmapped

theorem isUnambiguous (h : IsReordering entities others) (hnames : IsUnambiguous entities) :
    IsUnambiguous others := by
  have hdeclared (entities : List Entity) :
      ((entities.filter Entity.isBound).map (·.declaredName)) =
        ((entities.map Entity.unordered).filter Entity.isBound).map (·.declaredName) := by
    rw [List.filter_map, List.map_map]
    rfl
  constructor
  · refine List.Perm.nodup ?_ hnames.bindings
    rw [boundNames_eq, boundNames_eq]
    exact h.flatMap_perm _ fun entity => rfl
  · have hnodup := hnames.declared
    rw [hdeclared] at hnodup ⊢
    exact ((h.filter _).map _).nodup hnodup

end IsReordering

section Targets

variable {name : List Char}

theorem target?_unordered :
    target? (entities.map Entity.unordered) name =
      (target? entities name).map Entity.unordered := by
  rw [target?, List.find?_map]
  rfl

theorem IsReordering.target?_eq (h : IsReordering entities others)
    (hnames : IsUnambiguous entities) :
    (target? entities name).map Entity.unordered = (target? others name).map Entity.unordered := by
  rw [← target?_unordered, ← target?_unordered]
  refine find?_eq_of_perm h fun entity hentity other hother hbound hnamed => ?_
  obtain ⟨hbound, hname⟩ := Bool.and_eq_true_iff.1 hbound
  obtain ⟨hbound', hname'⟩ := Bool.and_eq_true_iff.1 hnamed
  have hdeclared : entity.declaredName = other.declaredName :=
    String.toList_injective ((beq_iff_eq.1 hname).trans (beq_iff_eq.1 hname').symm)
  obtain ⟨first, hfirst, rfl⟩ := List.mem_map.1 hentity
  obtain ⟨second, hsecond, rfl⟩ := List.mem_map.1 hother
  have hsame : first = second :=
    List.inj_on_of_nodup_map hnames.declared (List.mem_filter.2 ⟨hfirst, hbound⟩)
    (List.mem_filter.2 ⟨hsecond, hbound'⟩) hdeclared
  rw [hsame]

/-- How types are rewritten depends on the entities that declared names lead
to, apart from their places. -/
theorem rewriteType_congr (h : ∀ name, (target? entities name).map Entity.unordered =
    (target? others name).map Entity.unordered) : rewriteType entities = rewriteType others := by
  have hbinding (name : List Char) (kind : ViewKind) :
      ((target? entities name).bind fun entity => entity.referenceBinding? kind) =
        (target? others name).bind fun entity => entity.referenceBinding? kind := by
    have hbare (found : Option Entity) : (found.bind fun entity => entity.referenceBinding? kind) =
        (found.map Entity.unordered).bind fun entity => entity.referenceBinding? kind := by
      cases found <;> rfl
    rw [hbare, h, ← hbare]
  funext kind type
  unfold rewriteType
  simp only [hbinding]

theorem unordered_viewOf (h : rewriteType entities = rewriteType others)
    {placement other : Placement} (hsame : placement.unordered = other.unordered) :
    (viewOf entities placement).unordered = (viewOf others other).unordered := by
  have hbare (entities : List Entity) (placement : Placement) :
      (viewOf entities placement).unordered = viewOf entities placement.unordered := by
    by_cases henum : placement.binding.kind = .enum
    · have hkind : placement.unordered.binding.kind = .enum := henum
      rw [viewOf, viewOf, if_pos henum, if_pos hkind]
      rfl
    · have hkind : ¬placement.unordered.binding.kind = .enum := henum
      rw [viewOf, viewOf, if_neg henum, if_neg hkind]
      rfl
  have hviews : viewOf entities = viewOf others := by
    funext placement
    unfold viewOf viewField?
    rw [h]
  rw [hbare, hbare, hsame, hviews]

end Targets

section Views

namespace IsUnambiguous

theorem collisions_eq_nil (h : IsUnambiguous entities) (mapping : TypeMapping) :
    (resolve mapping entities).collisions = [] := by
  have hnodup := (isReordering_byOrder.isUnambiguous h).bindings
  rw [← pairs_placements, List.map_map] at hnodup
  exact laterPlacements_eq_nil hnodup fun _ _ hmem => by cases hmem

theorem views_eq (h : IsUnambiguous entities) (mapping : TypeMapping) :
    (resolve mapping entities).views =
      (placements (byOrder entities)).map (viewOf (byOrder entities)) := by
  rw [resolve, firstPlacements_eq_self (h.collisions_eq_nil mapping)]

end IsUnambiguous

theorem IsReordering.placements_perm (h : IsReordering entities others) :
    ((placements entities).map Placement.unordered).Perm
      ((placements others).map Placement.unordered) := by
  have hentity (entity : Entity) (owner : Nat) : (entity.placements owner).map Placement.unordered =
      if entity.unordered.ignoreAll then []
      else entity.unordered.bindings.map fun binding => ⟨0, entity.unordered, binding⟩ := by
    cases hignored : entity.ignoreAll <;> simp [Entity.placements, Placement.unordered, hignored]
  rw [map_placements hentity, map_placements hentity]
  exact flatMap_perm_of_keys h fun entity _ other _ hsame => by rw [hsame]

theorem IsReordering.views_perm (h : IsReordering entities others) (hnames : IsUnambiguous entities)
    (mapping : TypeMapping) :
    ((resolve mapping entities).views.map View.unordered).Perm
      ((resolve mapping others).views.map View.unordered) := by
  have hrewrite : rewriteType (Schema.byOrder entities) = rewriteType (Schema.byOrder others) :=
    rewriteType_congr fun name => h.byOrder.target?_eq (isReordering_byOrder.isUnambiguous hnames)
  rw [hnames.views_eq, (h.isUnambiguous hnames).views_eq, List.map_map, List.map_map]
  exact map_perm_of_keys h.byOrder.placements_perm fun _ _ _ _ hsame =>
    unordered_viewOf hrewrite hsame

/-- Scalars stand in alphabetical order, so they are determined by which ones there are. -/
theorem usedScalars_congr {views otherViews : List View}
    (h : ∀ name, UsesScalar mapping views name ↔ UsesScalar mapping otherViews name) :
    usedScalars mapping views = usedScalars mapping otherViews := by
  have hsorted (views : List View) :
      (usedScalars mapping views).Pairwise fun first second => decide (first ≤ second) = true := by
    refine List.pairwise_mergeSort (fun first second third hle hnext => ?_)
      (fun first second => ?_) _
    · exact decide_eq_true (String.le_trans (of_decide_eq_true hle) (of_decide_eq_true hnext))
    · rw [Bool.or_eq_true, decide_eq_true_eq, decide_eq_true_eq]
      exact String.le_total first second
  have hperm : (usedScalars mapping views).Perm (usedScalars mapping otherViews) := by
    refine (List.perm_ext_iff_of_nodup nodup_usedScalars nodup_usedScalars).2 fun name => ?_
    rw [mem_usedScalars_iff, mem_usedScalars_iff, h]
  refine List.Perm.eq_of_pairwise (fun first second _ _ hle hge => ?_) (hsorted views)
    (hsorted otherViews) hperm
  exact String.le_antisymm (of_decide_eq_true hle) (of_decide_eq_true hge)

theorem usesScalar_of_views_perm {views otherViews : List View} {name : String}
    (h : (views.map View.unordered).Perm (otherViews.map View.unordered))
    (huses : UsesScalar mapping views name) : UsesScalar mapping otherViews name := by
  obtain ⟨hscalar, view, hview, field, hfield, hbase⟩ := huses
  obtain ⟨other, hother, hsame⟩ := List.mem_map.1 (h.subset (List.mem_map_of_mem hview))
  have hfields : other.unordered.fields = view.unordered.fields := by rw [hsame]
  have hmem : field ∈ other.unordered.fields := by rwa [hfields]
  exact ⟨hscalar, other, hother, field, hmem, hbase⟩

end Views

section Issues

variable {schema other : Schema} {owner place : Nat} {entity same : Entity}

theorem IsUnambiguous.bindings_viewsOf (h : IsUnambiguous entities)
    (hplace : (byOrder entities)[owner]? = some entity) (hignored : entity.ignoreAll = false) :
    ((resolve mapping entities).viewsOf owner).map (·.placement.binding) = entity.bindings := by
  have hfilter :
      (fun view : View => decide (view.placement.owner = owner)) ∘ viewOf (byOrder entities) =
        fun placement => decide (placement.owner = owner) := by
    funext placement
    rw [Function.comp_apply, placement_viewOf]
  have hbinding : (fun view : View => view.placement.binding) ∘ viewOf (byOrder entities) =
      Placement.binding := by
    funext placement
    rw [Function.comp_apply, placement_viewOf]
  calc
    ((resolve mapping entities).viewsOf owner).map (·.placement.binding) =
        (((placements (byOrder entities)).filter
          (fun placement => placement.owner = owner)).map (viewOf (byOrder entities))).map
            (·.placement.binding) := by
      rw [viewsOf, h.views_eq, List.filter_map, hfilter]
    _ = (entity.placements owner).map Placement.binding := by
      rw [filter_owner_placements hplace, List.map_map, hbinding]
    _ = entity.bindings.map id := by
      rw [Entity.placements, if_neg (Bool.eq_false_iff.1 hignored), List.map_map]
      rfl
    _ = entity.bindings := List.map_id _

theorem placementIssues_congr {field : Field} {conflicts : List Issue}
    (h : (schema.viewsOf owner).map (·.placement.binding) =
      (other.viewsOf place).map (·.placement.binding)) :
    schema.placementIssues owner entity field conflicts =
      other.placementIssues place entity field conflicts := by
  -- of each view only its binding is looked at
  have hbindings (schema : Schema) (owner : Nat) :
      schema.placementIssues owner entity field conflicts =
      ((schema.viewsOf owner).map (·.placement.binding)).filterMap fun binding =>
        let disputed :=
          (conflicts.filter fun issue => issue.kind = .conflictingMutability).map (·.view)
        if disputed.contains (some binding.name) || binding.kind = .enum ||
          !field.namesView binding.name then none
        else
          (placementCause? entity field { placement := ⟨owner, entity, binding⟩ }).map fun cause =>
            ⟨cause, entity.declaredName, some field.declaredName, some binding.name⟩ := by
    rw [List.filterMap_map]
    rfl
  rw [hbindings, hbindings, h]
  rfl

theorem entityIssues_congr (hviews : ∀ name, schema.hasView name = other.hasView name)
    (hbindings : entity.ignoreAll = false →
      (schema.viewsOf owner).map (·.placement.binding) =
      (other.viewsOf place).map (·.placement.binding)) (hsame : entity.unordered = same.unordered) :
    schema.entityIssues owner entity = other.entityIssues place same := by
  have hvalues (entity : Entity) (earlier values : List EnumValue) :
      valueIssues entity.unordered earlier values = valueIssues entity earlier values := by
    induction values generalizing earlier with
    | nil => rfl
    | cons value rest ih =>
        unfold valueIssues
        simp only [ih]
        rfl
  have hbare (schema : Schema) (owner : Nat) (entity : Entity) :
      schema.entityIssues owner entity = schema.entityIssues owner entity.unordered := by
    unfold entityIssues
    rw [hvalues]
    rfl
  have hplaced : schema.entityIssues owner entity = other.entityIssues place entity := by
    unfold entityIssues
    split
    · rfl
    · rename_i hignored
      have hfields : schema.fieldIssues owner entity = other.fieldIssues place entity := by
        funext field
        rw [fieldIssues, fieldIssues,
          placementIssues_congr (hbindings (Bool.eq_false_iff.2 hignored))]
        simp only [referenceIssues, hviews]
      rw [hfields]
  rw [hplaced, hbare, hsame, ← hbare]

theorem IsReordering.viewNames_perm (h : IsReordering entities others)
    (hnames : IsUnambiguous entities) (mapping : TypeMapping) :
    (resolve mapping entities).viewNames.Perm (resolve mapping others).viewNames :=
  map_perm_of_keys (h.views_perm hnames mapping) fun view _ other _ hsame => by
    have hname : view.unordered.name = other.unordered.name := by rw [hsame]
    exact hname

theorem IsReordering.entityIssues_perm (h : IsReordering entities others)
    (hnames : IsUnambiguous entities)
    (mapping : TypeMapping) : ((Schema.byOrder entities).zipIdx.flatMap fun (entity, owner) =>
        (resolve mapping entities).entityIssues owner entity).Perm
      ((Schema.byOrder others).zipIdx.flatMap
        fun (entity, owner) => (resolve mapping others).entityIssues owner entity) := by
  have hviews (name : String) : (resolve mapping entities).hasView name =
      (resolve mapping others).hasView name := by
    rw [hasView, hasView, Bool.eq_iff_iff, List.contains_iff_mem, List.contains_iff_mem]
    exact (h.viewNames_perm hnames mapping).mem_iff
  have hkeys (entities : List Entity) : entities.zipIdx.map (Entity.unordered ∘ Prod.fst) =
      entities.map Entity.unordered := by
    rw [← List.map_map, List.zipIdx_map_fst]
  have howned := h.byOrder
  rw [IsReordering, ← hkeys, ← hkeys] at howned
  refine flatMap_perm_of_keys howned ?_
  rintro ⟨entity, owner⟩ hentity ⟨same, place⟩ hplace hsame
  rw [List.mem_zipIdx_iff_getElem?] at hentity hplace
  replace hsame : entity.unordered = same.unordered := hsame
  refine entityIssues_congr hviews (fun hignored => ?_) hsame
  have hbindings : entity.unordered.bindings = same.unordered.bindings := by rw [hsame]
  have hkept : same.unordered.ignoreAll = entity.unordered.ignoreAll := by rw [hsame]
  rw [hnames.bindings_viewsOf hentity hignored,
    (h.isUnambiguous hnames).bindings_viewsOf hplace (hkept.trans hignored)]
  exact hbindings

theorem IsReordering.issues_perm (h : IsReordering entities others)
    (hnames : IsUnambiguous entities) (mapping : TypeMapping) :
    (resolve mapping entities).issues.Perm (resolve mapping others).issues := by
  have hnotes := h.byOrder.flatMap_perm Entity.notes fun _ => rfl
  have hbindings := h.byOrder.flatMap_perm bindingIssues fun _ => rfl
  have hviews : ((resolve mapping entities).views.flatMap viewIssues).Perm
      ((resolve mapping others).views.flatMap viewIssues) := by
    have hmapped := (h.views_perm hnames mapping).flatMap_right viewIssues
    rw [List.flatMap_map, List.flatMap_map] at hmapped
    exact hmapped
  rw [issues, issues, hnames.collisions_eq_nil, (h.isUnambiguous hnames).collisions_eq_nil]
  exact (((hnotes.append hbindings).append (.refl _)).append
    (h.entityIssues_perm hnames mapping)).append hviews

end Issues

/-- The order of the entities decides in which order views and issues come, and nothing else. If no
name is given twice, the same entities in another order have the same views by their names, the same
scalars, and the same issues. -/
theorem order_decides_order_only (mapping : TypeMapping) {entities others : List Entity}
    (hnames : IsUnambiguous entities) (h : IsReordering entities others) :
    (resolve mapping others).viewNames.Perm (resolve mapping entities).viewNames ∧
      (∀ name, ((resolve mapping others).view? name).map View.unordered =
        ((resolve mapping entities).view? name).map View.unordered) ∧
      (resolve mapping others).scalars = (resolve mapping entities).scalars ∧
      ∃ issues otherIssues, (resolve mapping entities).issues? = some issues ∧
        (resolve mapping others).issues? = some otherIssues ∧ otherIssues.Perm issues := by
  have hviews := h.views_perm hnames mapping
  refine ⟨(h.viewNames_perm hnames mapping).symm, fun name => ?_, ?_,
    _, _, issues?_resolve, issues?_resolve, (h.issues_perm hnames mapping).symm⟩
  · have hbare (schema : Schema) : (schema.view? name).map View.unordered =
        (schema.views.map View.unordered).find? fun view => view.name == name := by
      rw [view?, List.find?_map]
      rfl
    rw [hbare, hbare]
    refine (find?_eq_of_perm hviews fun view hview other hother hname hsame => ?_).symm
    obtain ⟨first, hfirst, rfl⟩ := List.mem_map.1 hview
    obtain ⟨second, hsecond, rfl⟩ := List.mem_map.1 hother
    rw [eq_of_name_eq hfirst hsecond ((beq_iff_eq.1 hname).trans (beq_iff_eq.1 hsame).symm)]
  · exact usedScalars_congr fun name =>
      ⟨usesScalar_of_views_perm hviews.symm, usesScalar_of_views_perm hviews⟩

open SchemaViews.Pipeline (letter address resolve_letter) in
theorem order_decides_order_only_letter :
    IsUnambiguous [letter, address] ∧
      IsReordering [letter, address] [{ letter with order := 2 }, address] ∧
      (resolve ⟨TypeMapping.defaults⟩ [{ letter with order := 2 }, address]).viewNames.Perm
        ["LetterInput", "Place"] ∧
      ((resolve ⟨TypeMapping.defaults⟩ [{ letter with order := 2 }, address]).view?
        "LetterInput").map
        (fun view => view.fields.map (·.typeName)) = some ["Place"] ∧
      (resolve ⟨TypeMapping.defaults⟩ [{ letter with order := 2 }, address]).issues? = some [] := by
  have hnames : IsUnambiguous [letter, address] := ⟨by decide, by decide⟩
  have hreordering : IsReordering [letter, address] [{ letter with order := 2 }, address] :=
    List.Perm.refl _
  obtain ⟨hviewNames, hview, -, issues, otherIssues, hissues, hothers, hperm⟩ :=
    order_decides_order_only ⟨TypeMapping.defaults⟩ hnames hreordering
  have htypes (found : Option View) : found.map (fun view => view.fields.map (·.typeName)) =
      (found.map View.unordered).map fun view => view.fields.map (·.typeName) := by
    cases found <;> rfl
  rw [resolve_letter] at hviewNames hview hissues
  have hnone : issues = [] := Option.some.inj (hissues.symm.trans (by decide +kernel))
  rw [hnone] at hperm
  refine ⟨hnames, hreordering, hviewNames, ?_, hothers.trans (by rw [hperm.eq_nil])⟩
  rw [htypes, hview, ← htypes]
  decide +kernel

end Schema

end SchemaViews
