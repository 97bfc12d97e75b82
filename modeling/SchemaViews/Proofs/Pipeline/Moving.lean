import SchemaViews.Proofs.Entity.Ignored
import SchemaViews.Proofs.Pipeline.Reordering
import SchemaViews.Proofs.Related
import SchemaViews.Proofs.Schema.Addition

/-!
# Schemas whose entities stand elsewhere

In a schema an entity is known by its place. If the entities of a schema stand at other places in
another one, each at its own, and the ignored ones are left aside, nothing that is reported or
written differs between the two.
-/

namespace SchemaViews

structure Placement.Moves (place : Nat → Nat) (placement other : Placement) : Prop where
  owner : other.owner = place placement.owner
  unordered : placement.unordered = other.unordered

structure View.Moves (place : Nat → Nat) (view other : View) : Prop where
  owner : other.placement.owner = place view.placement.owner
  unordered : view.unordered = other.unordered

namespace View.Moves

variable {place : Nat → Nat} {view other : View}

theorem value_eq {α : Type} (h : view.Moves place other) (value : View → α)
    (hvalue : ∀ view : View, value view.unordered = value view) : value view = value other := by
  rw [← hvalue, h.unordered, hvalue]

theorem name_eq (h : view.Moves place other) : view.name = other.name :=
  h.value_eq View.name fun _ => rfl

theorem binding_eq (h : view.Moves place other) :
    view.placement.binding = other.placement.binding :=
  h.value_eq (fun view => view.placement.binding) fun _ => rfl

theorem fields_eq (h : view.Moves place other) : view.fields = other.fields :=
  h.value_eq View.fields fun _ => rfl

theorem declaredName_eq (h : view.Moves place other) :
    view.entity.declaredName = other.entity.declaredName :=
  h.value_eq (fun view => view.entity.declaredName) fun _ => rfl

end View.Moves

namespace Schema

/-- The entities that are not ignored, with their places. -/
def shownPlaces (entities : List Entity) : List (Entity × Nat) :=
  entities.zipIdx.filter fun entry => !entry.1.ignoreAll

theorem flatMap_shownPlaces {α : Type} {entities : List Entity} {f : Entity × Nat → List α}
    (h : ∀ entry ∈ entities.zipIdx, entry.1.ignoreAll = true → f entry = []) :
    entities.zipIdx.flatMap f = (shownPlaces entities).flatMap f := by
  rw [shownPlaces]
  generalize entities.zipIdx = entries at h
  induction entries with
  | nil => rfl
  | cons entry rest ih =>
      obtain ⟨hentry, hrest⟩ := List.forall_mem_cons.1 h
      rw [List.flatMap_cons, ih hrest]
      cases hignored : entry.1.ignoreAll with
      | true => rw [hentry hignored, List.filter_cons_of_neg (by simp [hignored]), List.nil_append]
      | false => rw [List.filter_cons_of_pos (by simp [hignored]), List.flatMap_cons]

theorem flatMap_eq_shownPlaces {α : Type} {entities : List Entity} {f : Entity → List α}
    (h : ∀ entity ∈ entities, entity.ignoreAll = true → f entity = []) :
    entities.flatMap f = (shownPlaces entities).flatMap fun entry => f entry.1 := by
  rw [← flatMap_shownPlaces, ← List.flatMap_map Prod.fst, List.zipIdx_map_fst]
  intro entry hentry hignored
  rw [← List.zipIdx_map_fst 0 entities] at h
  exact h entry.1 (List.mem_map_of_mem hentry) hignored

structure EntryMoves (place : Nat → Nat) (entry other : Entity × Nat) : Prop where
  owner : other.2 = place entry.2
  unordered : entry.1.unordered = other.1.unordered

/-- The entities of a schema stand at other places in another one, where some
ignored entities may come or go. -/
structure Moves (place : Nat → Nat) (schema other : Schema) : Prop where
  built : ∀ entity ∈ schema.entities ++ other.entities, entity.IsBuilt
  entities :
    List.Forall₂ (EntryMoves place) (shownPlaces schema.entities) (shownPlaces other.entities)
  views : List.Forall₂ (View.Moves place) schema.views other.views
  collisions : List.Forall₂ (Placement.Moves place) schema.collisions other.collisions
  scalars : schema.scalars = other.scalars

namespace Moves

variable {place : Nat → Nat} {schema other : Schema}

/-- What is made of the entities that are not ignored, if it does not depend on their places. -/
theorem flatMap_entities {α : Type} (h : schema.Moves place other) {f : Entity → List α}
    (hignored : ∀ entity : Entity, entity.IsBuilt → entity.ignoreAll = true → f entity = [])
    (hplace : ∀ entity : Entity, f entity.unordered = f entity) :
    schema.entities.flatMap f = other.entities.flatMap f := by
  rw [flatMap_eq_shownPlaces fun entity hmem => hignored entity
    (h.built entity (List.mem_append_left _ hmem)),
    flatMap_eq_shownPlaces fun entity hmem =>
      hignored entity (h.built entity (List.mem_append_right _ hmem))]
  refine flatMap_eq_of_forall₂ h.entities fun entry otherEntry hentry => ?_
  rw [← hplace, hentry.unordered, hplace]

theorem viewNames_eq (h : schema.Moves place other) : schema.viewNames = other.viewNames :=
  map_eq_of_forall₂ h.views fun _ _ hview => hview.name_eq

theorem hasView_eq (h : schema.Moves place other) (name : String) :
    schema.hasView name = other.hasView name := by
  rw [hasView, hasView, h.viewNames_eq]

theorem rel_view? (h : schema.Moves place other) (name : String) :
    Option.Rel (View.Moves place) (schema.view? name) (other.view? name) :=
  rel_find? h.views fun view otherView hview => by rw [hview.name_eq]

theorem bindings_viewsOf (h : schema.Moves place other) (hplace : Function.Injective place)
    (owner : Nat) :
    (schema.viewsOf owner).map (·.placement.binding) =
      (other.viewsOf (place owner)).map (·.placement.binding) := by
  refine map_eq_of_forall₂ (List.rel_filter (fun view otherView hview => ?_) h.views)
    fun _ _ hview => hview.binding_eq
  simp only [decide_eq_true_eq, hview.owner, hplace.eq_iff]

theorem collisionIssue?_eq (h : schema.Moves place other) (hplace : Function.Injective place)
    {collision otherCollision : Placement} (hcollision : collision.Moves place otherCollision) :
    schema.collisionIssue? collision = other.collisionIssue? otherCollision := by
  have hbinding : collision.unordered.binding = otherCollision.unordered.binding := by
    rw [hcollision.unordered]
  have hentity : collision.unordered.entity.declaredName =
      otherCollision.unordered.entity.declaredName := by
    rw [hcollision.unordered]
  change collision.binding = otherCollision.binding at hbinding
  change collision.entity.declaredName = otherCollision.entity.declaredName at hentity
  unfold collisionIssue?
  simp only [hbinding, hentity]
  -- an issue tells only whether the holder of the name is the same entity,
  -- and injective moves keep that
  refine map_eq_of_rel (h.rel_view? _) fun holder otherHolder hholder => ?_
  simp only [hholder.owner, hcollision.owner, hplace.eq_iff, hholder.declaredName_eq]

theorem entityIssues_eq (h : schema.Moves place other) (hplace : Function.Injective place) :
    (schema.entities.zipIdx.flatMap fun (entity, owner) => schema.entityIssues owner entity) =
      other.entities.zipIdx.flatMap fun (entity, owner) => other.entityIssues owner entity := by
  have hignored (schema : Schema) : ∀ entry ∈ schema.entities.zipIdx, entry.1.ignoreAll = true →
      schema.entityIssues entry.2 entry.1 = [] := by
    intro entry _ hignored
    rw [entityIssues, if_pos hignored]
  rw [flatMap_shownPlaces (hignored schema), flatMap_shownPlaces (hignored other)]
  refine flatMap_eq_of_forall₂ h.entities fun entry otherEntry hentry => ?_
  rw [hentry.owner]
  exact entityIssues_congr h.hasView_eq (fun _ => h.bindings_viewsOf hplace entry.2)
    hentry.unordered

theorem issues_eq (h : schema.Moves place other) (hplace : Function.Injective place) :
    schema.issues = other.issues := by
  have hnotes : schema.entities.flatMap (·.notes) = other.entities.flatMap (·.notes) :=
    h.flatMap_entities (fun entity hbuilt => hbuilt.notes_eq_nil) fun _ => rfl
  have hbindings : schema.entities.flatMap bindingIssues =
      other.entities.flatMap bindingIssues := by
    refine h.flatMap_entities (fun entity _ hignored => ?_) fun _ => rfl
    rw [bindingIssues, if_pos hignored]
  have hcollisions : schema.collisions.filterMap schema.collisionIssue? =
      other.collisions.filterMap other.collisionIssue? :=
    filterMap_eq_of_forall₂ h.collisions fun _ _ => h.collisionIssue?_eq hplace
  have hviews : schema.views.flatMap viewIssues = other.views.flatMap viewIssues :=
    flatMap_eq_of_forall₂ h.views fun _ _ hview => hview.value_eq viewIssues fun _ => rfl
  calc
    schema.issues =
        schema.entities.flatMap (·.notes) ++ schema.entities.flatMap bindingIssues ++
          schema.collisions.filterMap schema.collisionIssue? ++
          other.entities.zipIdx.flatMap (fun (entity, owner) => other.entityIssues owner entity) ++
          schema.views.flatMap viewIssues := by rw [issues, h.entityIssues_eq hplace]
    _ = other.issues := by rw [hnotes, hbindings, hcollisions, hviews, issues]

theorem danglingIssues_eq (h : schema.Moves place other) :
    schema.danglingIssues = other.danglingIssues := by
  have hbound : schema.entities.flatMap (fun entity => entity.bindings.map (·.name)) =
      other.entities.flatMap fun entity => entity.bindings.map (·.name) := by
    refine h.flatMap_entities (fun entity hbuilt hignored => ?_) fun _ => rfl
    rw [hbuilt.bindings_eq_nil hignored, List.map_nil]
  unfold danglingIssues
  rw [hbound]
  refine flatMap_eq_of_forall₂ h.views fun view otherView hview => ?_
  simp only [h.hasView_eq, hview.fields_eq, hview.declaredName_eq, hview.name_eq]

theorem text_eq (h : schema.Moves place other) (emitScalars : Bool) :
    schema.text emitScalars = other.text emitScalars := by
  have hviews (atHead : Bool) : viewTexts atHead schema.views = viewTexts atHead other.views := by
    have hviews := h.views
    generalize schema.views = views, other.views = otherViews at hviews
    induction hviews generalizing atHead with
    | nil => rfl
    | cons hview _ ih => rw [viewTexts, viewTexts, hview.value_eq View.text fun _ => rfl, ih]
  rw [text, text, h.scalars]
  simp only [hviews]

theorem keep (h : schema.Moves place other) (filter : ViewFilter) :
    (schema.keep filter).Moves place (other.keep filter) where
  built := h.built
  entities := h.entities
  views := List.rel_filter (fun view otherView hview => by simp only [hview.name_eq]) h.views
  collisions := h.collisions
  scalars := h.scalars

theorem foldl_keep (h : schema.Moves place other) (filters : List ViewFilter) :
    (filters.foldl Schema.keep schema).Moves place (filters.foldl Schema.keep other) := by
  induction filters generalizing schema other with
  | nil => exact h
  | cons filter rest ih => exact ih (h.keep filter)

end Moves

variable {place : Nat → Nat} {entities others : List Entity}

theorem target?_filter (entities : List Entity) (name : List Char) :
    target? (entities.filter fun entity => !entity.ignoreAll) name = target? entities name := by
  rw [target?, target?, List.find?_filter]
  congr 1
  funext entity
  rw [Bool.eq_iff_iff, decide_eq_true_eq]
  refine ⟨fun h => h.2, fun h => ⟨?_, h⟩⟩
  exact (Bool.and_eq_true_iff.1 (Bool.and_eq_true_iff.1 h).1).1

section Moved

variable (h : List.Forall₂ (EntryMoves place) (shownPlaces entities) (shownPlaces others))
include h

theorem rewriteType_eq_of_moves : rewriteType entities = rewriteType others := by
  have hshown (entities : List Entity) :
      (shownPlaces entities).map (fun entry => entry.1.unordered) =
        (entities.filter fun entity => !entity.ignoreAll).map Entity.unordered := by
    conv_rhs => rw [← List.zipIdx_map_fst 0 entities, List.filter_map, List.map_map]
    rfl
  have hunordered : (entities.filter fun entity => !entity.ignoreAll).map Entity.unordered =
      (others.filter fun entity => !entity.ignoreAll).map Entity.unordered := by
    rw [← hshown, ← hshown]
    exact map_eq_of_forall₂ h fun _ _ hentry => hentry.unordered
  refine rewriteType_congr fun name => ?_
  rw [← target?_filter entities, ← target?_filter others, ← target?_unordered, ← target?_unordered,
    hunordered]

theorem rel_placements :
    List.Forall₂ (Placement.Moves place) (placements entities) (placements others) := by
  have hignored (entities : List Entity) : ∀ entry ∈ entities.zipIdx, entry.1.ignoreAll = true →
      entry.1.placements entry.2 = [] := by
    intro entry _ hignored
    rw [Entity.placements, if_pos hignored]
  rw [placements, placements, flatMap_shownPlaces (hignored entities),
    flatMap_shownPlaces (hignored others)]
  refine List.rel_flatMap h ?_
  rintro ⟨entity, owner⟩ ⟨other, _⟩ ⟨rfl, hentity⟩
  have hkept : entity.unordered.ignoreAll = other.unordered.ignoreAll := by rw [hentity]
  have hbindings : entity.unordered.bindings = other.unordered.bindings := by rw [hentity]
  rw [Entity.ignoreAll_unordered, Entity.ignoreAll_unordered] at hkept
  rw [Entity.bindings_unordered, Entity.bindings_unordered] at hbindings
  simp only [Entity.placements, hkept, hbindings]
  split
  · exact .nil
  · rw [List.forall₂_map_left_iff, List.forall₂_map_right_iff, List.forall₂_same]
    intro binding _
    exact ⟨rfl, by rw [Placement.unordered, hentity]; rfl⟩

/-- If entities that are in order stand at other places, so they do in their schema. -/
theorem moves_resolve (mapping : TypeMapping)
    (hbuilt : ∀ entity ∈ entities ++ others, entity.IsBuilt)
    (hentities : byOrder entities = entities) (hothers : byOrder others = others) :
    (resolve mapping entities).Moves place (resolve mapping others) := by
  -- first and later occurrences are told apart by names, which move along
  have hname : ∀ placement other : Placement, placement.Moves place other →
      placement.binding.name = other.binding.name := by
    intro placement other hmoves
    have hbinding : placement.unordered.binding.name = other.unordered.binding.name := by
      rw [hmoves.unordered]
    exact hbinding
  have hparts := @forall₂_parts _ _ [] _ hname (rel_placements h)
  have hviews :
      List.Forall₂ (View.Moves place) (resolve mapping entities).views
      (resolve mapping others).views := by
    rw [resolve, resolve, hentities, hothers, List.forall₂_map_left_iff, List.forall₂_map_right_iff]
    refine hparts.1.imp fun placement other hmoves => ?_
    refine ⟨?_, unordered_viewOf (rewriteType_eq_of_moves h) hmoves.unordered⟩
    rw [placement_viewOf, placement_viewOf, hmoves.owner]
  refine ⟨?_, ?_, hviews, ?_, ?_⟩
  · rw [resolve, resolve, hentities, hothers]
    exact hbuilt
  · rw [resolve, resolve, hentities, hothers]
    exact h
  · rw [resolve, resolve, hentities, hothers]
    exact hparts.2
  · have hfields : (resolve mapping entities).views.flatMap View.fields =
        (resolve mapping others).views.flatMap View.fields :=
      flatMap_eq_of_forall₂ hviews fun _ _ hview => hview.fields_eq
    change usedScalars mapping (resolve mapping entities).views =
      usedScalars mapping (resolve mapping others).views
    simp only [usedScalars, hfields]

end Moved

end Schema

/-- What can be told of an output without looking at its entities. -/
def Output.observed (output : Output) : String × List String × List String × List Issue :=
  (output.text, output.schema.viewNames, output.schema.scalars, output.warnings)

theorem Schema.Moves.render_eq {place : Nat → Nat} {schema other : Schema}
    (h : schema.Moves place other) (hplace : Function.Injective place) (settings : Settings)
    (filters : List ViewFilter) (headers : List String) :
    (Pipeline.render settings filters headers schema).map Output.observed =
      (Pipeline.render settings filters headers other).map Output.observed := by
  have hkept := h.foldl_keep filters
  unfold Pipeline.render Schema.emit?
  simp only [h.issues_eq hplace, hkept.danglingIssues_eq, hkept.text_eq]
  split
  · rfl
  · split
    · split
      · rfl
      · simp only [Except.map, Output.observed, hkept.viewNames_eq, hkept.scalars]
    · rfl

end SchemaViews
