import Mathlib.Data.List.Forall2
import SchemaViews.Pipeline
import SchemaViews.Proofs.Entity.Built
import SchemaViews.Proofs.Entity.Faults

/-!
# Building all declarations

Every declaration is read on its own. If some of them fail, all of their faults are reported, one
for each of them and in their order, and else there is one entity for each declaration.
-/

namespace SchemaViews.Pipeline

open SchemaViews.Directive (SyntaxError)

section Results

variable {α ε : Type} {results : List (Except ε α)}

theorem eq_map_valuesOf (h : errorsOf results = []) : results = (valuesOf results).map .ok := by
  induction results with
  | nil => rfl
  | cons result rest ih =>
      cases result with
      | error error => cases h
      | ok value =>
          have hrest : valuesOf (.ok value :: rest) = value :: valuesOf rest := rfl
          rw [hrest, List.map_cons, ← ih h]

theorem errorsOf_map_ok (values : List α) : errorsOf (values.map (.ok : α → Except ε α)) = [] := by
  induction values with
  | nil => rfl
  | cons value rest ih => exact ih

theorem valuesOf_map_ok (values : List α) :
    valuesOf (values.map (.ok : α → Except ε α)) = values := by
  induction values with
  | nil => rfl
  | cons value rest ih =>
      change value :: valuesOf (rest.map .ok) = value :: rest
      rw [ih]

/-- There is one error for each reading that fails, in the order of the readings. -/
theorem forall₂_errorsOf {ι : Type} (read : ι → Except ε α) (items : List ι) :
    List.Forall₂ (fun item error => read item = .error error)
      (items.filter fun item => !(read item).isOk) (errorsOf (items.map read)) := by
  induction items with
  | nil => exact .nil
  | cons item rest ih =>
      rw [List.filter_cons, List.map_cons]
      cases hread : read item with
      | error error => exact .cons hread ih
      | ok value => exact ih

theorem mem_errorsOf {error : ε} : error ∈ errorsOf results ↔ .error error ∈ results := by
  rw [errorsOf, List.mem_filterMap]
  constructor
  · rintro ⟨result, hmem, hresult⟩
    cases result with
    | error other =>
        rwa [← Option.some.inj hresult]
    | ok value => cases hresult
  · intro hmem
    exact ⟨.error error, hmem, rfl⟩

theorem errorsOf_map {ι β : Type} (read : ι → Except ε α) (made : ι → α → β) (items : List ι) :
    errorsOf (items.map fun item => (read item).map (made item)) = errorsOf (items.map read) := by
  induction items with
  | nil => rfl
  | cons item rest ih =>
      rw [List.map_cons, List.map_cons]
      cases read item with
      | error error => exact congrArg (error :: ·) ih
      | ok value => exact ih

end Results

variable {settings : Settings} {declarations : List Declaration} {entities : List Entity}

def faults (settings : Settings) (declarations : List Declaration) : List SyntaxError :=
  errorsOf (declarations.map fun declaration => Entity.ofDeclaration settings declaration 0)

theorem errorsOf_results : errorsOf (results settings declarations) =
      faults settings declarations := by
  have hplace : results settings declarations = declarations.zipIdx.map fun entry =>
      (Entity.ofDeclaration settings entry.1 0).map fun entity =>
        { entity with order := entry.2 } :=
    List.map_congr_left fun entry _ => Entity.ofDeclaration_eq_map settings entry.1 entry.2
  calc
    errorsOf (results settings declarations) =
        errorsOf (declarations.zipIdx.map
          fun entry => Entity.ofDeclaration settings entry.1 0) := by
      rw [hplace]
      exact errorsOf_map _ _ _
    _ = errorsOf ((declarations.zipIdx.map Prod.fst).map fun declaration =>
        Entity.ofDeclaration settings declaration 0) := by
      rw [List.map_map]
      rfl
    _ = faults settings declarations := by
      rw [List.zipIdx_map_fst]
      rfl

theorem faults_ne_nil_iff : faults settings declarations ≠ [] ↔
    ∃ declaration ∈ declarations, ∃ error,
      Entity.ofDeclaration settings declaration 0 = .error error := by
  constructor
  · intro hne
    obtain ⟨error, herror⟩ := List.exists_mem_of_ne_nil _ hne
    obtain ⟨declaration, hmem, hread⟩ := List.mem_map.1 (mem_errorsOf.1 herror)
    exact ⟨declaration, hmem, error, hread⟩
  · rintro ⟨declaration, hmem, error, hread⟩
    exact List.ne_nil_of_mem (mem_errorsOf.2 (List.mem_map.2 ⟨declaration, hmem, hread⟩))

theorem build_eq_ok_iff : build settings declarations = .ok entities ↔
    results settings declarations = entities.map .ok := by
  unfold build
  simp only [List.isEmpty_iff]
  constructor
  · intro h
    split at h
    · rename_i hnone
      cases h
      exact eq_map_valuesOf hnone
    · cases h
  · intro h
    rw [h, errorsOf_map_ok, valuesOf_map_ok, if_pos rfl]

theorem forall₂_of_build (h : build settings declarations = .ok entities) :
    List.Forall₂ (fun entry entity => Entity.ofDeclaration settings entry.1 entry.2 = .ok entity)
      declarations.zipIdx entities := by
  have hresults : List.Forall₂ Eq (results settings declarations) (entities.map .ok) := by
    rw [List.forall₂_eq_eq_eq]
    exact build_eq_ok_iff.1 h
  rw [results, List.forall₂_map_left_iff, List.forall₂_map_right_iff] at hresults
  exact hresults

theorem isBuilt_of_build (h : build settings declarations = .ok entities) :
    ∀ entity ∈ entities, entity.IsBuilt := by
  intro entity hmem
  have hresult : .ok entity ∈ results settings declarations := by
    rw [build_eq_ok_iff.1 h]
    exact List.mem_map_of_mem hmem
  obtain ⟨⟨declaration, place⟩, -, hread⟩ := List.mem_map.1 hresult
  exact ⟨settings, declaration, place, hread⟩

theorem build_eq_error_iff {failure : Failure} : build settings declarations = .error failure ↔
    faults settings declarations ≠ [] ∧ failure = .syntaxErrors (faults settings declarations) := by
  unfold build
  simp only [errorsOf_results, List.isEmpty_iff]
  split
  · rename_i hnone
    exact ⟨nofun, fun h => absurd hnone h.1⟩
  · rename_i hsome
    constructor
    · intro h
      cases h
      exact ⟨hsome, rfl⟩
    · rintro ⟨-, rfl⟩
      rfl

theorem exists_build_of_faults_eq_nil (h : faults settings declarations = []) :
    ∃ entities, build settings declarations = .ok entities := by
  cases hbuild : build settings declarations with
  | error failure => exact absurd h (build_eq_error_iff.1 hbuild).1
  | ok entities => exact ⟨entities, rfl⟩

section Phases

variable {filters : List ViewFilter} {headers : List String}

theorem resolve_of_build (h : build settings declarations = .ok entities) :
    resolve settings declarations = .ok (Schema.resolve settings.typeMapping entities) := by
  rw [resolve, h]
  rfl

theorem run_of_build (h : build settings declarations = .ok entities) :
    run settings filters headers declarations =
      render settings filters headers (Schema.resolve settings.typeMapping entities) := by
  rw [run, resolve_of_build h]

theorem run_of_build_error {failure : Failure} (h : build settings declarations = .error failure) :
    run settings filters headers declarations = .error failure := by
  rw [run, resolve, h]
  rfl

end Phases

end SchemaViews.Pipeline
