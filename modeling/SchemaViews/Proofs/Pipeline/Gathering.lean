import SchemaViews.Proofs.Pipeline.Building

/-!
# Readings that come back in any order

The declarations may be read side by side. Each entity is put at the place of its declaration and
each error is kept with that place, as they come back. When all are back the errors are sorted, so
that it does not matter which of them was first.
-/

namespace SchemaViews.Pipeline

open SchemaViews.Directive (SyntaxError)

/-- What has come back so far: entities at the places of their declarations, and
errors with those places. -/
structure Gathering where
  entities : List (Option Entity)
  errors : List (Nat × SyntaxError) := []

/-- Takes the reading of a declaration that comes back next. -/
def Gathering.deliver (settings : Settings) (gathering : Gathering) (entry : Declaration × Nat) :
    Gathering :=
  match Entity.ofDeclaration settings entry.1 entry.2 with
  | .ok entity => { gathering with entities := gathering.entities.set entry.2 (some entity) }
  | .error error => { gathering with errors := gathering.errors ++ [(entry.2, error)] }

/-- Builds the entities of declarations whose readings come back one after another. -/
def gather (settings : Settings) (declarations : List Declaration)
    (readings : List (Declaration × Nat)) : Except Failure (List Entity) :=
  let gathering := readings.foldl (Gathering.deliver settings)
    { entities := List.replicate declarations.length none }
  if gathering.errors.isEmpty then .ok (gathering.entities.filterMap id)
  else .error
    (.syntaxErrors ((gathering.errors.mergeSort fun first second => first.1 ≤ second.1).map (·.2)))

variable {settings : Settings} {declarations : List Declaration}
    {readings : List (Declaration × Nat)} {gathering : Gathering} {entry : Declaration × Nat}
    {place : Nat}

namespace Gathering

def errorAt? (settings : Settings) (entry : Declaration × Nat) : Option (Nat × SyntaxError) :=
  match Entity.ofDeclaration settings entry.1 entry.2 with
  | .ok _ => none
  | .error error => some (entry.2, error)

theorem place_errorAt? {found : Nat × SyntaxError} (h : errorAt? settings entry = some found) :
    found.1 = entry.2 := by
  unfold errorAt? at h
  split at h
  · cases h
  · cases h
    rfl

theorem errors_deliver (gathering : Gathering) (entry : Declaration × Nat) :
    (gathering.deliver settings entry).errors =
      gathering.errors ++ (errorAt? settings entry).toList := by
  unfold deliver errorAt?
  cases Entity.ofDeclaration settings entry.1 entry.2 with
  | ok entity => exact (List.append_nil _).symm
  | error error => rfl

theorem errors_foldl_deliver (gathering : Gathering) (readings : List (Declaration × Nat)) :
    (readings.foldl (deliver settings) gathering).errors =
      gathering.errors ++ readings.filterMap (errorAt? settings) := by
  induction readings generalizing gathering with
  | nil => exact (List.append_nil _).symm
  | cons entry rest ih =>
      rw [List.foldl_cons, ih, errors_deliver, List.append_assoc, List.filterMap_cons]
      cases errorAt? settings entry <;> rfl

theorem entities_deliver_of_ne (hne : entry.2 ≠ place) :
    (gathering.deliver settings entry).entities[place]? = gathering.entities[place]? := by
  unfold deliver
  cases Entity.ofDeclaration settings entry.1 entry.2 with
  | ok entity => exact List.getElem?_set_ne hne
  | error error => rfl

theorem entities_deliver_self (h : gathering.entities[entry.2]? = some none) :
    (gathering.deliver settings entry).entities[entry.2]? =
      some (Entity.ofDeclaration settings entry.1 entry.2).toOption := by
  unfold deliver
  cases Entity.ofDeclaration settings entry.1 entry.2 with
  | ok entity =>
      obtain ⟨hlt, -⟩ := List.getElem?_eq_some_iff.1 h
      exact List.getElem?_set_self hlt
  | error error => exact h

theorem entities_foldl_deliver_of_notMem (h : place ∉ readings.map Prod.snd) :
    (readings.foldl (deliver settings) gathering).entities[place]? =
      gathering.entities[place]? := by
  induction readings generalizing gathering with
  | nil => rfl
  | cons entry rest ih =>
      rw [List.map_cons, List.mem_cons, not_or] at h
      rw [List.foldl_cons, ih h.2, entities_deliver_of_ne (Ne.symm h.1)]

theorem entities_foldl_deliver_of_mem (hnodup : (readings.map Prod.snd).Nodup)
    (hentry : entry ∈ readings) (h : gathering.entities[entry.2]? = some none) :
    (readings.foldl (deliver settings) gathering).entities[entry.2]? =
      some (Entity.ofDeclaration settings entry.1 entry.2).toOption := by
  induction readings generalizing gathering with
  | nil => cases hentry
  | cons first rest ih =>
      rw [List.map_cons, List.nodup_cons] at hnodup
      rw [List.foldl_cons]
      rcases List.mem_cons.1 hentry with rfl | hmem
      · rw [entities_foldl_deliver_of_notMem hnodup.1, entities_deliver_self h]
      · have hne : first.2 ≠ entry.2 := fun heq => hnodup.1 (heq ▸ List.mem_map_of_mem hmem)
        exact ih hnodup.2 hmem ((entities_deliver_of_ne hne).trans h)

end Gathering

open Gathering

section Order

variable (h : readings.Perm declarations.zipIdx)
include h

theorem nodup_places : (readings.map Prod.snd).Nodup := by
  refine (h.map Prod.snd).nodup_iff.2 ?_
  rw [List.zipIdx_map_snd]
  exact List.nodup_range'

theorem entities_gathered (settings : Settings) :
    (readings.foldl (deliver settings)
      { entities := List.replicate declarations.length none }).entities =
        declarations.zipIdx.map fun entry =>
          (Entity.ofDeclaration settings entry.1 entry.2).toOption := by
  refine List.ext_getElem? fun place => ?_
  rw [List.getElem?_map, List.getElem?_zipIdx, Nat.zero_add]
  cases hplace : declarations[place]? with
  | none =>
      have hbeyond : declarations.length ≤ place := List.getElem?_eq_none_iff.1 hplace
      have hunread : place ∉ readings.map Prod.snd := by
        rw [(h.map Prod.snd).mem_iff, List.zipIdx_map_snd, List.mem_range'_1]
        omega
      rw [entities_foldl_deliver_of_notMem hunread, Option.map_none, Option.map_none]
      exact List.getElem?_eq_none (by rwa [List.length_replicate])
  | some declaration =>
      have hentry : (declaration, place) ∈ readings :=
        h.mem_iff.2 (List.mem_zipIdx_iff_getElem?.2 hplace)
      have hlt : place < declarations.length := (List.getElem?_eq_some_iff.1 hplace).1
      rw [Option.map_some, Option.map_some]
      exact entities_foldl_deliver_of_mem (nodup_places h) hentry
        (List.getElem?_replicate_of_lt hlt)

theorem mergeSort_errors :
    ((readings.filterMap (errorAt? settings)).mergeSort fun first second => first.1 ≤ second.1) =
      declarations.zipIdx.filterMap (errorAt? settings) := by
  have hperm := (List.mergeSort_perm (readings.filterMap (errorAt? settings))
    fun first second => decide (first.1 ≤ second.1)).trans (h.filterMap (errorAt? settings))
  have hsorted :
      ((readings.filterMap (errorAt? settings)).mergeSort fun first second => first.1 ≤
        second.1).Pairwise
      fun first second => first.1 ≤ second.1 := by
    refine (List.pairwise_mergeSort (fun first second third hle hnext => ?_)
      (fun first second => ?_) _).imp
      of_decide_eq_true
    · rw [decide_eq_true_eq] at hle hnext ⊢
      omega
    · rw [Bool.or_eq_true, decide_eq_true_eq, decide_eq_true_eq]
      omega
  have hplaces : (declarations.zipIdx.filterMap (errorAt? settings)).Pairwise
      fun first second => first.1 ≤ second.1 := by
    have hplace : (declarations.zipIdx.map Prod.snd).Pairwise (· < ·) := by
      rw [List.zipIdx_map_snd]
      exact List.pairwise_lt_range'
    rw [List.pairwise_map] at hplace
    rw [List.pairwise_filterMap]
    refine hplace.imp fun {entry other} hlt first hfirst second hsecond => ?_
    rw [place_errorAt? hfirst, place_errorAt? hsecond]
    omega
  refine List.Perm.eq_of_pairwise (fun first second hfirst hsecond hle hge => ?_) hsorted hplaces
    hperm
  -- two errors at one place come from one declaration
  obtain ⟨entry, hentry, hfirst⟩ := List.mem_filterMap.1 (hperm.mem_iff.1 hfirst)
  obtain ⟨other, hother, hsecond⟩ := List.mem_filterMap.1 hsecond
  have hsame : entry.2 = other.2 := by
    rw [← place_errorAt? hfirst, ← place_errorAt? hsecond]
    exact Nat.le_antisymm hle hge
  rw [List.mem_zipIdx_iff_getElem?] at hentry hother
  rw [hsame, hother, Option.some.injEq] at hentry
  have hentries : entry = other := Prod.ext hentry.symm hsame
  rw [hentries, hsecond, Option.some.injEq] at hfirst
  exact hfirst.symm

theorem errors_gathered (settings : Settings) : (((readings.foldl (deliver settings)
      { entities := List.replicate declarations.length none }).errors.mergeSort
        fun first second => first.1 ≤ second.1).map
        (·.2)) = errorsOf (results settings declarations) := by
  calc
    (((readings.foldl (deliver settings)
        { entities := List.replicate declarations.length none }).errors.mergeSort
          fun first second => first.1 ≤ second.1).map (·.2)) =
        (declarations.zipIdx.filterMap (errorAt? settings)).map (·.2) := by
      rw [errors_foldl_deliver, List.nil_append, mergeSort_errors h]
    _ = errorsOf (results settings declarations) := by
      rw [List.map_filterMap, errorsOf, results, List.filterMap_map]
      congr 1
      funext entry
      rw [Function.comp_apply, errorAt?]
      simp only
      cases Entity.ofDeclaration settings entry.1 entry.2 <;> rfl

/-- In whichever order the readings come back, the same is built of them. -/
theorem gather_eq_build (settings : Settings) :
    gather settings declarations readings = build settings declarations := by
  have herrors := errors_gathered h settings
  have hlength := congrArg List.length herrors
  rw [List.length_map, List.length_mergeSort] at hlength
  have hempty :
      (readings.foldl (deliver settings)
        { entities := List.replicate declarations.length none }).errors.isEmpty =
      (errorsOf (results settings declarations)).isEmpty := by
    rw [Bool.eq_iff_iff, List.isEmpty_iff_length_eq_zero, List.isEmpty_iff_length_eq_zero, hlength]
  have hvalues :
      (declarations.zipIdx.map fun entry =>
        (Entity.ofDeclaration settings entry.1 entry.2).toOption).filterMap id =
      valuesOf (results settings declarations) := by
    rw [valuesOf, results, List.filterMap_map, List.filterMap_map]
    rfl
  unfold gather build
  simp only [herrors, hempty, entities_gathered h settings, hvalues]

end Order

/-- All faults are collected, and each belongs to its declaration, in whichever order the
declarations are read. Reading one fails with the fault of its first malformed annotation; building
fails if and only if some declaration fails, and it reports the fault of each of them in their
order. Otherwise it gives the entities of the declarations one by one. -/
theorem build_collects_all_faults (settings : Settings) (declarations : List Declaration) :
    (∀ readings : List (Declaration × Nat), readings.Perm declarations.zipIdx →
        gather settings declarations readings = build settings declarations) ∧
      (∀ declaration error,
        Entity.ofDeclaration settings declaration 0 = .error error ↔ declaration.FirstFault error) ∧
      ((∃ errors, build settings declarations = .error (.syntaxErrors errors)) ↔
        ∃ declaration ∈ declarations, ∃ error,
          Entity.ofDeclaration settings declaration 0 = .error error) ∧
      (∀ failure, build settings declarations = .error failure →
        ∃ errors, failure = .syntaxErrors errors ∧
          List.Forall₂
            (fun declaration error => Entity.ofDeclaration settings declaration 0 = .error error)
            (declarations.filter fun declaration =>
              !(Entity.ofDeclaration settings declaration 0).isOk) errors) ∧
      ∀ entities, build settings declarations = .ok entities →
        List.Forall₂
          (fun entry entity => Entity.ofDeclaration settings entry.1 entry.2 = .ok entity)
          declarations.zipIdx entities := by
  refine ⟨fun readings h => gather_eq_build h settings,
    fun declaration error => Entity.ofDeclaration_eq_error_iff,
    ?_, ?_, ?_⟩
  · rw [← faults_ne_nil_iff]
    constructor
    · rintro ⟨errors, h⟩
      exact (build_eq_error_iff.1 h).1
    · intro hfaults
      exact ⟨_, build_eq_error_iff.2 ⟨hfaults, rfl⟩⟩
  · intro failure h
    obtain ⟨-, rfl⟩ := build_eq_error_iff.1 h
    exact ⟨_, rfl, forall₂_errorsOf _ declarations⟩
  · intro entities h
    exact forall₂_of_build h

def faultyDeclarations : List Declaration :=
  [{ kind := .object, declaredName := "A", rawAnnotation := "@GqlType",
      members :=
        [{ declaredName := "Bad", declaredType := "string",
           rawAnnotation := "@GqlField(name:)" }] },
    { kind := .object, declaredName := "B", rawAnnotation := "@GqlType" },
    { kind := .object, declaredName := "C", rawAnnotation := "@GqlType(name:" }]

def faultyErrors : List SyntaxError :=
  [⟨.missingValue, [')'], 15, some "A.Bad"⟩, ⟨.unterminatedArguments, "(name:".toList, 8, some "C"⟩]

theorem build_faulty : build {} faultyDeclarations = .error (.syntaxErrors faultyErrors) := by
  decide +kernel

theorem build_collects_all_faults_member_and_own :
    build {} faultyDeclarations = .error (.syntaxErrors faultyErrors) ∧
      gather {} faultyDeclarations faultyDeclarations.zipIdx.reverse =
      .error (.syntaxErrors faultyErrors) ∧ faultyErrors.map (·.source) = [some "A.Bad", some "C"] ∧
      List.Forall₂ Declaration.FirstFault
        (faultyDeclarations.filter fun declaration => !(Entity.ofDeclaration {} declaration 0).isOk)
          faultyErrors := by
  obtain ⟨horder, hfirst, -, hfaults, -⟩ := build_collects_all_faults {} faultyDeclarations
  obtain ⟨errors, herrors, hread⟩ := hfaults _ build_faulty
  obtain rfl : faultyErrors = errors := Failure.syntaxErrors.inj herrors
  exact ⟨build_faulty, (horder _ (List.reverse_perm _)).trans build_faulty, rfl,
    hread.imp fun declaration error => (hfirst declaration error).1⟩

end SchemaViews.Pipeline
