import SchemaViews.Proofs.Pipeline.Gathering
import SchemaViews.Proofs.Pipeline.Moving

/-!
# Ignored declarations leave no trace

Without an ignored declaration the declarations behind it come one place earlier, and
that is all: their entities are the same up to their places, and so are the faults, the
schema, the issues and the text.
-/

namespace SchemaViews

namespace Pipeline

open Schema (EntryMoves shownPlaces)

variable {settings : Settings} {declarations front back : List Declaration}
    {entities others : List Entity} {declaration : Declaration} {entity other : Entity}

/-- The place that is left when one more declaration stands at `gap`. -/
def placeBehind (gap place : Nat) : Nat :=
  if place < gap then place else place + 1

theorem placeBehind_injective (gap : Nat) : Function.Injective (placeBehind gap) := by
  intro place other h
  unfold placeBehind at h
  split at h
  · split at h
    · exact h
    · omega
  · split at h
    · omega
    · omega

def Reads (settings : Settings) (entry : Declaration × Nat) (entity : Entity) : Prop :=
  Entity.ofDeclaration settings entry.1 entry.2 = .ok entity

theorem Reads.exists_eq {place : Nat} (h : Reads settings (declaration, place) entity) :
    ∃ base, Entity.ofDeclaration settings declaration 0 = .ok base ∧
      entity = { base with order := place } := by
  rw [Reads, Entity.ofDeclaration_eq_map] at h
  obtain ⟨base, hbase, rfl⟩ := map_eq_ok_iff.1 h
  exact ⟨base, hbase, rfl⟩

theorem Reads.unordered_eq {place otherPlace : Nat} (h : Reads settings (declaration, place) entity)
    (hother : Reads settings (declaration, otherPlace) other) :
    entity.unordered = other.unordered := by
  obtain ⟨base, hbase, rfl⟩ := h.exists_eq
  obtain ⟨same, hsame, rfl⟩ := hother.exists_eq
  rw [hbase, Except.ok.injEq] at hsame
  rw [hsame]
  rfl

theorem Reads.eq_of_isIgnored {place : Nat} (h : Reads settings (declaration, place) entity)
    (hignored : declaration.IsIgnored) : entity.ignoreAll = true := by
  rw [Reads, Entity.ofDeclaration_of_isIgnored hignored] at h
  cases h
  rfl

theorem byOrder_of_build (h : build settings declarations = .ok entities) :
    Schema.byOrder entities = entities := by
  have horders : entities.map (·.order) = (declarations.zipIdx.map Prod.snd).map
      fun place : Nat => (place : Int) := by
    rw [List.map_map]
    refine (map_eq_of_forall₂ (forall₂_of_build h) ?_).symm
    rintro ⟨declaration, place⟩ entity hread
    obtain ⟨base, -, rfl⟩ := Reads.exists_eq hread
    rfl
  have hsorted : (entities.map (·.order)).Pairwise (· ≤ ·) := by
    rw [horders, List.zipIdx_map_snd, List.pairwise_map]
    exact List.Pairwise.imp (fun hlt => by omega) List.pairwise_lt_range'
  rw [List.pairwise_map] at hsorted
  exact List.mergeSort_of_pairwise (hsorted.imp fun hle => decide_eq_true hle)

section Shifted

open Schema

theorem moves_behind {gap place : Nat} (hgap : gap ≤ place)
    (h : List.Forall₂ (Reads settings) (back.zipIdx place) entities)
    (hlater : List.Forall₂ (Reads settings) (back.zipIdx (place + 1)) others) :
    List.Forall₂ (EntryMoves (placeBehind gap)) (entities.zipIdx place)
      (others.zipIdx (place + 1)) := by
  induction back generalizing place entities others with
  | nil =>
      cases h
      cases hlater
      exact .nil
  | cons declaration back ih =>
      rw [List.zipIdx_cons] at h hlater
      cases h with
      | cons hread hrest =>
          cases hlater with
          | cons hreadLater hrestLater =>
              refine .cons ⟨?_, hread.unordered_eq hreadLater⟩
                (ih (Nat.le_succ_of_le hgap) hrest hrestLater)
              rw [placeBehind, if_neg (Nat.not_lt.2 hgap)]

/-- Of the entities that are not ignored, those behind an ignored declaration stand one
place later than without it. -/
theorem moves_around (hignored : declaration.IsIgnored) {place : Nat}
    (h : List.Forall₂ (Reads settings) ((front ++ back).zipIdx place) entities)
    (hwith : List.Forall₂ (Reads settings) ((front ++ declaration :: back).zipIdx place) others) :
    List.Forall₂ (EntryMoves (placeBehind (place + front.length)))
      ((entities.zipIdx place).filter fun entry => !entry.1.ignoreAll)
      ((others.zipIdx place).filter fun entry => !entry.1.ignoreAll) := by
  have hkept : ∀ {gap : Nat} {entry other : Entity × Nat},
      EntryMoves (placeBehind gap) entry other →
      entry.1.ignoreAll = other.1.ignoreAll := by
    intro gap entry other hmoves
    have hunordered : entry.1.unordered.ignoreAll = other.1.unordered.ignoreAll := by
      rw [hmoves.unordered]
    exact hunordered
  -- what is in front stays where it is, and the ignored entity is dropped where it is reached
  induction front generalizing place entities others with
  | nil =>
      rw [List.nil_append, List.zipIdx_cons] at hwith
      cases hwith with
      | cons hread hrest =>
          rw [List.zipIdx_cons, List.filter_cons_of_neg (by simp [hread.eq_of_isIgnored hignored])]
          exact List.rel_filter (fun entry other hmoves => by simp only [hkept hmoves])
            (moves_behind (Nat.le_of_eq (Nat.add_zero place)) h hrest)
  | cons first front ih =>
      rw [List.cons_append, List.zipIdx_cons] at h hwith
      cases h with
      | cons hread hrest =>
          cases hwith with
          | cons hreadWith hrestWith =>
              have hlength : place + 1 + front.length = place + (first :: front).length := by
                rw [List.length_cons]
                omega
              have hstays : place = placeBehind (place + (first :: front).length) place := by
                rw [placeBehind, if_pos]
                rw [List.length_cons]
                omega
              have hrest := ih hrest hrestWith
              rw [hlength] at hrest
              have hfirst :
                  EntryMoves (placeBehind (place + (first :: front).length)) (_, place)
                  (_, place) :=
                ⟨hstays, hread.unordered_eq hreadWith⟩
              rw [List.zipIdx_cons, List.zipIdx_cons, List.filter_cons, List.filter_cons,
                hkept hfirst]
              split
              · exact .cons hfirst hrest
              · exact hrest

end Shifted

theorem faults_of_isIgnored (hignored : declaration.IsIgnored) :
    faults settings (front ++ declaration :: back) = faults settings (front ++ back) := by
  calc
    faults settings (front ++ declaration :: back) =
        errorsOf (front.map (fun other => Entity.ofDeclaration settings other 0) ++
          .ok { Entity.blank declaration 0 with ignoreAll := true } ::
            back.map fun other => Entity.ofDeclaration settings other 0) := by
      rw [faults, List.map_append, List.map_cons, Entity.ofDeclaration_of_isIgnored hignored]
    _ = faults settings (front ++ back) := by
      rw [faults, errorsOf, errorsOf, List.map_append, List.filterMap_append, List.filterMap_append]
      rfl

/-- With an ignored declaration or without it, a run comes to the same. -/
theorem observed_run_of_isIgnored (settings : Settings) (filters : List ViewFilter)
    (headers : List String) (front back : List Declaration) (hignored : declaration.IsIgnored) :
    (run settings filters headers (front ++ declaration :: back)).map Output.observed =
      (run settings filters headers (front ++ back)).map Output.observed := by
  -- an ignored declaration has no fault, so both lists can be built or both have the same faults
  by_cases hfaults : faults settings (front ++ back) = []
  · obtain ⟨entities, hentities⟩ := exists_build_of_faults_eq_nil hfaults
    obtain ⟨others, hothers⟩ :=
      exists_build_of_faults_eq_nil ((faults_of_isIgnored hignored).trans hfaults)
    have hbuilt : ∀ entity ∈ entities ++ others, entity.IsBuilt :=
      List.forall_mem_append.2 ⟨isBuilt_of_build hentities, isBuilt_of_build hothers⟩
    have hmoves :=
      Schema.moves_resolve
        (moves_around hignored (forall₂_of_build hentities) (forall₂_of_build hothers))
      settings.typeMapping hbuilt (byOrder_of_build hentities) (byOrder_of_build hothers)
    rw [run_of_build hentities, run_of_build hothers]
    exact (hmoves.render_eq (placeBehind_injective _) settings filters headers).symm
  · have hwithout : build settings (front ++ back) =
        .error (.syntaxErrors (faults settings (front ++ back))) :=
      build_eq_error_iff.2 ⟨hfaults, rfl⟩
    have hwith : build settings (front ++ declaration :: back) =
        .error (.syntaxErrors (faults settings (front ++ back))) := by
      rw [← faults_of_isIgnored hignored] at hfaults ⊢
      exact build_eq_error_iff.2 ⟨hfaults, rfl⟩
    rw [run_of_build_error hwith, run_of_build_error hwithout]

/-- An ignored declaration is invisible. With it or without it a run has the same text,
the same views by their names, the same scalars and the same warnings, or it fails for the
same reason; so one ignored declaration is as good as any other one, whatever its members
and their annotations are. -/
theorem ignored_declarations_are_invisible (settings : Settings) (filters : List ViewFilter)
    (headers : List String) (front back : List Declaration) {declaration : Declaration}
    (hignored : declaration.IsIgnored) :
    (run settings filters headers (front ++ declaration :: back)).map Output.observed =
        (run settings filters headers (front ++ back)).map Output.observed ∧
      ∀ other : Declaration, other.IsIgnored →
        (run settings filters headers (front ++ other :: back)).map Output.observed =
          (run settings filters headers (front ++ declaration :: back)).map Output.observed := by
  have hwithout := observed_run_of_isIgnored settings filters headers front back hignored
  refine ⟨hwithout, fun other hother => ?_⟩
  exact (observed_run_of_isIgnored settings filters headers front back hother).trans hwithout.symm

def secret : Declaration where
  kind := .object
  declaredName := "Node"
  rawAnnotation := "@GqlType(name:Public) @GqlIgnoreAll"
  members :=
    [{ declaredName := "Key", declaredType := "string", rawAnnotation := "@GqlField(name:" }]

theorem ignored_declarations_are_invisible_secret : secret.IsIgnored ∧
    (run {} nodeFilters [] [secret, Schema.nodeDeclaration]).map Output.observed =
      .ok nodeOutput.observed ∧
    (run {} nodeFilters []
      [{ kind := .enum, declaredName := "Blank", rawAnnotation := "@GqlIgnoreAll" },
      Schema.nodeDeclaration]).map Output.observed = .ok nodeOutput.observed ∧
    (run {} [] [] (secret :: faultyDeclarations)).map Output.observed =
      .error (.syntaxErrors faultyErrors) := by
  have hsecret : secret.IsIgnored := by decide +kernel
  obtain ⟨hnode, hother⟩ := ignored_declarations_are_invisible
    {} nodeFilters [] [] [Schema.nodeDeclaration] hsecret
  have hrun : (run {} nodeFilters [] [Schema.nodeDeclaration]).map Output.observed =
      .ok nodeOutput.observed := by
    rw [run_node]
    rfl
  refine ⟨hsecret, hnode.trans hrun, (hother _ (by decide +kernel)).trans (hnode.trans hrun), ?_⟩
  have hfaulty : run {} [] [] faultyDeclarations = .error (.syntaxErrors faultyErrors) :=
    run_of_build_error build_faulty
  refine (ignored_declarations_are_invisible {} [] [] [] faultyDeclarations hsecret).1.trans ?_
  rw [List.nil_append, hfaulty]
  rfl

end Pipeline

end SchemaViews
