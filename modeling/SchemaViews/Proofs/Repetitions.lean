import Mathlib.Data.List.FinRange
import Mathlib.Data.List.Nodup
import SchemaViews.Directive.Basic

/-!
# First and last occurrences

Names without their repetitions stand in the order of their first occurrences. Elements of which
only the last one of each key is kept have each key once, and a search from the end finds among all
of them what a search finds among those that are kept.
-/

namespace SchemaViews

theorem idxOf_lt_of_filter {names : List String} {test : String → Bool} {first second : String}
    (hsecond : test second = true)
    (h : (names.filter test).idxOf first < (names.filter test).idxOf second) :
    names.idxOf first < names.idxOf second := by
  induction names with
  | nil => exact absurd h (Nat.lt_irrefl _)
  | cons name rest ih =>
      by_cases hhead : name = first
      · have hne : name ≠ second := by
          rintro rfl
          rw [hhead] at h
          exact Nat.lt_irrefl _ h
        rw [hhead, List.idxOf_cons_self, ← hhead, List.idxOf_cons_ne rest hne]
        exact Nat.succ_pos _
      · have hne : name ≠ second := by
          rintro rfl
          rw [List.filter_cons_of_pos hsecond, List.idxOf_cons_self] at h
          exact Nat.not_lt_zero _ h
        rw [List.idxOf_cons_ne rest hhead, List.idxOf_cons_ne rest hne]
        refine Nat.succ_lt_succ (ih ?_)
        by_cases hkept : test name = true
        · rw [List.filter_cons_of_pos hkept, List.idxOf_cons_ne _ hhead,
            List.idxOf_cons_ne _ hne] at h
          exact Nat.lt_of_succ_lt_succ h
        · rwa [List.filter_cons_of_neg hkept] at h

theorem pairwise_eraseDups (names : List String) :
    names.eraseDups.Pairwise fun first second => names.idxOf first < names.idxOf second := by
  cases names with
  | nil => exact List.Pairwise.nil
  | cons name rest =>
      have hlater := pairwise_eraseDups (rest.filter fun other => !other == name)
      have hother
          {other : String} (hmem : other ∈ (rest.filter fun other => !other == name).eraseDups) :
          (!other == name) = true :=
        (List.mem_filter.1 (List.mem_eraseDups.1 hmem)).2
      have hplace {other : String} (hne : (!other == name) = true) :
          (name :: rest).idxOf other = rest.idxOf other + 1 :=
        List.idxOf_cons_ne rest fun heq => by simp [heq] at hne
      rw [List.eraseDups_cons]
      refine List.Pairwise.cons (fun other hmem => ?_)
        (hlater.imp_of_mem fun hfirst hsecond hlt => ?_)
      · rw [List.idxOf_cons_self, hplace (hother hmem)]
        exact Nat.succ_pos _
      · rw [hplace (hother hfirst), hplace (hother hsecond)]
        exact Nat.succ_lt_succ (idxOf_lt_of_filter (hother hsecond) hlt)
termination_by names.length
decreasing_by
  have hshorter := List.length_filter_le (fun other => !other == name) rest
  rw [List.length_cons]
  omega

theorem nodup_eraseDups (names : List String) : names.eraseDups.Nodup :=
  (pairwise_eraseDups names).imp fun hlt heq => Nat.ne_of_lt hlt (congrArg names.idxOf heq)

namespace Directive

/-- No later element has the key of the element at this place. -/
def IsLast {α : Type} (key : α → String) (items : List α) (place : Fin items.length) : Prop :=
  ∀ later, place < later → key items[later] ≠ key items[place]

instance {α : Type} (key : α → String) (items : List α) : DecidablePred (IsLast key items) :=
  fun place =>
    inferInstanceAs (Decidable (∀ later, place < later → key items[later] ≠ key items[place]))

section KeepLast

variable {α : Type} {key : α → String} {items : List α}

theorem keepLast_cons (key : α → String) (first : α) (rest : List α) :
    keepLast key (first :: rest) = if key first ∈ rest.map key then keepLast key rest
      else first :: keepLast key rest := by
  rw [keepLast]
  exact if_congr (by simp) rfl rfl

theorem keepLast_sublist (key : α → String) (items : List α) :
    (keepLast key items).Sublist items := by
  induction items with
  | nil => exact List.Sublist.slnil
  | cons first rest ih =>
      rw [keepLast_cons]
      split
      · exact ih.cons first
      · exact ih.cons_cons first

theorem isLast_zero_iff {first : α} {rest : List α} :
    IsLast key (first :: rest) 0 ↔ key first ∉ rest.map key := by
  constructor
  · intro h hmem
    obtain ⟨later, hlater, hkey⟩ := List.mem_map.1 hmem
    obtain ⟨place, hplace, rfl⟩ := List.mem_iff_getElem.1 hlater
    exact h (Fin.succ ⟨place, hplace⟩) (Fin.succ_pos _) hkey
  · intro h later hlater hkey
    obtain ⟨place, rfl⟩ := Fin.exists_succ_eq.2 (Fin.pos_iff_ne_zero.1 hlater)
    exact h (hkey ▸ List.mem_map_of_mem (List.getElem_mem place.isLt))

theorem isLast_succ_iff {first : α} {rest : List α} {place : Fin rest.length} :
    IsLast key (first :: rest) place.succ ↔ IsLast key rest place := by
  constructor
  · exact fun h later hlater => h later.succ (Fin.succ_lt_succ_iff.2 hlater)
  · intro h later hlater
    obtain ⟨inner, rfl⟩ := Fin.exists_succ_eq.2 (Fin.ne_zero_of_lt hlater)
    exact h inner (Fin.succ_lt_succ_iff.1 hlater)

theorem keepLast_eq (key : α → String) (items : List α) :
    keepLast key items = ((List.finRange items.length).filter (IsLast key items)).map
      items.get := by
  induction items with
  | nil => rfl
  | cons first rest ih =>
      have hlater : ((List.finRange rest.length).map Fin.succ).filter (IsLast key (first :: rest)) =
          ((List.finRange rest.length).filter (IsLast key rest)).map Fin.succ := by
        rw [List.filter_map]
        refine congrArg _ (List.filter_congr fun place _ => ?_)
        exact decide_eq_decide.2 isLast_succ_iff
      have hrest :
          (((List.finRange rest.length).filter (IsLast key rest)).map Fin.succ).map
          (first :: rest).get =
            keepLast key rest := by
        rw [ih, List.map_map]
        rfl
      have hplaces : List.finRange (first :: rest).length =
          0 :: (List.finRange rest.length).map Fin.succ := List.finRange_succ
      rw [keepLast_cons, hplaces, List.filter_cons, hlater]
      by_cases hmem : key first ∈ rest.map key
      · rw [if_pos hmem, if_neg (by simpa [isLast_zero_iff] using hmem), hrest]
      · rw [if_neg hmem, if_pos (by simpa [isLast_zero_iff] using hmem), List.map_cons, hrest]
        rfl

theorem mem_keys_keepLast {name : String} :
    name ∈ (keepLast key items).map key ↔ name ∈ items.map key := by
  induction items with
  | nil => rfl
  | cons first rest ih =>
      rw [keepLast_cons]
      split
      · rename_i hmem
        rw [ih, List.map_cons, List.mem_cons]
        exact ⟨.inr, fun h => h.elim (fun heq => heq ▸ hmem) id⟩
      · rw [List.map_cons, List.map_cons, List.mem_cons, List.mem_cons, ih]

theorem nodup_keys_keepLast (key : α → String) (items : List α) :
    ((keepLast key items).map key).Nodup := by
  induction items with
  | nil => exact List.nodup_nil
  | cons first rest ih =>
      rw [keepLast_cons]
      split
      · exact ih
      · rename_i hnot
        exact List.nodup_cons.2 ⟨fun hmem => hnot (mem_keys_keepLast.1 hmem), ih⟩

theorem isSome_find?_keepLast {name : String} :
    ((keepLast key items).find? (key · == name)).isSome = true ↔ name ∈ items.map key := by
  rw [← mem_keys_keepLast, List.find?_isSome]
  simp

/-- The last element with a key is the one with that key among those that are kept. -/
theorem find?_reverse (key : α → String) (items : List α) (name : String) :
    items.reverse.find? (key · == name) = (keepLast key items).find? (key · == name) := by
  induction items with
  | nil => rfl
  | cons first rest ih =>
      rw [List.reverse_cons, List.find?_append, ih, keepLast_cons]
      by_cases hname : key first = name
      · -- the first element is found only if no later one has its key, and then it is kept
        subst hname
        split
        · rename_i hmem
          rw [Option.or_of_isSome (isSome_find?_keepLast.2 hmem)]
        · rename_i hnot
          have hnone : (keepLast key rest).find? (key · == key first) = none :=
            Option.not_isSome_iff_eq_none.1 fun hsome => hnot (isSome_find?_keepLast.1 hsome)
          have hfirst : (key first == key first) = true := beq_self_eq_true (key first)
          rw [hnone, Option.none_or, List.find?_cons, List.find?_cons, hfirst]
      · have hfirst : (key first == name) = false := beq_eq_false_iff_ne.2 hname
        rw [List.find?_cons, hfirst, List.find?_nil, Option.or_none]
        split
        · rfl
        · rw [List.find?_cons, hfirst]

theorem length_keepLast_eq_iff :
    items.length = (keepLast key items).length ↔ (items.map key).Nodup := by
  constructor
  · intro h
    rw [← (keepLast_sublist key items).eq_of_length h.symm]
    exact nodup_keys_keepLast key items
  · intro h
    have hsubset : items.map key ⊆ (keepLast key items).map key :=
      fun name hmem => mem_keys_keepLast.2 hmem
    have hle := (List.subperm_of_subset h hsubset).length_le
    rw [List.length_map, List.length_map] at hle
    exact Nat.le_antisymm hle (keepLast_sublist key items).length_le

theorem keepLast_eq_self (h : (items.map key).Nodup) : keepLast key items = items :=
  (keepLast_sublist key items).eq_of_length (length_keepLast_eq_iff.2 h).symm

theorem find?_eq_some_of_nodup (h : (items.map key).Nodup) {item : α} (hmem : item ∈ items) :
    items.find? (fun other => key other == key item) = some item := by
  cases hfound : items.find? fun other => key other == key item with
  | none => exact absurd (beq_self_eq_true (key item)) (List.find?_eq_none.1 hfound item hmem)
  | some other =>
      have hkey : (key other == key item) = true :=
        List.find?_some (p := fun other => key other == key item) hfound
      exact congrArg some (List.inj_on_of_nodup_map h (List.mem_of_find?_eq_some hfound) hmem
        (beq_iff_eq.1 hkey))

end KeepLast

end Directive

end SchemaViews
