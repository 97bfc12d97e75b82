import Mathlib.Data.List.Forall2

/-!
# Related lists and readings

Two lists whose items are related one by one. What is made of the items in the same way
is the same, or related again. Two readings are alike if both come to related values, or
both stop at the same fault.
-/

namespace SchemaViews

variable {α β γ : Type} {related : α → β → Prop} {items : List α} {others : List β}

theorem flatMap_eq_of_forall₂ {f : α → List γ} {g : β → List γ}
    (h : List.Forall₂ related items others)
    (hsame : ∀ item other, related item other → f item = g other) :
    items.flatMap f = others.flatMap g := by
  induction h with
  | nil => rfl
  | cons hfirst _ ih => rw [List.flatMap_cons, List.flatMap_cons, hsame _ _ hfirst, ih]

theorem filterMap_eq_of_forall₂ {f : α → Option γ} {g : β → Option γ}
    (h : List.Forall₂ related items others)
    (hsame : ∀ item other, related item other → f item = g other) :
    items.filterMap f = others.filterMap g := by
  induction h with
  | nil => rfl
  | cons hfirst _ ih => rw [List.filterMap_cons, List.filterMap_cons, hsame _ _ hfirst, ih]

theorem map_eq_of_forall₂ {f : α → γ} {g : β → γ} (h : List.Forall₂ related items others)
    (hsame : ∀ item other, related item other → f item = g other) : items.map f = others.map g := by
  rw [← List.forall₂_eq_eq_eq, List.forall₂_map_left_iff, List.forall₂_map_right_iff]
  exact h.imp hsame

theorem map_eq_of_rel {item : Option α} {other : Option β} {f : α → γ} {g : β → γ}
    (h : Option.Rel related item other)
    (hsame : ∀ item other, related item other → f item = g other) : item.map f = other.map g := by
  cases h with
  | none => rfl
  | some hitem => exact congrArg some (hsame _ _ hitem)

theorem rel_find? {test : α → Bool} {otherTest : β → Bool} (h : List.Forall₂ related items others)
    (hsame : ∀ item other, related item other → test item = otherTest other) :
    Option.Rel related (items.find? test) (others.find? otherTest) := by
  induction h with
  | nil => exact .none
  | cons hfirst _ ih =>
      rw [List.find?_cons, List.find?_cons, hsame _ _ hfirst]
      split
      · exact .some hfirst
      · exact ih

theorem forall₂_zipIdx (h : List.Forall₂ related items others) (place : Nat) :
    List.Forall₂ (fun entry other => related entry.1 other.1 ∧ entry.2 = other.2)
      (items.zipIdx place) (others.zipIdx place) := by
  induction h generalizing place with
  | nil => exact .nil
  | cons hfirst _ ih => exact .cons ⟨hfirst, rfl⟩ (ih (place + 1))

/-- Both readings come to related values, or both stop at one fault. -/
inductive ReadsAlike {ε : Type} (related : α → β → Prop) : Except ε α → Except ε β → Prop
  | ok {value : α} {other : β} : related value other → ReadsAlike related (.ok value) (.ok other)
  | error (fault : ε) : ReadsAlike related (.error fault) (.error fault)

theorem ReadsAlike.map {δ ε : Type} {result : Except ε α} {other : Except ε β}
    (h : ReadsAlike related result other) {made : γ → δ → Prop} {f : α → γ} {g : β → δ}
    (hmade : ∀ value other, related value other → made (f value) (g other)) :
    ReadsAlike made (result.map f) (other.map g) := by
  cases h with
  | ok hvalue => exact .ok (hmade _ _ hvalue)
  | error fault => exact .error fault

theorem readsAlike_ok_iff {ε : Type} {result : Except ε α} {otherResult : Except ε β} {value : α}
    {other : β} (hresult : result = .ok value) (hother : otherResult = .ok other) :
    ReadsAlike related result otherResult ↔ related value other := by
  subst hresult hother
  exact ⟨fun | .ok hvalue => hvalue, .ok⟩

end SchemaViews
