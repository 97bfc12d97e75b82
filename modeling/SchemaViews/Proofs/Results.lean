import Mathlib.Logic.Basic

/-!
# Results of computations that can fail

A result that is made from another one succeeds or fails as that one does. Proofs about readers take
a successful reading apart with these lemmas, and put aside where a fault is reported.
-/

namespace SchemaViews

variable {ε δ α β : Type}

section Cases

variable {result : Except ε α}

theorem map_eq_ok_iff {f : α → β} {value : β} :
    result.map f = .ok value ↔ ∃ inner, result = .ok inner ∧ f inner = value := by
  cases result <;> simp [Except.map]

theorem bind_eq_ok_iff {f : α → Except ε β} {value : β} :
    result.bind f = .ok value ↔ ∃ inner, result = .ok inner ∧ f inner = .ok value := by
  cases result <;> simp [Except.bind]

theorem mapError_eq_ok_iff {f : ε → δ} {value : α} :
    result.mapError f = .ok value ↔ result = .ok value := by
  cases result with
  | error error => exact ⟨nofun, nofun⟩
  | ok inner =>
      exact ⟨fun h => congrArg Except.ok (Except.ok.inj h),
        fun h => congrArg Except.ok (Except.ok.inj h)⟩

theorem map_eq_error_iff {f : α → β} {error : ε} :
    result.map f = .error error ↔ result = .error error := by
  cases result <;> simp [Except.map]

theorem toOption_eq_some {value : α} : result.toOption = some value ↔ result = .ok value := by
  cases result <;> simp [Except.toOption]

theorem toOption_eq_none : result.toOption = none ↔ ∃ error, result = .error error := by
  cases result <;> simp [Except.toOption]

end Cases

theorem toOption_map (f : α → β) (result : Except ε α) :
    (result.map f).toOption = result.toOption.map f := by
  cases result <;> rfl

theorem toOption_bind (f : α → Except ε β) (result : Except ε α) :
    (result.bind f).toOption = result.toOption.bind fun value => (f value).toOption := by
  cases result <;> rfl

theorem toOption_mapError (f : ε → δ) (result : Except ε α) :
    (result.mapError f).toOption = result.toOption := by
  cases result <;> rfl

theorem mapError_map_ok (f : α → β) (g : ε → δ) (value : α) :
    ((Except.ok value).map f).mapError g = .ok (f value) := rfl

theorem mapError_map_error (f : α → β) (g : ε → δ) (error : ε) :
    ((Except.error error).map f).mapError g = .error (g error) := rfl

end SchemaViews
