import SchemaViews.Proofs.Directive.Positions

/-!
# Whose fault it is

No reader attributes a fault to a unit. An annotation is read in the same way for every unit, and a
fault that ends the reading gets the name of the unit, unless that is empty.
-/

namespace SchemaViews.Directive

open SchemaViews.Text

variable {text : List Char} {error : SyntaxError}

theorem source_scanFrom {unclosed : Option SyntaxError} {nesting position : Nat}
    (hunclosed : ∀ fault, unclosed = some fault → fault.source = none)
    (h : scanFrom unclosed nesting position text = .error error) : error.source = none := by
  generalize hresult : Except.error error = result at h
  replace h := scansTo_of_scanFrom h
  induction h with
  | missing inside =>
      cases hresult
      exact hunclosed error inside
  | exhausted | closed => cases hresult
  | unterminated =>
      cases hresult
      rfl
  | spacing _ _ ih => exact ih hresult
  | token _ _ ih => exact ih (map_eq_error_iff.1 hresult.symm).symm

theorem source_readArguments {ending : Ending} {tokens : List Token}
    (h : readArguments text ending tokens = .error error) : error.source = none := by
  have hread :
      Reports (fun _ => True) (fun fault => fault.source = none)
      (readArguments text ending tokens) :=
    reports_readArguments (fun _ => rfl) fun _ _ _ => rfl
  rw [h] at hread
  exact hread.of_error

theorem source_readAll (h : readAll text = .error error) : error.source = none := by
  rw [readAll, tokenize_whole] at h
  cases hscan : scanFrom none 0 0 text with
  | error fault =>
      rw [hscan] at h
      cases h
      exact source_scanFrom (fun _ hsome => by cases hsome) hscan
  | ok scan =>
      rw [hscan] at h
      exact source_readArguments h

theorem source_readTag {position : Nat} (h : readTag position text = .error error) :
    error.source = none := by
  unfold readTag at h
  simp only at h
  split at h
  · cases h
    rfl
  · split at h
    · rename_i fault hread
      have hfault : fault.source = none := source_readAll hread
      cases h
      exact hfault
    · cases h

theorem source_readDirective {position : Nat} {written rest : List Char}
    (h : readDirective text position written rest = .error error) : error.source = none := by
  unfold readDirective at h
  simp only at h
  split at h
  · cases h
    rfl
  · split at h
    · split at h
      · rename_i unscanned hscan
        cases h
        refine source_scanFrom (fun fault hsome => ?_) hscan
        cases hsome
        rfl
      · exact source_readArguments (map_eq_error_iff.1 h)
    · cases h

theorem Begins.source {before : Option Char} {position : Nat} {rest : List Char}
    (h : Begins text before position rest (.error error)) : error.source = none := by
  generalize hread : Except.error error = result at h
  cases h with
  | tag => exact source_readTag hread.symm
  | directive => exact source_readDirective hread.symm

theorem source_readFrom {before : Option Char} {position : Nat} {rest : List Char}
    (h : readFrom text before position rest = .error error) : error.source = none := by
  generalize hresult : Except.error error = result at h
  replace h := readsTo_of_readFrom h
  induction h with
  | nil => cases hresult
  | skip _ _ _ ih => exact ih hresult
  | fault begins =>
      cases hresult
      exact begins.source
  | found _ _ ih => exact ih (map_eq_error_iff.1 hresult.symm).symm

theorem ofAnnotation_eq_ok_iff {source : Option String} {directives : List Directive} :
    ofAnnotation text source = .ok directives ↔ ofAnnotation text none = .ok directives :=
  mapError_eq_ok_iff.trans mapError_eq_ok_iff.symm

/-- A fault belongs to the unit whose annotation is read, if that has a name. -/
theorem ofAnnotation_eq_error_iff {unit : String} : ofAnnotation text (some unit) = .error error ↔
    ∃ fault, ofAnnotation text none = .error fault ∧
      error = { fault with source := if unit.isEmpty then none else some unit } := by
  unfold ofAnnotation
  cases hread : readFrom text none 0 text with
  | ok directives => simp [Except.mapError]
  | error fault =>
      have hnone : fault.source = none := source_readFrom hread
      have hattribute : fault.attribute (some unit) =
          { fault with source := if unit.isEmpty then none else some unit } := by
        unfold SyntaxError.attribute
        simp only
        split
        · rw [← hnone]
        · rfl
      simp only [Except.mapError, Except.error.injEq, exists_eq_left', hattribute]
      exact ⟨fun h => h.symm, fun h => h.symm⟩

end SchemaViews.Directive
