import SchemaViews.Directive.Annotation

/-!
# Names in any letter case

A directive is known by its name in capitals, in small letters or in a mixture of both, and the name
is read as far as its letters go.
-/

namespace SchemaViews

open SchemaViews.Text

namespace Text

theorem lowerFrom_ascii {text : List Char} (before : List Char) (h : ∀ c ∈ text, c.toNat < 128) :
    lowerFrom before text = text.map Char.toLower := by
  induction text generalizing before with
  | nil => rfl
  | cons c text ih =>
      rw [List.forall_mem_cons] at h
      calc
        lowerFrom before (c :: text) = [c.toLower] ++ lowerFrom (c :: before) text := by
          rw [lowerFrom, lowerChar, if_pos h.1]
        _ = (c :: text).map Char.toLower := by rw [ih _ h.2, List.map_cons, List.singleton_append]

theorem isAlpha_of_isLower_toLower {c : Char} (h : c.toLower.isLower = true) :
    c.isAlpha = true := by
  unfold Char.toLower at h
  split at h
  · rename_i hrange
    have hupper : c.isUpper = true := decide_eq_true hrange
    change (c.isUpper || c.isLower) = true
    rw [hupper, Bool.true_or]
  · change (c.isUpper || c.isLower) = true
    rw [h, Bool.or_true]

theorem toNat_lt_of_isAlpha {c : Char} (h : c.isAlpha = true) : c.toNat < 128 := by
  change (decide ('A'.val ≤ c.val ∧ c.val ≤ 'Z'.val) ||
    (decide ('a'.val ≤ c.val) && decide (c.val ≤ 'z'.val))) = true at h
  simp only [Bool.or_eq_true, Bool.and_eq_true, decide_eq_true_eq, UInt32.le_iff_toNat_le] at h
  change c.val.toNat < 128
  rcases h with ⟨-, hle⟩ | ⟨-, hle⟩
  · exact Nat.lt_of_le_of_lt hle (by decide)
  · exact Nat.lt_of_le_of_lt hle (by decide)

theorem isWordChar_of_isAlpha {c : Char} (h : c.isAlpha = true) : isWordChar c = true := by
  rw [isWordChar, if_pos (toNat_lt_of_isAlpha h)]
  change (c.isAlpha || c.isDigit || c == '_') = true
  rw [h]
  rfl

end Text

namespace DirectiveName

theorem ofWritten_text (name : DirectiveName) : ofWritten? name.text.toList = some name := by
  cases name <;> decide

theorem text_letters (name : DirectiveName) :
    ['g', 'q', 'l'] <+: name.text.toList.map Char.toLower ∧
    (name.text.toList.map Char.toLower).all Char.isLower = true := by
  cases name <;> decide

variable {name : DirectiveName} {spelling : List Char}
    (h : spelling.map Char.toLower = name.text.toList.map Char.toLower)

include h

theorem isAlpha_of_spells : ∀ c ∈ spelling, c.isAlpha = true := by
  intro c hmem
  have hlower : c.toLower ∈ name.text.toList.map Char.toLower := by
    rw [← h]
    exact List.mem_map_of_mem hmem
  exact isAlpha_of_isLower_toLower (List.all_eq_true.1 name.text_letters.2 _ hlower)

theorem ofWritten_of_spells : ofWritten? spelling = some name := by
  have hlower {word : List Char} (hword : ∀ c ∈ word, c.isAlpha = true) :
      lower word = word.map Char.toLower :=
    lowerFrom_ascii [] fun c hmem => toNat_lt_of_isAlpha (hword c hmem)
  have hsame : lower spelling = lower name.text.toList := by
    rw [hlower (isAlpha_of_spells h),
      hlower (isAlpha_of_spells (Eq.refl (name.text.toList.map Char.toLower))), h]
  rw [← ofWritten_text name]
  simp only [ofWritten?, hsame]

/-- A spelled name is read up to what comes behind it, which must not be a letter or the like. -/
theorem writtenName_of_spells {more : List Char} (hmore : ∀ c ∈ more.head?, isWordChar c = false) :
    Directive.writtenName? (spelling ++ more) = some spelling := by
  obtain ⟨rest, hrest⟩ := name.text_letters.1
  rw [← h] at hrest
  obtain ⟨first, _, rfl, hfirst, hrest⟩ := List.map_eq_cons_iff.1 hrest.symm
  obtain ⟨second, _, rfl, hsecond, hrest⟩ := List.map_eq_cons_iff.1 hrest
  obtain ⟨third, tail, rfl, hthird, -⟩ := List.map_eq_cons_iff.1 hrest
  have htail : ∀ c ∈ tail, isWordChar c = true := by
    intro c hmem
    refine isWordChar_of_isAlpha (isAlpha_of_spells h c ?_)
    simp only [List.mem_cons, hmem, or_true]
  have hends : more.takeWhile isWordChar = [] := by
    cases more with
    | nil => rfl
    | cons c more => exact List.takeWhile_cons_of_neg (Bool.eq_false_iff.1 (hmore c rfl))
  calc
    Directive.writtenName? (first :: second :: third :: tail ++ more) =
        some (first :: second :: third :: (tail ++ more).takeWhile isWordChar) := by
      rw [List.cons_append, List.cons_append, List.cons_append, Directive.writtenName?, hfirst,
        hsecond, hthird, if_pos (by decide)]
    _ = some (first :: second :: third :: tail) := by
      rw [List.takeWhile_append_of_pos htail, hends, List.append_nil]

end DirectiveName

end SchemaViews
