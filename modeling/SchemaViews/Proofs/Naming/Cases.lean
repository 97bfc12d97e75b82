import Mathlib.Data.List.TakeWhile
import SchemaViews.Naming
import SchemaViews.Proofs.Directive.ListForms
import SchemaViews.Proofs.Document.Types

/-!
# Names in snake case and camel case

Snake case puts underscores between the characters of a name and lowers its letters; camel case
lowers the capitals that a name begins with and drops its underscores. Both make names of names, and
a second time they change nothing.
-/

namespace SchemaViews

open SchemaViews.Text

namespace Naming

/-! ### Characters of names -/

section Characters

variable {c : Char}

theorem toNat_lt_of_isNameChar (h : isNameChar c = true) : c.toNat < 128 := by
  rw [isNameChar, Char.isAlphanum, Bool.or_eq_true, Bool.or_eq_true, beq_iff_eq] at h
  rcases h with (halpha | hdigit) | rfl
  · exact toNat_lt_of_isAlpha halpha
  · rw [Char.isDigit, Bool.and_eq_true, decide_eq_true_eq, decide_eq_true_eq] at hdigit
    have hle : c.toNat ≤ '9'.toNat := UInt32.le_iff_toNat_le.1 hdigit.2
    exact Nat.lt_of_le_of_lt hle (by decide)
  · decide

theorem of_isNameChar {p : Char → Prop} (h : isNameChar c = true)
    (hall : ∀ code < 128, isNameChar (Char.ofNat code) = true → p (Char.ofNat code)) : p c := by
  have hcode := hall c.toNat (toNat_lt_of_isNameChar h)
  rw [Char.ofNat_toNat] at hcode
  exact hcode h

theorem isNameChar_toLower (h : isNameChar c = true) : isNameChar c.toLower = true := by
  apply of_isNameChar h
  decide +kernel

theorem isUpper_toLower (h : isNameChar c = true) : c.toLower.isUpper = false := by
  apply of_isNameChar h
  decide +kernel

theorem isLower_toLower (h : isNameChar c = true) (hupper : c.isUpper = true) :
    c.toLower.isLower = true := by
  revert hupper
  apply of_isNameChar h
  decide +kernel

theorem toLower_of_not_isUpper (h : c.isUpper = false) : c.toLower = c := by
  exact dif_neg (decide_eq_false_iff_not.1 h)

theorem toLower_eq_underscore (h : isNameChar c = true) : c.toLower = '_' ↔ c = '_' := by
  apply of_isNameChar h
  decide +kernel

theorem isNameChar_toUpper (h : isNameChar c = true) : isNameChar c.toUpper = true := by
  apply of_isNameChar h
  decide +kernel

theorem toUpper_eq_underscore (h : isNameChar c = true) : c.toUpper = '_' ↔ c = '_' := by
  apply of_isNameChar h
  decide +kernel

theorem lower_of_isNameChar {text : List Char} (h : ∀ c ∈ text, isNameChar c = true) :
    lower text = text.map Char.toLower :=
  lowerFrom_ascii [] fun c hc => toNat_lt_of_isNameChar (h c hc)

end Characters

/-! ### Snake case -/

/-- The second text is the first with an underscore behind some of its characters. -/
inductive Spaced : List Char → List Char → Prop where
  | same (text : List Char) : Spaced text text
  | keep {text spaced : List Char} (c : Char) (h : Spaced text spaced) :
      Spaced (c :: text) (c :: spaced)
  | insert {text spaced : List Char} (c : Char) (h : Spaced text spaced) :
      Spaced (c :: text) (c :: '_' :: spaced)

namespace Spaced

variable {text spaced : List Char}

theorem mem (h : Spaced text spaced) {c : Char} (hc : c ∈ spaced) : c ∈ text ∨ c = '_' := by
  induction h with
  | same text => exact .inl hc
  | keep first _ ih =>
      rcases List.mem_cons.1 hc with rfl | hrest
      · exact .inl List.mem_cons_self
      · exact (ih hrest).imp_left (List.mem_cons_of_mem first)
  | insert first _ ih =>
      rcases List.mem_cons.1 hc with rfl | hrest
      · exact .inl List.mem_cons_self
      · rcases List.mem_cons.1 hrest with rfl | hrest
        · exact .inr rfl
        · exact (ih hrest).imp_left (List.mem_cons_of_mem first)

theorem head?_eq (h : Spaced text spaced) : spaced.head? = text.head? := by
  cases h <;> rfl

theorem isNameChar (h : Spaced text spaced) (htext : ∀ c ∈ text, Naming.isNameChar c = true) :
    ∀ c ∈ spaced, Naming.isNameChar c = true := by
  intro c hc
  rcases h.mem hc with hmem | rfl
  · exact htext c hmem
  · rfl

end Spaced

theorem spaced_splitWords (inWord : Bool) (text : List Char) :
    Spaced text (splitWords inWord text) := by
  fun_induction splitWords inWord text with
  | case1 _ c capital small rest _ ih => exact .keep c ih
  | case2 _ c capital small rest _ _ ih => exact .insert c (.keep capital ih)
  | case3 _ c capital small rest _ _ ih => exact .keep c ih
  | case4 _ text _ => exact .same text

theorem spaced_splitCapitals (text : List Char) : Spaced text (splitCapitals text) := by
  fun_induction splitCapitals text with
  | case1 c next rest _ ih => exact .insert c ih
  | case2 c next rest _ ih => exact .keep c ih
  | case3 text _ => exact .same text

theorem splitWords_eq_self (inWord : Bool) {text : List Char} (h : ∀ c ∈ text, c.isUpper = false) :
    splitWords inWord text = text := by
  fun_induction splitWords inWord text with
  | case1 _ c capital small rest _ ih => rw [ih (List.forall_mem_cons.1 h).2]
  | case2 _ c capital small rest _ hcapital ih =>
      simp [h capital (by simp)] at hcapital
  | case3 _ c capital small rest _ _ ih => rw [ih (List.forall_mem_cons.1 h).2]
  | case4 _ text _ => rfl

theorem splitCapitals_eq_self {text : List Char} (h : ∀ c ∈ text, c.isUpper = false) :
    splitCapitals text = text := by
  fun_induction splitCapitals text with
  | case1 c next rest hnext ih => simp [h next (by simp)] at hnext
  | case2 c next rest _ ih => rw [ih (List.forall_mem_cons.1 h).2]
  | case3 text _ => rfl

section SnakeCase

variable {name : String} (h : ∀ c ∈ name.toList, isNameChar c = true)

include h

theorem isNameChar_of_mem_splitCapitals :
    ∀ c ∈ splitCapitals (splitWords false name.toList), isNameChar c = true :=
  (spaced_splitCapitals _).isNameChar ((spaced_splitWords false _).isNameChar h)

theorem toList_snakeCase :
    (snakeCase name).toList = (splitCapitals (splitWords false name.toList)).map Char.toLower := by
  rw [snakeCase, String.toList_ofList, lower_of_isNameChar (isNameChar_of_mem_splitCapitals h)]

theorem head?_snakeCase : (snakeCase name).toList.head? = name.toList.head?.map Char.toLower := by
  rw [toList_snakeCase h, List.head?_map, (spaced_splitCapitals _).head?_eq,
    (spaced_splitWords false _).head?_eq]

theorem isNameChar_snakeCase :
    ∀ c ∈ (snakeCase name).toList, isNameChar c = true ∧ c.isUpper = false := by
  rw [toList_snakeCase h, List.forall_mem_map]
  intro c hc
  have hchar := isNameChar_of_mem_splitCapitals h c hc
  exact ⟨isNameChar_toLower hchar, isUpper_toLower hchar⟩

theorem snakeCase_eq_self (hupper : ∀ c ∈ name.toList, c.isUpper = false) :
    snakeCase name = name := by
  have hlower : name.toList.map Char.toLower = name.toList := by
    rw [List.map_congr_left fun c hc => toLower_of_not_isUpper (hupper c hc), List.map_id']
  rw [← String.toList_inj, toList_snakeCase h, splitWords_eq_self false hupper,
    splitCapitals_eq_self hupper, hlower]

theorem snakeCase_snakeCase : snakeCase (snakeCase name) = snakeCase name :=
  snakeCase_eq_self (fun c hc => (isNameChar_snakeCase h c hc).1) fun c hc =>
    (isNameChar_snakeCase h c hc).2

end SnakeCase

/-! ### Camel case -/

section Pieces

variable {separator : Char} {text piece : List Char}

theorem mem_of_mem_splitOn (h : piece ∈ splitOn separator text) {c : Char} (hc : c ∈ piece) :
    c ∈ text ∧ c ≠ separator := by
  induction text generalizing piece with
  | nil =>
      rw [List.mem_singleton.1 h] at hc
      cases hc
  | cons first rest ih =>
      have hbehind : ∀ piece ∈ splitOn separator rest, c ∈ piece →
          c ∈ first :: rest ∧ c ≠ separator :=
        fun _ hpiece hmem => (ih hpiece hmem).imp_left (List.mem_cons_of_mem first)
      rw [splitOn] at h
      split at h
      · rw [List.mem_singleton.1 h] at hc
        cases hc
      · rename_i start pieces hsplit
        rw [hsplit] at hbehind
        split at h
        · rcases List.mem_cons.1 h with rfl | hpiece
          · cases hc
          · exact hbehind _ hpiece hc
        · rename_i hfirst
          rcases List.mem_cons.1 h with rfl | hpiece
          · rcases List.mem_cons.1 hc with rfl | hstart
            · exact ⟨List.mem_cons_self, by simpa using hfirst⟩
            · exact hbehind _ List.mem_cons_self hstart
          · exact hbehind _ (List.mem_cons_of_mem _ hpiece) hc

theorem splitOn_cons_of_ne {c : Char} (hc : c ≠ separator) (text : List Char) :
    ∃ piece pieces, splitOn separator (c :: text) = (c :: piece) :: pieces := by
  rw [splitOn]
  split
  · rename_i hnil
    rw [splitOn_eq] at hnil
    exact absurd hnil (List.splitOn_ne_nil separator text)
  · rename_i piece pieces _
    exact ⟨piece, pieces, if_neg (by simpa using hc)⟩

end Pieces

section CamelWord

variable (word : List Char)

/-- The capitals that a word begins with are lowered, all of them or all but the
last; one capital always is. -/
theorem exists_camelWord : ∃ run rest, word = run ++ rest ∧ (∀ c ∈ run, c.isUpper = true) ∧
    camelWord word = run.map Char.toLower ++ rest ∧
    (run = [] → ∀ c ∈ word.head?, c.isUpper = false) := by
  have hcapitals : ∀ c ∈ word.takeWhile Char.isUpper, c.isUpper = true :=
    fun c hc => List.mem_takeWhile_imp hc
  have hword := List.takeWhile_append_dropWhile (p := Char.isUpper) (l := word)
  have hhead : word.takeWhile Char.isUpper = [] → ∀ c ∈ word.head?, c.isUpper = false := by
    intro hnil c hc
    obtain ⟨rest, rfl⟩ := List.head?_eq_some_iff.1 hc
    by_contra hupper
    rw [List.takeWhile_cons_of_pos (by simpa using hupper)] at hnil
    cases hnil
  have hdrop : word.drop (word.takeWhile Char.isUpper).length = word.dropWhile Char.isUpper := by
    calc word.drop (word.takeWhile Char.isUpper).length
        = (word.takeWhile Char.isUpper ++ word.dropWhile Char.isUpper).drop
            (word.takeWhile Char.isUpper).length := by rw [hword]
      _ = word.dropWhile Char.isUpper := List.drop_left
  rw [camelWord]
  simp only [hdrop]
  generalize word.takeWhile Char.isUpper = capitals at hcapitals hword hhead
  generalize word.dropWhile Char.isUpper = others at hword
  cases others with
  | nil => exact ⟨capitals, [], hword.symm, hcapitals, by simp, hhead⟩
  | cons next others =>
      by_cases hkept : 1 < capitals.length ∧ isLowercase next = true
      · have hrun : (decide (1 < capitals.length) && isLowercase next) = true := by
          simpa using hkept
        refine ⟨capitals.dropLast, capitals.drop capitals.dropLast.length ++ next :: others, ?_, ?_,
          ?_, ?_⟩
        · rw [← List.append_assoc, List.dropLast_eq_take, List.length_take,
            Nat.min_eq_left (Nat.sub_le _ _), List.take_append_drop, hword]
        · exact fun c hc => hcapitals c (List.dropLast_subset capitals hc)
        · simp only [hrun, if_true, List.append_assoc]
        · intro hnil
          have hlength := congrArg List.length hnil
          rw [List.length_dropLast, List.length_nil] at hlength
          omega
      · have hrun : (decide (1 < capitals.length) && isLowercase next) = false := by
          simpa using hkept
        refine ⟨capitals, next :: others, hword.symm, hcapitals, ?_, hhead⟩
        simp only [hrun, Bool.false_eq_true, if_false, List.drop_length, List.append_nil]

theorem head?_camelWord : (camelWord word).head? = word.head?.map Char.toLower := by
  obtain ⟨run, rest, hword, -, hcamel, hhead⟩ := exists_camelWord word
  rw [hcamel]
  cases run with
  | nil =>
      rw [List.nil_append] at hword
      rw [List.map_nil, List.nil_append, ← hword]
      cases hfirst : word.head? with
      | none => rfl
      | some c => rw [Option.map_some, toLower_of_not_isUpper (hhead rfl c hfirst)]
  | cons c run =>
      rw [hword]
      rfl

def IsUnbroken (text : List Char) : Prop :=
  ∀ c ∈ text, isNameChar c = true ∧ c ≠ '_'

theorem isUnbroken_camelWord {word : List Char} (h : IsUnbroken word) :
    IsUnbroken (camelWord word) := by
  obtain ⟨run, rest, rfl, -, hcamel, -⟩ := exists_camelWord word
  obtain ⟨hrun, hrest⟩ := List.forall_mem_append.1 h
  rw [hcamel, IsUnbroken, List.forall_mem_append, List.forall_mem_map]
  refine ⟨fun c hc => ?_, hrest⟩
  obtain ⟨hchar, hother⟩ := hrun c hc
  exact ⟨isNameChar_toLower hchar, fun heq => hother ((toLower_eq_underscore hchar).1 heq)⟩

theorem camelWord_eq_self {word : List Char} (h : ∀ c ∈ word.head?, c.isUpper = false) :
    camelWord word = word := by
  cases word with
  | nil => rfl
  | cons c word =>
      rw [camelWord, List.takeWhile_cons_of_neg (by simp [h c rfl])]
      rfl

theorem isUnbroken_capitalize {part : List Char} (h : IsUnbroken part) :
    IsUnbroken (capitalize part) := by
  cases part with
  | nil => exact List.forall_mem_nil _
  | cons c part =>
      obtain ⟨⟨hchar, hother⟩, hrest⟩ := List.forall_mem_cons.1 h
      rw [capitalize, upperChar, if_pos (toNat_lt_of_isNameChar hchar)]
      exact List.forall_mem_cons.2
        ⟨⟨isNameChar_toUpper hchar, fun heq => hother ((toUpper_eq_underscore hchar).1 heq)⟩, hrest⟩

end CamelWord

section CamelCase

variable {name : String}

def parts (name : String) : List (List Char) :=
  (splitOn '_' name.toList).filter fun part => !part.isEmpty

theorem camelCase_of_parts_eq_nil (h : parts name = []) : camelCase name = name := by
  unfold parts at h
  unfold camelCase
  rw [h]

theorem toList_camelCase {first : List Char} {rest : List (List Char)}
    (h : parts name = first :: rest) :
    (camelCase name).toList = camelWord first ++ (rest.map capitalize).flatten := by
  unfold parts at h
  unfold camelCase
  rw [h, String.toList_ofList]

theorem unbroken_of_mem_parts (h : ∀ c ∈ name.toList, isNameChar c = true) {part : List Char}
    (hpart : part ∈ parts name) : part ≠ [] ∧ IsUnbroken part := by
  obtain ⟨hpiece, hne⟩ := List.mem_filter.1 hpart
  refine ⟨by simpa using hne, fun c hc => ?_⟩
  obtain ⟨hmem, hother⟩ := mem_of_mem_splitOn hpiece hc
  exact ⟨h c hmem, hother⟩

theorem isUnbroken_camelCase (h : ∀ c ∈ name.toList, isNameChar c = true)
    (hparts : parts name ≠ []) : IsUnbroken (camelCase name).toList := by
  cases hname : parts name with
  | nil => exact absurd hname hparts
  | cons first rest =>
      have hunbroken : ∀ part ∈ first :: rest, IsUnbroken part := by
        intro part hpart
        exact (unbroken_of_mem_parts h (hname ▸ hpart)).2
      rw [toList_camelCase hname, IsUnbroken, List.forall_mem_append]
      refine ⟨isUnbroken_camelWord (hunbroken first List.mem_cons_self), fun c hc => ?_⟩
      obtain ⟨capitalized, hcapitalized, hmem⟩ := List.mem_flatten.1 hc
      obtain ⟨part, hpart, rfl⟩ := List.mem_map.1 hcapitalized
      exact isUnbroken_capitalize (hunbroken part (List.mem_cons_of_mem first hpart)) c hmem

/-- A name in camel case begins with the first character that is no underscore, lowered. -/
theorem head?_camelCase (h : ∀ c ∈ name.toList, isNameChar c = true) {first : List Char}
    {rest : List (List Char)} (hparts : parts name = first :: rest) :
    (camelCase name).toList.head? = first.head?.map Char.toLower := by
  have hne : first ≠ [] := (unbroken_of_mem_parts h (hparts ▸ List.mem_cons_self)).1
  cases first with
  | nil => exact absurd rfl hne
  | cons c first =>
      have hword : (camelWord (c :: first)).head? = some c.toLower := by
        rw [head?_camelWord, List.head?_cons, Option.map_some]
      calc
        (camelCase name).toList.head? = some c.toLower := by
          rw [toList_camelCase hparts, List.head?_append, hword, Option.some_or]
        _ = (c :: first).head?.map Char.toLower := by rw [List.head?_cons, Option.map_some]

theorem camelCase_eq_self (h : IsUnbroken name.toList)
    (hhead : ∀ c ∈ name.toList.head?, c.isUpper = false) : camelCase name = name := by
  have hsplit : splitOn '_' name.toList = [name.toList] := by
    rw [splitOn_eq]
    exact List.splitOn_eq_singleton fun hmem => (h '_' hmem).2 rfl
  by_cases hempty : name.toList = []
  · apply camelCase_of_parts_eq_nil
    rw [parts, hsplit, hempty]
    rfl
  · have hparts : parts name = [name.toList] := by
      rw [parts, hsplit, List.filter_cons_of_pos (by simpa using hempty), List.filter_nil]
    rw [← String.toList_inj, toList_camelCase hparts, camelWord_eq_self hhead]
    exact List.append_nil _

theorem camelCase_camelCase (h : ∀ c ∈ name.toList, isNameChar c = true) :
    camelCase (camelCase name) = camelCase name := by
  cases hparts : parts name with
  | nil =>
      have hname := camelCase_of_parts_eq_nil hparts
      rw [hname, hname]
  | cons first rest =>
      apply camelCase_eq_self (isUnbroken_camelCase h (hparts ▸ List.cons_ne_nil first rest))
      rw [head?_camelCase h hparts]
      intro c hc
      obtain ⟨initial, hinitial, rfl⟩ := Option.map_eq_some_iff.1 hc
      have hunbroken := (unbroken_of_mem_parts h (hparts ▸ List.mem_cons_self)).2
      exact isUpper_toLower (hunbroken initial (List.mem_of_head? hinitial)).1

end CamelCase

end Naming

end SchemaViews
