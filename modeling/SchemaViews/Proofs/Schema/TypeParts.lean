import Mathlib.Data.List.TakeWhile
import SchemaViews.Proofs.Document.Types
import SchemaViews.Schema.Resolved

/-!
# The parts of a type

A type of one line is taken apart in one way: the brackets in front, the longest name behind them,
and the rest. Taking apart what has been put together gives the same parts, and removing the
brackets and marks at the ends finds the name again.
-/

namespace SchemaViews

open SchemaViews.Text

namespace Naming

theorem dropNewline_of_notMem {text : List Char} (h : '\n' ∉ text) : dropNewline text = text := by
  rw [dropNewline, if_neg]
  intro hlast
  exact h (List.mem_of_getLast? (by simpa using hlast))

theorem dropNewline_concat (text : List Char) : dropNewline (text ++ ['\n']) = text := by
  rw [dropNewline, if_pos (by simp), List.dropLast_concat]

theorem eq_dropNewline_or (text : List Char) :
    text = dropNewline text ∨ text = dropNewline text ++ ['\n'] := by
  unfold dropNewline
  split
  · rename_i hlast
    right
    obtain ⟨front, rfl⟩ := List.getLast?_eq_some_iff.1 (by simpa using hlast)
    rw [List.dropLast_concat]
  · exact Or.inl rfl

theorem ne_nil_of_admits {name : String} (h : admits name = true) : name.toList ≠ [] := by
  intro hnil
  rw [admits, hnil] at h
  cases h

theorem isNameChar_or_newline_of_admits {name : String} (h : admits name = true) {c : Char}
    (hc : c ∈ name.toList) : isNameChar c = true ∨ c = '\n' := by
  rw [admits, Bool.or_eq_true] at h
  rcases h with hname | hname
  · exact Or.inl (Document.isNameChar_of_isName hname hc)
  · rcases eq_dropNewline_or name.toList with heq | heq
    · rw [heq] at hc
      exact Or.inl (Document.isNameChar_of_isName hname hc)
    · rw [heq] at hc
      rcases List.mem_append.1 hc with hfront | hlast
      · exact Or.inl (Document.isNameChar_of_isName hname hfront)
      · exact Or.inr (List.mem_singleton.1 hlast)

end Naming

namespace TypeParts

def text (parts : TypeParts) : List Char :=
  parts.opening ++ parts.name ++ parts.suffix

/-- Brackets, a name that cannot be longer, and a rest on the same line. -/
structure IsExact (parts : TypeParts) : Prop where
  opening : ∀ c ∈ parts.opening, c = '['
  name : Naming.isName parts.name = true
  longest : ∀ c ∈ parts.suffix.head?, Naming.isNameChar c = false
  line : '\n' ∉ parts.suffix

variable {parts : TypeParts} {type : List Char}

/-- The first character of a name cannot be a bracket, so no more brackets are in front of it. -/
theorem IsExact.exists_name (h : parts.IsExact) : ∃ first rest, parts.name = first :: rest ∧
    Naming.isNameStart first = true ∧ ¬(first == '[') = true := by
  have hname := h.name
  cases hparts : parts.name with
  | nil =>
      rw [hparts] at hname
      cases hname
  | cons first rest =>
      rw [hparts, Naming.isName, Bool.and_eq_true] at hname
      refine ⟨first, rest, rfl, hname.1, fun hbracket => ?_⟩
      rw [beq_iff_eq.1 hbracket] at hname
      cases hname.1

theorem IsExact.brackets (h : parts.IsExact) (rest : List Char) :
    (parts.opening ++ (parts.name ++ rest)).takeWhile (· == '[') = parts.opening ∧
      (parts.opening ++ (parts.name ++ rest)).dropWhile (· == '[') = parts.name ++ rest := by
  obtain ⟨first, tail, hfirst, -, hbracket⟩ := h.exists_name
  have hopening : ∀ c ∈ parts.opening, (c == '[') = true :=
    fun c hc => beq_iff_eq.2 (h.opening c hc)
  rw [List.takeWhile_append_of_pos hopening, List.dropWhile_append_of_pos hopening, hfirst,
    List.cons_append]
  constructor
  · rw [List.takeWhile_cons_of_neg (p := (· == '[')) hbracket, List.append_nil]
  · rw [List.dropWhile_cons_of_neg (p := (· == '[')) hbracket]

theorem IsExact.nameChars (h : parts.IsExact) {rest : List Char}
    (hrest : ∀ c ∈ rest.head?, Naming.isNameChar c = false) :
    (parts.name ++ rest).takeWhile Naming.isNameChar = parts.name ∧
      (parts.name ++ rest).dropWhile Naming.isNameChar = rest := by
  have hname : ∀ c ∈ parts.name, Naming.isNameChar c = true :=
    fun c hc => Document.isNameChar_of_isName h.name hc
  rw [List.takeWhile_append_of_pos hname, List.dropWhile_append_of_pos hname]
  cases rest with
  | nil => exact ⟨List.append_nil _, rfl⟩
  | cons c tail =>
      have hc : ¬Naming.isNameChar c = true := Bool.eq_false_iff.1 (hrest c rfl)
      exact ⟨by rw [List.takeWhile_cons_of_neg hc, List.append_nil], List.dropWhile_cons_of_neg hc⟩

/-- Parts that were put together are found again, be it with a newline behind them. -/
theorem IsExact.of?_eq (h : parts.IsExact) {rest : List Char}
    (hsuffix : Naming.dropNewline rest = parts.suffix)
    (hrest : ∀ c ∈ rest.head?, Naming.isNameChar c = false) :
    of? (parts.opening ++ (parts.name ++ rest)) = some parts := by
  obtain ⟨first, tail, hfirst, hstart, -⟩ := h.exists_name
  unfold of?
  simp only [h.brackets, h.nameChars hrest, hsuffix]
  rw [if_pos]
  · rw [hfirst, List.cons_append, List.head?_cons, Option.any_some, hstart, Bool.true_and]
    simpa using h.line

theorem IsExact.of?_text (h : parts.IsExact) : of? parts.text = some parts := by
  rw [text, List.append_assoc]
  exact h.of?_eq (Naming.dropNewline_of_notMem h.line) h.longest

theorem IsExact.of?_text_newline (h : parts.IsExact) : of? (parts.text ++ ['\n']) = some parts := by
  rw [text, List.append_assoc, List.append_assoc]
  refine h.of?_eq ?_ fun c hc => ?_
  · exact Naming.dropNewline_concat parts.suffix
  · rw [List.head?_append] at hc
    cases hsuffix : parts.suffix.head? with
    | none =>
        rw [hsuffix, Option.none_or] at hc
        rw [← Option.some.inj hc]
        rfl
    | some first =>
        rw [hsuffix, Option.some_or] at hc
        exact h.longest c (hsuffix.trans hc)

/-- The parts of a type are exact, and they are the whole type but for a newline at its end. -/
theorem isExact_of_of? (h : of? type = some parts) :
    parts.IsExact ∧ (type = parts.text ∨ type = parts.text ++ ['\n']) := by
  have hcut := List.takeWhile_append_dropWhile (p := (· == '[')) (l := type)
  have hopening : ∀ c ∈ type.takeWhile (· == '['), c = '[' := fun c hc =>
    beq_iff_eq.1 (List.mem_takeWhile_imp (p := (· == '[')) hc)
  unfold of? at h
  simp only at h
  generalize type.dropWhile (· == '[') = rest at h hcut
  have hname := List.takeWhile_append_dropWhile (p := Naming.isNameChar) (l := rest)
  have hhead := List.head?_dropWhile_not Naming.isNameChar rest
  have hsuffix := Naming.eq_dropNewline_or (rest.dropWhile Naming.isNameChar)
  split at h
  case isFalse => cases h
  case isTrue hholds =>
    rw [Bool.and_eq_true, Bool.not_eq_true', Bool.eq_false_iff, ne_eq,
      List.contains_iff_mem] at hholds
    cases h
    refine ⟨⟨hopening, ?_, fun c hc => ?_, hholds.2⟩, ?_⟩
    · cases rest with
      | nil => cases hholds.1
      | cons first tail =>
          rw [List.head?_cons, Option.any_some] at hholds
          rw [List.takeWhile_cons_of_pos (Document.isNameChar_of_isNameStart hholds.1),
            Naming.isName, hholds.1, Bool.true_and]
          exact List.all_takeWhile
    · have hfirst : (rest.dropWhile Naming.isNameChar).head? = some c := by
        rcases hsuffix with hsame | hline
        · rw [hsame]
          exact hc
        · rw [hline, List.head?_append, Option.mem_def.1 hc, Option.some_or]
      rw [hfirst] at hhead
      exact hhead
    · rcases hsuffix with hsame | hline
      · left
        rw [text, List.append_assoc, ← hsame, hname, hcut]
      · right
        rw [text, List.append_assoc, List.append_assoc, ← hline, hname, hcut]

theorem of?_eq_some_iff :
    of? type = some parts ↔ parts.IsExact ∧ (type = parts.text ∨ type = parts.text ++ ['\n']) := by
  refine ⟨isExact_of_of?, ?_⟩
  rintro ⟨hexact, rfl | rfl⟩
  · exact hexact.of?_text
  · exact hexact.of?_text_newline

end TypeParts

namespace TypeMapping

theorem isWrapper_of_isNameChar {c : Char} (h : Naming.isNameChar c = true) :
    isWrapper c = false := by
  rw [Bool.eq_false_iff]
  intro hwrapper
  simp only [isWrapper, Bool.or_eq_true, beq_iff_eq] at hwrapper
  rcases hwrapper with (rfl | rfl) | rfl <;> cases h

theorem trimChars_isWrapper {opening name suffix : List Char} (hopening : ∀ c ∈ opening, c = '[')
    (hne : name ≠ []) (hname : ∀ c ∈ name, isWrapper c = false) :
    trimChars isWrapper (opening ++ name ++ suffix) =
      name ++ (suffix.reverse.dropWhile isWrapper).reverse := by
  have hfront : (opening ++ (name ++ suffix)).dropWhile isWrapper = name ++ suffix := by
    rw [List.dropWhile_append_of_pos fun c hc => by rw [hopening c hc]; rfl]
    cases name with
    | nil => exact absurd rfl hne
    | cons first rest =>
        rw [List.cons_append,
          List.dropWhile_cons_of_neg (Bool.eq_false_iff.1 (hname first List.mem_cons_self))]
  have hback : name.reverse.dropWhile isWrapper = name.reverse := by
    cases hreverse : name.reverse with
    | nil => rfl
    | cons last rest =>
        have hlast : last ∈ name := List.mem_reverse.1 (hreverse ▸ List.mem_cons_self)
        rw [List.dropWhile_cons_of_neg (Bool.eq_false_iff.1 (hname last hlast))]
  calc
    trimChars isWrapper (opening ++ name ++ suffix) =
        ((suffix.reverse ++ name.reverse).dropWhile isWrapper).reverse := by
      rw [trimChars, List.append_assoc, hfront, List.reverse_append]
    _ = (suffix.reverse.dropWhile isWrapper ++ name.reverse).reverse := by
      rw [List.dropWhile_append, hback]
      split
      · rename_i hempty
        rw [List.isEmpty_iff.1 hempty, List.nil_append]
      · rfl
    _ = name ++ (suffix.reverse.dropWhile isWrapper).reverse := by
      rw [List.reverse_append, List.reverse_reverse]

theorem eq_of_baseName_eq {parts : TypeParts} (hexact : parts.IsExact) {type name other : String}
    (htype : type.toList = parts.opening ++ name.toList ++ parts.suffix)
    (hname : Naming.admits name = true) (hother : Naming.admits other = true)
    (hbase : baseName type = other) : name = other := by
  have hchars : ∀ c ∈ name.toList, isWrapper c = false := by
    intro c hc
    rcases Naming.isNameChar_or_newline_of_admits hname hc with hchar | rfl
    · exact isWrapper_of_isNameChar hchar
    · rfl
  rw [baseName, htype,
    trimChars_isWrapper hexact.opening (Naming.ne_nil_of_admits hname) hchars] at hbase
  have hcut : (parts.suffix.reverse.dropWhile isWrapper).reverse ++
      (parts.suffix.reverse.takeWhile isWrapper).reverse = parts.suffix := by
    rw [← List.reverse_append, List.takeWhile_append_dropWhile, List.reverse_reverse]
  cases hkept : (parts.suffix.reverse.dropWhile isWrapper).reverse with
  | nil =>
      rwa [hkept, List.append_nil, String.ofList_toList] at hbase
  | cons c rest =>
      -- the rest of the line begins with a character that no name has
      rw [hkept, List.cons_append] at hcut
      have hc : c ∈ other.toList := by
        rw [← hbase, String.toList_ofList, hkept]
        exact List.mem_append_right _ List.mem_cons_self
      rcases Naming.isNameChar_or_newline_of_admits hother hc with hchar | rfl
      · have hlongest := hexact.longest c (by rw [← hcut, List.head?_cons]; rfl)
        rw [hlongest] at hchar
        cases hchar
      · exact absurd (hcut ▸ List.mem_cons_self) hexact.line

end TypeMapping

end SchemaViews
