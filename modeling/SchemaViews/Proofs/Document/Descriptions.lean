import SchemaViews.Proofs.Document.Lexing

/-!
# Descriptions read back

A description is written as a quoted string, which gives back every text, or as a block string,
which does not: a carriage return in it is read as a line feed, a line of blanks as nothing, and a
backslash at its end takes the closing quotes away.
-/

namespace SchemaViews.Document

open SchemaViews.Text

/-- A text that is a single string with this value. -/
def IsStringOf (text value : List Char) : Prop :=
  lexemes text = some [.string value] ∨ lexemes text = some [.blockString value]

/-- A text that is such a string wherever it stands in a document. -/
def Denotes (text value : List Char) : Prop :=
  Lexes text [.string value] ∨ Lexes text [.blockString value]

theorem Lexes.lexemes_eq {text : List Char} {tokens : List Lexeme} (h : Lexes text tokens) :
    lexemes text = some tokens := by
  have halone := h []
  rw [List.append_nil, lexemes] at halone
  rw [halone, Option.map_some, List.append_nil]

theorem Denotes.isStringOf {text value : List Char} (h : Denotes text value) :
    IsStringOf text value :=
  h.imp Lexes.lexemes_eq Lexes.lexemes_eq

theorem exists_lines_of_isStringOf {text value : List Char}
    (h : IsStringOf (blockLiteral text) value) :
    ∃ lines rest, readBlockLines (escapeTripleQuotes text ++ tripleQuote) = some (lines, rest) ∧
      value = blockValue lines := by
  have hlexemes := lexemes_blockLiteral text []
  rw [List.append_nil, List.append_nil] at hlexemes
  rw [IsStringOf, hlexemes] at h
  cases hlines : readBlockLines (escapeTripleQuotes text ++ tripleQuote) with
  | none => simp [hlines] at h
  | some read =>
      refine ⟨read.1, read.2, rfl, ?_⟩
      rw [hlines, Option.bind_some] at h
      cases hrest : lexemes read.2 with
      | none => simp [hrest] at h
      | some later =>
          simp only [hrest, Option.map_some, Option.some_inj, List.cons.injEq, reduceCtorEq,
            false_and, false_or, Lexeme.blockString.injEq] at h
          exact h.1.symm

structure IsBlockLine (text : List Char) : Prop where
  noReturn : '\r' ∉ text
  not_blank : isBlankLine text = false
  last_ne : text.getLast? ≠ some '\\'

section BlockLiteral

variable {text : List Char} (hnewline : '\n' ∉ text) (hquote : text.getLast? ≠ some '"')
include hnewline

theorem isLineEnd_of_notMem (hreturn : '\r' ∉ text) : ∀ c ∈ text, isLineEnd c = false := by
  intro c hmem
  rw [isLineEnd, Bool.or_eq_false_iff, beq_eq_false_iff_ne, beq_eq_false_iff_ne]
  exact ⟨fun heq => hnewline (heq ▸ hmem), fun heq => hreturn (heq ▸ hmem)⟩

include hquote

theorem IsBlockLine.denotes (h : IsBlockLine text) : Denotes (blockLiteral text) text :=
  .inr (Lexes.block (isLineEnd_of_notMem hnewline h.noReturn) h.not_blank hquote h.last_ne)

theorem isBlockLine_of_isStringOf (hne : text ≠ []) (h : IsStringOf (blockLiteral text) text) :
    IsBlockLine text := by
  obtain ⟨lines, rest, hlines, hvalue⟩ := exists_lines_of_isStringOf h
  have hbackslash : text.getLast? ≠ some '\\' := by
    intro hlast
    rw [readBlockLines_of_trailing_backslash hnewline hlast] at hlines
    cases hlines
  have hreturn : '\r' ∉ text := by
    intro hmem
    rcases mem_blockValue (hvalue ▸ hmem) with heq | ⟨line, hline, hc⟩
    · exact absurd heq (by decide)
    · exact absurd (isLineEnd_of_readBlockLines hlines line hline '\r' hc) (by decide)
  refine ⟨hreturn, Bool.eq_false_iff.2 fun hblank => hne ?_, hbackslash⟩
  have hread := readBlockLines_of_line (isLineEnd_of_notMem hnewline hreturn) hquote hbackslash []
  rw [List.append_nil, hlines] at hread
  cases hread
  rw [hvalue, blockValue_singleton, if_pos hblank]

end BlockLiteral

/-- A description is a string whose value is its text exactly if the text has line feeds, ends in a
quote, or is a line that a block string gives back. It is then this string wherever it stands. -/
theorem description_denotes_iff (text : String) :
    (IsStringOf (description text).toList text.toList ↔
      '\n' ∈ text.toList ∨ text.toList.getLast? = some '"' ∨ IsBlockLine text.toList) ∧
    (IsStringOf (description text).toList text.toList →
      Denotes (description text).toList text.toList) := by
  by_cases hempty : text.toList = []
  · have hnone : ¬IsStringOf (description text).toList text.toList := by
      rw [description, String.toList_ofList, hempty, IsStringOf]
      simp [lexemes]
    refine ⟨⟨fun h => absurd h hnone, ?_⟩, fun h => absurd h hnone⟩
    rw [hempty]
    rintro (hnewline | hlast | hline)
    · cases hnewline
    · cases hlast
    · exact absurd hline.not_blank (by decide)
  rw [description, String.toList_ofList, if_neg (by simpa using hempty)]
  split
  · rename_i hquoted
    have hdenotes : Denotes (stringLiteral text.toList) text.toList := .inl (Lexes.string hempty)
    simp only [Bool.or_eq_true, List.contains_iff_mem, beq_iff_eq] at hquoted
    exact ⟨⟨fun _ => hquoted.imp_right .inl, fun _ => hdenotes.isStringOf⟩, fun _ => hdenotes⟩
  · rename_i hblock
    simp only [Bool.or_eq_true, List.contains_iff_mem, beq_iff_eq, not_or] at hblock
    obtain ⟨hnewline, hquote⟩ := hblock
    have hline : IsStringOf (blockLiteral text.toList) text.toList → IsBlockLine text.toList :=
      isBlockLine_of_isStringOf hnewline hquote hempty
    refine ⟨⟨fun h => .inr (.inr (hline h)), ?_⟩, fun h => (hline h).denotes hnewline hquote⟩
    rintro (hmem | hlast | hfits)
    · exact absurd hmem hnewline
    · exact absurd hlast hquote
    · exact (hfits.denotes hnewline hquote).isStringOf

/-- A path that ends in a backslash, a blank and a text with a carriage
return are not given back. -/
theorem descriptions_may_be_lost :
    ¬IsStringOf (description "C:\\").toList "C:\\".toList ∧
      ¬IsStringOf (description " ").toList " ".toList ∧
      ¬IsStringOf (description "a\rb").toList "a\rb".toList := by
  have hlost {text : String} (hblock : (description text).toList = blockLiteral text.toList)
      (hlines : ∀ lines rest,
        readBlockLines (escapeTripleQuotes text.toList ++ tripleQuote) = some (lines, rest) →
        text.toList ≠ blockValue lines) : ¬IsStringOf (description text).toList text.toList := by
    rw [hblock]
    intro h
    obtain ⟨lines, rest, hread, hvalue⟩ := exists_lines_of_isStringOf h
    exact hlines lines rest hread hvalue
  refine ⟨hlost rfl ?_, hlost rfl ?_, hlost rfl ?_⟩
  · intro lines rest hread
    cases hread
  · intro lines rest hread
    cases hread
    decide
  · intro lines rest hread
    cases hread
    decide

end SchemaViews.Document
