import SchemaViews.Proofs.Document.Escapes

/-!
# Reading literals back

A quoted string gives back any text. A block string gives back any text of one line that does not
end in a quote or in a backslash and is not blank.
-/

namespace SchemaViews.Document

open SchemaViews.Text

theorem escapeChar_append_ne (c : Char) (rest more : List Char) :
    escapeChar c ++ rest ≠ '"' :: more := by
  by_cases hquote : (c == '"') = true
  · rw [escapeChar, if_pos hquote]
    exact fun h => by cases h
  · rw [escapeChar, if_neg hquote]
    repeat' split
    all_goals intro h
    all_goals cases h
    exact hquote rfl

theorem readString_stringLiteral (text rest : List Char) :
    readString (text.flatMap escapeChar ++ '"' :: rest) = some (text, rest) :=
  (standsFor_flatMap text).readString_eq rest

theorem escapeTripleQuotes_cons {c : Char} {rest : List Char}
    (h : ∀ more, c :: rest ≠ '"' :: '"' :: '"' :: more) :
    escapeTripleQuotes (c :: rest) = c :: escapeTripleQuotes rest := by
  rw [escapeTripleQuotes]
  intro more hc hrest
  exact h more (by rw [hc, hrest])

/-- A text whose last quote is not at its end does not begin with three
quotes once it is escaped. -/
theorem escapeTripleQuotes_append_ne {text : List Char} (hlast : text.getLast? ≠ some '"')
    (hne : text ≠ [])
    (rest more : List Char) : escapeTripleQuotes text ++ rest ≠ '"' :: '"' :: '"' :: more := by
  have hopened {text : List Char} (htriple : ∃ more, text = '"' :: '"' :: '"' :: more)
      (rest more : List Char) :
      escapeTripleQuotes text ++ rest ≠ '"' :: more := by
    obtain ⟨inner, rfl⟩ := htriple
    intro h
    cases h
  -- Three quotes would have to come from three characters of the text, one after the other.
  have hstep {c : Char}
      {tail rest more : List Char} (hquote : escapeTripleQuotes (c :: tail) ++ rest = '"' :: more) :
      c = '"' ∧ escapeTripleQuotes tail ++ rest = more ∧ ∀ more,
      c :: tail ≠ '"' :: '"' :: '"' :: more := by
    by_cases htriple : ∃ more, c :: tail = '"' :: '"' :: '"' :: more
    · exact absurd hquote (hopened htriple rest more)
    · have hnot : ∀ more, c :: tail ≠ '"' :: '"' :: '"' :: more :=
        fun more heq => htriple ⟨more, heq⟩
      rw [escapeTripleQuotes_cons hnot, List.cons_append] at hquote
      exact ⟨(List.cons.inj hquote).1, (List.cons.inj hquote).2, hnot⟩
  intro h
  match text, hne with
  | [c], _ =>
      obtain ⟨rfl, -, -⟩ := hstep h
      exact hlast rfl
  | [c, d], _ =>
      obtain ⟨rfl, hrest, -⟩ := hstep h
      obtain ⟨rfl, -, -⟩ := hstep hrest
      exact hlast rfl
  | c :: d :: e :: tail, _ =>
      obtain ⟨rfl, hsecond, hnot⟩ := hstep h
      obtain ⟨rfl, hthird, -⟩ := hstep hsecond
      obtain ⟨rfl, -, -⟩ := hstep hthird
      exact hnot tail rfl

def extendLines (c : Char) (lines : List (List Char)) : List (List Char) :=
  if isLineEnd c then [] :: lines else extendFirst c lines

theorem readBlockLines_cons {c : Char} {rest : List Char}
    (hclose : ∀ more, c :: rest ≠ '"' :: '"' :: '"' :: more)
    (hescape : ∀ more, c :: rest ≠ '\\' :: '"' :: '"' :: '"' :: more)
    (hreturn : ∀ more, c :: rest ≠ '\r' :: '\n' :: more) :
    readBlockLines (c :: rest) = (readBlockLines rest).map fun (lines, left) =>
      (extendLines c lines, left) := by
  rw [readBlockLines]
  · rfl
  · exact fun more hc hrest => hclose more (by rw [hc, hrest])
  · exact fun more hc hrest => hescape more (by rw [hc, hrest])
  · exact fun more hc hrest => hreturn more (by rw [hc, hrest])

theorem mem_of_escapeTripleQuotes {text rest more : List Char} (hne : text ≠ [])
    (h : escapeTripleQuotes text ++ rest = '\n' :: more) : '\n' ∈ text := by
  fun_cases escapeTripleQuotes text with
  | case1 => cases h
  | case2 c tail hnot =>
      rw [escapeTripleQuotes_cons fun _ heq => hnot _ (List.cons.inj heq).1 (List.cons.inj heq).2,
        List.cons_append] at h
      rw [(List.cons.inj h).1]
      exact List.mem_cons_self
  | case3 => exact absurd rfl hne

theorem readBlockLines_escaped_cons {c last : Char} {text : List Char}
    (hopens : ∀ more, c :: (text ++ [last]) ≠ '"' :: '"' :: '"' :: more)
    (hnewline : '\n' ∉ text ++ [last]) (hquote : last ≠ '"') (rest : List Char) :
    readBlockLines (c :: (escapeTripleQuotes (text ++ [last]) ++ rest)) =
      (readBlockLines (escapeTripleQuotes (text ++ [last]) ++ rest)).map fun (lines, left) =>
        (extendLines c lines, left) := by
  have hlast (tail : List Char) : (tail ++ [last]).getLast? ≠ some '"' := by
    rw [List.getLast?_concat]
    exact fun heq => hquote (Option.some.inj heq)
  apply readBlockLines_cons
  · intro more
    have hne := escapeTripleQuotes_append_ne (hlast (c :: text)) (List.cons_ne_nil c _) rest more
    rwa [List.cons_append, escapeTripleQuotes_cons hopens] at hne
  · intro more heq
    exact escapeTripleQuotes_append_ne (hlast text) (by simp) rest more (List.cons.inj heq).2
  · intro more heq
    exact hnewline (mem_of_escapeTripleQuotes (by simp) (List.cons.inj heq).2)

theorem exists_of_concat_eq_quotes {text more : List Char} {last : Char} (hquote : last ≠ '"')
    (h : text ++ [last] = '"' :: '"' :: '"' :: more) :
    ∃ inner, text = '"' :: '"' :: '"' :: inner ∧ inner ++ [last] = more := by
  match text with
  | [] | [_] | [_, _] => simp_all
  | c :: d :: e :: inner =>
      simp only [List.cons_append, List.cons.injEq] at h
      obtain ⟨rfl, rfl, rfl, hinner⟩ := h
      exact ⟨inner, rfl, hinner⟩

/-- An escaped text is read character by character up to its last one, which is no quote. -/
theorem readBlockLines_escapeTripleQuotes {text : List Char} {last : Char}
    (hnewline : '\n' ∉ text ++ [last]) (hquote : last ≠ '"') (rest : List Char) :
    readBlockLines (escapeTripleQuotes (text ++ [last]) ++ rest) =
      (readBlockLines (last :: rest)).map fun (lines, left) =>
        (text.foldr extendLines lines, left) := by
  generalize hfull : text ++ [last] = full at hnewline
  fun_induction escapeTripleQuotes full generalizing text with
  | case1 more ih =>
      obtain ⟨inner, rfl, hinner⟩ := exists_of_concat_eq_quotes hquote hfull
      change readBlockLines ('\\' :: '"' :: '"' :: '"' :: (escapeTripleQuotes more ++ rest)) = _
      rw [readBlockLines, ih hinner (fun hmem => hnewline (by simp [hmem])), Option.map_map]
      rfl
  | case2 c more hnot ih =>
      cases text with
      | nil =>
          cases hfull
          change readBlockLines (last :: rest) = (readBlockLines (last :: rest)).map id
          rw [Option.map_id_fun, id]
      | cons d text =>
          rw [List.cons_append] at hfull
          obtain ⟨rfl, rfl⟩ := List.cons.inj hfull
          have hinner : '\n' ∉ text ++ [last] := fun hmem => hnewline (List.mem_cons_of_mem d hmem)
          have hopens : ∀ more, d :: (text ++ [last]) ≠ '"' :: '"' :: '"' :: more := by
            intro more heq
            obtain ⟨rfl, hmore⟩ := List.cons.inj heq
            exact hnot more rfl hmore
          rw [List.cons_append, readBlockLines_escaped_cons hopens hinner hquote, ih rfl hinner,
            Option.map_map]
          rfl
  | case3 => simp at hfull

/-- A text of one line can be read back from its block string. -/
theorem readBlockLines_of_line {text : List Char} (hline : ∀ c ∈ text, isLineEnd c = false)
    (hquote : text.getLast? ≠ some '"') (hbackslash : text.getLast? ≠ some '\\')
    (rest : List Char) :
    readBlockLines (escapeTripleQuotes text ++ tripleQuote ++ rest) = some ([text], rest) := by
  obtain rfl | ⟨before, last, rfl⟩ := List.eq_nil_or_concat' text
  · rfl
  have hnewline : '\n' ∉ before ++ [last] := fun hmem => absurd (hline '\n' hmem) (by decide)
  have hlines : (before ++ [last]).foldr extendLines [[]] = [before ++ [last]] := by
    generalize before ++ [last] = text at hline
    induction text with
    | nil => rfl
    | cons c text ih =>
        obtain ⟨hc, htext⟩ := List.forall_mem_cons.1 hline
        rw [List.foldr_cons, ih htext, extendLines, hc]
        rfl
  rw [List.getLast?_concat, ne_eq, Option.some_inj] at hquote hbackslash
  rw [List.append_assoc, readBlockLines_escapeTripleQuotes hnewline hquote,
    readBlockLines_cons, ← hlines, List.foldr_append]
  · rfl
  · exact fun more heq => hquote (List.cons.inj heq).1
  · exact fun more heq => hbackslash (List.cons.inj heq).1
  · exact fun more heq => by cases (List.cons.inj heq).2

/-- A backslash at the end of the text takes the closing quotes of the block string away. -/
theorem readBlockLines_of_trailing_backslash {text : List Char} (hnewline : '\n' ∉ text)
    (hbackslash : text.getLast? = some '\\') :
    readBlockLines (escapeTripleQuotes text ++ tripleQuote) = none := by
  obtain ⟨before, rfl⟩ := List.getLast?_eq_some_iff.1 hbackslash
  rw [readBlockLines_escapeTripleQuotes hnewline (by decide)]
  rfl

theorem isLineEnd_of_readBlockLines {text rest : List Char} {lines : List (List Char)}
    (h : readBlockLines text = some (lines, rest)) :
    ∀ line ∈ lines, ∀ c ∈ line, isLineEnd c = false := by
  have hextend {c : Char} (hc : isLineEnd c = false) {lines : List (List Char)}
      (hlines : ∀ line ∈ lines, ∀ d ∈ line, isLineEnd d = false) :
      ∀ line ∈ extendFirst c lines, ∀ d ∈ line, isLineEnd d = false := by
    cases lines with
    | nil => simpa [extendFirst] using hc
    | cons line lines =>
        obtain ⟨hline, hlines⟩ := List.forall_mem_cons.1 hlines
        exact List.forall_mem_cons.2 ⟨List.forall_mem_cons.2 ⟨hc, hline⟩, hlines⟩
  fun_induction readBlockLines text generalizing lines rest with
  | case1 => cases h
  | case2 =>
      cases h
      simp
  | case3 after ih =>
      obtain ⟨⟨inner, left⟩, hread, heq⟩ := Option.map_eq_some_iff.1 h
      cases heq
      have hquote : isLineEnd '"' = false := rfl
      exact hextend hquote (hextend hquote (hextend hquote (ih hread)))
  | case4 after ih =>
      obtain ⟨⟨inner, left⟩, hread, heq⟩ := Option.map_eq_some_iff.1 h
      cases heq
      exact List.forall_mem_cons.2 ⟨by simp, ih hread⟩
  | case5 c after _ _ _ ih =>
      obtain ⟨⟨inner, left⟩, hread, heq⟩ := Option.map_eq_some_iff.1 h
      cases heq
      split
      · exact List.forall_mem_cons.2 ⟨by simp, ih hread⟩
      · rename_i hc
        exact hextend (Bool.eq_false_iff.2 hc) (ih hread)

theorem exists_suffix_of_mem_dedent {lines : List (List Char)} :
    ∀ line ∈ dedent lines, ∃ source ∈ lines, line <:+ source := by
  intro line hline
  cases lines with
  | nil => simp [dedent] at hline
  | cons first rest =>
      rw [dedent, List.mem_reverse] at hline
      have hkept := (List.dropWhile_suffix _).mem hline
      rw [List.mem_reverse] at hkept
      rcases List.mem_cons.1 ((List.dropWhile_suffix _).mem hkept) with rfl | hrest
      · exact ⟨line, List.mem_cons_self, List.suffix_rfl⟩
      · obtain ⟨source, hsource, rfl⟩ := List.mem_map.1 hrest
        exact ⟨source, List.mem_cons_of_mem first hsource, List.drop_suffix _ _⟩

theorem mem_of_mem_intercalate {c d : Char} {lines : List (List Char)}
    (h : c ∈ [d].intercalate lines) : c = d ∨ ∃ line ∈ lines, c ∈ line := by
  induction lines with
  | nil => cases h
  | cons line lines ih =>
      cases lines with
      | nil =>
          rw [List.intercalate_singleton] at h
          exact .inr ⟨line, List.mem_cons_self, h⟩
      | cons next lines =>
          rw [List.intercalate_cons_cons, List.mem_append, List.mem_append, List.mem_singleton] at h
          rcases h with (hline | rfl) | hlast
          · exact .inr ⟨line, List.mem_cons_self, hline⟩
          · exact .inl rfl
          · exact (ih hlast).imp_right fun ⟨later, hlater, hmem⟩ =>
              ⟨later, List.mem_cons_of_mem line hlater, hmem⟩

/-- Every character of the value of a block string is a line feed or stands in one of its lines. -/
theorem mem_blockValue {lines : List (List Char)} {c : Char} (hmem : c ∈ blockValue lines) :
    c = '\n' ∨ ∃ line ∈ lines, c ∈ line := by
  rcases mem_of_mem_intercalate hmem with rfl | ⟨line, hline, hc⟩
  · exact .inl rfl
  · obtain ⟨source, hsource, hsuffix⟩ := exists_suffix_of_mem_dedent line hline
    exact .inr ⟨source, hsource, hsuffix.mem hc⟩

theorem blockValue_singleton (line : List Char) :
    blockValue [line] = if isBlankLine line then [] else line := by
  cases hblank : isBlankLine line <;> simp [blockValue, dedent, hblank, List.intercalate]

end SchemaViews.Document
