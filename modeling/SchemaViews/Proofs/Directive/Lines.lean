import Mathlib.Data.List.Basic
import SchemaViews.Proofs.Directive.Behind

/-!
# Annotations line by line

A text that can be read stays as it is when a line break and more text follow: every list that it
opens it also closes, no name goes on behind a line break, and a line break is as good a beginning
as none. An annotation of several lines is therefore read line by line.
-/

namespace SchemaViews.Directive

open SchemaViews.Text

theorem scanWord_extend {inParens : Bool} {nesting left : Nat} {text word after : List Char}
    {c : Char} (more : List Char) (h : scanWord inParens nesting text = (word, left, c :: after)) :
    scanWord inParens nesting (text ++ more) = (word, left, c :: (after ++ more)) := by
  induction text generalizing nesting word with
  | nil => cases h
  | cons d rest ih =>
      rw [List.cons_append, scanWord_cons]
      rw [scanWord_cons] at h
      by_cases hends : (isDelimiter inParens d && !(d == ')' && nesting != 0)) = true
      · rw [if_pos hends] at h ⊢
        cases h
        rfl
      · rw [if_neg hends] at h ⊢
        simp only [Prod.mk.injEq] at h
        have hrest := ih (Prod.ext rfl (Prod.ext h.2.1 h.2.2))
        rw [hrest, ← h.1]

/-- A token with something behind it is the same with more text behind that. -/
theorem IsToken.extend {inParens : Bool} {nesting left : Nat} {c : Char}
    {rest source value : List Char} {kind : TokenKind}
    (h : IsToken inParens nesting (c :: rest) source kind value left) (more : List Char) :
    IsToken inParens nesting (c :: (rest ++ more)) source kind value left := by
  cases h with
  | string escapes => exact .string escapes
  | quotedList plain => exact .quotedList plain
  | punctuation mark => exact .punctuation mark
  | word plain opened ends =>
      have hends := scanWord_extend more ends
      rw [List.append_assoc] at hends
      exact .word plain opened hends

/-- A list that is closed in a text is read the same with more text behind it. -/
theorem scanFrom_extend {unclosed : SyntaxError} {nesting position : Nat} {text : List Char}
    {scan : Scan} (later : SyntaxError) (more : List Char)
    (h : scanFrom (some unclosed) nesting position text = .ok scan) :
    scanFrom (some later) nesting position (text ++ more) = .ok
      { scan with rest := scan.rest ++ more } := by
  generalize hresult : Except.ok scan = result at h
  replace h := scansTo_of_scanFrom h
  induction h generalizing scan with
  | missing | unterminated => cases hresult
  | exhausted outside => cases outside
  | closed =>
      cases hresult
      exact scanFrom_closeParen rfl
  | spacing hspacing _ ih =>
      rw [List.cons_append, scanFrom_spacing hspacing]
      exact ih hresult
  | @token nesting position left source rest value kind result htoken hlater ih =>
      obtain ⟨inner, rfl, rfl⟩ := map_eq_ok_iff.1 hresult.symm
      -- The token ends inside the text, for otherwise the list would never be closed.
      cases rest with
      | nil =>
          have hclosed := hlater.eq
          rw [scanFrom] at hclosed
          cases hclosed
      | cons c rest =>
          have hparens : (some later).isSome = true := rfl
          rw [List.append_assoc, List.cons_append,
            (htoken.extend more).scanFrom_eq hparens, ← List.cons_append, ih rfl]
          rfl

theorem scanPayload_extend {text payload after : List Char} (more : List Char)
    (h : scanPayload text = some (payload, after)) :
    scanPayload (text ++ more) = some (payload, after ++ more) := by
  fun_induction scanPayload text generalizing payload after with
  | case1 | case3 => cases h
  | case2 rest =>
      cases h
      rfl
  | case4 c rest ih =>
      obtain ⟨⟨payload', after'⟩, hrest, heq⟩ := Option.map_eq_some_iff.1 h
      cases heq
      rw [List.cons_append, List.cons_append, scanPayload, ih hrest]
      rfl
  | case5 c rest hquote hlast hescape ih =>
      obtain ⟨⟨payload', after'⟩, hrest, heq⟩ := Option.map_eq_some_iff.1 h
      cases heq
      rw [List.cons_append, scanPayload_cons hquote (ne_backslash hlast hescape), ih hrest]
      rfl

theorem readArguments_extend {text : List Char} {ending : Ending} {tokens : List Token}
    {arguments : List Argument} (more : List Char) (hwithin : Within text.length tokens)
    (h : readArguments text ending tokens = .ok arguments) :
    readArguments (text ++ more) ending tokens = .ok arguments := by
  have hframe := readArguments_frame [] more ending ending hwithin
  have htokens : tokens.map (·.shift 0) = tokens := List.map_id tokens
  have harguments : arguments.map (·.shift 0) = arguments := by
    refine (List.map_congr_left fun argument _ => ?_).trans (List.map_id arguments)
    simp only [Argument.shift, Nat.zero_add, id_eq]
  rw [h, List.nil_append, List.length_nil, htokens] at hframe
  rw [toOption_eq_some.1 hframe, harguments]

theorem readTag_extend {position : Nat} {text : List Char} {found : Found} (more : List Char)
    (hopening : tagOpening <+: text) (h : readTag position text = .ok found) :
    readTag position (text ++ more) = .ok { found with rest := found.rest ++ more } := by
  obtain ⟨rest, rfl⟩ := hopening
  unfold readTag at h ⊢
  simp only [List.append_assoc, List.drop_left] at h ⊢
  split at h
  · cases h
  · rename_i payload after hpayload
    simp only [scanPayload_extend more hpayload]
    cases hread : readAll (unescapePayload payload) with
    | error error =>
        rw [hread] at h
        cases h
    | ok arguments =>
        rw [hread] at h
        cases h
        rfl

theorem readDirective_extend {text written after : List Char} {position : Nat} {found : Found}
    (more : List Char) (hplace : Advances 0 text position ('@' :: (written ++ after)))
    (h : readDirective text position written ('@' :: (written ++ after)) = .ok found) :
    readDirective (text ++ '\n' :: more) position written
      ('@' :: (written ++ (after ++ '\n' :: more))) =
        .ok { found with rest := found.rest ++ '\n' :: more } := by
  unfold readDirective at h ⊢
  simp only [drop_written] at h ⊢
  cases hname : DirectiveName.ofWritten? written with
  | none =>
      rw [hname] at h
      cases h
  | some name =>
      simp only [hname] at h ⊢
      split at h
      · rename_i inner
        simp only [List.cons_append]
        split at h
        · cases h
        · rename_i scan hscan
          have hwithin : Within text.length scan.tokens := within_scanFrom hplace.behind_paren hscan
          rw [scanFrom_extend _ ('\n' :: more) hscan]
          simp only
          obtain ⟨arguments, hread, rfl⟩ := map_eq_ok_iff.1 h
          rw [readArguments_extend ('\n' :: more) hwithin hread]
          rfl
      · rename_i hparen
        cases h
        cases after with
        | nil => rfl
        | cons c rest =>
            rw [List.cons_append]
            split
            · rename_i heq
              cases heq
              exact absurd rfl (hparen rest)
            · rfl

theorem isPrefixOf_newline {start : List Char} (text more : List Char) (h : '\n' ∉ start) :
    start.isPrefixOf (text ++ '\n' :: more) = start.isPrefixOf text := by
  induction start generalizing text with
  | nil => simp
  | cons c start ih =>
      rw [List.mem_cons, not_or] at h
      cases text with
      | nil => simp [List.isPrefixOf, Ne.symm h.1]
      | cons d text => simp only [List.cons_append, List.isPrefixOf_cons_cons, ih text h.2]

theorem opensTag_newline (before : Option Char) (text more : List Char) :
    opensTag before (text ++ '\n' :: more) = opensTag before text := by
  rw [opensTag, opensTag, isPrefixOf_newline text more (by decide)]

theorem writtenName_newline (text more : List Char) :
    writtenName? (text ++ '\n' :: more) = writtenName? text := by
  match text with
  | [] | [_] | [_, _] => cases more with
    | nil => simp [writtenName?]
    | cons first more => cases more <;> simp [writtenName?]
  | first :: second :: third :: rest =>
      have hname : (rest ++ '\n' :: more).takeWhile isWordChar = rest.takeWhile isWordChar := by
        rw [List.takeWhile_append, List.takeWhile_cons_of_neg (by decide), List.append_nil]
        split
        · rename_i hlength
          exact (List.IsPrefix.eq_of_length (List.takeWhile_prefix isWordChar) hlength).symm
        · rfl
      simp only [List.cons_append, writtenName?, hname]

theorem opensDirective_newline (before : Option Char) (text more : List Char) :
    opensDirective? before (text ++ '\n' :: more) = opensDirective? before text := by
  cases text with
  | nil => rfl
  | cons c rest =>
      by_cases hat : c = '@'
      · subst hat
        rw [List.cons_append, opensDirective?, opensDirective?, writtenName_newline]
      · rw [List.cons_append, opensDirective?, opensDirective?]
        · exact fun _ heq => hat (List.cons.inj heq).1
        · exact fun _ heq => hat (List.cons.inj heq).1

theorem readFrom_newline (text : List Char) (before : Option Char) (position : Nat)
    (more : List Char) :
    readFrom text before position ('\n' :: more) =
      readFrom text (some '\n') (position + 1) more := by
  have htag : opensTag before ('\n' :: more) = false := by
    have hnone := opensTag_newline before [] more
    rw [List.nil_append] at hnone
    rw [hnone]
    exact Bool.and_false _
  rw [readFrom_cons, htag, if_neg Bool.false_ne_true]
  rfl

theorem readFrom_line_start (text : List Char) (position : Nat) (rest : List Char) :
    readFrom text (some '\n') position rest = readFrom text none position rest := by
  cases rest with
  | nil => rw [readFrom, readFrom]
  | cons c after =>
      have hfollow (barred : List Char) (h : barred.contains '\n' = false) :
          mayFollow barred (some '\n') = mayFollow barred none := by
        change (!isWordChar '\n' && !barred.contains '\n') = true
        rw [h]
        decide
      have htag : opensTag (some '\n') (c :: after) = opensTag none (c :: after) := by
        rw [opensTag, opensTag, hfollow _ (by decide)]
      have hdirective : opensDirective? (some '\n') (c :: after) =
          opensDirective? none (c :: after) := by
        unfold opensDirective?
        rw [hfollow _ (by decide)]
      rw [readFrom_cons, readFrom_cons, htag, hdirective]

theorem Begins.extend {text rest : List Char} {before : Option Char} {position : Nat}
    {found : Found} (more : List Char) (hplace : Advances 0 text position rest)
    (h : Begins text before position rest (.ok found)) :
    Begins (text ++ '\n' :: more) before position (rest ++ '\n' :: more)
      (.ok { found with rest := found.rest ++ '\n' :: more }) := by
  generalize hread : Except.ok found = result at h
  cases h with
  | tag opens =>
      rw [← readTag_extend ('\n' :: more) (opening_of_opensTag opens) hread.symm]
      exact .tag (opensTag_newline before rest more ▸ opens)
  | @directive written after untagged opens =>
      rw [← opensTag_newline before _ more] at untagged
      rw [← opensDirective_newline before _ more] at opens
      rw [← readDirective_extend more hplace hread.symm]
      rw [List.cons_append, List.append_assoc] at untagged opens ⊢
      exact .directive untagged opens

/-- A text that can be read stays as it is in front of a line break, and the
reading goes on behind that. -/
theorem readFrom_extend {text rest : List Char} {before : Option Char} {position : Nat}
    {directives : List Directive} (more : List Char) (hplace : Advances 0 text position rest)
    (h : readFrom text before position rest = .ok directives) :
    readFrom (text ++ '\n' :: more) before position (rest ++ '\n' :: more) =
      (readFrom (text ++ '\n' :: more) (some '\n') (text.length + 1) more).map
        (directives ++ ·) := by
  generalize hresult : Except.ok directives = result at h
  replace h := readsTo_of_readFrom h
  -- The reading stops inside the first text, so what it finds next there is not changed by
  -- the text behind the line break.
  induction h generalizing directives with
  | nil =>
      cases hresult
      have hend := hplace.length_add
      rw [List.length_nil, Nat.add_zero, Nat.zero_add] at hend
      rw [List.nil_append, readFrom_newline, hend]
      cases readFrom (text ++ '\n' :: more) (some '\n') (text.length + 1) more <;> rfl
  | skip untagged plain _ ih =>
      rw [List.cons_append, readFrom_cons, ← List.cons_append, opensTag_newline, untagged,
        if_neg Bool.false_ne_true, opensDirective_newline, plain]
      exact ih (hplace.trans (advances_cons _ _ _)) hresult
  | fault => cases hresult
  | @found before position rest found result begins _ ih =>
      obtain ⟨later, rfl, rfl⟩ := map_eq_ok_iff.1 hresult.symm
      have hlater := ih (hplace.trans begins.advances) rfl
      rw [(begins.extend more hplace).readFrom_eq]
      change (readFrom _ (some found.last) found.stop (found.rest ++ '\n' :: more)).map _ = _
      rw [hlater]
      cases readFrom (text ++ '\n' :: more) (some '\n') (text.length + 1) more <;> rfl

theorem attribute_shift (error : SyntaxError) (offset : Nat) (source : Option String) :
    (error.shift offset).attribute source = (error.attribute source).shift offset := by
  unfold SyntaxError.attribute
  cases source with
  | none => rfl
  | some name =>
      simp only
      split <;> rfl

/-- Behind a text that can be read, a further line is read as it would be on its own, further on. -/
theorem ofAnnotation_append_newline {first : List Char} {source : Option String}
    {directives : List Directive} (h : ofAnnotation first source = .ok directives)
    (second : List Char) :
    ofAnnotation (first ++ '\n' :: second) source =
      ((Directive.ofAnnotation second source).map fun later =>
        directives ++ later.map (·.shift (first.length + 1))).mapError
          (·.shift (first.length + 1)) := by
  have hfirst : readFrom first none 0 first = .ok directives := mapError_eq_ok_iff.1 h
  have hfront : first ++ '\n' :: second = (first ++ ['\n']) ++ second := by simp
  have hlength : (first ++ ['\n']).length = first.length + 1 := by simp
  have hsecond :
      readFrom (first ++ ['\n'] ++ second) (some '\n') (0 + (first ++ ['\n']).length) second = _ :=
    readFrom_behind (first ++ ['\n']) (Advances.refl 0 second)
  rw [readFrom_line_start second 0 second, ← hfront, hlength, Nat.zero_add] at hsecond
  unfold ofAnnotation
  rw [readFrom_extend second (Advances.refl 0 first) hfirst, hsecond]
  cases readFrom second none 0 second with
  | ok later => rfl
  | error error =>
      change Except.error ((error.shift (first.length + 1)).attribute source) = _
      rw [attribute_shift]
      rfl

/-- An annotation of two parts on lines of their own says what the first part says and then what the
second says. What is wrong with the second part is reported as it is for that part alone. Whatever
is reported of the second part stands further on by the first one and the line break. -/
theorem annotations_compose {first : List Char} {source : Option String}
    {directives : List Directive} (h : ofAnnotation first source = .ok directives)
    (second : List Char) :
    (∀ later, ofAnnotation second source = .ok later →
        ofAnnotation (first ++ '\n' :: second) source =
          .ok (directives ++ later.map (·.shift (first.length + 1)))) ∧
      ∀ error, ofAnnotation second source = .error error →
        ofAnnotation (first ++ '\n' :: second) source =
          .error (error.shift (first.length + 1)) := by
  have happend := ofAnnotation_append_newline h second
  refine ⟨?_, ?_⟩
  · intro later hlater
    rw [happend, hlater]
    rfl
  · intro error herror
    rw [happend, herror]
    rfl

theorem annotations_compose_tag :
    ofAnnotation "// @GqlIgnoreAll".toList (some "User") = .ok [⟨.ignoreAll, [], 3, false⟩] ∧
      ofAnnotation "// @GqlIgnoreAll\ngql:\"id,ro\"".toList (some "User") =
        .ok [⟨.ignoreAll, [], 3, false⟩,
          ⟨.field, [{ key := "id", position := 22 }, { key := "ro", position := 25 }], 17, true⟩] ∧
      ofAnnotation "// @GqlIgnoreAll\n@GqlKind".toList (some "User") =
        .error ⟨.unknownDirective "GqlKind", "@GqlKind".toList, 17, some "User"⟩ := by
  have hfirst : ofAnnotation "// @GqlIgnoreAll".toList (some "User") =
      .ok [⟨.ignoreAll, [], 3, false⟩] := by
    decide +kernel
  refine ⟨hfirst, ?_, ?_⟩
  · exact (annotations_compose hfirst "gql:\"id,ro\"".toList).1
      [⟨.field, [{ key := "id", position := 5 }, { key := "ro", position := 8 }], 0, true⟩]
        (by decide +kernel)
  · exact (annotations_compose hfirst "@GqlKind".toList).2
      ⟨.unknownDirective "GqlKind", "@GqlKind".toList, 0, some "User"⟩ (by decide +kernel)

end SchemaViews.Directive
