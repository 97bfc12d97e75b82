import SchemaViews.Proofs.Directive.Lines
import SchemaViews.Proofs.Directive.Printing
import SchemaViews.Proofs.Directive.Spelling

/-!
# Written directives are read back

The tokens of written arguments are read as these arguments, a line as the directive on it, and an
annotation as the directives of its lines in their order.
-/

namespace SchemaViews

open SchemaViews.Text

namespace Directive

/-- What an argument says, wherever it stands. -/
def Argument.content (argument : Argument) : String × Option Value × Option (List String) :=
  (argument.key, argument.value, argument.qualifier)

def Literal.value : Literal → Value
  | .text content => .text content
  | .list items => .list (items.map (·.text))

def Clause.content : Clause → String × Option Value × Option (List String)
  | .flag key => (key.text, none, none)
  | .keyed key value qualifier => (key.text, some value.value, qualifier.map (List.map (·.text)))

section Reading

variable {text : List Char} (ending : Ending) {token : Token} {tokens rest : List Token}
  {symbol : TokenKind × String} {later : List (TokenKind × String)}

theorem exists_cons_of_symbols (h : tokens.map Token.symbol = symbol :: later) :
    ∃ token rest, tokens = token :: rest ∧ token.kind = symbol.1 ∧ token.value = symbol.2 ∧
      rest.map Token.symbol = later := by
  obtain ⟨token, rest, rfl, rfl, hlater⟩ := List.map_eq_cons_iff.1 h
  exact ⟨token, rest, rfl, rfl, rfl, hlater⟩

def EndsRun (symbols : List (TokenKind × String)) : Prop :=
  ∀ symbol ∈ symbols.head?, symbol.1 ≠ .word

theorem endsRun_cons (h : symbol.1 ≠ .word) (later : List (TokenKind × String)) :
    EndsRun (symbol :: later) := by
  intro found hfound
  cases hfound
  exact h

theorem EndsRun.isWord_eq (h : EndsRun (rest.map Token.symbol)) :
    ∀ token ∈ rest.head?, token.isWord = false := by
  intro token hmem
  have hword : token.symbol.1 ≠ .word := h token.symbol (by
    rw [List.head?_map, Option.mem_def.1 hmem]
    rfl)
  exact beq_eq_false_iff_ne.2 hword

theorem run_of_endsRun (h : EndsRun (rest.map Token.symbol)) :
    rest.takeWhile Token.isWord = [] ∧ afterRun rest = rest := by
  cases rest with
  | nil => exact ⟨rfl, rfl⟩
  | cons next rest =>
      have hnext : ¬next.isWord = true := Bool.eq_false_iff.1 (h.isWord_eq next rfl)
      exact ⟨List.takeWhile_cons_of_neg hnext, List.dropWhile_cons_of_neg hnext⟩

theorem runText_of_endsRun (hcarries : Carries text (token :: rest)) (hword : token.kind = .word)
    (h : EndsRun (rest.map Token.symbol)) : runText text token rest = token.value := by
  have hstop : runStop token rest = token.stop := by
    rw [runStop, (run_of_endsRun h).1]
    rfl
  rw [runText, hstop, hcarries token List.mem_cons_self hword, String.ofList_toList]

def Yields {α : Type} (result : Except SyntaxError (Reading α)) (value : α)
    (later : List (TokenKind × String)) : Prop :=
  ∃ reading, result = .ok reading ∧ reading.value = value ∧ reading.rest.map Token.symbol = later

theorem readItems_word (hcarries : Carries text (token :: rest)) (hword : token.kind = .word)
    (h : EndsRun (rest.map Token.symbol)) :
    readItems text ending (token :: rest) =
      (readItems text ending rest).map fun reading =>
        { reading with value := token.value :: reading.value } := by
  rw [readItems, hword]
  simp only [(run_of_endsRun h).2, runText_of_endsRun hcarries hword h]

theorem readItems_comma (hcomma : token.kind = .comma) :
    readItems text ending (token :: rest) = readItems text ending rest := by
  rw [readItems, hcomma]

theorem readItems_words (words : List PlainWord) (hcarries : Carries text tokens)
    (h : tokens.map Token.symbol = wordSymbols words ++ closeBracket :: later) :
    Yields (readItems text ending tokens) (words.map (·.text)) later := by
  induction words generalizing tokens with
  | nil =>
      obtain ⟨token, rest, rfl, hkind, -, hrest⟩ := exists_cons_of_symbols h
      refine ⟨⟨[], token.stop, rest⟩, ?_, rfl, hrest⟩
      rw [readItems, hkind]
      rfl
  | cons word words ih =>
      -- A word is alone in its run, since a comma or the closing bracket comes next.
      have hstep {token : Token} {rest : List Token} (hcarries : Carries text (token :: rest))
          (hkind : token.kind = .word) (hvalue : token.value = word.text)
          (hends : EndsRun (rest.map Token.symbol))
          (hrest : Yields (readItems text ending rest) (words.map (·.text)) later) :
          Yields (readItems text ending (token :: rest)) ((word :: words).map (·.text)) later := by
        obtain ⟨reading, hread, hitems, hleft⟩ := hrest
        rw [readItems_word ending hcarries hkind hends, hread]
        refine ⟨_, rfl, ?_, hleft⟩
        change token.value :: reading.value = _
        rw [hvalue, hitems, List.map_cons]
      cases words with
      | nil =>
          obtain ⟨token, rest, rfl, hkind, hvalue, hrest⟩ := exists_cons_of_symbols h
          refine hstep hcarries hkind hvalue ?_ (ih hcarries.tail hrest)
          rw [hrest]
          exact endsRun_cons (by decide) later
      | cons next words =>
          rw [wordSymbols, List.map_cons, List.map_cons, List.intercalate_cons_cons,
            List.append_assoc, List.append_assoc] at h
          obtain ⟨token, rest, rfl, hkind, hvalue, hrest⟩ := exists_cons_of_symbols h
          obtain ⟨mark, more, rfl, hcomma, -, hmore⟩ := exists_cons_of_symbols hrest
          refine hstep hcarries hkind hvalue ?_ ?_
          · rw [hrest]
            exact endsRun_cons (by decide) _
          · rw [readItems_comma ending hcomma]
            exact ih hcarries.tail.tail hmore

theorem readList_words (words : List PlainWord) (hcarries : Carries text tokens)
    (h : tokens.map Token.symbol = listSymbols words ++ later) :
    Yields (readList text ending tokens) (words.map (·.text)) later := by
  rw [listSymbols, List.append_assoc, List.append_assoc] at h
  obtain ⟨token, rest, rfl, hkind, -, hrest⟩ := exists_cons_of_symbols h
  rw [readList, hkind]
  exact readItems_words ending words hcarries.tail hrest

theorem readValue_literal (value : Literal) (hcarries : Carries text tokens)
    (h : tokens.map Token.symbol = value.symbols ++ later) :
    ∃ reading, readValue text ending tokens = .ok reading ∧ reading.value.1 = value.value ∧
      reading.rest.map Token.symbol = later := by
  cases value with
  | text content =>
      obtain ⟨token, rest, rfl, hkind, hvalue, hrest⟩ := exists_cons_of_symbols h
      rw [readValue, hkind]
      refine ⟨_, rfl, ?_, hrest⟩
      rw [Literal.value, hvalue]
  | list items =>
      obtain ⟨reading, hread, hitems, hleft⟩ := readList_words ending items hcarries h
      rw [Literal.symbols, listSymbols, List.append_assoc, List.append_assoc] at h
      obtain ⟨token, rest, rfl, hkind, -, -⟩ := exists_cons_of_symbols h
      rw [readValue, hkind]
      simp only
      rw [hread]
      refine ⟨_, rfl, ?_, hleft⟩
      rw [Literal.value, ← hitems]

def AtComma (symbols : List (TokenKind × String)) : Prop :=
  symbols = [] ∨ ∃ more, symbols = comma :: more

theorem readQualifier_words (qualifier : Option (List PlainWord)) (hcarries : Carries text tokens)
    (h : tokens.map Token.symbol = qualifierSymbols qualifier ++ later) (hlater : AtComma later) :
    ∃ left, readQualifier text ending tokens = .ok (qualifier.map (List.map (·.text)), left) ∧
      left.map Token.symbol = later := by
  cases qualifier with
  | none =>
      refine ⟨tokens, ?_, h⟩
      rcases hlater with rfl | ⟨more, rfl⟩
      · rw [List.map_eq_nil_iff.1 h]
        rfl
      · obtain ⟨token, rest, rfl, hkind, -, -⟩ := exists_cons_of_symbols h
        rw [readQualifier, hkind]
        rfl
  | some words =>
      obtain ⟨token, rest, rfl, hkind, -, hrest⟩ := exists_cons_of_symbols h
      obtain ⟨reading, hread, hitems, hleft⟩ := readList_words ending words hcarries.tail hrest
      refine ⟨reading.rest, ?_, hleft⟩
      rw [readQualifier, hkind, hread, Option.map_some, ← hitems]
      rfl

theorem readArgument_clause (clause : Clause) (hcarries : Carries text tokens)
    (h : tokens.map Token.symbol = clause.symbols ++ later) (hlater : AtComma later) :
    ∃ token rest argument left, tokens = token :: rest ∧
      readArgument text ending token rest = .ok (argument, left) ∧
        argument.content = clause.content ∧ left.map Token.symbol = later := by
  cases clause with
  | flag key =>
      obtain ⟨token, rest, rfl, hkind, hvalue, hrest⟩ := exists_cons_of_symbols h
      have hword : token.kind = .word := hkind
      refine ⟨token, rest, { key := token.value, position := token.start }, rest, rfl, ?_, ?_,
        hrest⟩
      · unfold readArgument
        rw [if_neg (not_not.2 hword)]
        rcases hlater with rfl | ⟨more, rfl⟩
        · rw [List.map_eq_nil_iff.1 hrest]
        · obtain ⟨next, after, rfl, hcomma, -, -⟩ := exists_cons_of_symbols hrest
          simp only [hcomma, comma]
      · rw [Argument.content, hvalue]
        rfl
  | keyed key value qualifier =>
      rw [Clause.symbols, List.append_assoc, List.append_assoc, List.append_assoc] at h
      obtain ⟨token, rest, rfl, hkind, hvalue, hrest⟩ := exists_cons_of_symbols h
      obtain ⟨next, after, rfl, hcolon, -, hafter⟩ := exists_cons_of_symbols hrest
      have hword : token.kind = .word := hkind
      obtain ⟨reading, hread, hliteral, hmore⟩ :=
        readValue_literal ending value hcarries.tail.tail hafter
      have hleft : Carries text reading.rest := hcarries.tail.tail.suffix (suffix_readValue hread)
      obtain ⟨left, hqualifier, hsymbols⟩ := readQualifier_words ending qualifier hleft hmore hlater
      refine ⟨token, next :: after,
        ⟨token.value, some reading.value.1, qualifier.map (List.map (·.text)), token.start,
        some reading.value.2⟩, left, rfl, ?_, ?_, hsymbols⟩
      · unfold readArgument
        rw [if_neg (not_not.2 hword)]
        simp only [hcolon, colon]
        rw [hread]
        simp only [Except.bind, hqualifier]
        rfl
      · rw [Argument.content, hvalue, hliteral]
        rfl

theorem readArguments_clauses (clauses : List Clause) (hcarries : Carries text tokens)
    (h : tokens.map Token.symbol = clauseSymbols clauses) :
    ∃ arguments, readArguments text ending tokens = .ok arguments ∧
      arguments.map Argument.content = clauses.map Clause.content := by
  induction clauses generalizing tokens with
  | nil =>
      refine ⟨[], ?_, rfl⟩
      rw [List.map_eq_nil_iff.1 h, readArguments]
  | cons clause clauses ih =>
      have hne {token : Token} {rest left : List Token} {argument : Argument}
          (hread : readArgument text ending token rest = .ok (argument, left)) :
          ¬token.kind = .comma := by
        rw [(readArgument_eq_ok hread).1]
        decide
      cases clauses with
      | nil =>
          rw [clauseSymbols, List.map_singleton,
            List.intercalate_singleton, ← List.append_nil clause.symbols] at h
          obtain ⟨token, rest, argument, left, rfl, hread, hcontent, hleft⟩ :=
            readArgument_clause ending clause hcarries h (.inl rfl)
          refine ⟨[argument], ?_, ?_⟩
          · rw [readArguments_cons, if_neg (hne hread), hread, List.map_eq_nil_iff.1 hleft]
            rfl
          · rw [List.map_singleton, List.map_singleton, hcontent]
      | cons next clauses =>
          rw [clauseSymbols, List.map_cons, List.map_cons, List.intercalate_cons_cons,
            List.append_assoc] at h
          obtain ⟨token, rest, argument, left, rfl, hread, hcontent, hleft⟩ :=
            readArgument_clause ending clause hcarries h (.inr ⟨_, rfl⟩)
          obtain ⟨mark, more, rfl, hcomma, -, hmore⟩ := exists_cons_of_symbols hleft
          have hsuffix : Carries text (mark :: more) :=
            hcarries.tail.suffix (readArgument_eq_ok hread).2.2.2
          obtain ⟨arguments, harguments, hcontents⟩ := ih hsuffix.tail hmore
          refine ⟨argument :: arguments, ?_, ?_⟩
          · rw [readArguments_cons, if_neg (hne hread), hread]
            have hmark : mark.kind = .comma := hcomma
            simp only [Except.bind, if_pos hmark, harguments]
            rfl
          · rw [List.map_cons, hcontent, hcontents]
            rfl

end Reading

/-- What a directive says, wherever it stands. -/
def content (directive : Directive) :
    DirectiveName × Bool × List (String × Option Value × Option (List String)) :=
  (directive.name, directive.fromTag, directive.arguments.map Argument.content)

def Invocation.content (invocation : Invocation) :
    DirectiveName × Bool × List (String × Option Value × Option (List String)) :=
  (invocation.name, false, invocation.clauses.map Clause.content)

theorem content_shift (directive : Directive) (offset : Nat) :
    (directive.shift offset).content = directive.content := by
  simp only [content, Directive.shift, List.map_map]
  rfl

theorem readDirective_invocation (invocation : Invocation) {text : List Char} {position : Nat}
    (hplace : Advances 0 text position
      ('@' :: (invocation.spelling ++ printedArguments invocation.clauses))) :
    ∃ found, readDirective text position invocation.spelling
        ('@' :: (invocation.spelling ++ printedArguments invocation.clauses)) = .ok found ∧
      found.directive.content = invocation.content ∧ found.rest = [] := by
  obtain ⟨name, spelling, hspells, clauses⟩ := invocation
  unfold readDirective
  simp only [DirectiveName.ofWritten_of_spells hspells, drop_written]
  cases clauses with
  | nil => exact ⟨_, rfl, rfl, rfl⟩
  | cons clause clauses =>
      obtain ⟨scan, hscan, hsymbols, hrest⟩ := scanFrom_clauses (clause :: clauses)
        (unclosedAt text (position + 1 + spelling.length + 1)) (position + 1 + spelling.length + 1)
        []
      obtain ⟨arguments, hread, hcontents⟩ :=
        readArguments_clauses scan.ending (clause :: clauses)
          (carries_scanFrom hplace.behind_paren hscan) hsymbols
      simp only [printedArguments, List.cons_append, hscan, hread]
      refine ⟨_, rfl, ?_, hrest⟩
      rw [content, hcontents]
      rfl

theorem opensTag_of_ne {c : Char} (hletter : c ≠ 'g') (before : Option Char) (after : List Char) :
    opensTag before (c :: after) = false := by
  rw [opensTag, tagOpening, List.isPrefixOf_cons_cons, beq_eq_false_iff_ne.2 hletter.symm,
    Bool.false_and, Bool.and_false]

theorem readFrom_skip {text after : List Char} {before : Option Char} {position : Nat} {c : Char}
    (hletter : c ≠ 'g') (hat : c ≠ '@') : readFrom text before position (c :: after) =
      readFrom text (some c) (position + 1) after := by
  have hdirective : opensDirective? before (c :: after) = none := by
    rw [opensDirective?]
    exact fun _ heq => hat (List.cons.inj heq).1
  rw [readFrom_cons, opensTag_of_ne hletter, if_neg Bool.false_ne_true, hdirective]

theorem opensDirective_invocation (invocation : Invocation) :
    opensDirective? (some ' ')
      ('@' :: (invocation.spelling ++ printedArguments invocation.clauses)) =
        some invocation.spelling := by
  rw [opensDirective?, if_pos (by decide), DirectiveName.writtenName_of_spells invocation.spells]
  intro c hc
  cases hclauses : invocation.clauses with
  | nil =>
      rw [hclauses] at hc
      cases hc
  | cons clause clauses =>
      rw [hclauses] at hc
      cases hc
      decide

theorem ofAnnotation_line (invocation : Invocation) (source : Option String) :
    ∃ directive, ofAnnotation invocation.line source = .ok [directive] ∧
      directive.content = invocation.content := by
  have hplace :
      Advances 0 invocation.line 3
      ('@' :: (invocation.spelling ++ printedArguments invocation.clauses)) :=
    advances_append 0 ['/', '/', ' '] _
  obtain ⟨found, hread, hcontent, hrest⟩ := readDirective_invocation invocation hplace
  have hline : readFrom invocation.line none 0 invocation.line = .ok [found.directive] := by
    change readFrom invocation.line none 0
      ('/' :: '/' :: ' ' :: '@' :: (invocation.spelling ++ printedArguments invocation.clauses)) = _
    rw [readFrom_skip (by decide) (by decide), readFrom_skip (by decide) (by decide),
      readFrom_skip (by decide) (by decide), readFrom_cons, opensTag_of_ne (by decide),
      if_neg Bool.false_ne_true, opensDirective_invocation]
    change (readDirective _ 3 _ _).bind _ = _
    rw [hread]
    change (readFrom _ _ _ found.rest).map _ = _
    rw [hrest, readFrom]
    rfl
  refine ⟨found.directive, ?_, hcontent⟩
  unfold ofAnnotation
  rw [hline]
  rfl

/-- Written directives are read back, whatever their strings contain and however their names are
spelled: with the same names, keys, values and qualifiers, in the same order. -/
theorem ofAnnotation_printed (invocations : List Invocation) (source : Option String) :
    ∃ directives, ofAnnotation (printed invocations) source = .ok directives ∧
      directives.map content = invocations.map Invocation.content := by
  induction invocations with
  | nil =>
      refine ⟨[], ?_, rfl⟩
      unfold ofAnnotation
      rw [printed, List.map_nil, List.intercalate_nil, readFrom]
      rfl
  | cons invocation invocations ih =>
      obtain ⟨directive, hline, hcontent⟩ := ofAnnotation_line invocation source
      cases invocations with
      | nil =>
          refine ⟨[directive], ?_, ?_⟩
          · rw [printed, List.map_singleton, List.intercalate_singleton, hline]
          · rw [List.map_singleton, List.map_singleton, hcontent]
      | cons next invocations =>
          -- The first line can be read, so the others are read as they would be without it.
          obtain ⟨directives, hlater, hcontents⟩ := ih
          refine ⟨directive :: directives.map (·.shift (invocation.line.length + 1)), ?_, ?_⟩
          · have happend := ofAnnotation_append_newline hline (printed (next :: invocations))
            rw [hlater] at happend
            have hlines : printed (invocation :: next :: invocations) =
                invocation.line ++ '\n' :: printed (next :: invocations) := by
              rw [printed, List.map_cons, List.map_cons, List.intercalate_cons_cons,
                List.append_assoc]
              rfl
            rw [hlines, happend]
            rfl
          · have hshift : (directives.map (·.shift (invocation.line.length + 1))).map content =
                directives.map content := by
              rw [List.map_map]
              exact List.map_congr_left fun later _ => content_shift later _
            rw [List.map_cons, hshift, hcontents, hcontent]
            rfl

theorem ofAnnotation_printed_mixed : ∃ directives,
    ofAnnotation "// @GqlIgnoreAll\n// @gqlTYPE(all, name:\"@(\\\"\":[A, B])".toList none =
      .ok directives ∧ directives.map content = [(.ignoreAll, false, []),
        (.type, false, [("all", none, none), ("name", some (.text "@(\""), some ["A", "B"])])] := by
  obtain ⟨directives, hread, hcontent⟩ := ofAnnotation_printed mixedInvocations none
  rw [printed_mixedInvocations] at hread
  exact ⟨directives, hread, hcontent⟩

end Directive

end SchemaViews
