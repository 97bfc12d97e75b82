import Mathlib.Data.List.TakeWhile
import SchemaViews.Proofs.Directive.Positions

/-!
# The grammar of arguments

What an argument list may be and what it says, as a grammar of tokens beside the reader.
The reader accepts exactly the lists of the grammar and gives what the grammar says; in
any other list it reports a fault about one of its tokens or about what ends it, so that
it never looks behind the end.
-/

namespace SchemaViews.Directive

open SchemaViews.Text

def stopOf (tokens : List Token) : Nat :=
  (tokens.getLast?.map Token.stop).getD 0

def sourceOf (text : List Char) : List Token → String
  | [] => ""
  | first :: rest => String.ofList (slice text first.start (stopOf (first :: rest)))

def Token.isComma (token : Token) : Bool :=
  token.kind == .comma

/-- The items between brackets: the source of each run of words between commas. -/
def itemsOf (text : List Char) (content : List Token) : List String :=
  ((content.splitOnP Token.isComma).filter fun words => !words.isEmpty).map (sourceOf text)

section Rules

variable (text : List Char)

/-- Words and commas in brackets, or a list in single quotes. -/
inductive IsList : List Token → List String → Prop where
  | quoted {token : Token} (hkind : token.kind = .quotedList) :
      IsList [token] (splitNames token.value.toList)
  | bracketed {opening closing : Token} {content : List Token}
      (hopening : opening.kind = .openBracket)
      (hcontent : ∀ token ∈ content, token.kind = .word ∨ token.kind = .comma)
      (hclosing : closing.kind = .closeBracket) :
      IsList (opening :: (content ++ [closing])) (itemsOf text content)

inductive IsValue : List Token → Value → Prop where
  | string {token : Token} (hkind : token.kind = .string) : IsValue [token] (.text token.value)
  | list {tokens : List Token} {items : List String} (h : IsList text tokens items) :
      IsValue tokens (.list items)
  | words {words : List Token} (hne : words ≠ []) (hwords : ∀ token ∈ words, token.kind = .word) :
      IsValue words (.text (sourceOf text words))

inductive IsArgument : List Token → Argument → Prop where
  | flag {key : Token} (hkey : key.kind = .word) :
      IsArgument [key] { key := key.value, position := key.start }
  | valued {key colon : Token} {source : List Token} {value : Value} (hkey : key.kind = .word)
      (hcolon : colon.kind = .colon) (hvalue : IsValue text source value) :
      IsArgument (key :: colon :: source)
        ⟨key.value, some value, none, key.start, some (sourceOf text source)⟩
  | qualified {key colon second : Token} {source names : List Token} {value : Value}
      {views : List String} (hkey : key.kind = .word) (hcolon : colon.kind = .colon)
      (hvalue : IsValue text source value) (hsecond : second.kind = .colon)
      (hnames : IsList text names views) :
      IsArgument (key :: colon :: (source ++ second :: names))
        ⟨key.value, some value, some views, key.start, some (sourceOf text source)⟩

inductive IsPart : List Token → List Argument → Prop where
  | empty : IsPart [] []
  | argument {tokens : List Token} {argument : Argument} (h : IsArgument text tokens argument) :
      IsPart tokens [argument]

/-- Parts with commas between them, and the arguments of those that are not empty. -/
inductive AreArguments : List Token → List Argument → Prop where
  | last {part : List Token} {arguments : List Argument} (h : IsPart text part arguments) :
      AreArguments part arguments
  | next {part later : List Token} {comma : Token} {arguments others : List Argument}
      (h : IsPart text part arguments) (hcomma : comma.kind = .comma)
      (hlater : AreArguments later others) :
      AreArguments (part ++ comma :: later) (arguments ++ others)

end Rules

variable {text : List Char} (ending : Ending) {tokens left : List Token}

section Sources

theorem stopOf_concat (tokens : List Token) (last : Token) :
    stopOf (tokens ++ [last]) = last.stop := by
  rw [stopOf, List.getLast?_concat]
  rfl

theorem runStop_eq (first : Token) (rest : List Token) :
    runStop first rest = stopOf (first :: rest.takeWhile Token.isWord) := by
  rw [runStop, stopOf, List.getLast?_cons]
  rfl

theorem runText_eq (first : Token) (rest : List Token) :
    runText text first rest = sourceOf text (first :: rest.takeWhile Token.isWord) := by
  rw [runText, runStop_eq, sourceOf]

theorem itemsOf_append_comma {comma : Token} (hcomma : comma.kind = .comma)
    (content more : List Token) :
    itemsOf text (content ++ comma :: more) = itemsOf text content ++ itemsOf text more := by
  have hseparates : comma.isComma = true := beq_iff_eq.2 hcomma
  simp only [itemsOf, List.splitOnP_append_cons _ _ hseparates, List.filter_append, List.map_append]

theorem itemsOf_words {words : List Token} (hwords : ∀ token ∈ words, token.kind = .word) :
    itemsOf text words = if words.isEmpty then [] else [sourceOf text words] := by
  have hnone : ∀ token ∈ words, token.isComma = false := by
    intro token hmem
    rw [Token.isComma, hwords token hmem]
    rfl
  rw [itemsOf, List.splitOnP_eq_singleton hnone]
  cases words <;> rfl

theorem itemsOf_comma {comma : Token} (hcomma : comma.kind = .comma) (content : List Token) :
    itemsOf text (comma :: content) = itemsOf text content :=
  itemsOf_append_comma hcomma [] content

theorem itemsOf_run {token : Token} {content : List Token} (hword : token.kind = .word)
    (hcontent : ∀ other ∈ content, other.kind = .word ∨ other.kind = .comma) :
    itemsOf text (token :: content) = runText text token content ::
      itemsOf text (afterRun content) := by
  have hrun : ∀ other ∈ token :: content.takeWhile Token.isWord, other.kind = .word := by
    intro other hmem
    rcases List.mem_cons.1 hmem with rfl | hlater
    · exact hword
    · have hother : other.isWord = true := List.mem_takeWhile_imp hlater
      exact beq_iff_eq.1 hother
  have hsplit : token :: content = (token :: content.takeWhile Token.isWord) ++
      afterRun content := by
    rw [List.cons_append, afterRun, List.takeWhile_append_dropWhile]
  rw [hsplit, runText_eq]
  cases hafter : afterRun content with
  | nil =>
      rw [List.append_nil, itemsOf_words hrun]
      rfl
  | cons comma more =>
      -- the token behind the run is no word, so it is a comma
      have hcomma : comma.kind = .comma := by
        have hmem : comma ∈ content := (suffix_afterRun content).mem (hafter ▸ List.mem_cons_self)
        refine (hcontent comma hmem).resolve_left fun hkind => ?_
        have hstop := List.head?_dropWhile_not Token.isWord content
        rw [← afterRun, hafter] at hstop
        exact Bool.false_ne_true (hstop.symm.trans (beq_iff_eq.2 hkind))
      rw [itemsOf_append_comma hcomma, itemsOf_words hrun, itemsOf_comma hcomma]
      rfl

end Sources

section Readers

/-- A run of words ends where the tokens behind it begin with another token. -/
theorem run_append (hleft : ∀ next ∈ left.head?, next.kind ≠ .word) (content : List Token) :
    (content ++ left).takeWhile Token.isWord = content.takeWhile Token.isWord ∧
      afterRun (content ++ left) = afterRun content ++ left := by
  unfold afterRun
  induction content with
  | nil =>
      cases left with
      | nil => exact ⟨rfl, rfl⟩
      | cons next left =>
          have hnext : ¬next.isWord = true := fun hword => hleft next rfl (beq_iff_eq.1 hword)
          exact ⟨List.takeWhile_cons_of_neg hnext, List.dropWhile_cons_of_neg hnext⟩
  | cons token content ih =>
      by_cases hword : token.isWord = true
      · simp only [List.cons_append, List.takeWhile_cons_of_pos hword,
          List.dropWhile_cons_of_pos hword, ih, and_self]
      · simp only [List.cons_append, List.takeWhile_cons_of_neg hword,
          List.dropWhile_cons_of_neg hword, and_self]

theorem runText_append (hleft : ∀ next ∈ left.head?, next.kind ≠ .word) (first : Token)
    (content : List Token) : runText text first (content ++ left) = runText text first content := by
  rw [runText_eq, runText_eq, (run_append hleft content).1]

theorem readItems_between {content : List Token} {closing : Token}
    (hcontent : ∀ token ∈ content, token.kind = .word ∨ token.kind = .comma)
    (hclosing : closing.kind = .closeBracket) :
    readItems text ending (content ++ closing :: left) =
      .ok ⟨itemsOf text content, closing.stop, left⟩ := by
  have hends : ∀ next ∈ (closing :: left).head?, next.kind ≠ .word := by
    rintro next ⟨⟩ hword
    exact absurd (hclosing.symm.trans hword) (by decide)
  induction hlength : content.length using Nat.strongRecOn generalizing content with
  | ind length ih =>
      cases content with
      | nil =>
          rw [List.nil_append, readItems, hclosing]
          rfl
      | cons token content =>
          have hrest : ∀ other ∈ content, other.kind = .word ∨ other.kind = .comma :=
            fun other hmem => hcontent other (List.mem_cons_of_mem token hmem)
          rw [List.length_cons] at hlength
          rw [List.cons_append, readItems]
          rcases hcontent token List.mem_cons_self with hword | hcomma
          · -- the words behind it belong to the same item
            have hshorter : (afterRun content).length < length := by
              have := length_afterRun_le content
              omega
            have hafter : ∀ other ∈ afterRun content, other.kind = .word ∨ other.kind = .comma :=
              fun other hmem => hrest other ((suffix_afterRun content).mem hmem)
            rw [hword]
            simp only [(run_append hends content).2, runText_append hends, ih _ hshorter hafter rfl,
              Except.map, itemsOf_run hword hrest]
          · rw [hcomma]
            simp only [ih _ (by omega) hrest rfl, itemsOf_comma hcomma]

theorem exists_content_of_readItems {reading : Reading (List String)}
    (h : readItems text ending tokens = .ok reading) :
    ∃ content closing, tokens = content ++ closing :: reading.rest ∧
      (∀ token ∈ content, token.kind = .word ∨ token.kind = .comma) ∧
      closing.kind = .closeBracket := by
  fun_induction readItems text ending tokens generalizing reading with
  | case1 | case5 | case6 | case7 | case8 => cases h
  | case2 token rest hkind =>
      cases h
      exact ⟨[], token, rfl, by simp, hkind⟩
  | case3 token rest hkind ih =>
      obtain ⟨content, closing, hrest, hcontent, hclosing⟩ := ih h
      refine ⟨token :: content, closing, by rw [hrest, List.cons_append], ?_, hclosing⟩
      exact List.forall_mem_cons.2 ⟨.inr hkind, hcontent⟩
  | case4 token rest hkind hle ih =>
      obtain ⟨inner, hinner, rfl⟩ := map_eq_ok_iff.1 h
      obtain ⟨content, closing, hafter, hcontent, hclosing⟩ := ih hinner
      refine ⟨token :: (rest.takeWhile Token.isWord ++ content), closing, ?_, ?_, hclosing⟩
      · rw [List.cons_append, List.append_assoc, ← hafter, afterRun,
          List.takeWhile_append_dropWhile]
      · refine List.forall_mem_cons.2 ⟨.inl hkind, fun other hmem => ?_⟩
        rcases List.mem_append.1 hmem with hrun | hlater
        · have hword : other.isWord = true := List.mem_takeWhile_imp hrun
          exact .inl (beq_iff_eq.1 hword)
        · exact hcontent other hlater

theorem IsList.ne_nil {items : List String} (h : IsList text tokens items) : tokens ≠ [] := by
  cases h <;> simp

theorem IsList.readList_append {items : List String} (h : IsList text tokens items)
    (left : List Token) :
    readList text ending (tokens ++ left) = .ok ⟨items, stopOf tokens, left⟩ := by
  cases h with
  | quoted hkind =>
      rw [List.singleton_append, readList, hkind]
      rfl
  | @bracketed opening closing content hopening hcontent hclosing =>
      rw [List.cons_append, List.append_assoc, readList, hopening]
      simp only [List.singleton_append, readItems_between ending hcontent hclosing]
      rw [← List.cons_append, stopOf_concat]

theorem exists_isList_of_readList {reading : Reading (List String)}
    (h : readList text ending tokens = .ok reading) :
    ∃ source, tokens = source ++ reading.rest ∧ IsList text source reading.value := by
  cases tokens with
  | nil => cases h
  | cons token rest =>
      rw [readList] at h
      split at h
      · rename_i hkind
        cases h
        exact ⟨[token], rfl, .quoted hkind⟩
      · rename_i hkind
        obtain ⟨content, closing, hrest, hcontent, hclosing⟩ := exists_content_of_readItems ending h
        rw [hrest, readItems_between ending hcontent hclosing] at h
        refine ⟨token :: (content ++ [closing]), by simp [hrest], ?_⟩
        rw [← Except.ok.inj h]
        exact .bracketed hkind hcontent hclosing
      · cases h

theorem IsValue.ne_nil {value : Value} (h : IsValue text tokens value) : tokens ≠ [] := by
  cases h with
  | string => simp
  | list h => exact h.ne_nil
  | words hne => exact hne

theorem IsValue.readValue_append {value : Value} (h : IsValue text tokens value)
    (hleft : ∀ next ∈ left.head?, next.kind ≠ .word) :
    readValue text ending (tokens ++ left) = .ok ⟨(value, sourceOf text tokens), stopOf tokens,
      left⟩ := by
  cases h with
  | string hkind =>
      rw [List.singleton_append, readValue, hkind]
      rfl
  | list hlist =>
      have hread := hlist.readList_append ending left
      cases hlist with
      | quoted hkind =>
          rw [List.singleton_append] at hread ⊢
          rw [readValue, hkind]
          simp only [hread, Except.map]
          rfl
      | bracketed hopening hcontent hclosing =>
          rw [List.cons_append] at hread ⊢
          rw [readValue, hopening]
          simp only [hread, Except.map, sourceOf]
  | words hne hwords =>
      obtain ⟨first, rest, rfl⟩ := List.exists_cons_of_ne_nil hne
      have hrest : ∀ token ∈ rest, token.isWord = true :=
        fun token hmem => beq_iff_eq.2 (hwords token (List.mem_cons_of_mem first hmem))
      have hrun : rest.takeWhile Token.isWord = rest := List.takeWhile_eq_self_iff.2 hrest
      have hafter : afterRun rest = [] := List.dropWhile_eq_nil_iff.2 hrest
      rw [List.cons_append, readValue, hwords first List.mem_cons_self]
      simp only [runText_append hleft, runText_eq, runStop_eq, (run_append hleft rest).1,
        (run_append hleft rest).2, hrun, hafter, List.nil_append]

theorem exists_isValue_of_readValue {reading : Reading (Value × String)}
    (h : readValue text ending tokens = .ok reading) :
    ∃ source, tokens = source ++ reading.rest ∧ IsValue text source reading.value.1 ∧
      reading.value.2 = sourceOf text source := by
  cases tokens with
  | nil => cases h
  | cons token rest =>
      have hlist (h : ((readList text ending (token :: rest)).map fun inner =>
          ({ inner with value := (.list inner.value,
            String.ofList (slice text token.start inner.stop)) } :
            Reading (Value × String))) = .ok reading) :
          ∃ source, token :: rest = source ++ reading.rest ∧ IsValue text source reading.value.1 ∧
            reading.value.2 = sourceOf text source := by
        obtain ⟨inner, hread, rfl⟩ := map_eq_ok_iff.1 h
        obtain ⟨source, hsplit, hsource⟩ := exists_isList_of_readList ending hread
        obtain ⟨first, more, rfl⟩ := List.exists_cons_of_ne_nil hsource.ne_nil
        obtain ⟨rfl, -⟩ := List.cons.inj hsplit
        have hinner := hsource.readList_append ending inner.rest
        rw [← hsplit, hread] at hinner
        refine ⟨token :: more, hsplit, .list hsource, ?_⟩
        rw [Except.ok.inj hinner, sourceOf]
      rw [readValue] at h
      split at h
      · rename_i hkind
        cases h
        exact ⟨[token], rfl, .string hkind, rfl⟩
      · rename_i hkind
        cases h
        refine ⟨token :: rest.takeWhile Token.isWord, ?_, ?_, runText_eq token rest⟩
        · rw [List.cons_append, afterRun, List.takeWhile_append_dropWhile]
        · rw [runText_eq]
          refine .words (List.cons_ne_nil _ _)
            (List.forall_mem_cons.2 ⟨hkind, fun other hmem => ?_⟩)
          have hword : other.isWord = true := List.mem_takeWhile_imp hmem
          exact beq_iff_eq.1 hword
      · exact hlist h
      · exact hlist h
      · cases h

theorem readQualifier_of_ne_colon (hleft : ∀ next ∈ left.head?, next.kind ≠ .colon) :
    readQualifier text ending left = .ok (none, left) := by
  cases left with
  | nil => rfl
  | cons next later => rw [readQualifier, if_neg (hleft next rfl)]

theorem IsList.readQualifier_append {colon : Token} {views : List String}
    (hcolon : colon.kind = .colon) (h : IsList text tokens views) (left : List Token) :
    readQualifier text ending (colon :: (tokens ++ left)) = .ok (some views, left) := by
  rw [readQualifier, if_pos hcolon, h.readList_append]
  rfl

theorem qualifier_of_readQualifier {qualifier : Option (List String)}
    (h : readQualifier text ending tokens = .ok (qualifier, left)) :
    qualifier = none ∧ tokens = left ∨
      ∃ colon source views, qualifier = some views ∧ tokens = colon :: (source ++ left) ∧
        colon.kind = .colon ∧ IsList text source views := by
  cases tokens with
  | nil =>
      cases h
      exact .inl ⟨rfl, rfl⟩
  | cons token rest =>
      rw [readQualifier] at h
      split at h
      · rename_i hcolon
        obtain ⟨reading, hread, hmade⟩ := map_eq_ok_iff.1 h
        cases hmade
        obtain ⟨source, rfl, hsource⟩ := exists_isList_of_readList ending hread
        exact .inr ⟨token, source, reading.value, rfl, rfl, hcolon, hsource⟩
      · cases h
        exact .inl ⟨rfl, rfl⟩

theorem IsArgument.head_isWord {argument : Argument} (h : IsArgument text tokens argument) :
    ∃ key rest, tokens = key :: rest ∧ key.kind = .word := by
  cases h with
  | flag hkey | valued hkey | qualified hkey => exact ⟨_, _, rfl, hkey⟩

theorem IsArgument.readArgument_append {argument : Argument} {token : Token} {rest : List Token}
    (h : IsArgument text (token :: rest) argument)
    (hleft : ∀ next ∈ left.head?, next.kind = .comma) :
    readArgument text ending token (rest ++ left) = .ok (argument, left) := by
  have hne {kind : TokenKind} (hkind : kind ≠ .comma) : ∀ next ∈ left.head?, next.kind ≠ kind := by
    intro next hmem heq
    exact hkind (heq.symm.trans (hleft next hmem))
  cases h with
  | flag hkey =>
      unfold readArgument
      rw [if_neg (not_not.2 hkey), List.nil_append]
      cases left with
      | nil => rfl
      | cons next later => simp only [hleft next rfl]
  | valued hkey hcolon hvalue =>
      unfold readArgument
      rw [if_neg (not_not.2 hkey), List.cons_append]
      simp only [hcolon, hvalue.readValue_append ending (hne (by decide)), Except.bind,
        readQualifier_of_ne_colon ending (hne (by decide)), Except.map]
  | @qualified _ colon second source names value views hkey hcolon hvalue hsecond hnames =>
      have hbehind : ∀ next ∈ (second :: (names ++ left)).head?, next.kind ≠ .word := by
        rintro next ⟨⟩ hword
        exact absurd (hsecond.symm.trans hword) (by decide)
      unfold readArgument
      rw [if_neg (not_not.2 hkey), List.cons_append, List.append_assoc, List.cons_append]
      simp only [hcolon, hvalue.readValue_append ending hbehind, Except.bind,
        hnames.readQualifier_append ending hsecond, Except.map]

theorem exists_isArgument_of_readArgument {token : Token} {rest : List Token} {argument : Argument}
    (h : readArgument text ending token rest = .ok (argument, left)) :
    ∃ source, token :: rest = source ++ left ∧ IsArgument text source argument := by
  have hword : token.kind = .word := (readArgument_eq_ok h).1
  unfold readArgument at h
  rw [if_neg (not_not.2 hword)] at h
  split at h
  · cases h
    exact ⟨[token], rfl, .flag hword⟩
  · rename_i colon after
    split at h
    · cases h
    · rename_i hcolon
      obtain ⟨reading, hvalue, hmap⟩ := bind_eq_ok_iff.1 h
      obtain ⟨found, hqualifier, hmade⟩ := map_eq_ok_iff.1 hmap
      cases hmade
      obtain ⟨source, rfl, hsource, hraw⟩ := exists_isValue_of_readValue ending hvalue
      rw [hraw]
      rcases qualifier_of_readQualifier ending hqualifier with
        ⟨hnone, hrest⟩ | ⟨second, names, views, hsome, hrest, hsecond, hnames⟩
      · rw [hnone, hrest]
        exact ⟨token :: colon :: source, rfl, .valued hword hcolon hsource⟩
      · rw [hsome, hrest]
        refine ⟨token :: colon :: (source ++ second :: names), ?_,
          .qualified hword hcolon hsource hsecond hnames⟩
        simp only [List.cons_append, List.append_assoc]
    · cases h
      exact ⟨[token], rfl, .flag hword⟩

end Readers

section Lists

theorem AreArguments.readArguments_eq {arguments : List Argument}
    (h : AreArguments text tokens arguments) :
    readArguments text ending tokens = .ok arguments := by
  induction h with
  | last hpart =>
      cases hpart with
      | empty => rw [readArguments]
      | @argument _ argument hargument =>
          obtain ⟨key, rest, rfl, hkey⟩ := hargument.head_isWord
          have hread : readArgument text ending key (rest ++ []) = .ok (argument, []) :=
            hargument.readArgument_append ending (by simp)
          rw [List.append_nil] at hread
          rw [readArguments_cons, if_neg (by rw [hkey]; decide), hread]
          rfl
  | @next part later comma arguments others hpart hcomma _ ih =>
      cases hpart with
      | empty => rw [List.nil_append, readArguments_cons, if_pos hcomma, ih, List.nil_append]
      | @argument _ argument hargument =>
          obtain ⟨key, rest, rfl, hkey⟩ := hargument.head_isWord
          have hread : readArgument text ending key (rest ++ comma :: later) =
              .ok (argument, comma :: later) :=
            hargument.readArgument_append ending (by simp [hcomma])
          rw [List.cons_append, readArguments_cons, if_neg (by rw [hkey]; decide), hread]
          simp only [Except.bind, if_pos hcomma, ih, Except.map, List.singleton_append]

theorem areArguments_of_readArguments {arguments : List Argument}
    (h : readArguments text ending tokens = .ok arguments) :
    AreArguments text tokens arguments := by
  fun_induction readArguments text ending tokens generalizing arguments with
  | case1 =>
      cases h
      exact .last .empty
  | case2 comma later hcomma ih => exact .next .empty hcomma (ih h)
  | case3 | case6 => cases h
  | case4 token rest hcomma argument hread =>
      cases h
      obtain ⟨source, hsplit, hsource⟩ := exists_isArgument_of_readArgument ending hread
      rw [hsplit, List.append_nil]
      exact .last (.argument hsource)
  | case5 token rest hcomma argument next later hread hnext hlt ih =>
      obtain ⟨source, hsplit, hsource⟩ := exists_isArgument_of_readArgument ending hread
      obtain ⟨others, hlater, rfl⟩ := map_eq_ok_iff.1 h
      rw [hsplit]
      exact .next (.argument hsource) hnext (ih hlater)

/-- The fault is about one of the tokens, or about what ends them. -/
def SyntaxError.IsAbout (error : SyntaxError) (text : List Char) (tokens : List Token)
    (ending : Ending) : Prop :=
  (∃ cause, ∃ token ∈ tokens, error = .atToken cause text token) ∨ ∃ cause,
    error = .atEnding cause text ending

theorem isAbout_of_readArguments {error : SyntaxError}
    (h : readArguments text ending tokens = .error error) : error.IsAbout text tokens ending := by
  have hreports :
      Reports (fun _ => True) (·.IsAbout text tokens ending) (readArguments text ending tokens) :=
    reports_readArguments (fun cause => .inr ⟨cause, rfl⟩) fun cause token hmem =>
      .inl ⟨cause, token, hmem, rfl⟩
  rw [h] at hreports
  exact hreports.of_error

/-- A list of tokens is read exactly if it belongs to the grammar, as the arguments that
the grammar gives it. Of every other list a fault is reported, which is about one of the
tokens or about what ends them. -/
theorem readArguments_accepts_grammar (text : List Char) (tokens : List Token) (ending : Ending) :
    (∀ arguments, readArguments text ending tokens = .ok arguments ↔
      AreArguments text tokens arguments) ∧ ((¬∃ arguments, AreArguments text tokens arguments) ↔
        ∃ error, readArguments text ending tokens = .error error ∧
          error.IsAbout text tokens ending) := by
  have haccepts (arguments : List Argument) :
      readArguments text ending tokens = .ok arguments ↔ AreArguments text tokens arguments :=
    ⟨areArguments_of_readArguments ending, fun h => h.readArguments_eq ending⟩
  refine ⟨haccepts, fun hnone => ?_, ?_⟩
  · cases hread : readArguments text ending tokens with
    | ok arguments => exact absurd ⟨arguments, (haccepts arguments).1 hread⟩ hnone
    | error error => exact ⟨error, rfl, isAbout_of_readArguments ending hread⟩
  · rintro ⟨error, hread, -⟩ ⟨arguments, harguments⟩
    rw [(haccepts arguments).2 harguments] at hread
    cases hread

end Lists

end SchemaViews.Directive
