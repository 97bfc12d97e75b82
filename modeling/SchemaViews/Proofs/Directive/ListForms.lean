import Mathlib.Data.Bool.AllAny
import SchemaViews.Proofs.Directive.Grammar
import SchemaViews.Proofs.Directive.ReadBack

/-!
# The two forms of a list

A list can be written in brackets, where its words are tokens and its items runs of them, or in
single quotes, where its text is cut at the commas and trimmed. Both forms of the same text give the
same items, whatever blanks, commas and parentheses it has.
-/

namespace SchemaViews

namespace Text

theorem stripEnd_append (first second : List Char) :
    stripEnd (first ++ second) =
      if stripEnd second = [] then stripEnd first else first ++ stripEnd second := by
  simp only [stripEnd, List.reverse_append, List.dropWhile_append, List.isEmpty_iff,
    List.reverse_eq_nil_iff]
  split
  · rfl
  · rw [List.reverse_append, List.reverse_reverse]

theorem stripEnd_singleton (c : Char) : stripEnd [c] = if isBlank c then [] else [c] := by
  by_cases hc : isBlank c = true <;> simp [stripEnd, hc]

theorem stripEnd_prefix (text : List Char) : stripEnd text <+: text := by
  rw [← List.reverse_suffix, stripEnd, List.reverse_reverse]
  exact List.dropWhile_suffix isBlank

theorem strip_cons_of_blank {c : Char} (hc : isBlank c = true) (text : List Char) :
    strip (c :: text) = strip text := by
  rw [strip, stripStart, List.dropWhile_cons_of_pos hc]
  rfl

theorem strip_cons_of_not_blank {c : Char} (hc : isBlank c = false) (text : List Char) :
    strip (c :: text) = stripEnd (c :: text) := by
  rw [strip, stripStart, List.dropWhile_cons_of_neg (by simp [hc])]

theorem stripEnd_eq_self {text : List Char} (h : ∀ c ∈ text, isBlank c = false) :
    stripEnd text = text := by
  induction text with
  | nil => rfl
  | cons c text ih =>
      obtain ⟨hc, htext⟩ := List.forall_mem_cons.1 h
      rw [← List.singleton_append, stripEnd_append, ih htext, stripEnd_singleton, hc]
      cases text <;> rfl

theorem splitOn_eq (separator : Char) (text : List Char) :
    splitOn separator text = text.splitOn separator := by
  induction text with
  | nil => rfl
  | cons c text ih =>
      obtain ⟨piece, pieces, hpieces⟩ :=
        List.exists_cons_of_ne_nil (List.splitOn_ne_nil separator text)
      rw [List.splitOn_cons_eq_if_modifyHead, splitOn, ih, hpieces]
      rfl

theorem splitOn_append_cons (separator : Char) (first second : List Char) :
    splitOn separator (first ++ separator :: second) = splitOn separator first ++
      splitOn separator second := by
  simp only [splitOn_eq, List.splitOn_append_cons_self]

theorem splitNames_append_comma (first second : List Char) :
    splitNames (first ++ ',' :: second) = splitNames first ++ splitNames second := by
  simp only [splitNames, splitOn_append_cons, List.map_append, List.filter_append]

theorem splitNames_of_notMem {piece : List Char} (h : ',' ∉ piece) :
    splitNames piece = if strip piece = [] then [] else [String.ofList (strip piece)] := by
  rw [splitNames, splitOn_eq, List.splitOn_eq_singleton h]
  cases hstrip : strip piece <;> simp [hstrip]

end Text

namespace Directive

open SchemaViews.Text

/-- A word outside parentheses. -/
structure BareWord where
  chars : List Char
  ne_nil : chars ≠ []
  plain : ∀ c ∈ chars, isDelimiter false c = false

/-- What may stand in a list of either form: no brackets, colons and quotes, and no blank
that does not separate words. -/
structure ListText where
  chars : List Char
  plain : ∀ c ∈ chars, c ∉ ['[', ']', ':', '\'', '"'] ∧ (isBlank c = true → isSpacing c = true)

def BareWord.token (word : BareWord) (position : Nat) : Token :=
  ⟨.word, String.ofList word.chars, position, position + word.chars.length⟩

/-- Words stand in a piece of text at a position, with nothing but blanks between them. -/
inductive Stand : Nat → List Char → List Token → Prop where
  | nil (position : Nat) : Stand position [] []
  | blank {position : Nat} {c : Char} {piece : List Char} {words : List Token}
      (hc : isBlank c = true) (h : Stand (position + 1) piece words) :
      Stand position (c :: piece) words
  | word {position : Nat} {piece : List Char} {words : List Token} (word : BareWord)
      (hplain : ∀ c ∈ word.chars, isBlank c = false)
      (h : Stand (position + word.chars.length) piece words) :
      Stand position (word.chars ++ piece) (word.token position :: words)

namespace Stand

variable {position : Nat} {piece : List Char} {words : List Token}

theorem kind_eq (h : Stand position piece words) : ∀ token ∈ words, token.kind = .word := by
  induction h with
  | nil => simp
  | blank _ _ ih => exact ih
  | word word _ _ ih => exact List.forall_mem_cons.2 ⟨rfl, ih⟩

theorem stop_eq (h : Stand position piece words) :
    words = [] ∧ stripEnd piece = [] ∨
      words ≠ [] ∧ stripEnd piece ≠ [] ∧ stopOf words = position + (stripEnd piece).length := by
  induction h with
  | nil => exact .inl ⟨rfl, rfl⟩
  | @blank position c piece words hc _ ih =>
      rw [← List.singleton_append, stripEnd_append, stripEnd_singleton, if_pos hc]
      rcases ih with ⟨hwords, hpiece⟩ | ⟨hwords, hpiece, hstop⟩
      · exact .inl ⟨hwords, if_pos hpiece⟩
      · rw [if_neg hpiece]
        refine .inr ⟨hwords, List.cons_ne_nil _ _, ?_⟩
        rw [hstop, List.singleton_append, List.length_cons]
        omega
  | @word position piece words word hplain _ ih =>
      rw [stripEnd_append, stripEnd_eq_self hplain]
      refine .inr ⟨List.cons_ne_nil _ _, ?_, ?_⟩
      · split
        · exact word.ne_nil
        · exact List.append_ne_nil_of_left_ne_nil word.ne_nil _
      · rcases ih with ⟨rfl, hpiece⟩ | ⟨hwords, hpiece, hstop⟩
        · rw [if_pos hpiece]
          rfl
        · obtain ⟨next, more, rfl⟩ := List.exists_cons_of_ne_nil hwords
          have hlast : stopOf (word.token position :: next :: more) = stopOf (next :: more) := by
            rw [stopOf, stopOf, List.getLast?_cons_cons]
          rw [if_neg hpiece, hlast, hstop, List.length_append, Nat.add_assoc]

theorem sourceOf_eq (h : Stand position piece words) {text rest : List Char}
    (hplace : Advances 0 text position (piece ++ rest)) :
    sourceOf text words = String.ofList (strip piece) ∧ (words = [] ↔ strip piece = []) := by
  induction h with
  | nil => exact ⟨rfl, by simp [strip, stripEnd, stripStart]⟩
  | blank hc _ ih =>
      rw [strip_cons_of_blank hc]
      exact ih (hplace.trans (advances_cons _ _ _))
  | @word position piece words word hplain h _ =>
      have hstrip : strip (word.chars ++ piece) = stripEnd (word.chars ++ piece) := by
        obtain ⟨c, chars, hchars⟩ := List.exists_cons_of_ne_nil word.ne_nil
        rw [hchars] at hplain
        rw [hchars, List.cons_append, strip_cons_of_not_blank (hplain c List.mem_cons_self)]
      obtain ⟨hwords, -⟩ | ⟨-, hne, hstop⟩ := (Stand.word word hplain h).stop_eq
      · cases hwords
      · obtain ⟨blanks, hblanks⟩ := stripEnd_prefix (word.chars ++ piece)
        rw [← hblanks, List.append_assoc] at hplace
        rw [hstrip, sourceOf, hstop]
        refine ⟨congrArg String.ofList hplace.slice_eq, ?_⟩
        simp [hne]

end Stand

abbrev ScansOutside (piece rest : List Char) (good : Nat → List Token → Prop) : Prop :=
  Scans none (fun _ => True) piece rest good

def StopsWord (text : List Char) : Prop :=
  ∀ c ∈ text.head?, isDelimiter false c = true

theorem stopsWord_cons {c : Char} (h : isDelimiter false c = true) (rest : List Char) :
    StopsWord (c :: rest) := by
  rintro d ⟨⟩
  exact h

section Scans

variable {piece rest : List Char}

theorem scanWord_run {run tail : List Char} (hrun : ∀ c ∈ run, isDelimiter false c = false)
    (htail : StopsWord tail)
    (nesting : Nat) : ∃ left, scanWord false nesting (run ++ tail) = (run, left, tail) := by
  induction run generalizing nesting with
  | nil =>
      refine ⟨nesting, ?_⟩
      cases tail with
      | nil => rfl
      | cons c tail =>
          have hc : isDelimiter false c = true := htail c rfl
          have hparen : c ≠ ')' := by
            rintro rfl
            exact absurd hc (by decide)
          rw [List.nil_append, scanWord_cons, if_pos (by simp [hc, hparen])]
  | cons c run ih =>
      obtain ⟨hc, hrest⟩ := List.forall_mem_cons.1 hrun
      obtain ⟨left, hscan⟩ := ih hrest (nestAfter nesting c)
      refine ⟨left, ?_⟩
      rw [List.cons_append, scanWord_cons, if_neg (by simp [hc]), hscan]

theorem scans_bareWord (word : BareWord) (hrest : StopsWord rest) :
    ScansOutside word.chars rest fun position tokens => tokens = [word.token position] := by
  obtain ⟨chars, hne, hplain⟩ := word
  obtain ⟨c, run, rfl⟩ := List.exists_cons_of_ne_nil hne
  obtain ⟨hc, hrun⟩ := List.forall_mem_cons.1 hplain
  refine scans_word hc (.inl rfl) fun nesting _ => ?_
  obtain ⟨left, hscan⟩ := scanWord_run hrun hrest (nestAfter nesting c)
  exact ⟨left, trivial, hscan⟩

/-- A character either separates words and is trimmed, or belongs to a word and is not. -/
def SeparatesOrJoins (c : Char) : Prop :=
  isSpacing c = true ∧ isBlank c = true ∨ isDelimiter false c = false ∧ isBlank c = false

theorem separatesOrJoins {c : Char}
    (hc : c ∉ ['[', ']', ':', '\'', '"'] ∧ (isBlank c = true → isSpacing c = true))
    (hcomma : c ≠ ',') : SeparatesOrJoins c := by
  obtain ⟨hmark, hblank⟩ := hc
  by_cases hspacing : isSpacing c = true
  · refine .inl ⟨hspacing, ?_⟩
    simp only [isSpacing, Bool.or_eq_true, beq_iff_eq] at hspacing
    rcases hspacing with ((rfl | rfl) | rfl) | rfl <;> rfl
  · refine .inr ⟨?_, Bool.eq_false_iff.2 fun h => hspacing (hblank h)⟩
    simp only [List.mem_cons, List.not_mem_nil, or_false, not_or] at hmark
    obtain ⟨hopen, hclose, hcolon, hsingle, hdouble⟩ := hmark
    simp [isDelimiter, punctuation?, hspacing, hopen, hclose, hcolon, hcomma, hsingle, hdouble]

theorem exists_bareWord {c : Char} (hc : isDelimiter false c = false) (text : List Char) :
    ∃ (word : BareWord) (tail : List Char), c :: text = word.chars ++ tail ∧ StopsWord tail := by
  refine ⟨⟨(c :: text).takeWhile fun d => !isDelimiter false d, ?_, fun d hmem => ?_⟩,
    (c :: text).dropWhile fun d => !isDelimiter false d, ?_, fun d hmem => ?_⟩
  · rw [List.takeWhile_cons, hc]
    exact List.cons_ne_nil _ _
  · have hd := List.mem_takeWhile_imp hmem
    simpa using hd
  · simp only [List.takeWhile_append_dropWhile]
  · have hstop := List.head?_dropWhile_not (fun d => !isDelimiter false d) (c :: text)
    rw [Option.mem_def.1 hmem] at hstop
    simpa using hstop

theorem scans_piece (hpiece : ∀ c ∈ piece, SeparatesOrJoins c) (hrest : StopsWord rest) :
    ScansOutside piece rest fun position words => Stand position piece words := by
  induction hlength : piece.length using Nat.strongRecOn generalizing piece with
  | ind length ih =>
      cases piece with
      | nil =>
          refine (Scans.nil rest).weaken ?_
          rintro position tokens rfl
          exact .nil position
      | cons c piece =>
          obtain ⟨hc, hmore⟩ := List.forall_mem_cons.1 hpiece
          rw [List.length_cons] at hlength
          -- blanks are scanned one by one, a word at once
          rcases hc with ⟨hspacing, hblank⟩ | ⟨hjoins, hnot⟩
          · refine ((scans_blank hspacing _).append (ih _ (by omega) hmore rfl)).weaken ?_
            rintro position tokens ⟨_, words, rfl, rfl, hwords⟩
            exact .blank hblank hwords
          · obtain ⟨word, tail, hsplit, htail⟩ := exists_bareWord hjoins piece
            have hchars : 0 < word.chars.length := List.length_pos_iff.2 word.ne_nil
            have hlengths := congrArg List.length hsplit
            rw [List.length_cons, List.length_append] at hlengths
            rw [hsplit] at hpiece ⊢
            obtain ⟨hword, hlater⟩ := List.forall_mem_append.1 hpiece
            have hplain : ∀ d ∈ word.chars, isBlank d = false := by
              intro d hmem
              rcases hword d hmem with ⟨hspacing, -⟩ | ⟨-, hnot⟩
              · have hdelimiter := word.plain d hmem
                simp [isDelimiter, hspacing] at hdelimiter
              · exact hnot
            have hends : StopsWord (tail ++ rest) := by
              cases tail with
              | nil => exact hrest
              | cons d tail => exact htail
            refine ((scans_bareWord word hends).append (ih _ (by omega) hlater rfl)).weaken ?_
            rintro position tokens ⟨_, words, rfl, rfl, hwords⟩
            exact .word word hplain hwords

theorem Stand.itemsOf_eq {position : Nat} {words : List Token} {text : List Char}
    (h : Stand position piece words) (hcomma : ',' ∉ piece)
    (hplace : Advances 0 text position (piece ++ rest)) :
    itemsOf text words = splitNames piece := by
  obtain ⟨hsource, hempty⟩ := h.sourceOf_eq hplace
  rw [itemsOf_words h.kind_eq, splitNames_of_notMem hcomma, hsource]
  simp only [List.isEmpty_iff, hempty]

/-- The items of a list are scanned as words and commas, whose runs are the pieces
between the commas of the text. -/
theorem scans_content {content : List Char}
    (hcontent : ∀ c ∈ content, c ∉ ['[', ']', ':', '\'', '"'] ∧
      (isBlank c = true → isSpacing c = true)) (hrest : StopsWord rest) :
    ScansOutside content rest fun position tokens =>
      (∀ token ∈ tokens, token.kind = .word ∨ token.kind = .comma) ∧
      ∀ text, Advances 0 text position (content ++ rest) →
        itemsOf text tokens = splitNames content := by
  have hpiece {piece : List Char} (hsub : ∀ c ∈ piece, c ∈ content) (hnone : ',' ∉ piece) :
      ∀ c ∈ piece, SeparatesOrJoins c := by
    intro c hmem
    refine separatesOrJoins (hcontent c (hsub c hmem)) ?_
    rintro rfl
    exact hnone hmem
  induction hlength : content.length using Nat.strongRecOn generalizing content with
  | ind length ih =>
      by_cases hcomma : ',' ∈ content
      · -- the piece up to the first comma, the comma, and the list behind it
        obtain ⟨piece, more, rfl, hnone⟩ := List.eq_append_cons_of_mem hcomma
        rw [List.length_append, List.length_cons] at hlength
        have hmore : ∀ c ∈ more, c ∈ piece ++ ',' :: more := fun c hmem => by simp [hmem]
        have hfirst : ScansOutside piece (',' :: more ++ rest) fun position words =>
            Stand position piece words :=
          scans_piece (hpiece (fun c hmem => by simp [hmem]) hnone) (stopsWord_cons (by decide) _)
        have hlater := ih _ (by omega) (fun c hmem => hcontent c (hmore c hmem))
          (fun hsub => hpiece fun c hmem => hmore c (hsub c hmem)) rfl
        refine (hfirst.append ((scans_punctuation rfl (more ++ rest)).append hlater)).weaken ?_
        rintro position tokens ⟨words, _, rfl, hwords, _, later, rfl, rfl, hkinds, hitems⟩
        refine ⟨fun token hmem => ?_, fun text hplace => ?_⟩
        · rcases List.mem_append.1 hmem with hword | hother
          · exact .inl (hwords.kind_eq token hword)
          · rcases List.mem_cons.1 hother with rfl | hlast
            · exact .inr rfl
            · exact hkinds token hlast
        · rw [List.append_assoc] at hplace
          have hbehind :=
            (hplace.trans (advances_append position piece _)).trans
              (advances_cons _ ',' (more ++ rest))
          rw [List.singleton_append, itemsOf_append_comma rfl, hwords.itemsOf_eq hnone hplace,
            splitNames_append_comma, hitems text hbehind]
      · refine (scans_piece (hpiece (fun _ hmem => hmem) hcomma) hrest).weaken
          fun position words hwords => ?_
        exact ⟨fun token hmem => .inl (hwords.kind_eq token hmem),
          fun text hplace => hwords.itemsOf_eq hcomma hplace⟩

end Scans

section Forms

def bracketed (content : List Char) : List Char :=
  '[' :: content ++ [']']

def singleQuoted (content : List Char) : List Char :=
  '\'' :: content ++ ['\'']

/-- In front of any text a form is scanned as a list with these items, which it is the source of. -/
def Writes (form : List Char) (items : List String) : Prop :=
  ∀ rest, ScansOutside form rest fun position tokens => ∀ text,
    Advances 0 text position (form ++ rest) →
    IsList text tokens items ∧ sourceOf text tokens = String.ofList form

theorem writes_bracketed (content : ListText) :
    Writes (bracketed content.chars) (splitNames content.chars) := by
  intro rest
  have hscan := (scans_punctuation (show punctuation? '[' = some .openBracket from rfl) _).append
    ((scans_content content.plain (stopsWord_cons (by decide) rest)).append
      (scans_punctuation (show punctuation? ']' = some .closeBracket from rfl) rest))
  change ScansOutside (bracketed content.chars) rest _ at hscan
  refine hscan.weaken ?_
  rintro position tokens ⟨_, _, rfl, rfl, inner, _, rfl, ⟨hkinds, hitems⟩, rfl⟩ text hplace
  have hform : bracketed content.chars ++ rest = '[' :: (content.chars ++ ']' :: rest) := by
    simp [bracketed]
  have hinner : itemsOf text inner = splitNames content.chars :=
    hitems text ((hform ▸ hplace).trans (advances_cons position '[' _))
  refine ⟨hinner ▸ .bracketed rfl hkinds rfl, ?_⟩
  have hstop : position + (bracketed content.chars).length =
      position + 1 + content.chars.length + 1 := by
    simp only [bracketed, List.length_append, List.length_cons, List.length_nil]
    omega
  rw [List.singleton_append, sourceOf, ← List.cons_append, stopOf_concat]
  exact congrArg String.ofList (hstop ▸ hplace.slice_eq)

theorem writes_singleQuoted (content : ListText) :
    Writes (singleQuoted content.chars) (splitNames content.chars) := by
  intro rest
  have hquote : '\'' ∉ content.chars := fun hmem => (content.plain '\'' hmem).1 (by decide)
  refine (scans_quotedList hquote rest).weaken ?_
  rintro position tokens rfl text hplace
  have hitems : splitNames (String.ofList content.chars).toList = splitNames content.chars := by
    rw [String.toList_ofList]
  exact ⟨hitems ▸ .quoted rfl, congrArg String.ofList hplace.slice_eq⟩

theorem exists_readAll_eq {text : List Char} {good : Nat → List Token → Prop}
    (h : ScansOutside text [] good) :
    ∃ tokens ending, good 0 tokens ∧ readAll text = readArguments text ending tokens := by
  obtain ⟨tokens, left, -, htokens, hscan⟩ := h 0 0 trivial
  rw [List.append_nil] at hscan
  refine ⟨tokens, ⟨.endOfInput, 0 + text.length, 0 + text.length⟩, htokens, ?_⟩
  rw [readAll, tokenize_whole, hscan, scanFrom]
  simp only [Except.map, Except.bind, List.append_nil]

variable {form : List Char} {items : List String}

theorem Writes.readAll_value (h : Writes form items) (key : BareWord) :
    readAll (key.chars ++ ':' :: form) =
      .ok [⟨String.ofList key.chars, some (.list items), none, 0, some (String.ofList form)⟩] := by
  have hscan := (scans_bareWord key (stopsWord_cons (by decide) _)).append
    ((scans_punctuation (show punctuation? ':' = some .colon from rfl) _).append (h []))
  obtain ⟨_, ending, ⟨_, _, rfl, rfl, _, source, rfl, rfl, hsource⟩, hread⟩ :=
    exists_readAll_eq hscan
  have hplace : Advances 0 (key.chars ++ ':' :: form) (0 + key.chars.length + 1) (form ++ []) := by
    rw [List.append_nil]
    exact (advances_append 0 key.chars (':' :: form)).trans (advances_cons _ ':' form)
  obtain ⟨hlist, htext⟩ := hsource _ hplace
  rw [List.singleton_append] at hread
  rw [hread, ← htext]
  exact (AreArguments.last (.argument (.valued rfl rfl (.list hlist)))).readArguments_eq ending

theorem Writes.readAll_qualifier (h : Writes form items) (key : BareWord) (value : String) :
    readAll (key.chars ++ ':' :: ((Literal.text value).printed ++ ':' :: form)) =
      .ok [⟨String.ofList key.chars, some (.text value), some items, 0,
        some (String.ofList (Literal.text value).printed)⟩] := by
  have hcolon : punctuation? ':' = some .colon := rfl
  have hstring : ScansOutside (Literal.text value).printed (':' :: form ++ []) _ :=
    scans_string value _
  have hscan := (scans_bareWord key (stopsWord_cons (by decide) _)).append
    ((scans_punctuation hcolon _).append
      (hstring.append ((scans_punctuation hcolon _).append (h []))))
  obtain ⟨_, ending, ⟨_, _, rfl, rfl, _, _, rfl, rfl, _, _, rfl, rfl, _, names, rfl, rfl, hnames⟩,
      hread⟩ :=
    exists_readAll_eq hscan
  have hvalue : Advances 0 (key.chars ++ ':' :: ((Literal.text value).printed ++ ':' :: form))
      (0 + key.chars.length + 1) ((Literal.text value).printed ++ ':' :: form) :=
    (advances_append 0 key.chars _).trans (advances_cons _ ':' _)
  have hnamesPlace := (hvalue.trans (advances_append _ (Literal.text value).printed _)).trans
    (advances_cons _ ':' form)
  have hsource :
      String.ofList (slice (key.chars ++ ':' :: ((Literal.text value).printed ++ ':' :: form))
      (0 + key.chars.length + 1) (0 + key.chars.length + 1 + (Literal.text value).printed.length)) =
        String.ofList (Literal.text value).printed :=
    congrArg String.ofList hvalue.slice_eq
  obtain ⟨hlist, -⟩ := hnames _ (by rw [List.append_nil]; exact hnamesPlace)
  simp only [List.singleton_append] at hread
  rw [hread, ← hsource]
  exact (AreArguments.last
    (.argument (.qualified rfl rfl (.string rfl) rfl hlist))).readArguments_eq ending

theorem undelimited_bracketed (content : List Char) :
    undelimited (bracketed content) = strip content := by
  have hlast : (bracketed content).getLast? = some ']' := List.getLast?_concat
  rw [undelimited, hlast]
  simp [bracketed]

theorem undelimited_singleQuoted (content : List Char) :
    undelimited (singleQuoted content) = strip content := by
  have hlast : (singleQuoted content).getLast? = some '\'' := List.getLast?_concat
  rw [undelimited, hlast]
  simp [singleQuoted]

/-- The two forms of a list are read as the value of an argument with the same items and the same
text, and as the qualifier of the same argument. -/
theorem listForms_agree (key : BareWord) (content : ListText) (value : String) :
    (∃ inBrackets inQuotes : Argument,
      readAll (key.chars ++ ':' :: bracketed content.chars) = .ok [inBrackets] ∧
      readAll (key.chars ++ ':' :: singleQuoted content.chars) = .ok [inQuotes] ∧
      inBrackets.key = String.ofList key.chars ∧ inQuotes.key = inBrackets.key ∧
      inBrackets.value = some (.list (splitNames content.chars)) ∧
      inQuotes.value = inBrackets.value ∧
      inBrackets.items = splitNames content.chars ∧ inQuotes.items = inBrackets.items ∧
      inBrackets.text? = some (String.ofList (strip content.chars)) ∧
      inQuotes.text? = inBrackets.text?) ∧ ∃ argument : Argument,
      readAll (key.chars ++ ':' ::
        ((Literal.text value).printed ++ ':' :: bracketed content.chars)) = .ok [argument] ∧
      readAll (key.chars ++ ':' ::
        ((Literal.text value).printed ++ ':' :: singleQuoted content.chars)) = .ok [argument] ∧
      argument.key = String.ofList key.chars ∧ argument.value = some (.text value) ∧
      argument.qualifier = some (splitNames content.chars) := by
  have hbracketed := writes_bracketed content
  have hquoted := writes_singleQuoted content
  refine ⟨⟨_, _, hbracketed.readAll_value key, hquoted.readAll_value key, rfl, rfl, rfl, rfl, rfl,
    rfl, ?_, ?_⟩,
    _, hbracketed.readAll_qualifier key value, hquoted.readAll_qualifier key value, rfl, rfl, rfl⟩
  · simp only [Argument.text?, Option.getD_some, String.toList_ofList, undelimited_bracketed]
  · simp only [Argument.text?, Option.getD_some, String.toList_ofList, undelimited_bracketed,
      undelimited_singleQuoted]

theorem listForms_agree_views :
    (∃ inBrackets inQuotes : Argument, readAll "name:[A, B]".toList = .ok [inBrackets] ∧
      readAll "name:'A, B'".toList = .ok [inQuotes] ∧
      inBrackets.items = ["A", "B"] ∧ inQuotes.items = ["A", "B"] ∧
      inBrackets.text? = some "A, B" ∧ inQuotes.text? = some "A, B") ∧
    ∃ argument : Argument, readAll "name:\"all\":[A, B]".toList = .ok [argument] ∧
      readAll "name:\"all\":'A, B'".toList = .ok [argument] ∧
      argument.value = some (.text "all") ∧ argument.qualifier = some ["A", "B"] := by
  have hlist : splitNames "A, B".toList = ["A", "B"] := by decide
  have hstrip : strip "A, B".toList = "A, B".toList := by decide
  obtain ⟨⟨inBrackets, inQuotes, hbrackets, hquotes, -, -, -, -, hitems, hsame, htext, hsameText⟩,
    argument, hvalued, hvalued', -, hvalue, hqualifier⟩ :=
    listForms_agree ⟨"name".toList, by decide, List.all_iff_forall_prop.1 (by decide)⟩
      ⟨"A, B".toList, List.all_iff_forall_prop.1 (by decide)⟩ "all"
  rw [hlist] at hitems hqualifier
  rw [hstrip, String.ofList_toList] at htext
  exact ⟨⟨inBrackets, inQuotes, hbrackets, hquotes, hitems, hsame.trans hitems, htext,
    hsameText.trans htext⟩, argument, hvalued, hvalued', hvalue, hqualifier⟩

end Forms

end Directive

end SchemaViews
