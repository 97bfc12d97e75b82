import SchemaViews.Proofs.Directive.Advance

/-!
# Tokens and the text between them

The tokens of an argument list cover its text from left to right. What lies between them
is white space, and each says what its span holds, so the text can be told from its
tokens up to the white space.
-/

namespace SchemaViews.Directive

open SchemaViews.Text

/-- The span of a token holds the token as it is written. -/
def Token.IsSpelled (token : Token) (text : List Char) : Prop :=
  match token.kind with
  | .string =>
      ∃ content, slice text token.start token.stop = '"' :: content ++ ['"'] ∧
        Escapes content token.value.toList
  | .quotedList =>
    slice text token.start token.stop = '\'' :: token.value.toList ++ ['\''] ∧
      '\'' ∉ token.value.toList
  | .word =>
    slice text token.start token.stop = token.value.toList ∧ ∀ c ∈ token.value.toList,
      isDelimiter false c = false
  | kind =>
      slice text token.start token.stop = token.value.toList ∧ ∃ c, token.value.toList = [c] ∧
        punctuation? c = some kind

/-- From `start` up to `stop` stand only spaces, tabs and line ends. -/
def IsSpaced (text : List Char) (start stop : Nat) : Prop :=
  start ≤ stop ∧ ∀ place, start ≤ place → place < stop → ∃ c, text[place]? = some c ∧
    isSpacing c = true

/-- From `start` up to `stop` stand the tokens, one after the other, and white space. -/
inductive Tiles (text : List Char) : Nat → List Token → Nat → Prop
  | nil {start stop : Nat} (gap : IsSpaced text start stop) : Tiles text start [] stop
  | cons {start stop : Nat} {token : Token} {later : List Token}
      (gap : IsSpaced text start token.start) (span : token.start < token.stop)
      (spelled : token.IsSpelled text) (tiles : Tiles text token.stop later stop) :
      Tiles text start (token :: later) stop

variable {text rest : List Char} {position start stop : Nat} {tokens : List Token} {c : Char}

theorem isSpaced_refl (text : List Char) (start : Nat) : IsSpaced text start start :=
  ⟨Nat.le_refl start, fun _ hle hlt => absurd hlt (Nat.not_lt.2 hle)⟩

theorem Advances.getElem?_eq (h : Advances 0 text position (c :: rest)) :
    text[position]? = some c := by
  rw [← List.head?_drop, h.drop_eq]
  rfl

theorem IsSpaced.cons (hc : text[position]? = some c) (hspacing : isSpacing c = true)
    (h : IsSpaced text (position + 1) stop) : IsSpaced text position stop := by
  refine ⟨Nat.le_of_succ_le h.1, fun place hle hlt => ?_⟩
  rcases Nat.eq_or_lt_of_le hle with rfl | hlater
  · exact ⟨c, hc, hspacing⟩
  · exact h.2 place hlater hlt

theorem Tiles.spacing (hc : text[position]? = some c) (hspacing : isSpacing c = true)
    (h : Tiles text (position + 1) tokens stop) : Tiles text position tokens stop := by
  cases h with
  | nil gap => exact .nil (gap.cons hc hspacing)
  | cons gap span spelled tiles => exact .cons (gap.cons hc hspacing) span spelled tiles

theorem Tiles.start_le (h : Tiles text start tokens stop) : start ≤ stop := by
  induction h with
  | nil gap => exact gap.1
  | cons gap span _ _ ih => exact Nat.le_trans gap.1 (Nat.le_trans (Nat.le_of_lt span) ih)

theorem Tiles.bounds (h : Tiles text start tokens stop) :
    ∀ token ∈ tokens, start ≤ token.start ∧ token.start < token.stop ∧ token.stop ≤ stop := by
  induction h with
  | nil => exact List.forall_mem_nil _
  | cons gap span _ tiles ih =>
      refine List.forall_mem_cons.2 ⟨⟨gap.1, span, tiles.start_le⟩, fun token hmem => ?_⟩
      obtain ⟨hstart, hspan, hstop⟩ := ih token hmem
      exact ⟨Nat.le_trans gap.1 (Nat.le_trans (Nat.le_of_lt span) hstart), hspan, hstop⟩

theorem Tiles.pairwise (h : Tiles text start tokens stop) :
    tokens.Pairwise fun first second => first.stop ≤ second.start := by
  induction h with
  | nil => exact .nil
  | cons _ _ _ tiles ih => exact .cons (fun token hmem => (tiles.bounds token hmem).1) ih

theorem Tiles.isSpelled (h : Tiles text start tokens stop) :
    ∀ token ∈ tokens, token.IsSpelled text := by
  induction h with
  | nil => exact List.forall_mem_nil _
  | cons _ _ spelled _ ih => exact List.forall_mem_cons.2 ⟨spelled, ih⟩

theorem Tiles.carries (h : Tiles text start tokens stop) : Carries text tokens := by
  intro token hmem hkind
  have hspelled := h.isSpelled token hmem
  rw [Token.IsSpelled] at hspelled
  simp only [hkind] at hspelled
  exact hspelled.1

theorem IsToken.isSpelled {inParens : Bool} {nesting left : Nat} {source value : List Char}
    {kind : TokenKind} (h : IsToken inParens nesting rest source kind value left)
    (hplace : Advances 0 text position (source ++ rest)) :
    Token.IsSpelled ⟨kind, String.ofList value, position, position + source.length⟩ text := by
  have hslice := hplace.slice_eq
  cases h with
  | @string content _ escapes =>
      refine ⟨content, hslice, ?_⟩
      rw [String.toList_ofList]
      exact escapes
  | quotedList plain =>
      simp only [Token.IsSpelled, String.toList_ofList]
      exact ⟨hslice, plain⟩
  | @punctuation c _ mark =>
      have hpunctuation : slice text position (position + 1) = (String.ofList [c]).toList ∧
          ∃ d, (String.ofList [c]).toList = [d] ∧ punctuation? d = some kind := by
        rw [String.toList_ofList]
        exact ⟨hslice, c, rfl, mark⟩
      cases kind with
      | word | string | quotedList => exact absurd mark (by unfold punctuation?; grind)
      | openBracket | closeBracket | comma | colon => exact hpunctuation
  | @word c run _ plain opened ends =>
      have hrun : ∀ d ∈ run, isDelimiter false d = false := by
        have hword : ∀ d ∈ (scanWord inParens (nestAfter nesting c) (run ++ rest)).1,
            isDelimiter false d = false :=
          not_isDelimiter_of_mem_scanWord
        rwa [ends] at hword
      simp only [Token.IsSpelled, String.toList_ofList]
      exact ⟨hslice, List.forall_mem_cons.2 ⟨plain, hrun⟩⟩

/-- What a scan finds covers the text from its position up to the ending. -/
theorem tiles_scanFrom {full : List Char} {unclosed : Option SyntaxError} {nesting : Nat}
    {scan : Scan} (hplace : Advances 0 full position text)
    (h : scanFrom unclosed nesting position text = .ok scan) :
    Tiles full position scan.tokens scan.ending.start ∧ scan.ending.start ≤ full.length := by
  generalize hresult : Except.ok scan = result at h
  replace h := scansTo_of_scanFrom h
  have hend := hplace.length_add
  induction h generalizing scan with
  | missing | unterminated => cases hresult
  | exhausted | closed =>
      cases hresult
      refine ⟨.nil (isSpaced_refl full _), ?_⟩
      simp only
      omega
  | spacing hspacing _ ih =>
      have hafter := hplace.trans (advances_cons _ _ _)
      obtain ⟨htiles, hlength⟩ := ih hafter hresult hafter.length_add
      exact ⟨htiles.spacing hplace.getElem?_eq hspacing, hlength⟩
  | @token nesting position _ source _ _ _ _ htoken _ ih =>
      obtain ⟨inner, rfl, rfl⟩ := map_eq_ok_iff.1 hresult.symm
      have hafter := hplace.trans (advances_append position source _)
      obtain ⟨htiles, hlength⟩ := ih hafter rfl hafter.length_add
      have hspan : position < position + source.length := Nat.lt_add_of_pos_right htoken.length_pos
      exact ⟨.cons (isSpaced_refl full position) hspan (htoken.isSpelled hplace) htiles, hlength⟩

theorem carries_scanFrom {full : List Char} {unclosed : Option SyntaxError} {nesting : Nat}
    {scan : Scan} (hplace : Advances 0 full position text)
    (h : scanFrom unclosed nesting position text = .ok scan) : Carries full scan.tokens :=
  (tiles_scanFrom hplace h).1.carries

theorem within_scanFrom {full : List Char} {unclosed : Option SyntaxError} {nesting : Nat}
    {scan : Scan} (hplace : Advances 0 full position text)
    (h : scanFrom unclosed nesting position text = .ok scan) : Within full.length scan.tokens := by
  obtain ⟨htiles, hlength⟩ := tiles_scanFrom hplace h
  intro token hmem
  obtain ⟨-, -, hstop⟩ := htiles.bounds token hmem
  exact Nat.le_trans hstop hlength

end SchemaViews.Directive
