import Mathlib.Data.List.DropRight
import Mathlib.Data.List.Infix
import SchemaViews.Proofs.GoSource.Steps

/-!
# Comment lines

Which lines of a text are comments, said without reading the text line by line: a line comment,
or a line that a block comment reaches. The extraction keeps for every line the comment lines
right above it, and nothing else.
-/

namespace SchemaViews

namespace Text

theorem hasPart_iff {part text : List Char} : hasPart part text = true ↔ part <:+: text := by
  induction text with
  | nil => rw [hasPart, List.isEmpty_iff, List.infix_nil]
  | cons c text ih =>
      rw [hasPart, Bool.or_eq_true, ih, List.isPrefixOf_iff_prefix, List.infix_cons_iff]

end Text

namespace GoSource

open SchemaViews.Text

/-- A line of a text without the blanks around it; behind the last line there is nothing. -/
def lineAt (lines : List (List Char)) (place : Nat) : List Char :=
  strip (lines.getD place [])

/-- A block comment that a line starts reaches a place: none of the lines from
that one on holds its end. -/
def Reaches (lines : List (List Char)) (start place : Nat) : Prop :=
  ['/', '*'] <+: lineAt lines start ∧ ∀ between < place, start ≤ between →
    ¬['*', '/'] <:+: lineAt lines between

/-- A line of a comment, with the first and the last line of a block comment. -/
def IsCommentLine (lines : List (List Char)) (place : Nat) : Prop :=
  ['/', '/'] <+: lineAt lines place ∨ ∃ start, start ≤ place ∧ Reaches lines start place

instance (lines : List (List Char)) (start place : Nat) : Decidable (Reaches lines start place) :=
  inferInstanceAs (Decidable (_ ∧ _))

instance (lines : List (List Char)) (place : Nat) : Decidable (IsCommentLine lines place) :=
  inferInstanceAs (Decidable (_ ∨ ∃ start, start ≤ place ∧ Reaches lines start place))

/-- The longest run of comment lines that ends right above a place. -/
def runAbove (lines : List (List Char)) (place : Nat) : List Nat :=
  (List.range place).rtakeWhile fun above => decide (IsCommentLine lines above)

/-- The comment lines right above a place, without the blanks around them. -/
def commentsAbove (lines : List (List Char)) (place : Nat) : List String :=
  (runAbove lines place).map fun above => String.ofList (lineAt lines above)

variable {lines : List (List Char)} {place : Nat}

theorem runAbove_succ_of_comment (h : IsCommentLine lines place) :
    runAbove lines (place + 1) = runAbove lines place ++ [place] := by
  rw [runAbove, List.range_succ]
  exact List.rtakeWhile_concat_pos _ _ place (decide_eq_true h)

theorem runAbove_succ_of_code (h : ¬IsCommentLine lines place) :
    runAbove lines (place + 1) = [] := by
  rw [runAbove, List.range_succ]
  exact List.rtakeWhile_concat_neg _ _ place (by simpa using h)

/-- A line belongs to the run above a place if all lines from it up to there are comments. -/
theorem mem_runAbove_iff {comment : Nat} :
    comment ∈ runAbove lines place ↔ comment < place ∧ ∀ above < place, comment ≤ above →
    IsCommentLine lines above := by
  induction place with
  | zero => exact iff_of_false List.not_mem_nil fun h => absurd h.1 (Nat.not_lt_zero comment)
  | succ place ih =>
      by_cases hcomment : IsCommentLine lines place
      · rw [runAbove_succ_of_comment hcomment, List.mem_append, ih, List.mem_singleton]
        constructor
        · rintro (⟨hlt, habove⟩ | rfl)
          · refine ⟨Nat.lt_succ_of_lt hlt, fun above hle hfrom => ?_⟩
            rcases Nat.lt_succ_iff_lt_or_eq.1 hle with hbefore | rfl
            · exact habove above hbefore hfrom
            · exact hcomment
          · refine ⟨Nat.lt_succ_self comment, fun above hle hfrom => ?_⟩
            rwa [Nat.le_antisymm (Nat.le_of_lt_succ hle) hfrom]
        · rintro ⟨hlt, habove⟩
          rcases Nat.lt_succ_iff_lt_or_eq.1 hlt with hbefore | rfl
          · exact .inl ⟨hbefore, fun above hle => habove above (Nat.lt_succ_of_lt hle)⟩
          · exact .inr rfl
      · rw [runAbove_succ_of_code hcomment]
        refine iff_of_false List.not_mem_nil fun h => hcomment ?_
        exact h.2 place (Nat.lt_succ_self place) (Nat.le_of_lt_succ h.1)

/-- A comment line stands in the run above one line of code only. -/
theorem eq_of_mem_runAbove {comment other : Nat} (hcode : ¬IsCommentLine lines place)
    (hother : ¬IsCommentLine lines other) (hmem : comment ∈ runAbove lines place)
    (hmem' : comment ∈ runAbove lines other) :
    place = other := by
  obtain ⟨hlt, habove⟩ := mem_runAbove_iff.1 hmem
  obtain ⟨hlt', habove'⟩ := mem_runAbove_iff.1 hmem'
  rcases Nat.lt_trichotomy place other with hbefore | heq | hbehind
  · exact absurd (habove' place hbefore hlt.le) hcode
  · exact heq
  · exact absurd (habove other hbehind hlt'.le) hother

/-! ### The comments that are kept -/

theorem reaches_succ_iff {start : Nat} (hstart : start ≤ place) :
    Reaches lines start (place + 1) ↔ Reaches lines start place ∧
    ¬['*', '/'] <:+: lineAt lines place := by
  constructor
  · rintro ⟨hopens, hinside⟩
    exact ⟨⟨hopens, fun between hlt => hinside between (Nat.lt_succ_of_lt hlt)⟩,
      hinside place (Nat.lt_succ_self place) hstart⟩
  · rintro ⟨⟨hopens, hinside⟩, hlast⟩
    refine ⟨hopens, fun between hlt hfrom => ?_⟩
    rcases Nat.lt_succ_iff_lt_or_eq.1 hlt with hbefore | rfl
    · exact hinside between hbefore hfrom
    · exact hlast

/-- What the extraction knows about comments in front of a place. -/
structure Tracks (lines : List (List Char)) (place : Nat) (state : State) : Prop where
  inComment : state.inComment = true ↔ ∃ start < place, Reaches lines start place
  comments : state.comments = commentsAbove lines place

variable {state : State} {raw : List Char}

theorem strip_eq_lineAt (hraw : lines[place]? = some raw) : strip raw = lineAt lines place := by
  rw [lineAt, List.getD_eq_getElem?_getD, hraw, Option.getD_some]

theorem reaches_self_iff : Reaches lines place place ↔ ['/', '*'] <+: lineAt lines place := by
  refine and_iff_left fun between hlt hfrom => ?_
  omega

theorem Tracks.opens_iff (h : Tracks lines place state) :
    state.inComment = true ∨ ['/', '*'] <+: lineAt lines place ↔ ∃ start,
      start ≤ place ∧ Reaches lines start place := by
  rw [h.inComment]
  constructor
  · rintro (⟨start, hlt, hreaches⟩ | hopens)
    · exact ⟨start, hlt.le, hreaches⟩
    · exact ⟨place, Nat.le_refl place, reaches_self_iff.2 hopens⟩
  · rintro ⟨start, hle, hreaches⟩
    rcases Nat.lt_or_eq_of_le hle with hlt | rfl
    · exact .inl ⟨start, hlt, hreaches⟩
    · exact .inr (reaches_self_iff.1 hreaches)

theorem Tracks.isComment_iff (h : Tracks lines place state) (hraw : lines[place]? = some raw) :
    state.IsComment raw ↔ IsCommentLine lines place := by
  rw [State.IsComment, IsCommentLine, ← or_assoc, strip_eq_lineAt hraw, h.opens_iff, or_comm]

theorem Tracks.line (h : Tracks lines place state) (hraw : lines[place]? = some raw)
    (source : Option String) : Tracks lines (place + 1) (state.line source raw) := by
  by_cases hcomment : IsCommentLine lines place
  · rw [State.line_of_isComment ((h.isComment_iff hraw).2 hcomment), strip_eq_lineAt hraw]
    constructor
    · rw [Bool.and_eq_true, Bool.or_eq_true, List.isPrefixOf_iff_prefix, h.opens_iff,
        Bool.not_eq_true', ← Bool.not_eq_true, hasPart_iff]
      constructor
      · rintro ⟨⟨start, hle, hreaches⟩, hgoes⟩
        exact ⟨start, Nat.lt_succ_of_le hle, (reaches_succ_iff hle).2 ⟨hreaches, hgoes⟩⟩
      · rintro ⟨start, hlt, hreaches⟩
        have hle := Nat.le_of_lt_succ hlt
        obtain ⟨hbefore, hgoes⟩ := (reaches_succ_iff hle).1 hreaches
        exact ⟨⟨start, hle, hbefore⟩, hgoes⟩
    · rw [commentsAbove, runAbove_succ_of_comment hcomment, List.map_append, h.comments]
      rfl
  · obtain ⟨hcomments, hclosed, -⟩ :=
      State.line_adds source fun hstate => hcomment ((h.isComment_iff hraw).1 hstate)
    constructor
    · rw [hclosed]
      refine iff_of_false Bool.false_ne_true ?_
      rintro ⟨start, hlt, hreaches⟩
      have hle := Nat.le_of_lt_succ hlt
      exact hcomment (.inr ⟨start, hle, ((reaches_succ_iff hle).1 hreaches).1⟩)
    · rw [hcomments, commentsAbove, runAbove_succ_of_code hcomment]
      rfl

theorem tracks_start (found : Extraction) : Tracks lines 0 { extraction := found } := by
  refine ⟨iff_of_false Bool.false_ne_true ?_, rfl⟩
  rintro ⟨start, hlt, -⟩
  exact absurd hlt (Nat.not_lt_zero start)

end GoSource

end SchemaViews
