import Mathlib.Data.List.Basic
import SchemaViews.Proofs.Directive.Forms

/-!
# Pieces of argument lists

What a scan finds in a piece of an argument list, in front of any text. Inside parentheses the scan
may only be at nesting zero between two pieces, and outside of them the nesting does not matter, so
that the nestings that are allowed are left open here.
-/

namespace SchemaViews.Directive

open SchemaViews.Text

/-- In front of `rest` a piece gives tokens that are good at its position, and
the scan goes on behind it. -/
def Scans (unclosed : Option SyntaxError) (allowed : Nat → Prop) (piece rest : List Char)
    (good : Nat → List Token → Prop) : Prop :=
  ∀ nesting position, allowed nesting → ∃ tokens left, allowed left ∧ good position tokens ∧
    scanFrom unclosed nesting position (piece ++ rest) =
      (scanFrom unclosed left (position + piece.length) rest).map fun scan =>
        { scan with tokens := tokens ++ scan.tokens }

section Scans

variable {unclosed : Option SyntaxError} {allowed : Nat → Prop}
    {first second piece rest : List Char} {good goodNext : Nat → List Token → Prop}

theorem Scans.nil (rest : List Char) :
    Scans unclosed allowed [] rest fun _ tokens => tokens = [] := by
  intro nesting position hallowed
  refine ⟨[], nesting, hallowed, rfl, ?_⟩
  change scanFrom unclosed nesting position rest = (scanFrom unclosed nesting position rest).map _
  cases scanFrom unclosed nesting position rest <;> rfl

theorem Scans.append (hfirst : Scans unclosed allowed first (second ++ rest) good)
    (hsecond : Scans unclosed allowed second rest goodNext) :
    Scans unclosed allowed (first ++ second) rest fun position tokens => ∃ before after,
      tokens = before ++ after ∧
      good position before ∧ goodNext (position + first.length) after := by
  intro nesting position hallowed
  obtain ⟨before, left, hleft, hbefore, hscan⟩ := hfirst nesting position hallowed
  obtain ⟨after, last, hlast, hafter, hnext⟩ := hsecond left (position + first.length) hleft
  refine ⟨before ++ after, last, hlast, ⟨before, after, rfl, hbefore, hafter⟩, ?_⟩
  rw [List.append_assoc, hscan, hnext, List.length_append, Nat.add_assoc]
  cases scanFrom unclosed last (position + (first.length + second.length)) rest with
  | error error => rfl
  | ok scan => simp only [Except.map, List.append_assoc]

theorem Scans.weaken (h : Scans unclosed allowed piece rest good)
    (hgood : ∀ position tokens, good position tokens → goodNext position tokens) :
    Scans unclosed allowed piece rest goodNext := by
  intro nesting position hallowed
  obtain ⟨tokens, left, hleft, htokens, hscan⟩ := h nesting position hallowed
  exact ⟨tokens, left, hleft, hgood position tokens htokens, hscan⟩

theorem scans_blank {c : Char} (hc : isSpacing c = true) (rest : List Char) :
    Scans unclosed allowed [c] rest fun _ tokens => tokens = [] := by
  intro nesting position hallowed
  obtain ⟨tokens, left, hleft, htokens, hscan⟩ := Scans.nil rest nesting (position + 1) hallowed
  refine ⟨tokens, left, hleft, htokens, ?_⟩
  rw [List.singleton_append, scanFrom_spacing hc]
  exact hscan

theorem IsToken.scans {kind : TokenKind} {value : List Char}
    (h : ∀ nesting, allowed nesting → ∃ left, allowed left ∧
      IsToken unclosed.isSome nesting rest piece kind value left) :
    Scans unclosed allowed piece rest fun position tokens =>
      tokens = [⟨kind, String.ofList value, position, position + piece.length⟩] := by
  intro nesting position hallowed
  obtain ⟨left, hleft, htoken⟩ := h nesting hallowed
  exact ⟨_, left, hleft, rfl, htoken.scanFrom_eq rfl position⟩

theorem scans_punctuation {c : Char} {kind : TokenKind} (h : punctuation? c = some kind)
    (rest : List Char) : Scans unclosed allowed [c] rest fun position tokens =>
      tokens = [⟨kind, String.singleton c, position, position + 1⟩] := by
  rw [String.singleton_eq_ofList]
  exact IsToken.scans fun nesting hallowed => ⟨nesting, hallowed, .punctuation h⟩

theorem escapes_escapePayload (content : List Char) : Escapes (escapePayload content) content := by
  induction content with
  | nil => exact .nil
  | cons c content ih =>
      rw [escapePayload, List.flatMap_cons]
      by_cases hescaped : (c == '\\' || c == '"') = true
      · rw [if_pos hescaped]
        exact ih.escaped c
      · rw [if_neg hescaped]
        simp only [Bool.or_eq_true, beq_iff_eq, not_or] at hescaped
        exact ih.plain hescaped.2 hescaped.1

theorem scans_string (content : String) (rest : List Char) :
    Scans unclosed allowed ('"' :: escapePayload content.toList ++ ['"']) rest
      fun position tokens => tokens =
        [⟨.string, content, position,
          position + ('"' :: escapePayload content.toList ++ ['"']).length⟩] := by
  have hscan : Scans unclosed allowed ('"' :: escapePayload content.toList ++ ['"']) rest _ :=
    IsToken.scans fun nesting hallowed =>
      ⟨nesting, hallowed, .string (escapes_escapePayload content.toList)⟩
  rwa [String.ofList_toList] at hscan

theorem scans_quotedList {content : List Char} (hcontent : '\'' ∉ content) (rest : List Char) :
    Scans unclosed allowed ('\'' :: content ++ ['\'']) rest fun position tokens =>
      tokens =
        [⟨.quotedList, String.ofList content, position,
          position + ('\'' :: content ++ ['\'']).length⟩] :=
  IsToken.scans fun nesting hallowed => ⟨nesting, hallowed, .quotedList hcontent⟩

theorem scans_word {c : Char} {run : List Char} (hplain : isDelimiter false c = false)
    (hclose : unclosed = none ∨ c ≠ ')') (hrun : ∀ nesting, allowed nesting → ∃ left, allowed left ∧
      scanWord unclosed.isSome (nestAfter nesting c) (run ++ rest) = (run, left, rest)) :
    Scans unclosed allowed (c :: run) rest fun position tokens =>
      tokens = [⟨.word, String.ofList (c :: run), position, position + (c :: run).length⟩] := by
  refine IsToken.scans fun nesting hallowed => ?_
  obtain ⟨left, hleft, hword⟩ := hrun nesting hallowed
  refine ⟨left, hleft, .word hplain (fun hinside hc => ?_) hword⟩
  rcases hclose with rfl | hne
  · cases hinside
  · exact absurd hc hne

end Scans

end SchemaViews.Directive
