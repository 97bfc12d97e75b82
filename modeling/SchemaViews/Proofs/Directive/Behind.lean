import SchemaViews.Proofs.Directive.Tiling
import SchemaViews.Proofs.Directive.Frame

/-!
# Annotations behind another text

What is read from an annotation does not depend on the text in front of it, apart from the one
character that stands right before it. All positions move by the length of that text, those of
directives and arguments as well as those of faults.
-/

namespace SchemaViews

open SchemaViews.Text

def Directive.shift (directive : Directive) (offset : Nat) : Directive :=
  { directive with
    arguments := directive.arguments.map (·.shift offset)
    position := directive.position + offset }

namespace Directive

def Found.shift (found : Found) (offset : Nat) : Found :=
  { found with directive := found.directive.shift offset, stop := found.stop + offset }

theorem shift_shift (error : SyntaxError) (first second : Nat) :
    (error.shift first).shift second = error.shift (first + second) := by
  simp only [SyntaxError.shift, Int.natCast_add, Int.add_assoc]

theorem unclosedAt_behind (front text : List Char) {start : Nat} (hstart : start ≠ 0) :
    unclosedAt (front ++ text) (start + front.length) =
      (unclosedAt text start).shift front.length := by
  have hdrop : (front ++ text).drop (start + front.length - 1) = text.drop (start - 1) := by
    rw [Nat.sub_add_comm (Nat.pos_of_ne_zero hstart), Nat.add_comm, ← List.drop_drop,
      List.drop_left]
  unfold unclosedAt
  simp only [if_neg hstart,
    if_neg (Nat.ne_of_gt (Nat.add_pos_left (Nat.pos_of_ne_zero hstart) front.length)), hdrop,
    SyntaxError.shift, SyntaxError.mk.injEq, true_and, and_true]
  omega

theorem readTag_behind (position offset : Nat) (text : List Char) :
    readTag (position + offset) text =
      ((readTag position text).map (·.shift offset)).mapError (·.shift offset) := by
  have hstart : position + offset + tagOpening.length = position + tagOpening.length + offset :=
    Nat.add_right_comm position offset tagOpening.length
  unfold readTag
  simp only [hstart]
  cases scanPayload (text.drop tagOpening.length) with
  | none =>
      simp only [mapError_map_error, SyntaxError.shift, Int.natCast_add]
  | some found =>
      simp only
      cases readAll (unescapePayload found.1) with
      | error error =>
          simp only [mapError_map_error, shift_shift]
      | ok arguments =>
          have harguments : arguments.map (·.shift (position + tagOpening.length + offset)) =
              (arguments.map (·.shift (position + tagOpening.length))).map (·.shift offset) := by
            rw [List.map_map]
            refine List.map_congr_left fun argument _ => ?_
            simp only [Function.comp_apply, Argument.shift, Argument.mk.injEq, true_and, and_true]
            omega
          have hstop : position + tagOpening.length + offset + found.1.length + 1 =
              position + tagOpening.length + found.1.length + 1 + offset := by
            omega
          simp only [mapError_map_ok, Found.shift, Directive.shift, harguments, hstop]

theorem readDirective_behind (front : List Char) {text written after : List Char} {position : Nat}
    (hplace : Advances 0 text position ('@' :: (written ++ after))) :
    readDirective (front ++ text) (position + front.length) written ('@' :: (written ++ after)) =
      ((readDirective text position written ('@' :: (written ++ after))).map
        (·.shift front.length)).mapError (·.shift front.length) := by
  have hstop : position + front.length + 1 + written.length =
      position + 1 + written.length + front.length := by
    omega
  unfold readDirective
  simp only [drop_written, hstop]
  cases DirectiveName.ofWritten? written with
  | none => simp only [mapError_map_error, SyntaxError.shift, Int.natCast_add]
  | some name =>
      simp only
      split
      · rename_i inner
        have hunclosed :
            some (unclosedAt (front ++ text) (position + 1 + written.length + front.length + 1)) =
              (some (unclosedAt text (position + 1 + written.length + 1))).map
            (·.shift front.length) := by
          rw [Nat.add_right_comm _ front.length 1,
            unclosedAt_behind front text (Nat.succ_ne_zero _), Option.map_some]
        rw [hunclosed, Nat.add_right_comm _ front.length 1, scanFrom_shift]
        cases hscan : scanFrom (some (unclosedAt text (position + 1 + written.length + 1))) 0
            (position + 1 + written.length + 1) inner with
        | error error => rfl
        | ok scan =>
            simp only [mapError_map_ok, Scan.shift]
            rw [readArguments_behind front scan.ending (within_scanFrom hplace.behind_paren hscan)]
            cases readArguments text scan.ending scan.tokens <;> rfl
      · rfl

theorem Begins.behind (front : List Char) {text rest : List Char} {before : Option Char}
    {position : Nat} {result : Except SyntaxError Found} (hplace : Advances 0 text position rest)
    (h : Begins text before position rest result) :
    Begins (front ++ text) before (position + front.length) rest
      ((result.map (·.shift front.length)).mapError (·.shift front.length)) := by
  cases h with
  | tag opens =>
      rw [← readTag_behind]
      exact .tag opens
  | directive untagged opens =>
      rw [← readDirective_behind front hplace]
      exact .directive untagged opens

/-- An annotation behind another text is read as the same directives, or fails with
the same fault, further on. -/
theorem readFrom_behind (front : List Char) {text rest : List Char} {before : Option Char}
    {position : Nat} (hplace : Advances 0 text position rest) :
    readFrom (front ++ text) before (position + front.length) rest =
      ((readFrom text before position rest).map (List.map (·.shift front.length))).mapError
        (·.shift front.length) := by
  have hread := readsTo_readFrom text before position rest
  generalize readFrom text before position rest = result at hread ⊢
  induction hread with
  | nil =>
      rw [readFrom]
      rfl
  | skip untagged plain _ ih =>
      rw [readFrom_cons, untagged, if_neg Bool.false_ne_true, plain]
      simp only
      rw [Nat.add_right_comm, ih (hplace.trans (advances_cons _ _ _))]
  | fault begins =>
      rw [(begins.behind front hplace).readFrom_eq]
      rfl
  | @found before position rest found result begins _ ih =>
      have hlater := ih (hplace.trans begins.advances)
      rw [(begins.behind front hplace).readFrom_eq, mapError_map_ok]
      change (readFrom _ (some found.last) (found.stop + front.length) found.rest).map _ = _
      rw [hlater]
      cases result <;> rfl

end Directive

end SchemaViews
