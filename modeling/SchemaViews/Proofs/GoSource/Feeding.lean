import Mathlib.Data.List.Basic
import SchemaViews.GoSource.Extraction

/-!
# What a text adds

An extraction that has read some texts reads one more. What it finds there does not depend on
the texts before, so the types and constants of several texts are those of each text on its
own, one text after the other.
-/

namespace SchemaViews.GoSource

def Extraction.append (earlier extraction : Extraction) : Extraction where
  types := earlier.types ++ extraction.types
  constants := earlier.constants ++ extraction.constants

def State.behind (earlier : Extraction) (state : State) : State :=
  { state with extraction := earlier.append state.extraction }

variable {earlier extraction : Extraction} {state : State}

theorem Extraction.addType_append (type : Pending) :
    (earlier.append extraction).addType type = earlier.append (extraction.addType type) := by
  rw [addType, addType, append, append, List.append_assoc]

theorem Extraction.addConstant_append (type : String) (constant : Member) :
    (earlier.append extraction).addConstant type constant =
      earlier.append (extraction.addConstant type constant) := by
  rw [addConstant, addConstant, append, append, List.append_assoc]

theorem recordConstant_append (constant : Option ConstantLine) (comments : List String)
    (inherited : String) : recordConstant (earlier.append extraction) constant comments inherited =
      (earlier.append (recordConstant extraction constant comments inherited).1,
        (recordConstant extraction constant comments inherited).2) := by
  cases constant with
  | none => rfl
  | some constant =>
      have htyped (type : String) (member : Member) :
          (if type.isEmpty = true then (earlier.append extraction, inherited)
            else ((earlier.append extraction).addConstant type member, type)) =
          (earlier.append (if type.isEmpty = true then (extraction, inherited)
            else (extraction.addConstant type member, type)).1,
            (if type.isEmpty = true then (extraction, inherited)
              else (extraction.addConstant type member, type)).2) := by
        split
        · rfl
        · rw [Extraction.addConstant_append]
      cases htype : constant.type with
      | none =>
          simp only [recordConstant, htype]
          exact htyped _ _
      | some named =>
          simp only [recordConstant, htype]
          exact htyped _ _

namespace State

/-! ### One line -/

theorem structLine_behind (type : Pending) (depth : Int) (line : List Char) :
    (state.behind earlier).structLine type depth line =
      (state.structLine type depth line).behind earlier := by
  unfold structLine
  split
  · simp only [behind, Extraction.addType_append]
  · split
    · rfl
    · rfl

theorem constantLine_behind (inherited : String) (line : List Char) :
    (state.behind earlier).constantLine inherited line =
      (state.constantLine inherited line).behind earlier := by
  unfold constantLine
  split
  · rfl
  · simp only [behind, recordConstant_append]

theorem topLine_behind (source : Option String) (line : List Char) :
    (state.behind earlier).topLine source line = (state.topLine source line).behind earlier := by
  unfold topLine
  simp only
  split
  · split
    · simp only [behind, Extraction.addType_append]
    · rfl
  · split
    · simp only [behind, Extraction.addType_append]
    · split
      · rfl
      · simp only [behind, recordConstant_append]

theorem line_behind (source : Option String) (raw : List Char) :
    (state.behind earlier).line source raw = (state.line source raw).behind earlier := by
  have hposition : (state.behind earlier).position = state.position := rfl
  unfold line
  simp only [apply_ite (behind earlier), hposition]
  -- comments, blank lines, and then a line at each of the three positions
  refine if_congr Iff.rfl rfl
    (if_congr Iff.rfl rfl (if_congr Iff.rfl rfl (if_congr Iff.rfl rfl ?_)))
  cases state.position with
  | inStruct type depth => exact structLine_behind type depth _
  | inConstants inherited => exact constantLine_behind inherited _
  | top => exact topLine_behind source _

/-! ### All lines -/

theorem foldl_line_behind (source : Option String) (lines : List (List Char)) :
    lines.foldl (State.line source) (state.behind earlier) =
      (lines.foldl (State.line source) state).behind earlier := by
  induction lines generalizing state with
  | nil => rfl
  | cons line lines ih => rw [List.foldl_cons, List.foldl_cons, line_behind, ih]

end State

namespace Extraction

theorem append_empty (extraction : Extraction) : extraction.append {} = extraction := by
  rw [append, List.append_nil, List.append_nil]

theorem append_assoc (first second third : Extraction) :
    (first.append second).append third = first.append (second.append third) := by
  simp only [append, List.append_assoc]

/-- What a text adds does not depend on what was found before. -/
theorem feed_eq_append (extraction : Extraction) (text : List Char) (source : Option String) :
    extraction.feed text source = extraction.append (feed {} text source) := by
  have hstart : ({ extraction := extraction } : State) = State.behind extraction
    { extraction := {} } := by
    rw [State.behind, append_empty]
  rw [feed, hstart, State.foldl_line_behind]
  rfl

theorem foldl_feed {α : Type} (text : α → List Char) (source : α → Option String) (given : List α)
    (before : Extraction) :
    given.foldl (fun read next => read.feed (text next) (source next)) before =
      before.append
        ⟨given.flatMap fun next => (feed {} (text next) (source next)).types,
          given.flatMap fun next => (feed {} (text next) (source next)).constants⟩ := by
  induction given generalizing before with
  | nil => exact before.append_empty.symm
  | cons next given ih =>
      rw [List.foldl_cons, ih, feed_eq_append, append_assoc]
      rfl

end Extraction

end SchemaViews.GoSource
