import Mathlib.Data.List.Basic
import SchemaViews.GoSource.Extraction

/-!
# One line

What a single line does to the state of the extraction. A line of a comment is only kept for the
line after it, and a line of code forgets all lines that were kept. What code can add is said once,
in `Adds`; the facts about whole texts go through it.
-/

namespace SchemaViews.GoSource

open SchemaViews.Text

def Position.openType : Position → Option Pending
  | .inStruct type _ => some type
  | .top => none
  | .inConstants _ => none

/-- The type that a line outside every body heads: a struct, or a named type that an
enumeration may be based on. -/
def header? (line : List Char) : Option (DeclarationKind × List Char) :=
  match structHeader? line with
  | some (name, _) => some (.object, name)
  | none =>
    (namedType? line).bind fun (name, base) =>
      if enumBases.contains (String.ofList base) then some (.enum, name) else none

def StatesConstant (line : List Char) (constant : ConstantLine) : Prop :=
  constantLine? line = some constant ∨ singleConstant? line = some constant

def startedType (source : Option String) (comments : List String) (kind : DeclarationKind)
    (name : List Char) : Pending :=
  ⟨kind, String.ofList name, joinLines comments, source, []⟩

def memberOf (comments : List String) (type : String) (constant : ConstantLine) : Member :=
  ⟨String.ofList constant.name, type, joinLines (comments ++ optional constant.comment),
    constant.literal.map String.ofList⟩

/-- What a line of code behind some comments adds: from the type whose struct is open and what has
been found to the same after the line. -/
inductive Adds (source : Option String) (comments : List String) (line : List Char) :
    Option Pending → Extraction → Option Pending → Extraction → Prop
  | nothing (type : Option Pending) (found : Extraction) :
      Adds source comments line type found type found
  | header {name : List Char} (found : Extraction) (h : header? line = some (.object, name)) :
      Adds source comments line none found (some (startedType source comments .object name)) found
  | fields (type : Pending) (found : Extraction) :
      Adds source comments line (some type) found
        (some { type with members := type.members ++ fieldMembers line comments }) found
  | close (type : Pending) (found : Extraction) :
      Adds source comments line (some type) found none (found.addType type)
  | whole {kind : DeclarationKind} {name : List Char} (found : Extraction)
      (h : header? line = some (kind, name)) :
      Adds source comments line none found none
        (found.addType (startedType source comments kind name))
  | constant {constant : ConstantLine} (type : String) (found : Extraction)
      (h : StatesConstant line constant) :
      Adds source comments line none found none
        (found.addConstant type (memberOf comments type constant))

/-- The type under which a constant is recorded: the one it names, or else the one
of the constant before it. -/
def ConstantLine.typeAfter (constant : ConstantLine) (inherited : String) : String :=
  match constant.type with
  | some named => String.ofList named
  | none => inherited

theorem recordConstant_some (found : Extraction) (constant : ConstantLine) (comments : List String)
    (inherited : String) : recordConstant found (some constant) comments inherited =
      if (constant.typeAfter inherited).isEmpty then (found, inherited)
      else (found.addConstant (constant.typeAfter inherited)
        (memberOf comments (constant.typeAfter inherited) constant),
        constant.typeAfter inherited) :=
  rfl

theorem recordConstant_cases (found : Extraction) (constant : Option ConstantLine)
    (comments : List String) (inherited : String) :
    (recordConstant found constant comments inherited).1 = found ∨
      ∃ stated type, constant = some stated ∧
        (recordConstant found constant comments inherited).1 =
          found.addConstant type (memberOf comments type stated) := by
  cases constant with
  | none => exact .inl rfl
  | some stated =>
      rw [recordConstant_some]
      split
      · exact .inl rfl
      · exact .inr ⟨stated, _, rfl, rfl⟩

def IsSkipped (raw : List Char) : Prop :=
  strip raw = [] ∨ ['/', '/'] <+: strip raw

namespace State

variable {source : Option String} {state : State} {raw : List Char}

/-- Whether a line is one of a comment: a block comment is open, or the line starts
one, or it is a line comment. -/
def IsComment (state : State) (raw : List Char) : Prop :=
  state.inComment = true ∨ ['/', '*'] <+: strip raw ∨ ['/', '/'] <+: strip raw

theorem line_of_isComment (h : state.IsComment raw) :
    state.line source raw =
      { state with
        comments := state.comments ++ [String.ofList (strip raw)]
        inComment := (state.inComment || ['/', '*'].isPrefixOf (strip raw)) &&
        !hasPart ['*', '/'] (strip raw) } := by
  unfold line
  simp only
  by_cases hinside : state.inComment = true
  · rw [if_pos hinside, hinside, Bool.true_or, Bool.true_and]
  · rw [Bool.not_eq_true] at hinside
    rw [if_neg (by rw [hinside]; exact Bool.false_ne_true), hinside, Bool.false_or]
    by_cases hopens : ['/', '*'].isPrefixOf (strip raw) = true
    · rw [if_pos hopens, hopens, Bool.true_and]
    · have hline : ['/', '/'].isPrefixOf (strip raw) = true := by
        rcases h with hopen | hblock | hline
        · rw [hinside] at hopen
          cases hopen
        · exact absurd (List.isPrefixOf_iff_prefix.2 hblock) hopens
        · exact List.isPrefixOf_iff_prefix.2 hline
      rw [if_neg hopens, if_pos hline, Bool.eq_false_iff.2 hopens, Bool.false_and, ← hinside]

theorem line_of_code (h : ¬state.IsComment raw) :
    state.line source raw =
      if strip raw = [] then { state with comments := [] }
      else match state.position with
        | .inStruct type depth => state.structLine type depth (strip raw)
        | .inConstants inherited => state.constantLine inherited (strip raw)
        | .top => state.topLine source (strip raw) := by
  rw [IsComment, not_or, not_or] at h
  obtain ⟨hinside, hblock, hline⟩ := h
  rw [← List.isPrefixOf_iff_prefix] at hblock hline
  unfold line
  simp only
  rw [if_neg hinside, if_neg hblock, if_neg hline]
  exact if_congr List.isEmpty_iff rfl rfl

theorem line_of_head {c : Char} (hinside : state.inComment = false)
    (hhead : (strip raw).head? = some c) (hc : c ≠ '/') : state.line source raw =
      match state.position with
      | .inStruct type depth => state.structLine type depth (strip raw)
      | .inConstants inherited => state.constantLine inherited (strip raw)
      | .top => state.topLine source (strip raw) := by
  obtain ⟨rest, hline⟩ := List.head?_eq_some_iff.1 hhead
  rw [line_of_code, if_neg]
  · rw [hline]
    exact List.cons_ne_nil c rest
  · rintro (hopen | hblock | hcomment)
    · rw [hinside] at hopen
      cases hopen
    · rw [hline, List.cons_prefix_cons] at hblock
      exact hc hblock.1.symm
    · rw [hline, List.cons_prefix_cons] at hcomment
      exact hc hcomment.1.symm

variable (source) in
theorem line_of_isSkipped (hinside : state.inComment = false) (h : IsSkipped raw) :
    ∃ comments, state.line source raw = { state with comments := comments } := by
  rcases h with hblank | hcomment
  · refine ⟨[], ?_⟩
    rw [line_of_code, if_pos hblank]
    rw [IsComment, hinside, hblank]
    decide
  · refine ⟨state.comments ++ [String.ofList (strip raw)], ?_⟩
    have hstays :
        ((state.inComment || ['/', '*'].isPrefixOf (strip raw)) &&
          !hasPart ['*', '/'] (strip raw)) = state.inComment := by
      obtain ⟨more, hmore⟩ := hcomment
      rw [hinside, ← hmore]
      rfl
    rw [line_of_isComment (.inr (.inr hcomment)), hstays]

variable (source) in
theorem adds_structLine (type : Pending) (depth : Int) (line : List Char)
    (hopen : state.position.openType = some type) :
    Adds source state.comments line state.position.openType state.extraction
      (state.structLine type depth line).position.openType
        (state.structLine type depth line).extraction := by
  rw [hopen]
  unfold structLine
  split
  · exact .close type state.extraction
  · split
    · exact .nothing (some type) state.extraction
    · exact .fields type state.extraction

variable (source) in
theorem adds_constantLine (inherited : String) (line : List Char)
    (hopen : state.position.openType = none) :
    Adds source state.comments line state.position.openType state.extraction
      (state.constantLine inherited line).position.openType
        (state.constantLine inherited line).extraction := by
  rw [hopen]
  unfold constantLine
  split
  · exact .nothing none state.extraction
  · rcases recordConstant_cases state.extraction (constantLine? line) state.comments inherited with
      hsame | ⟨stated, type, hstated, hadd⟩
    · simp only [hsame]
      exact .nothing none state.extraction
    · simp only [hadd]
      exact .constant type state.extraction (.inl hstated)

variable (source) in
theorem adds_topLine (line : List Char) (hopen : state.position.openType = none) :
    Adds source state.comments line state.position.openType state.extraction
      (state.topLine source line).position.openType (state.topLine source line).extraction := by
  rw [hopen]
  unfold topLine
  simp only
  cases hstruct : structHeader? line with
  | some found =>
      obtain ⟨name, rest⟩ := found
      have hheader : header? line = some (.object, name) := by
        rw [header?, hstruct]
      simp only
      split
      · rw [hopen]
        exact .whole state.extraction hheader
      · exact .header state.extraction hheader
  | none =>
      simp only
      split
      · next name hname =>
          have hheader : header? line = some (.enum, name) := by
            obtain ⟨⟨found, base⟩, hfound, hbase⟩ := Option.bind_eq_some_iff.1 hname
            simp only [Option.ite_none_right_eq_some, Option.some.injEq] at hbase
            obtain ⟨hbase, rfl⟩ := hbase
            simp only [header?, hstruct, hfound, Option.bind_some, if_pos hbase]
          rw [hopen]
          exact .whole state.extraction hheader
      · split
        · exact .nothing none state.extraction
        · rw [hopen]
          rcases recordConstant_cases state.extraction (singleConstant? line) state.comments "" with
            hsame | ⟨stated, type, hstated, hadd⟩
          · simp only [hsame]
            exact .nothing none state.extraction
          · simp only [hadd]
            exact .constant type state.extraction (.inr hstated)

variable (source) in
/-- All that a line of code does: it forgets the comments, and adds something or nothing. -/
theorem line_adds (h : ¬state.IsComment raw) :
    (state.line source raw).comments = [] ∧ (state.line source raw).inComment = false ∧
      Adds source state.comments (strip raw) state.position.openType state.extraction
        (state.line source raw).position.openType (state.line source raw).extraction := by
  have hinside : state.inComment = false := by
    rw [← Bool.not_eq_true]
    exact fun hinside => h (.inl hinside)
  rw [line_of_code h]
  split
  · exact ⟨rfl, hinside, .nothing _ _⟩
  · cases hposition : state.position with
    | inStruct type depth =>
        have hopen : state.position.openType = some type := congrArg Position.openType hposition
        have hadds := adds_structLine source type depth (strip raw) hopen
        rw [hposition] at hadds
        refine ⟨?_, ?_, hadds⟩
        · simp only [structLine, apply_ite State.comments, ite_self]
        · simp only [structLine, apply_ite State.inComment, hinside, ite_self]
    | inConstants inherited =>
        have hopen : state.position.openType = none := congrArg Position.openType hposition
        have hadds := adds_constantLine source inherited (strip raw) hopen
        rw [hposition] at hadds
        refine ⟨?_, ?_, hadds⟩
        · simp only [constantLine, apply_ite State.comments, ite_self]
        · simp only [constantLine, apply_ite State.inComment, hinside, ite_self]
    | top =>
        have hopen : state.position.openType = none := congrArg Position.openType hposition
        have hadds := adds_topLine source (strip raw) hopen
        rw [hposition] at hadds
        refine ⟨?_, ?_, hadds⟩
        · unfold topLine
          simp only
          repeat' split
          all_goals rfl
        · unfold topLine
          simp only
          repeat' split
          all_goals exact hinside

end State

end SchemaViews.GoSource
