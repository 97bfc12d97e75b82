import Mathlib.Data.List.Induction
import SchemaViews.Proofs.GoSource.ConstantLines
import SchemaViews.Proofs.GoSource.Steps

/-!
# Blocks of constants

Which type the constants of a block are recorded under. The extraction goes by the last type that
has been named, the language by the last constant that has been given a value. The two agree on a
block as long as no constant is given a value but no type behind one with a type.
-/

namespace SchemaViews.GoSource

open SchemaViews.Text

/-! ### What is written in a block -/

/-- A constant of a block: its name, the type that it names, and whether it is given a value. -/
structure Spec where
  name : List Char
  type : Option (List Char)
  hasValue : Bool
  deriving DecidableEq, Repr

/-- A line with a constant. It names a type only together with a value. -/
inductive IsSpec : List Char → Spec → Prop where
  | bare {name gap : List Char} {comment : Option (List Char)} (hname : IsIdentifier name)
      (hgap : AreBlanks gap) (hcomment : IsTrailing comment) :
      IsSpec (name ++ (gap ++ comment.getD [])) ⟨name, none, false⟩
  | valued {name typed gap value : List Char} {type literal comment : Option (List Char)}
      (hname : IsIdentifier name) (htyped : IsTyped typed type) (hgap : AreBlanks gap)
      (hvalue : IsValue value literal comment) :
      IsSpec (name ++ (typed ++ (gap ++ '=' :: value))) ⟨name, type, true⟩

inductive IsBlock : List (List Char) → List Spec → Prop where
  | nil : IsBlock [] []
  | skip {raw : List Char} {lines : List (List Char)} {specs : List Spec} (hskipped : IsSkipped raw)
      (hrest : IsBlock lines specs) : IsBlock (raw :: lines) specs
  | spec {raw : List Char} {spec : Spec} {lines : List (List Char)} {specs : List Spec}
      (hspec : IsSpec (strip raw) spec) (hrest : IsBlock lines specs) :
      IsBlock (raw :: lines) (spec :: specs)

/-! ### The type of a constant -/

/-- The type of a constant to the extraction: the last one that is named up to it. -/
def carriedType (before : List Spec) (spec : Spec) : Option (List Char) :=
  ((before ++ [spec]).filterMap Spec.type).getLast?

/-- The type of a constant in the language: the one it names. If it has no value either, it repeats
the last constant that has one, with its type. -/
def impliedType (before : List Spec) (spec : Spec) : Option (List Char) :=
  match spec.type with
  | some type => some type
  | none => if spec.hasValue then none else (before.filter Spec.hasValue).getLast?.bind Spec.type

/-- The constants that have a type by some rule, which knows the constants in front
of each, with their types. -/
def typedBy (rule : List Spec → Spec → Option (List Char)) (before : List Spec) :
    List Spec → List (String × String)
  | [] => []
  | spec :: specs =>
    ((rule before spec).map fun type => (String.ofList type, String.ofList spec.name)).toList ++
      typedBy rule (before ++ [spec]) specs

/-- A constant does not have a value without a type behind one with a type. -/
def StaysTyped (earlier later : Spec) : Prop :=
  earlier.type.isSome → later.hasValue = true → later.type.isSome

instance (earlier later : Spec) : Decidable (StaysTyped earlier later) :=
  inferInstanceAs (Decidable (_ → _ → _))

variable {line raw : List Char} {lines : List (List Char)} {spec : Spec} {before specs : List Spec}

theorem IsSpec.hasValue_of_type (h : IsSpec line spec) (htype : spec.type.isSome) :
    spec.hasValue = true := by
  cases h with
  | bare => cases htype
  | valued => rfl

theorem IsBlock.hasValue_of_type (h : IsBlock lines specs) :
    ∀ spec ∈ specs, spec.type.isSome → spec.hasValue = true := by
  induction h with
  | nil => exact List.forall_mem_nil _
  | skip _ _ ih => exact ih
  | spec hspec _ ih => exact List.forall_mem_cons.2 ⟨hspec.hasValue_of_type, ih⟩

theorem carriedType_eq (before : List Spec) (spec : Spec) :
    carriedType before spec = spec.type.or (before.filterMap Spec.type).getLast? := by
  rw [carriedType, List.filterMap_append, List.getLast?_append]
  cases htype : spec.type <;> simp [htype]

theorem getLast?_type_eq_none (h : ∀ earlier ∈ before, StaysTyped earlier spec)
    (hvalue : spec.hasValue = true)
    (htype : spec.type = none) : (before.filterMap Spec.type).getLast? = none := by
  rw [List.getLast?_eq_none_iff, List.filterMap_eq_nil_iff]
  intro earlier hearlier
  have huntyped := mt (h earlier hearlier · hvalue)
  rw [htype] at huntyped
  simpa using huntyped

theorem getLast?_type (hvalued : ∀ spec ∈ before, spec.type.isSome → spec.hasValue = true)
    (hstays : before.Pairwise StaysTyped) :
    (before.filterMap Spec.type).getLast? =
      (before.filter Spec.hasValue).getLast?.bind Spec.type := by
  induction before using List.reverseRecOn with
  | nil => rfl
  | append_singleton init last ih =>
      rw [List.pairwise_append] at hstays
      obtain ⟨hinit, -, hlast⟩ := hstays
      have ih := ih (fun spec hspec => hvalued spec (List.mem_append_left _ hspec)) hinit
      rw [List.filterMap_append, List.getLast?_append, List.filter_append, List.getLast?_append]
      cases htype : last.type with
      | some type =>
          have hvalue := hvalued last List.mem_concat_self (by rw [htype]; rfl)
          simp [htype, hvalue]
      | none =>
          -- a value without a type ends the repetition, so nothing may
          -- have been named in front of it
          by_cases hvalue : last.hasValue = true
          · have hnone :=
              getLast?_type_eq_none
                (fun earlier hearlier => hlast earlier hearlier last List.mem_cons_self) hvalue
                htype
            simp [htype, hvalue, hnone]
          · simp [htype, hvalue, ih]

theorem impliedType_eq (hvalued : ∀ spec ∈ before, spec.type.isSome → spec.hasValue = true)
    (hbefore : before.Pairwise StaysTyped) (hspec : ∀ earlier ∈ before, StaysTyped earlier spec) :
    impliedType before spec = carriedType before spec := by
  rw [impliedType, carriedType_eq]
  cases htype : spec.type with
  | some type => rfl
  | none =>
      by_cases hvalue : spec.hasValue = true
      · simp only [hvalue, if_true, Option.none_or]
        exact (getLast?_type_eq_none hspec hvalue htype).symm
      · simp only [hvalue, Bool.false_eq_true, if_false, Option.none_or]
        exact (getLast?_type hvalued hbefore).symm

theorem carriedType_isSome_iff :
    (carriedType before spec).isSome ↔ ∃ typed ∈ before ++ [spec], typed.type.isSome := by
  rw [carriedType, Option.isSome_iff_ne_none, Ne, List.getLast?_eq_none_iff,
    List.filterMap_eq_nil_iff]
  push Not
  simp only [Option.isSome_iff_ne_none]

theorem carriedType_isSome (h : (impliedType before spec).isSome) :
    (carriedType before spec).isSome := by
  rw [carriedType_isSome_iff]
  rw [impliedType] at h
  cases htype : spec.type with
  | some type => exact ⟨spec, List.mem_concat_self, by rw [htype]; rfl⟩
  | none =>
      obtain ⟨type, hsome⟩ := Option.isSome_iff_exists.1 h
      rw [htype, Option.ite_none_left_eq_some] at hsome
      obtain ⟨valued, hlast, hvalued⟩ := Option.bind_eq_some_iff.1 hsome.2
      have hmem := List.mem_of_mem_filter (List.mem_of_getLast? hlast)
      exact ⟨valued, List.mem_append_left _ hmem, by rw [hvalued]; rfl⟩

theorem staysTyped_of_isSome (h : (carriedType before spec).isSome →
      (impliedType before spec).isSome) : ∀ earlier ∈ before, StaysTyped earlier spec := by
  intro earlier hearlier htype hvalue
  have himplied := h (carriedType_isSome_iff.2 ⟨earlier, List.mem_append_left _ hearlier, htype⟩)
  rw [impliedType] at himplied
  cases hspec : spec.type with
  | some type => rfl
  | none =>
      rw [hspec] at himplied
      simp [hvalue] at himplied

theorem length_typedBy_le (before specs : List Spec) :
    (typedBy impliedType before specs).length ≤ (typedBy carriedType before specs).length := by
  induction specs generalizing before with
  | nil => exact Nat.le_refl 0
  | cons spec specs ih =>
      simp only [typedBy, List.length_append, Option.length_toList, Option.isSome_map]
      apply Nat.add_le_add _ (ih (before ++ [spec]))
      by_cases himplied : (impliedType before spec).isSome = true
      · rw [if_pos himplied, if_pos (carriedType_isSome himplied)]
      · rw [if_neg himplied]
        exact Nat.zero_le _

theorem typedBy_cons_eq (h : typedBy carriedType before (spec :: specs) =
      typedBy impliedType before (spec :: specs)) :
    ((carriedType before spec).isSome → (impliedType before spec).isSome) ∧
      typedBy carriedType (before ++ [spec]) specs =
        typedBy impliedType (before ++ [spec]) specs := by
  rw [typedBy, typedBy] at h
  cases hcarried : carriedType before spec with
  | none =>
      have himplied : impliedType before spec = none := by
        rw [← Option.not_isSome_iff_eq_none]
        intro hsome
        have := carriedType_isSome hsome
        rw [hcarried] at this
        cases this
      rw [hcarried, himplied] at h
      exact ⟨fun hsome => absurd hsome (by decide), h⟩
  | some type =>
      cases himplied : impliedType before spec with
      | some type' =>
          rw [hcarried, himplied] at h
          exact ⟨fun _ => rfl, (List.cons.inj h).2⟩
      | none =>
          -- the extraction would have one constant more
          rw [hcarried, himplied] at h
          have hlength := congrArg List.length h
          have hle := length_typedBy_le (before ++ [spec]) specs
          simp only [Option.map_some, Option.toList_some, Option.map_none, Option.toList_none,
            List.length_append, List.length_singleton, List.length_nil] at hlength
          omega

/-- The two rules agree on a block if and only if no value comes without a type behind a type. -/
theorem typedBy_eq_iff (hvalued : ∀ spec ∈ before ++ specs, spec.type.isSome → spec.hasValue = true)
    (hbefore : before.Pairwise StaysTyped) :
    typedBy carriedType before specs = typedBy impliedType before specs ↔
      (before ++ specs).Pairwise StaysTyped := by
  induction specs generalizing before with
  | nil => exact iff_of_true rfl (by rwa [List.append_nil])
  | cons spec specs ih =>
      rw [List.append_cons] at hvalued ⊢
      have hconcat : (before ++ [spec]).Pairwise StaysTyped ↔ ∀ earlier ∈ before,
          StaysTyped earlier spec := by
        simp [List.pairwise_append, hbefore]
      constructor
      · intro h
        obtain ⟨hsome, hrest⟩ := typedBy_cons_eq h
        exact (ih hvalued (hconcat.2 (staysTyped_of_isSome hsome))).1 hrest
      · intro h
        have hinit := (List.pairwise_append.1 h).1
        have hvaluedBefore : ∀ earlier ∈ before, earlier.type.isSome → earlier.hasValue = true := by
          intro earlier hearlier
          exact hvalued earlier (List.mem_append_left _ (List.mem_append_left _ hearlier))
        rw [typedBy, typedBy, (ih hvalued hinit).2 h,
          impliedType_eq hvaluedBefore hbefore (hconcat.1 hinit)]

/-! ### Line by line -/

variable {source : Option String} {state : State} {carried : Option (List Char)}
    {found : Extraction}

structure State.InBlock (state : State) (carried : Option (List Char)) (found : Extraction) :
    Prop where
  position : state.position = .inConstants ((carried.map String.ofList).getD "")
  named : ∀ type ∈ carried, type ≠ []
  extraction : state.extraction = found
  code : state.inComment = false

theorem IsSpec.constantLine? (h : IsSpec line spec) :
    ∃ constant, constantLine? line = some constant ∧ constant.name = spec.name ∧
      constant.type = spec.type := by
  cases h with
  | bare hname hgap hcomment =>
      exact ⟨_, constantLine?_eq_some_iff.2 (.bare hname .untyped hgap hcomment), rfl, rfl⟩
  | valued hname htyped hgap hvalue =>
      exact ⟨_, constantLine?_eq_some_iff.2 (.valued hname htyped hgap hvalue), rfl, rfl⟩

theorem IsSpec.type_ne_nil (h : IsSpec line spec) : ∀ type ∈ spec.type, type ≠ [] := by
  intro type htype
  cases h with
  | bare => cases htype
  | valued _ htyped =>
      cases htyped with
      | untyped => cases htype
      | typed _ _ hne =>
          cases htype
          exact hne

theorem IsSpec.exists_head (h : IsSpec line spec) :
    ∃ c, line.head? = some c ∧ isIdentifierStart c = true := by
  cases h with
  | bare hname =>
      obtain ⟨c, rest, rfl, hc⟩ := hname.start
      exact ⟨c, rfl, hc⟩
  | valued hname =>
      obtain ⟨c, rest, rfl, hc⟩ := hname.start
      exact ⟨c, rfl, hc⟩

namespace State.InBlock

theorem skip (h : state.InBlock carried found) (hskipped : IsSkipped raw) :
    (state.line source raw).InBlock carried found := by
  obtain ⟨comments, hline⟩ := State.line_of_isSkipped source h.code hskipped
  rw [hline]
  exact ⟨h.position, h.named, h.extraction, h.code⟩

variable (source) in
theorem line_of_isSpec (h : state.InBlock carried found) (hspec : IsSpec (strip raw) spec) :
    (strip raw).head? ≠ some ')' ∧
      state.line source raw = state.constantLine ((carried.map String.ofList).getD "")
        (strip raw) := by
  obtain ⟨c, hhead, hstart⟩ := hspec.exists_head
  have hne {d : Char} (hd : isIdentifierStart d = false) :
      c ≠ d := ne_of_apply_ne isIdentifierStart (by rw [hstart, hd]; decide)
  constructor
  · rw [hhead]
    exact fun heq => hne (by decide) (Option.some.inj heq)
  · rw [State.line_of_head h.code hhead (hne (by decide)), h.position]

variable (source) in
/-- A constant is recorded under the type that is carried on behind it, if there is one. -/
theorem records (h : state.InBlock carried found) (hspec : IsSpec (strip raw) spec) :
    ∃ recorded, (state.line source raw).InBlock (spec.type.or carried)
      { found with constants := found.constants ++ recorded } ∧
      recorded.map (fun entry => (entry.1, entry.2.declaredName)) =
        ((spec.type.or carried).map fun type => (String.ofList type,
          String.ofList spec.name)).toList := by
  obtain ⟨hstays, hline⟩ := h.line_of_isSpec source hspec
  obtain ⟨constant, hconstant, hname, htype⟩ := hspec.constantLine?
  have hafter : constant.typeAfter ((carried.map String.ofList).getD "") =
      ((spec.type.or carried).map String.ofList).getD "" := by
    rw [ConstantLine.typeAfter, htype]
    cases spec.type <;> rfl
  rw [hline, State.constantLine, if_neg (by simpa using hstays), hconstant]
  simp only [recordConstant_some, hafter, h.extraction]
  have hnamed : ∀ type ∈ spec.type.or carried, type ≠ [] := by
    intro type hmem
    rcases Option.or_eq_some_iff.1 hmem with hown | ⟨-, hcarried⟩
    · exact hspec.type_ne_nil type hown
    · exact h.named type hcarried
  cases hnext : spec.type.or carried with
  | none =>
      -- Nothing has been named so far, so there is nothing to record it under.
      obtain ⟨-, rfl⟩ := Option.or_eq_none_iff.1 hnext
      refine ⟨[], ⟨rfl, fun _ hmem => absurd hmem (Option.not_mem_none _), ?_, h.code⟩, rfl⟩
      rw [List.append_nil]
      rfl
  | some type =>
      have hne : ¬(String.ofList type).isEmpty = true := by
        have := hnamed type hnext
        simpa using this
      refine ⟨[(String.ofList type, memberOf state.comments (String.ofList type) constant)],
        ⟨?_, ?_, ?_, h.code⟩, ?_⟩
      · simp only [Option.map_some, Option.getD_some]
        rw [if_neg hne]
      · rw [← hnext]
        exact hnamed
      · simp only [Option.map_some, Option.getD_some]
        rw [if_neg hne]
        rfl
      · rw [← hname]
        rfl

end State.InBlock

theorem IsBlock.run (h : IsBlock lines specs) (before : List Spec)
    (hstate : state.InBlock (before.filterMap Spec.type).getLast? found) :
    ∃ recorded,
      (lines.foldl (State.line source) state).InBlock
        ((before ++ specs).filterMap Spec.type).getLast?
        { found with constants := found.constants ++ recorded } ∧
      recorded.map (fun entry => (entry.1, entry.2.declaredName)) =
        typedBy carriedType before specs := by
  induction h generalizing before state found with
  | nil =>
      refine ⟨[], ?_, rfl⟩
      rw [List.append_nil, List.append_nil]
      exact hstate
  | skip hskipped _ ih => exact ih before (hstate.skip hskipped)
  | @spec raw spec _ specs hspec _ ih =>
      obtain ⟨recorded, hline, hrecorded⟩ := hstate.records source hspec
      rw [← carriedType_eq] at hline hrecorded
      obtain ⟨others, hrun, hothers⟩ := ih (before ++ [spec]) hline
      refine ⟨recorded ++ others, ?_, ?_⟩
      · rw [List.append_cons, ← List.append_assoc]
        exact hrun
      · rw [List.map_append, hrecorded, hothers, typedBy]

/-! ### Whole blocks -/

variable (source) in
theorem State.InBlock.opens (htop : state.position = .top) (hinside : state.inComment = false)
    (hopening : "const (".toList <+: strip raw) :
    (state.line source raw).InBlock none state.extraction := by
  obtain ⟨rest, hrest⟩ := hopening
  have hhead : (strip raw).head? = some 'c' := by
    rw [← hrest]
    rfl
  rw [State.line_of_head hinside hhead (by decide), htop]
  have hstruct : structHeader? (strip raw) = none := by
    rw [← hrest]
    rfl
  have htype : namedType? (strip raw) = none := by
    rw [← hrest]
    rfl
  have hblock : "const (".toList.isPrefixOf (strip raw) = true :=
    List.isPrefixOf_iff_prefix.2 ⟨rest, hrest⟩
  simp only [State.topLine, hstruct, htype, Option.bind_none, hblock, if_true]
  exact ⟨rfl, fun _ hmem => absurd hmem (Option.not_mem_none _), rfl, hinside⟩

theorem State.InBlock.closes (h : state.InBlock carried found)
    (hclosing : (strip raw).head? = some ')') :
    state.line source raw = { extraction := found } := by
  rw [State.line_of_head h.code hclosing (by decide), h.position]
  simp only [State.constantLine, hclosing, beq_self_eq_true, if_true, ← h.extraction, ← h.code]

/-- A block records its constants in order, each under the last type that has been named. This is
the type that the language gives it for all constants of the block if and only if no constant is
given a value but no type behind one with a type. -/
theorem constants_of_block {opening closing : List Char} {body : List (List Char)}
    (source : Option String) (htop : state.position = .top) (hinside : state.inComment = false)
    (hopening : "const (".toList <+: strip opening) (hbody : IsBlock body specs)
    (hclosing : (strip closing).head? = some ')') :
    ∃ recorded, (opening :: (body ++ [closing])).foldl (State.line source) state =
        { extraction := { state.extraction with constants := state.extraction.constants ++
          recorded } } ∧
      recorded.map (fun entry => (entry.1, entry.2.declaredName)) = typedBy carriedType [] specs ∧
      (recorded.map (fun entry => (entry.1, entry.2.declaredName)) = typedBy impliedType [] specs ↔
        specs.Pairwise StaysTyped) := by
  have hopened := State.InBlock.opens source htop hinside hopening
  obtain ⟨recorded, hrun, hrecorded⟩ := hbody.run [] hopened
  refine ⟨recorded, ?_, hrecorded, ?_⟩
  · rw [List.foldl_cons, List.foldl_append, List.foldl_cons, List.foldl_nil, hrun.closes hclosing]
  · rw [hrecorded]
    exact typedBy_eq_iff hbody.hasValue_of_type .nil

theorem isSpec_roleAdmin :
    IsSpec (strip "\tRoleAdmin Role = \"admin\"".toList) ⟨"RoleAdmin".toList, some "Role".toList,
      true⟩ := by
  have hname : IsIdentifier "RoleAdmin".toList := by decide
  have htyped : IsTyped " Role".toList (some "Role".toList) :=
    .typed (List.cons_ne_nil ' ' []) areBlanks_space (by decide) (List.all_eq_true.1 (by decide))
  have hspec := IsSpec.valued hname htyped areBlanks_space
    (constantValue?_eq_some_iff.1 (show constantValue? " \"admin\"".toList =
      some (some "admin".toList, none) from rfl))
  exact hspec

theorem constants_of_block_role :
    ∃ recorded,
      ["const (".toList, "\tRoleAdmin Role = \"admin\"".toList, "\t// the default".toList,
        "\tRoleMember".toList, ")".toList].foldl
          (State.line none) { extraction := {} } = { extraction := { constants := recorded } } ∧
        recorded.map (fun entry => (entry.1, entry.2.declaredName)) =
          [("Role", "RoleAdmin"), ("Role", "RoleMember")] := by
  have hmember : IsSpec (strip "\tRoleMember".toList) ⟨"RoleMember".toList, none, false⟩ := by
    have hname : IsIdentifier "RoleMember".toList := by decide
    have hspec := IsSpec.bare hname areBlanks_nil isTrailing_none
    exact hspec
  have hskipped : IsSkipped "\t// the default".toList := .inr (by decide)
  have hbody := IsBlock.spec isSpec_roleAdmin (.skip hskipped (.spec hmember .nil))
  have hopening : "const (".toList <+: strip "const (".toList := by decide
  have hclosing : (strip ")".toList).head? = some ')' := by decide
  have htop : State.position { extraction := {} } = .top := rfl
  obtain ⟨recorded, hrun, hrecorded, -⟩ := constants_of_block none htop rfl hopening hbody hclosing
  exact ⟨recorded, hrun, hrecorded.trans (by decide)⟩

def roleText : List Char :=
  "type Role string\n\nconst (\n\tRoleAdmin Role = \"admin\"\n\tMaxUsers = \"10\"\n)\n".toList

/-- A constant with a value but no type is recorded under the type of the constant above it. -/
theorem value_without_type_is_recorded :
    let specs := [⟨"RoleAdmin".toList, some "Role".toList, true⟩, ⟨"MaxUsers".toList, none, true⟩]
    splitLines roleText =
        ["type Role string".toList, [], "const (".toList, "\tRoleAdmin Role = \"admin\"".toList,
          "\tMaxUsers = \"10\"".toList, ")".toList] ∧
      IsBlock ["\tRoleAdmin Role = \"admin\"".toList, "\tMaxUsers = \"10\"".toList] specs ∧
      typedBy impliedType [] specs = [("Role", "RoleAdmin")] ∧
      extract roleText none =
        [⟨.enum, "Role", "",
          [⟨"RoleAdmin", "Role", "", some "admin"⟩, ⟨"MaxUsers", "Role", "", some "10"⟩], none⟩] ∧
      (Extraction.feed {} roleText none).constants.map
      (fun entry => (entry.1, entry.2.declaredName)) ≠
        typedBy impliedType [] specs := by
  have hname : IsIdentifier "MaxUsers".toList := by decide
  have huntyped := IsSpec.valued hname .untyped areBlanks_space
    (constantValue?_eq_some_iff.1 (show constantValue? " \"10\"".toList =
      some (some "10".toList, none) from rfl))
  have hspec : IsSpec (strip "\tMaxUsers = \"10\"".toList) ⟨"MaxUsers".toList, none, true⟩ :=
    huntyped
  refine ⟨by decide +kernel, ?_, by decide +kernel, by decide +kernel, by decide +kernel⟩
  exact .spec isSpec_roleAdmin (.spec hspec .nil)

end SchemaViews.GoSource
