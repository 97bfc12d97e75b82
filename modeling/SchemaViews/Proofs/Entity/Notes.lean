import SchemaViews.Proofs.Entity.Rules

/-!
# What is noted while an entity is read

The notes of an entity are about its directives and their arguments: what was given twice, is
unknown, stands in the wrong place, or overrides a default. Nothing is noted about names that are
taken or that are no names, which only a schema shows.
-/

namespace SchemaViews

/-- What can be noted about a directive and its arguments. -/
def Cause.IsNote : Cause → Prop
  | .duplicateArgument .. | .unknownOption .. | .unknownOptionOn .. | .optionWithoutValue ..
  | .misplaced .. | .wrongKind .. | .nameless .. | .overriddenDefault .. => True
  | _ => False

theorem Cause.IsNote.kind_ne {cause : Cause} (h : cause.IsNote) :
    cause.kind ≠ .duplicateViewName := by
  cases cause <;> first | exact h.elim | exact fun hkind => by cases hkind

def AreNotes (causes : List Cause) : Prop :=
  ∀ cause ∈ causes, cause.IsNote

namespace AreNotes

variable {causes others : List Cause}

theorem nil : AreNotes [] := by
  intro cause hmem
  cases hmem

theorem append (h : AreNotes causes) (hothers : AreNotes others) : AreNotes (causes ++ others) := by
  intro cause hmem
  rcases List.mem_append.1 hmem with hfirst | hsecond
  · exact h cause hfirst
  · exact hothers cause hsecond

theorem add (h : AreNotes causes) {cause : Cause} (hcause : cause.IsNote) :
    AreNotes (causes ++ [cause]) := by
  refine h.append fun other hmem => ?_
  rwa [List.mem_singleton.1 hmem]

theorem duplicateCauses (directive : Directive) : AreNotes directive.duplicateCauses := by
  intro cause hmem
  obtain ⟨key, -, rfl⟩ := List.mem_map.1 hmem
  trivial

end AreNotes

namespace Heading

variable {settings : Settings} {declaration : Declaration} {heading : Heading}

theorem areNotes_addBinding (h : AreNotes heading.causes) (directive : Directive)
    (kind : ViewKind) :
    AreNotes (heading.addBinding settings declaration directive kind).causes := by
  unfold addBinding
  split
  · exact h.add trivial
  · refine foldl_bindingOption_induction (motive := fun heading => AreNotes heading.causes) ?_ ?_ ?_
      directive.options h
    · exact fun _ _ _ hnotes => hnotes
    · exact fun _ _ _ hnotes => hnotes.add trivial
    · exact fun _ _ hnotes => hnotes.add trivial

theorem areNotes_take (h : AreNotes heading.causes) (directive : Directive) :
    AreNotes (heading.take settings declaration directive).causes := by
  have hnoted : AreNotes (heading.causes ++ directive.duplicateCauses) :=
    h.append (.duplicateCauses directive)
  unfold take
  simp only
  split
  · exact areNotes_addBinding hnoted directive _
  · split
    · exact hnoted
    · split
      · unfold setNamespace
        split
        · exact hnoted
        · exact hnoted.add trivial
      · exact hnoted
      · exact hnoted.add trivial

theorem areNotes_foldl_take (directives : List Directive) :
    AreNotes (directives.foldl (take settings declaration) {}).causes := by
  refine List.foldlRecOn (motive := fun heading : Heading => AreNotes heading.causes) directives
    _ .nil ?_
  intro heading h directive _
  exact areNotes_take h directive

end Heading

namespace Field

theorem areNotes_takeOption {state : Field × List Cause} (h : AreNotes state.2)
    (argument : Directive.Argument) : AreNotes (takeOption state argument).2 := by
  unfold takeOption
  simp only
  split
  · exact h
  · exact h
  · exact h.add trivial
  · exact h.add trivial

theorem areNotes_foldl_takeOption {state : Field × List Cause} (h : AreNotes state.2)
    (arguments : List Directive.Argument) : AreNotes (arguments.foldl takeOption state).2 := by
  refine List.foldlRecOn (motive := fun state : Field × List Cause => AreNotes state.2) arguments
    _ h ?_
  intro state hstate argument _
  exact areNotes_takeOption hstate argument

theorem areNotes_take {state : Field × List Cause} (h : AreNotes state.2) (directive : Directive) :
    AreNotes (take state directive).2 := by
  have hfound : AreNotes (state.1.takeDirective directive).2 := by
    unfold takeDirective
    split
    · exact areNotes_foldl_takeOption .nil _
    · exact areNotes_foldl_takeOption .nil _
  unfold take
  simp only
  split
  · exact (h.append (.duplicateCauses directive)).append hfound
  · exact h.add trivial

theorem areNotes_of_ofMember {settings : Settings} {mapping : TypeMapping}
    {declaration : Declaration} {member : Member} {read : Field × List Cause}
    (h : ofMember settings mapping declaration member = .ok read) :
    AreNotes read.2 := by
  obtain ⟨directives, -, rfl⟩ := exists_of_ofMember h
  refine List.foldlRecOn (motive := fun state : Field × List Cause => AreNotes state.2) directives
    _ .nil ?_
  intro state hstate directive _
  exact areNotes_take hstate directive

theorem areNotes_of_ofExtra {directive : Directive} {access : Access} {read : Field × List Cause}
    (h : ofExtra directive access = some read) : AreNotes read.2 := by
  obtain ⟨name, -, rfl⟩ := Option.map_eq_some_iff.1 h
  exact areNotes_foldl_takeOption .nil _

end Field

namespace EnumValue

theorem areNotes_takeOption {draft : Draft} (h : AreNotes draft.causes)
    (argument : Directive.Argument) : AreNotes (draft.takeOption argument).causes := by
  unfold Draft.takeOption
  simp only
  split
  · exact h
  · split
    · exact h
    · split
      · exact h
      · split
        · exact h
        · exact h.add trivial

theorem areNotes_take {draft : Draft} (h : AreNotes draft.causes) (directive : Directive) :
    AreNotes (draft.take directive).causes := by
  unfold Draft.take
  split
  · refine List.foldlRecOn (motive := fun draft : Draft => AreNotes draft.causes) directive.options
      _ (h.append (.duplicateCauses directive)) ?_
    intro state hstate argument _
    exact areNotes_takeOption hstate argument
  · exact h.add trivial

theorem areNotes_of_ofMember {declaration : Declaration} {member : Member} {draft : Draft}
    (h : ofMember declaration member = .ok draft) : AreNotes draft.causes := by
  obtain ⟨directives, -, rfl⟩ := exists_of_ofMember h
  refine List.foldlRecOn (motive := fun draft : Draft => AreNotes draft.causes) directives _ .nil ?_
  intro state hstate directive _
  exact areNotes_take hstate directive

end EnumValue

namespace Entity

theorem isNote_of_mem_issuesOf {entity : String} {member : Option String} {causes : List Cause}
    (h : AreNotes causes) {issue : Issue}
    (hmem : issue ∈ issuesOf entity member causes) : issue.cause.IsNote := by
  obtain ⟨cause, hcause, rfl⟩ := List.mem_map.1 hmem
  exact h cause hcause

theorem isNote_of_mem_extraFields {entity : String} {extras : List Directive} {issue : Issue}
    (hmem : issue ∈ (extraFields entity extras).2) : issue.cause.IsNote := by
  obtain ⟨found, hfound, hissue⟩ := List.mem_flatMap.1 hmem
  obtain ⟨directive, -, hdirective⟩ := List.mem_filterMap.1 hfound
  obtain ⟨access, -, rfl⟩ := Option.map_eq_some_iff.1 hdirective
  cases hextra : Field.ofExtra directive access with
  | none =>
      rw [hextra] at hissue
      have hnameless : AreNotes [.nameless directive.name] := AreNotes.nil.add trivial
      exact isNote_of_mem_issuesOf hnameless hissue
  | some read =>
      rw [hextra] at hissue
      exact isNote_of_mem_issuesOf (Field.areNotes_of_ofExtra hextra) hissue

theorem isNote_of_mem_addMembers {settings : Settings} {mapping : TypeMapping}
    {declaration : Declaration} {extras : List Directive} {entity built : Entity}
    (hnotes : ∀ issue ∈ entity.notes, issue.cause.IsNote)
    (h : addMembers settings mapping declaration extras entity = .ok built) :
    ∀ issue ∈ built.notes, issue.cause.IsNote := by
  rcases addMembers_cases h with ⟨-, drafts, hread, rfl⟩ | ⟨-, members, hread, rfl⟩
  · intro issue hmem
    rcases List.mem_append.1 hmem with hold | hnew
    · exact hnotes issue hold
    · obtain ⟨draft, hdraft, hissue⟩ := List.mem_flatMap.1 hnew
      obtain ⟨member, -, hok⟩ := exists_of_mem_readAll hread hdraft
      exact isNote_of_mem_issuesOf (EnumValue.areNotes_of_ofMember hok) hissue
  · intro issue hmem
    rcases List.mem_append.1 hmem with hmember | hextra
    · rcases List.mem_append.1 hmember with hold | hnew
      · exact hnotes issue hold
      · obtain ⟨read, hin, hissue⟩ := List.mem_flatMap.1 hnew
        obtain ⟨member, -, hok⟩ := exists_of_mem_readAll hread hin
        exact isNote_of_mem_issuesOf (Field.areNotes_of_ofMember hok) hissue
    · exact isNote_of_mem_extraFields hextra

theorem IsBuilt.isNote {entity : Entity} (h : entity.IsBuilt) :
    ∀ issue ∈ entity.notes, issue.cause.IsNote := by
  obtain ⟨settings, declaration, order, hbuilt⟩ := h
  obtain ⟨directives, -, ⟨-, rfl⟩ | ⟨-, hmembers⟩⟩ := ofDeclaration_cases hbuilt
  · intro issue hmem
    cases hmem
  · refine isNote_of_mem_addMembers (fun issue hmem => ?_) hmembers
    exact isNote_of_mem_issuesOf (Heading.areNotes_foldl_take _) hmem

end Entity

end SchemaViews
