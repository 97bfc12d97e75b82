import SchemaViews.Entity.Declared
import SchemaViews.Proofs.Directive.Attribution

/-!
# The first fault of a declaration

A declaration is read from its own annotation on, and then member by member. The first
annotation that is malformed ends the reading, and the fault belongs to its unit. Of an ignored
declaration no member is read.
-/

namespace SchemaViews

open SchemaViews.Directive
  (SyntaxError ofAnnotation ofAnnotation_eq_ok_iff ofAnnotation_eq_error_iff)

/-- The fault of the first malformed annotation, attributed to its unit. -/
inductive Declaration.FirstFault (declaration : Declaration) : SyntaxError → Prop where
  | own {fault : SyntaxError}
      (hfault : ofAnnotation declaration.rawAnnotation.toList none = .error fault) :
      FirstFault declaration
        { fault with
          source := if declaration.unitName.isEmpty then none else some declaration.unitName }
  | member {directives : List Directive} {before after : List Member} {member : Member}
      {fault : SyntaxError}
      (hown : ofAnnotation declaration.rawAnnotation.toList none = .ok directives)
      (hread : ∀ directive ∈ directives, directive.name ≠ .ignoreAll)
      (hmembers : declaration.members = before ++ member :: after)
      (hbefore : ∀ earlier ∈ before, ∃ found,
        ofAnnotation earlier.rawAnnotation.toList none = .ok found)
      (hfault : ofAnnotation member.rawAnnotation.toList none = .error fault) :
      FirstFault declaration
      { fault with source := some (declaration.unitName ++ "." ++ member.declaredName) }

namespace Entity

section Reading

variable {α β γ ε : Type} {read : α → Except ε β} {items : List α} {error : ε}

theorem readAll_cons_eq_error_iff {first : α} {rest : List α} :
    readAll read (first :: rest) = .error error ↔
      read first = .error error ∨ (∃ value, read first = .ok value) ∧
    readAll read rest = .error error := by
  rw [readAll]
  cases hfirst : read first with
  | error fault => simp
  | ok value => simp [map_eq_error_iff]

theorem readAll_eq_error_iff : readAll read items = .error error ↔
    ∃ before item after, items = before ++ item :: after ∧
      (∀ earlier ∈ before, ∃ value, read earlier = .ok value) ∧ read item = .error error := by
  induction items with
  | nil =>
      refine ⟨nofun, ?_⟩
      rintro ⟨before, item, after, hcut, -⟩
      simp at hcut
  | cons first rest ih =>
      rw [readAll_cons_eq_error_iff, ih]
      constructor
      · rintro (hfirst | ⟨hread, before, item, after, rfl, hbefore, hitem⟩)
        · exact ⟨[], first, rest, rfl, List.forall_mem_nil _, hfirst⟩
        · exact ⟨first :: before, item, after, rfl, List.forall_mem_cons.2 ⟨hread, hbefore⟩, hitem⟩
      · rintro ⟨before, item, after, hcut, hbefore, hitem⟩
        cases before with
        | nil =>
            obtain ⟨rfl, -⟩ := List.cons.inj hcut
            exact .inl hitem
        | cons earlier before =>
            obtain ⟨rfl, rfl⟩ := List.cons.inj hcut
            obtain ⟨hread, hbefore⟩ := List.forall_mem_cons.1 hbefore
            exact .inr ⟨hread, before, item, after, rfl, hbefore, hitem⟩

theorem readAll_map_eq_error_iff {made : α → β → γ} :
    readAll (fun item => (read item).map (made item)) items = .error error ↔
      readAll read items = .error error := by
  have hok (item : α) : (∃ value, (read item).map (made item) = .ok value) ↔ ∃ value,
      read item = .ok value := by
    simp [map_eq_ok_iff]
  simp only [readAll_eq_error_iff, hok, map_eq_error_iff]

end Reading

variable {settings : Settings} {declaration : Declaration} {order : Int} {error : SyntaxError}

theorem addMembers_eq_error_iff {mapping : TypeMapping} {extras : List Directive}
    {entity : Entity} : addMembers settings mapping declaration extras entity = .error error ↔
      readAll (fun member : Member => ofAnnotation member.rawAnnotation.toList
        (some (declaration.memberUnit member))) declaration.members = .error error := by
  unfold addMembers
  cases declaration.kind with
  | enum =>
      simp only [map_eq_error_iff]
      exact readAll_map_eq_error_iff
  | object =>
      simp only [map_eq_error_iff]
      exact readAll_map_eq_error_iff

theorem isEmpty_memberUnit (declaration : Declaration) (member : Member) :
    (declaration.memberUnit member).isEmpty = false := by
  simp [Declaration.memberUnit]

theorem firstFault_of_malformed {fault : SyntaxError}
    (hown : ofAnnotation declaration.rawAnnotation.toList none = .error fault) :
    declaration.FirstFault error ↔
      error = { fault with
        source := if declaration.unitName.isEmpty then none else some declaration.unitName } := by
  constructor
  · intro h
    cases h with
    | own hfault => rw [Except.error.inj (hown.symm.trans hfault)]
    | member hother => cases hown.symm.trans hother
  · rintro rfl
    exact .own hown

theorem firstFault_of_wellFormed {directives : List Directive}
    (hown : ofAnnotation declaration.rawAnnotation.toList none = .ok directives) :
    declaration.FirstFault error ↔ (∀ directive ∈ directives, directive.name ≠ .ignoreAll) ∧
        readAll (fun member : Member =>
          ofAnnotation member.rawAnnotation.toList (some (declaration.memberUnit member)))
          declaration.members = .error error := by
  rw [readAll_eq_error_iff]
  constructor
  · intro h
    cases h with
    | own hfault => cases hown.symm.trans hfault
    | @member other before after member fault hother hread hmembers hbefore hfault =>
        obtain rfl := Except.ok.inj (hown.symm.trans hother)
        refine ⟨hread, before, member, after, hmembers, fun earlier hmem => ?_, ?_⟩
        · obtain ⟨found, hfound⟩ := hbefore earlier hmem
          exact ⟨found, ofAnnotation_eq_ok_iff.2 hfound⟩
        · refine ofAnnotation_eq_error_iff.2 ⟨fault, hfault, ?_⟩
          rw [isEmpty_memberUnit, if_neg Bool.false_ne_true]
          rfl
  · rintro ⟨hread, before, member, after, hmembers, hbefore, hreported⟩
    obtain ⟨fault, hfault, rfl⟩ := ofAnnotation_eq_error_iff.1 hreported
    rw [isEmpty_memberUnit, if_neg Bool.false_ne_true]
    refine .member hown hread hmembers (fun earlier hmem => ?_) hfault
    obtain ⟨found, hfound⟩ := hbefore earlier hmem
    exact ⟨found, ofAnnotation_eq_ok_iff.1 hfound⟩

/-- Reading a declaration ends with the fault of its first malformed
annotation, and with no other one. -/
theorem ofDeclaration_eq_error_iff :
    ofDeclaration settings declaration order = .error error ↔ declaration.FirstFault error := by
  unfold ofDeclaration
  cases hown : ofAnnotation declaration.rawAnnotation.toList (some declaration.unitName) with
  | error reported =>
      obtain ⟨fault, hfault, rfl⟩ := ofAnnotation_eq_error_iff.1 hown
      rw [firstFault_of_malformed hfault, Except.error.injEq, eq_comm]
  | ok directives =>
      rw [firstFault_of_wellFormed (ofAnnotation_eq_ok_iff.1 hown)]
      simp only
      split
      · rename_i hignored
        -- No member of an ignored declaration is read.
        obtain ⟨directive, hmem, hname⟩ := List.any_eq_true.1 hignored
        exact ⟨nofun, fun h => absurd (of_decide_eq_true hname) (h.1 directive hmem)⟩
      · rename_i hkept
        have hread : ∀ directive ∈ directives, directive.name ≠ .ignoreAll :=
          fun directive hmem hname =>
          hkept (List.any_eq_true.2 ⟨directive, hmem, decide_eq_true hname⟩)
        rw [addMembers_eq_error_iff, and_iff_right hread]

/-- The place of a declaration becomes the order of its entity, and decides nothing else. -/
theorem ofDeclaration_eq_map (settings : Settings) (declaration : Declaration) (order : Int) :
    ofDeclaration settings declaration order =
      (ofDeclaration settings declaration 0).map fun entity => { entity with order := order } := by
  unfold ofDeclaration
  cases ofAnnotation declaration.rawAnnotation.toList (some declaration.unitName) with
  | error fault => rfl
  | ok directives =>
      simp only
      split
      · rfl
      · unfold addMembers
        cases declaration.kind with
        | enum => cases readAll (EnumValue.ofMember declaration) declaration.members <;> rfl
        | object =>
            cases readAll (Field.ofMember settings settings.typeMapping declaration)
              declaration.members <;> rfl

end Entity

end SchemaViews
