import SchemaViews.Proofs.Entity.FieldNames
import SchemaViews.Proofs.Entity.Rules
import SchemaViews.Proofs.Entity.WellKinded
import SchemaViews.Proofs.Schema.Names

/-!
# Default names of values

A value that no directive names has the name of its literal, if that can be a GraphQL name, and
otherwise what the name of the type leaves of its declared name. The latter is a GraphQL name
unless it begins with a digit.
-/

namespace SchemaViews

open SchemaViews.Directive (Argument ofAnnotation ofAnnotation_eq_ok_iff)
open SchemaViews.Text

namespace Directive

/-- Whether an argument gives a value of an enum a name. -/
def Argument.namesValue (argument : Argument) : Bool :=
  lowered argument.key == "name" && (nonempty argument.text?).isSome

def namesValue (directive : Directive) : Bool :=
  directive.name = .enumValue && directive.options.any Argument.namesValue

end Directive

def Member.isNamed (member : Member) : Bool :=
  match ofAnnotation member.rawAnnotation.toList none with
  | .error _ => false
  | .ok directives => directives.any Directive.namesValue

namespace Naming

variable {name : String}

def startsWithDigit (text : List Char) : Bool :=
  text.head?.any Char.isDigit

theorem ne_nil_of_isName {text : List Char} (h : isName text = true) : text ≠ [] := by
  rintro rfl
  cases h

theorem isName_iff_of_isNameChar {text : List Char} (h : ∀ c ∈ text, isNameChar c = true)
    (hne : text ≠ []) : isName text = true ↔ startsWithDigit text = false := by
  cases text with
  | nil => exact absurd rfl hne
  | cons c text =>
      obtain ⟨hc, hrest⟩ := List.forall_mem_cons.1 h
      rw [isName, List.all_eq_true.2 hrest, Bool.and_true, startsWithDigit, List.head?_cons,
        Option.any_some]
      apply of_isNameChar hc
      decide +kernel

theorem isDigit_toLower {c : Char} (h : isNameChar c = true) : c.toLower.isDigit = c.isDigit := by
  apply of_isNameChar h
  decide +kernel

theorem isDigit_toUpper {c : Char} (h : isNameChar c = true) : c.toUpper.isDigit = c.isDigit := by
  apply of_isNameChar h
  decide +kernel

theorem toList_uppered (h : ∀ c ∈ name.toList, isNameChar c = true) :
    (uppered name).toList = name.toList.map Char.toUpper := by
  rw [uppered, String.toList_ofList, upper, ← List.flatMap_pure_eq_map]
  apply List.flatMap_congr
  intro c hc
  rw [upperChar, if_pos (toNat_lt_of_isNameChar (h c hc))]
  rfl

theorem isName_uppered_iff (h : ∀ c ∈ name.toList, isNameChar c = true) (hne : name.toList ≠ []) :
    isName (uppered name).toList = true ↔ startsWithDigit name.toList = false := by
  rw [toList_uppered h, isName_iff_of_isNameChar]
  · cases hname : name.toList with
    | nil => exact absurd hname hne
    | cons c rest =>
        rw [hname, List.forall_mem_cons] at h
        rw [startsWithDigit, List.map_cons, List.head?_cons, Option.any_some, isDigit_toUpper h.1]
        rfl
  · rw [List.forall_mem_map]
    exact fun c hc => isNameChar_toUpper (h c hc)
  · simpa using hne

theorem isName_upperSnakeCase_iff (h : ∀ c ∈ name.toList, isNameChar c = true)
    (hne : name.toList ≠ []) :
    isName (upperSnakeCase name).toList = true ↔ startsWithDigit name.toList = false := by
  have hchars : ∀ c ∈ (snakeCase name).toList, isNameChar c = true :=
    fun c hc => (isNameChar_snakeCase h c hc).1
  have hhead := head?_snakeCase h
  cases hname : name.toList with
  | nil => exact absurd hname hne
  | cons c rest =>
      rw [hname, List.head?_cons, Option.map_some] at hhead
      have hsnake : (snakeCase name).toList ≠ [] := by
        intro hnil
        rw [hnil] at hhead
        cases hhead
      have hc : isNameChar c = true := h c (hname ▸ List.mem_cons_self)
      have hdigit : startsWithDigit (snakeCase name).toList = startsWithDigit (c :: rest) := by
        rw [startsWithDigit, hhead, Option.any_some, isDigit_toLower hc]
        rfl
      rw [upperSnakeCase, isName_uppered_iff hchars hsnake, hdigit]

end Naming

namespace EnumValue

theorem isJoint_of_mem_joinWords {afterJoint : Bool} {text : List Char} :
    ∀ c ∈ joinWords afterJoint text, isJoint c = false := by
  fun_induction joinWords afterJoint text with
  | case1 => exact List.forall_mem_nil _
  | case2 c rest _ ih => exact ih
  | case3 afterJoint c rest _ _ ih => exact List.forall_mem_cons.2 ⟨rfl, ih⟩
  | case4 afterJoint c rest hc ih => exact List.forall_mem_cons.2 ⟨Bool.eq_false_iff.2 hc, ih⟩

/-- The words of a literal joined by underscores. -/
def candidate (literal : Option String) : String :=
  String.ofList (joinWords false (strip (literal.getD "").toList))

/-- No newline is left in a candidate, so what is let through is a name. -/
theorem admits_candidate (literal : Option String) :
    Naming.admits (candidate literal) = Naming.isName (candidate literal).toList := by
  have hnewline : '\n' ∉ (candidate literal).toList := by
    rw [candidate, String.toList_ofList]
    intro hmem
    cases isJoint_of_mem_joinWords _ hmem
  rw [Naming.admits, Naming.dropNewline_of_notMem hnewline, Bool.or_self]

theorem nameFor_eq (literal : Option String) (declaredName typeName : String) :
    nameFor literal declaredName typeName =
      if Naming.isName (candidate literal).toList then uppered (candidate literal)
      else Naming.upperSnakeCase (dropTypeName declaredName typeName) := by
  rw [← admits_candidate]
  rfl

/-- What the name of a type leaves of a name is an end of it, and not empty. -/
theorem dropTypeName_suffix {declaredName : String} (hne : declaredName.toList ≠ [])
    (typeName : String) :
    (dropTypeName declaredName typeName).toList <:+ declaredName.toList ∧
    (dropTypeName declaredName typeName).toList ≠ [] := by
  rw [dropTypeName]
  split
  · rename_i hlonger
    rw [Bool.and_eq_true, decide_eq_true_eq] at hlonger
    rw [String.toList_ofList]
    refine ⟨List.drop_suffix _ _, ?_⟩
    rw [ne_eq, List.drop_eq_nil_iff, String.length_toList]
    omega
  · exact ⟨List.suffix_rfl, hne⟩

/-- The default name of a value is a GraphQL name if its literal makes one, or if the name of the
type does not leave a digit in front. -/
theorem isName_nameFor_iff (literal : Option String) {declaredName : String} (typeName : String)
    (h : Naming.isName declaredName.toList = true) :
    Naming.isName (nameFor literal declaredName typeName).toList = true ↔
      Naming.isName (candidate literal).toList = true ∨
        Naming.startsWithDigit (dropTypeName declaredName typeName).toList = false := by
  rw [nameFor_eq]
  split
  · rename_i hliteral
    have hchars : ∀ c ∈ (candidate literal).toList, Naming.isNameChar c = true :=
      fun c hc => Document.isNameChar_of_isName hliteral hc
    have hcandidate : (candidate literal).toList ≠ [] := Naming.ne_nil_of_isName hliteral
    rw [Naming.isName_uppered_iff hchars hcandidate, ← Naming.isName_iff_of_isNameChar hchars
      hcandidate]
    exact iff_of_true hliteral (.inl hliteral)
  · rename_i hliteral
    obtain ⟨hsuffix, hrest⟩ := dropTypeName_suffix (Naming.ne_nil_of_isName h) typeName
    rw [Naming.isName_upperSnakeCase_iff
      (fun c hc => Document.isNameChar_of_isName h (hsuffix.subset hc)) hrest,
      or_iff_right hliteral]

theorem name_takeOption {argument : Argument} (h : argument.namesValue = false) (draft : Draft) :
    (draft.takeOption argument).value.name = draft.value.name := by
  unfold Draft.takeOption
  simp only
  split
  · rfl
  · split
    · rfl
    · split
      · rename_i name hname
        split at hname
        · rename_i hkey
          rw [Directive.Argument.namesValue, hkey, hname] at h
          cases h
        · cases hname
      · split <;> rfl

theorem name_take {directive : Directive} (h : directive.namesValue = false) (draft : Draft) :
    (draft.take directive).value.name = draft.value.name := by
  by_cases hname : directive.name = .enumValue
  · rw [Directive.namesValue, decide_eq_true hname, Bool.true_and, List.any_eq_false] at h
    rw [Draft.take, if_pos hname]
    refine List.foldlRecOn (motive := fun read : Draft => read.value.name = draft.value.name)
      directive.options _ rfl ?_
    intro read hread argument hargument
    rw [name_takeOption (Bool.eq_false_iff.2 (h argument hargument)), hread]
  · rw [Draft.take, if_neg hname]

theorem name_of_ofMember {declaration : Declaration} {member : Member} {draft : Draft}
    (h : ofMember declaration member = .ok draft) (hnamed : member.isNamed = false) :
    draft.value.name = nameFor member.value member.declaredName declaration.declaredName := by
  obtain ⟨directives, hread, rfl⟩ := exists_of_ofMember h
  rw [Member.isNamed, ofAnnotation_eq_ok_iff.1 hread] at hnamed
  have hnone : ∀ directive ∈ directives, directive.namesValue = false := by
    intro directive hdirective
    exact Bool.eq_false_iff.2 (List.any_eq_false.1 hnamed directive hdirective)
  have hplain : (plain declaration.declaredName member).name =
      nameFor member.value member.declaredName declaration.declaredName := by rw [plain]
  rw [← hplain]
  generalize plain declaration.declaredName member = first
  refine List.foldlRecOn (motive := fun read : Draft => read.value.name = first.name) directives
    _ rfl ?_
  intro read hread directive hdirective
  rw [name_take (hnone directive hdirective), hread]

end EnumValue

namespace Entity

theorem exists_member_of_mem_values {settings : Settings} {declaration : Declaration} {order : Int}
    {entity : Entity} (h : ofDeclaration settings declaration order = .ok entity)
    {value : EnumValue} (hvalue : value ∈ entity.values) :
    ∃ member ∈ declaration.members, ∃ draft, EnumValue.ofMember declaration member = .ok draft ∧
      draft.value = value := by
  obtain ⟨directives, -, ⟨-, rfl⟩ | ⟨-, hmembers⟩⟩ := ofDeclaration_cases h
  · cases hvalue
  · rcases addMembers_cases hmembers with ⟨-, drafts, hread, rfl⟩ | ⟨-, read, -, rfl⟩
    · obtain ⟨draft, hdraft, rfl⟩ := List.mem_map.1 hvalue
      obtain ⟨member, hmember, hok⟩ := exists_of_mem_readAll hread (List.mem_of_mem_filter hdraft)
      exact ⟨member, hmember, draft, hok, rfl⟩
    · cases hvalue

end Entity

/-- A value of an entity whose constants have names in ASCII, if no directive names it, has
a valid name exactly if its literal makes one or the name of its type leaves no digit in
front of its declared name. -/
theorem default_valueNames_are_valid_iff {settings : Settings} {declaration : Declaration}
    {order : Int} {entity : Entity}
    (hnames : ∀ member ∈ declaration.members, Naming.isName member.declaredName.toList = true)
    (hentity : Entity.ofDeclaration settings declaration order = .ok entity) :
    ∀ value ∈ entity.values, ∃ member ∈ declaration.members, ∃ draft,
      EnumValue.ofMember declaration member = .ok draft ∧ draft.value = value ∧
        (member.isNamed = false → (Naming.isName value.name.toList = true ↔
          Naming.isName (EnumValue.candidate member.value).toList = true ∨
            Naming.startsWithDigit
              (EnumValue.dropTypeName member.declaredName declaration.declaredName).toList =
                false)) := by
  intro value hvalue
  obtain ⟨member, hmember, draft, hread, rfl⟩ := Entity.exists_member_of_mem_values hentity hvalue
  refine ⟨member, hmember, draft, hread, rfl, fun hnamed => ?_⟩
  rw [EnumValue.name_of_ofMember hread hnamed]
  exact EnumValue.isName_nameFor_iff member.value declaration.declaredName (hnames member hmember)

def rankDeclaration : Declaration where
  kind := .enum
  declaredName := "Rank"
  members :=
    [{ declaredName := "Rank2", value := some " second - rank" },
      { declaredName := "RankHTTPServer" },
      { declaredName := "Rank", rawAnnotation := "@GqlEnumValue(description:\"Any\")" }]

def rank : Entity where
  kind := .enum
  declaredName := "Rank"
  bindings := [⟨"Rank", .enum, none, 0⟩]
  values :=
    [{ name := "SECOND_RANK", literal := " second - rank", declaredName := "Rank2" },
      { name := "HTTP_SERVER", literal := "RankHTTPServer", declaredName := "RankHTTPServer" },
      { name := "RANK", literal := "Rank", declaredName := "Rank", description := some "Any" }]

theorem default_valueNames_are_valid_iff_rank :
    (∀ member ∈ rankDeclaration.members, Naming.isName member.declaredName.toList = true) ∧
      Entity.ofDeclaration {} rankDeclaration 0 = .ok rank ∧
      ∀ value ∈ rank.values, ∃ member ∈ rankDeclaration.members, ∃ draft,
        EnumValue.ofMember rankDeclaration member = .ok draft ∧ draft.value = value ∧
          (member.isNamed = false → (Naming.isName value.name.toList = true ↔
            Naming.isName (EnumValue.candidate member.value).toList = true ∨
              Naming.startsWithDigit (EnumValue.dropTypeName member.declaredName "Rank").toList =
                false)) := by
  have hnames : ∀ member ∈ rankDeclaration.members,
      Naming.isName member.declaredName.toList = true := by decide
  have hentity : Entity.ofDeclaration {} rankDeclaration 0 = .ok rank := by decide +kernel
  exact ⟨hnames, hentity, default_valueNames_are_valid_iff hnames hentity⟩

def levelDeclaration : Declaration where
  kind := .enum
  declaredName := "Level"
  members := [{ declaredName := "Level1" }]

def level : Entity where
  kind := .enum
  declaredName := "Level"
  bindings := [⟨"Level", .enum, none, 0⟩]
  values := [{ name := "1", literal := "Level1", declaredName := "Level1" }]

/-- Only the number is left of its name, and that is no GraphQL name. -/
theorem default_valueName_may_be_number :
    Naming.isName levelDeclaration.declaredName.toList = true ∧
      (∀ member ∈ levelDeclaration.members,
        Naming.isName member.declaredName.toList = true ∧ member.isNamed = false) ∧
      Entity.ofDeclaration {} levelDeclaration 0 = .ok level ∧
      ∀ value ∈ level.values, value.name = "1" ∧ Naming.isName value.name.toList = false :=
  ⟨by decide, by decide +kernel, by decide +kernel, by decide⟩

end SchemaViews
