import SchemaViews.Proofs.Directive.KeyCase
import SchemaViews.Proofs.Entity.FieldNames

/-!
# Names that stand in field directives

A bare argument that is no option can name its field, or omit it if it is a dash. It does so at the
head of a directive only: anywhere else it is an unknown option and says nothing.
-/

namespace SchemaViews

open SchemaViews.Directive (Argument ofAnnotation)
open SchemaViews.Policy (isFlagOption flagSetting? isResolverOption readOption)
open SchemaViews.Text

namespace Directive.Argument

/-- The argument is bare and no option. -/
def isPositional (argument : Argument) : Bool :=
  argument.isFlag && !isFlagOption argument.key

/-- The argument can name a field. -/
def isNaming (argument : Argument) : Bool :=
  argument.isPositional && argument.key != "-"

def isDash (argument : Argument) : Bool :=
  argument.isPositional && argument.key == "-"

def rule? (argument : Argument) : Option Rule :=
  match readOption argument with
  | .rule rule => some rule
  | _ => none

variable {argument : Argument}

theorem isPositional_of_isNaming (h : argument.isNaming = true) : argument.isPositional = true := by
  rw [isNaming, Bool.and_eq_true] at h
  exact h.1

theorem isDash_of_isNaming (h : argument.isNaming = true) : argument.isDash = false := by
  rw [isNaming, Bool.and_eq_true, bne_iff_ne] at h
  rw [isDash, Bool.and_eq_false_iff, beq_eq_false_iff_ne]
  exact .inr h.2

theorem rule?_eq_none (h : argument.isPositional = true) : argument.rule? = none := by
  rw [isPositional, Bool.and_eq_true, Bool.not_eq_true', isFlagOption] at h
  simp only [Bool.or_eq_false_iff, Option.isSome_eq_false_iff, Option.isNone_iff_eq_none] at h
  obtain ⟨hflag, ⟨hsetting, hresolver⟩, hdeprecated⟩ := h
  have htext : argument.text? = none := by
    rw [text?, Option.isNone_iff_eq_none.1 hflag]
  have hread : readOption argument = .missingValue ∨ readOption argument = .unknown := by
    unfold readOption
    simp only [hresolver, hsetting, htext, hdeprecated, Bool.false_eq_true, if_false]
    split
    · exact .inl rfl
    · exact .inr rfl
  rcases hread with hread | hread <;> rw [rule?, hread]

end Directive.Argument

namespace Field

theorem rules_foldl_takeOption (arguments : List Argument) (state : Field × List Cause) :
    (arguments.foldl takeOption state).1.rules =
      state.1.rules ++ arguments.filterMap Argument.rule? := by
  induction arguments generalizing state with
  | nil => exact (List.append_nil _).symm
  | cons argument arguments ih =>
      rw [List.foldl_cons, ih, List.filterMap_cons]
      unfold takeOption Argument.rule?
      cases readOption argument with
      | rule rule => exact List.append_assoc state.1.rules [rule] _
      | forceResolver | missingValue | unknown => rfl

def omission : Rule :=
  ⟨.inclusion false, none, "-"⟩

/-- The rules that some arguments are read into. -/
def rulesOf (arguments : List Argument) : List Rule :=
  (if arguments.head?.any Argument.isDash then [omission] else []) ++
    arguments.filterMap Argument.rule?

section Distinct

variable {directive : Directive} (hdistinct : (directive.arguments.map (·.key)).Nodup)

include hdistinct

theorem positional?_eq :
    positional? directive = directive.arguments.head?.filter Argument.isPositional := by
  have hoptions : directive.options = directive.arguments := Directive.keepLast_eq_self hdistinct
  rw [positional?, hoptions]
  cases directive.arguments with
  | nil => rfl
  | cons first rest =>
      have hmem : (first :: rest).contains first = true :=
        List.contains_iff_mem.2 List.mem_cons_self
      simp only [List.head?_cons, hmem, Bool.and_true]
      rfl

theorem takeDirective_eq (field : Field) :
    field.takeDirective directive =
      match directive.arguments.head?.filter Argument.isPositional with
      | some first => directive.arguments.tail.foldl takeOption (field.rename first.key, [])
      | none => directive.arguments.foldl takeOption (field, []) := by
  have hoptions : directive.options = directive.arguments := Directive.keepLast_eq_self hdistinct
  rw [takeDirective, positional?_eq hdistinct, hoptions]
  cases hhead : directive.arguments.head?.filter Argument.isPositional with
  | none => rfl
  | some first =>
      obtain ⟨rest, hrest⟩ := List.head?_eq_some_iff.1 (Option.filter_eq_some_iff.1 hhead).1
      rw [hrest]
      simp only [List.erase_cons_head, List.tail_cons]

theorem outputName_takeDirective (field : Field) :
    (field.takeDirective directive).1.outputName =
      ((directive.arguments.head?.filter Argument.isNaming).map (·.key)).getD field.outputName := by
  rw [takeDirective_eq hdistinct]
  cases directive.arguments with
  | nil => rfl
  | cons first rest =>
      simp only [List.head?_cons, Option.filter_some]
      by_cases hpositional : first.isPositional = true
      · rw [if_pos hpositional]
        simp only [outputName_foldl_takeOption]
        by_cases hdash : first.key = "-"
        · simp [rename, Argument.isNaming, hpositional, hdash]
        · simp [rename, Argument.isNaming, hpositional, hdash]
      · simp only [if_neg hpositional, outputName_foldl_takeOption]
        simp [Argument.isNaming, hpositional]

theorem rules_takeDirective (field : Field) :
    (field.takeDirective directive).1.rules = field.rules ++ rulesOf directive.arguments := by
  rw [takeDirective_eq hdistinct, rulesOf]
  cases directive.arguments with
  | nil => exact (List.append_nil _).symm
  | cons first rest =>
      simp only [List.head?_cons, Option.filter_some, Option.any_some, List.tail_cons]
      by_cases hpositional : first.isPositional = true
      · rw [if_pos hpositional, List.filterMap_cons, Argument.rule?_eq_none hpositional]
        simp only [rules_foldl_takeOption]
        by_cases hdash : first.key = "-"
        · simp [rename, Argument.isDash, hpositional, hdash, omission]
        · simp [rename, Argument.isDash, hpositional, hdash]
      · simp only [if_neg hpositional, rules_foldl_takeOption]
        simp [Argument.isDash, hpositional]

end Distinct

theorem fst_foldl_take (directives : List Directive) (state : Field × List Cause) :
    (directives.foldl take state).1 =
      (directives.filter fun directive => directive.name = .field).foldl
        (fun field directive => (field.takeDirective directive).1) state.1 := by
  induction directives generalizing state with
  | nil => rfl
  | cons directive directives ih =>
      rw [List.foldl_cons, ih, List.filter_cons]
      unfold take
      by_cases hname : directive.name = .field
      · simp only [hname, decide_true, if_true, List.foldl_cons]
      · simp only [hname, decide_false, Bool.false_eq_true, if_false]

variable {arguments : List Argument} {argument : Argument}

theorem filterMap_rule?_erase (hnaming : argument.isNaming = true) (hmem : argument ∈ arguments) :
    (arguments.erase argument).filterMap Argument.rule? = arguments.filterMap Argument.rule? := by
  obtain ⟨before, after, -, harguments, herase⟩ := List.exists_erase_eq hmem
  have hnone := Argument.rule?_eq_none (Argument.isPositional_of_isNaming hnaming)
  calc
    (arguments.erase argument).filterMap Argument.rule? =
        before.filterMap Argument.rule? ++ after.filterMap Argument.rule? := by
      rw [herase, List.filterMap_append]
    _ = (before ++ argument :: after).filterMap Argument.rule? := by
      rw [List.filterMap_append, List.filterMap_cons, hnone]
    _ = arguments.filterMap Argument.rule? := by rw [harguments]

/-- Without an argument that can name a field the rules are the same, unless a dash comes
to the head in its place. -/
theorem rulesOf_erase_iff (hfound : arguments.find? Argument.isNaming = some argument) :
    rulesOf arguments = rulesOf (arguments.erase argument) ↔
      ¬(arguments.head? = some argument ∧ arguments[1]?.any Argument.isDash = true) := by
  have hnaming : argument.isNaming = true := List.find?_some hfound
  have hmem := List.mem_of_find?_eq_some hfound
  rw [rulesOf, rulesOf, filterMap_rule?_erase hnaming hmem, List.append_left_inj]
  obtain ⟨first, rest, rfl⟩ := List.exists_cons_of_ne_nil (List.ne_nil_of_mem hmem)
  by_cases hhead : first = argument
  · subst hhead
    rw [List.erase_cons_head, List.head?_cons, Option.any_some, Argument.isDash_of_isNaming hnaming,
      List.getElem?_cons_succ, ← List.head?_eq_getElem?]
    cases rest.head?.any Argument.isDash with
    | false => simp
    | true => simp
  · rw [List.erase_cons_tail (by simpa using hhead), List.head?_cons, List.head?_cons]
    simp [hhead]

/-- The first argument that can name a field is the one that does, if it stands at the head
or its name is the default. -/
theorem name_at_head_iff (name : String) :
    ((arguments.head?.filter Argument.isNaming).map (·.key)).getD name =
        ((arguments.find? Argument.isNaming).map (·.key)).getD name ↔
      ∀ argument, arguments.find? Argument.isNaming = some argument →
        arguments.head? = some argument ∨ argument.key = name := by
  cases arguments with
  | nil => simp
  | cons first rest =>
      rw [List.head?_cons, Option.filter_some, List.find?_cons]
      cases hfirst : first.isNaming with
      | true => simp
      | false =>
          cases hfound : rest.find? Argument.isNaming with
          | none => simp
          | some argument =>
              have hother : first ≠ argument := by
                rintro rfl
                rw [List.find?_some hfound] at hfirst
                cases hfirst
              simp [hother, eq_comm]

end Field

/-- A bare argument that is no option names its field if and only if it stands at the head of the
directive, or says no other name than the field has anyway. To the rules it makes no difference,
unless a dash stands behind it. -/
theorem positional_names_count_at_head (settings : Settings) (mapping : TypeMapping)
    (declaration : Declaration) (member : Member) {directives : List Directive}
    {directive : Directive}
    (hread : ofAnnotation member.rawAnnotation.toList (some (declaration.memberUnit member)) =
      .ok directives)
    (hsingle : (directives.filter fun directive => directive.name = .field) = [directive])
    (hdistinct : (directive.arguments.map (·.key)).Nodup) :
    ∃ field causes, Field.ofMember settings mapping declaration member = .ok (field, causes) ∧
      field.outputName = ((directive.arguments.head?.filter Argument.isNaming).map (·.key)).getD
        (Field.nameFor settings member.declaredName) ∧
      (field.outputName = ((directive.arguments.find? Argument.isNaming).map (·.key)).getD
          (Field.nameFor settings member.declaredName) ↔
        ∀ argument, directive.arguments.find? Argument.isNaming = some argument →
          directive.arguments.head? = some argument ∨
          argument.key = Field.nameFor settings member.declaredName) ∧
      ∀ argument, directive.arguments.find? Argument.isNaming = some argument →
        (field.rules = ((Field.plain settings mapping member).takeDirective
            { directive with arguments := directive.arguments.erase argument }).1.rules ↔
          ¬(directive.arguments.head? = some argument ∧
            directive.arguments[1]?.any Argument.isDash = true)) := by
  obtain ⟨⟨field, causes⟩, hmember⟩ :
      ∃ read, Field.ofMember settings mapping declaration member = .ok read := by
    rw [Field.ofMember, hread]
    exact ⟨_, rfl⟩
  obtain ⟨found, hfound, hfield⟩ := Field.exists_of_ofMember hmember
  cases hread.symm.trans hfound
  have htaken : field = ((Field.plain settings mapping member).takeDirective directive).1 := by
    have hfst := Field.fst_foldl_take directives (Field.plain settings mapping member, [])
    rw [← hfield, hsingle] at hfst
    exact hfst
  have hname := Field.outputName_takeDirective hdistinct (Field.plain settings mapping member)
  refine ⟨field, causes, hmember, ?_, ?_, ?_⟩
  · rw [htaken, hname]
    rfl
  · rw [htaken, hname]
    exact Field.name_at_head_iff _
  · intro argument hargument
    have hrest : ((directive.arguments.erase argument).map (·.key)).Nodup :=
      hdistinct.sublist (List.erase_sublist.map _)
    rw [htaken, Field.rules_takeDirective hdistinct, Field.rules_takeDirective hrest,
      List.append_right_inj]
    exact Field.rulesOf_erase_iff hargument

def loginDeclaration : Declaration where
  kind := .object
  declaredName := "Login"

def emailMember (written : String) : Member where
  declaredName := "Email"
  declaredType := "string"
  rawAnnotation := written

def mailDirective : Directive where
  name := .field
  arguments :=
    [{ key := "mail", position := 13 }, { key := "required", position := 19 },
      { key := "ro", value := some (.list ["Admin"]), position := 29, raw := some "[Admin]" }]
  position := 3

theorem positional_names_count_at_head_mail :
    ofAnnotation "// @GqlField(mail, required, ro:[Admin]) @GqlType".toList (some "Login.Email") =
        .ok [mailDirective, { name := .type, position := 41 }] ∧
      (mailDirective.arguments.map (·.key)).Nodup ∧
      mailDirective.arguments.find? Argument.isNaming = some { key := "mail", position := 13 } ∧
      ∃ field causes, Field.ofMember {} ⟨TypeMapping.defaults⟩ loginDeclaration
          (emailMember "// @GqlField(mail, required, ro:[Admin]) @GqlType") = .ok (field, causes) ∧
        field.outputName = "mail" ∧ field.rules =
          [⟨.required true, none, "required"⟩, ⟨.access .readOnly, some ["Admin"], "ro"⟩] := by
  have hread :
      ofAnnotation "// @GqlField(mail, required, ro:[Admin]) @GqlType".toList (some "Login.Email") =
        .ok [mailDirective, { name := .type, position := 41 }] := by decide +kernel
  have hdistinct : (mailDirective.arguments.map (·.key)).Nodup := by decide
  have hfirst : mailDirective.arguments.find? Argument.isNaming =
      some { key := "mail", position := 13 } := by decide
  obtain ⟨field, causes, hmember, hname, -, hrules⟩ :=
    positional_names_count_at_head {} ⟨TypeMapping.defaults⟩
    loginDeclaration (emailMember "// @GqlField(mail, required, ro:[Admin]) @GqlType") hread rfl
    hdistinct
  refine ⟨hread, hdistinct, hfirst, field, causes, hmember, hname.trans (by decide), ?_⟩
  exact ((hrules _ hfirst).2 (by decide)).trans (by decide +kernel)

/-- Behind an option the name is lost, and behind a name the dash. -/
theorem arguments_behind_head_are_lost :
    (∃ directive field causes, ofAnnotation "gql:\"ro,mail\"".toList (some "Login.Email") =
      .ok [directive] ∧ directive.name = .field ∧ (directive.arguments.map (·.key)).Nodup ∧
        (directive.arguments.find? Argument.isNaming).map (·.key) = some "mail" ∧
        Field.ofMember {} ⟨TypeMapping.defaults⟩ loginDeclaration (emailMember "gql:\"ro,mail\"") =
          .ok (field, causes) ∧ field.outputName = "email") ∧
      ∃ directive argument field causes,
        ofAnnotation "gql:\"mail,-\"".toList (some "Login.Email") = .ok [directive] ∧
        directive.name = .field ∧ (directive.arguments.map (·.key)).Nodup ∧
        directive.arguments.find? Argument.isNaming = some argument ∧
        Field.ofMember {} ⟨TypeMapping.defaults⟩ loginDeclaration (emailMember "gql:\"mail,-\"") =
          .ok (field, causes) ∧
        field.rules ≠
          ((Field.plain {} ⟨TypeMapping.defaults⟩ (emailMember "gql:\"mail,-\"")).takeDirective
            { directive with arguments := directive.arguments.erase argument }).1.rules := by
  refine ⟨⟨{ name := .field, arguments := [{ key := "ro", position := 5 },
    { key := "mail", position := 8 }], fromTag := true },
      { declaredName := "Email", declaredType := "string", outputName := "email",
        scalarType := "String"
        rules := [⟨.access .readOnly, none, "ro"⟩] }, [.unknownOption "mail"], ?_⟩,
    ⟨{ name := .field, arguments := [{ key := "mail", position := 5 },
      { key := "-", position := 10 }], fromTag := true },
      { key := "mail", position := 5 },
      { declaredName := "Email", declaredType := "string", outputName := "mail",
        scalarType := "String" }, [.unknownOption "-"], ?_⟩⟩
  · decide +kernel
  · decide +kernel

end SchemaViews
