import SchemaViews.Proofs.Directive.KeyCase
import SchemaViews.Proofs.Entity.WellKinded

/-!
# Entities of declarations with keys in another letter case

Each directive is read with one step of its own. All but two of the steps ignore the letter case of
keys. The name of a group, and the name and the type of an extra field, are looked up as they are
written, so that they are lost in another letter case.
-/

namespace SchemaViews

open SchemaViews.Directive (Argument RecasesKeys SyntaxError ofAnnotation readsAlike_forUnit)
open SchemaViews.Text

structure Member.IsRecased (member other : Member) : Prop where
  declaredName : member.declaredName = other.declaredName
  declaredType : member.declaredType = other.declaredType
  value : member.value = other.value
  annotation : RecasesKeys member.rawAnnotation other.rawAnnotation

/-- The declaration with the keys of all its annotations in another letter case. -/
structure Declaration.IsRecased (declaration other : Declaration) : Prop where
  kind : declaration.kind = other.kind
  declaredName : declaration.declaredName = other.declaredName
  source : declaration.source = other.source
  annotation : RecasesKeys declaration.rawAnnotation other.rawAnnotation
  members : List.Forall₂ Member.IsRecased declaration.members other.members

namespace Declaration.IsRecased

variable {declaration other : Declaration} (h : declaration.IsRecased other)

include h

theorem unitName_eq : declaration.unitName = other.unitName := by
  unfold unitName
  rw [h.source, h.declaredName]

theorem memberUnit_eq {member recased : Member} (hmember : member.IsRecased recased) :
    declaration.memberUnit member = other.memberUnit recased := by
  unfold memberUnit
  rw [h.unitName_eq, hmember.declaredName]

end Declaration.IsRecased

/-- No directive of the annotation gains or loses a key that is looked up as it is written. -/
def Declaration.KeepsLookups (declaration other : Declaration) : Prop :=
  ReadsAlike (List.Forall₂ Directive.KeepsLookups)
    (Directive.ofAnnotation declaration.rawAnnotation.toList none)
    (Directive.ofAnnotation other.rawAnnotation.toList none)

/-- The directive with its keys in another letter case, which keeps the lookups if `keeps` holds. -/
structure Directive.IsRecasedKeeping (keeps : Prop) (directive other : Directive) : Prop where
  recased : directive.IsRecased other
  lookups : keeps → directive.KeepsLookups other

theorem Declaration.IsRecased.readsAlike {declaration other : Declaration}
    (h : declaration.IsRecased other) :
    ReadsAlike (List.Forall₂ (Directive.IsRecasedKeeping (declaration.KeepsLookups other)))
      (Directive.ofAnnotation declaration.rawAnnotation.toList none)
        (Directive.ofAnnotation other.rawAnnotation.toList none) := by
  have hrecased := h.annotation
  unfold RecasesKeys at hrecased
  unfold Declaration.KeepsLookups
  generalize ofAnnotation declaration.rawAnnotation.toList none = result,
    ofAnnotation other.rawAnnotation.toList none = otherResult at hrecased
  cases hrecased with
  | error fault => exact .error fault
  | @ok directives others hdirectives =>
      refine .ok ?_
      -- the condition is about these two readings, so it holds of all
      -- their directives or is no help
      by_cases hkeeps :
        ReadsAlike (List.Forall₂ Directive.KeepsLookups) (.ok directives)
        (.ok others : Except SyntaxError _)
      · cases hkeeps with
        | ok hlookups =>
            exact .mp (fun _ _ hrecased hlookups => ⟨hrecased, fun _ => hlookups⟩)
              hdirectives hlookups
      · exact hdirectives.imp fun _ _ hrecased => ⟨hrecased, fun hkept => absurd hkept hkeeps⟩

namespace Heading

/-- The headings differ in notes only, and without `keeps` in what is looked up. -/
structure Agrees (keeps : Prop) (heading other : Heading) : Prop where
  bindings : heading.bindings = other.bindings
  defaults : heading.defaults = other.defaults
  group : keeps → heading.group = other.group
  extras : List.Forall₂ (Directive.IsRecasedKeeping keeps) heading.extras other.extras

variable {keeps : Prop} {heading other : Heading}

theorem Agrees.empty : Agrees keeps {} {} :=
  ⟨rfl, rfl, fun _ => rfl, .nil⟩

theorem Agrees.noting (h : heading.Agrees keeps other) (causes otherCauses : List Cause) :
    Agrees keeps { heading with causes := causes } { other with causes := otherCauses } :=
  ⟨h.bindings, h.defaults, h.group, h.extras⟩

theorem Agrees.setDefault (h : heading.Agrees keeps other)
    (directive otherDirective : DirectiveName) (value : EntityDefault) :
    (heading.setDefault directive value).Agrees keeps (other.setDefault otherDirective value) := by
  have hset {heading other : Heading} (h : heading.Agrees keeps other) (setting : Setting) :
      Agrees keeps { heading with defaults := heading.defaults.apply setting }
        { other with defaults := other.defaults.apply setting } :=
    ⟨h.bindings, congrArg (·.apply setting) h.defaults, h.group, h.extras⟩
  unfold Heading.setDefault
  rw [h.defaults]
  cases currentDefault other.defaults value with
  | none => exact hset h _
  | some before =>
      simp only
      split
      · exact hset h _
      · exact hset (h.noting _ _) _

theorem Agrees.bindingOption {state otherState : Heading × Label}
    (h : state.1.Agrees keeps otherState.1) (hlabel : state.2 = otherState.2)
    (directive otherDirective : DirectiveName) {argument recased : Argument}
    (hargument : argument.IsRecased recased) :
    (bindingOption directive state argument).1.Agrees keeps
      (bindingOption otherDirective otherState recased).1 ∧
      (bindingOption directive state argument).2 =
        (bindingOption otherDirective otherState recased).2 := by
  unfold Heading.bindingOption
  simp only [hargument.key, hargument.text?_eq, hargument.isFlag_eq, hlabel]
  split
  · exact ⟨h, rfl⟩
  · split
    · exact ⟨h, rfl⟩
    · split
      · exact ⟨h.setDefault _ _ _, rfl⟩
      · exact ⟨h.noting _ _, rfl⟩

variable {settings : Settings} {declaration otherDeclaration : Declaration}
    {directive recased : Directive}

theorem Agrees.addBinding (h : heading.Agrees keeps other)
    (hdeclaration : declaration.IsRecased otherDeclaration)
    (hdirective : directive.IsRecased recased) (kind : ViewKind) :
    (heading.addBinding settings declaration directive kind).Agrees keeps
      (other.addBinding settings otherDeclaration recased kind) := by
  unfold Heading.addBinding
  rw [hdeclaration.kind, hdeclaration.declaredName]
  split
  · exact h.noting _ _
  · obtain ⟨hread, hlabel⟩ := List.rel_foldl
      (P := fun state otherState : Heading × Label =>
        state.1.Agrees keeps otherState.1 ∧ state.2 = otherState.2)
      (R := Argument.IsRecased)
      (fun _ _ hstate _ _ hargument => hstate.1.bindingOption hstate.2 directive.name recased.name
        hargument)
      (show (heading, ({} : Label)).1.Agrees keeps (other, ({} : Label)).1 ∧
        _ = _ from ⟨h, rfl⟩) hdirective.forall₂_options
    exact ⟨by simp only [hread.bindings, hlabel], hread.defaults, hread.group, hread.extras⟩

theorem Agrees.setNamespace (h : heading.Agrees keeps other) (hname : directive.name = .namespace)
    (hdirective : directive.IsRecasedKeeping keeps recased) :
    (heading.setNamespace directive).Agrees keeps (other.setNamespace recased) := by
  have hgroup (hkeeps : keeps) : nonempty ((directive.get? "name").bind Argument.text?) =
      nonempty ((recased.get? "name").bind Argument.text?) := by
    have hkey : directive.has "name" = recased.has "name" := by
      apply hdirective.lookups hkeeps
      rw [hname]
      exact List.mem_singleton_self _
    rw [hdirective.recased.text?_get? hkey]
  unfold Heading.setNamespace
  generalize nonempty ((directive.get? "name").bind Argument.text?) = group,
    nonempty ((recased.get? "name").bind Argument.text?) = otherGroup at hgroup
  cases group with
  | none =>
      cases otherGroup with
      | none => exact h.noting _ _
      | some otherGroup => exact ⟨h.bindings, h.defaults, (nomatch hgroup ·), h.extras⟩
  | some group =>
      cases otherGroup with
      | none => exact ⟨h.bindings, h.defaults, (nomatch hgroup ·), h.extras⟩
      | some otherGroup => exact ⟨h.bindings, h.defaults, hgroup, h.extras⟩

theorem Agrees.take (h : heading.Agrees keeps other)
    (hdeclaration : declaration.IsRecased otherDeclaration)
    (hdirective : directive.IsRecasedKeeping keeps recased) :
    (heading.take settings declaration directive).Agrees keeps
      (other.take settings otherDeclaration recased) := by
  have hnoted :=
    h.noting (heading.causes ++ directive.duplicateCauses) (other.causes ++ recased.duplicateCauses)
  unfold Heading.take
  simp only [← hdirective.recased.name_eq]
  split
  · exact hnoted.addBinding hdeclaration hdirective.recased _
  · split
    · exact ⟨h.bindings, h.defaults, h.group, List.rel_append h.extras (.cons hdirective .nil)⟩
    · split
      · rename_i hname
        exact hnoted.setNamespace hname hdirective
      · exact hnoted
      · exact hnoted.noting _ _

theorem agrees_foldl_take (settings : Settings)
    (hdeclaration : declaration.IsRecased otherDeclaration) {directives others : List Directive}
    (h : List.Forall₂ (Directive.IsRecasedKeeping keeps) directives others) :
    (directives.foldl (Heading.take settings declaration) {}).Agrees keeps
      (others.foldl (Heading.take settings otherDeclaration) {}) :=
  List.rel_foldl (P := Agrees keeps) (R := Directive.IsRecasedKeeping keeps)
    (fun _ _ hheading _ _ hdirective => hheading.take hdeclaration hdirective) .empty h

theorem Agrees.allBindings_eq (h : heading.Agrees keeps other)
    (hdeclaration : declaration.IsRecased otherDeclaration) {directives others : List Directive}
    (hdirectives : List.Forall₂ Directive.IsRecased directives others) :
    heading.allBindings settings declaration directives =
      other.allBindings settings otherDeclaration others := by
  unfold Heading.allBindings
  rw [Directive.any_name_eq hdirectives fun name => name.bindingKind?.isSome, h.bindings,
    hdeclaration.kind, hdeclaration.declaredName]

end Heading

namespace Field

section

variable {state otherState : Field × List Cause}

theorem takeOption_recased (h : state.1 = otherState.1) {argument recased : Argument}
    (hargument : argument.IsRecased recased) :
    (takeOption state argument).1 = (takeOption otherState recased).1 := by
  unfold takeOption
  simp only [hargument.readOption_eq, h]
  split <;> rfl

theorem foldl_takeOption_recased (h : state.1 = otherState.1) {arguments others : List Argument}
    (harguments : List.Forall₂ Argument.IsRecased arguments others) :
    (arguments.foldl takeOption state).1 = (others.foldl takeOption otherState).1 :=
  List.rel_foldl (P := fun state otherState : Field × List Cause => state.1 = otherState.1)
    (R := Argument.IsRecased) (fun _ _ hstate _ _ hargument => takeOption_recased hstate hargument)
    h harguments

/-- A name at the head keeps its letters, and the options after it say the same. -/
theorem takeDirective_recased (field : Field) {directive recased : Directive}
    (h : directive.IsRecased recased) :
    (field.takeDirective directive).1 = (field.takeDirective recased).1 := by
  cases h with
  | same => rfl
  | recased hname harguments hdistinct =>
      unfold takeDirective positional?
      -- no argument is left out on either side, and so the first one names
      -- the field if it is a bare name
      rw [hdistinct.options_eq, (hdistinct.recased harguments).options_eq]
      generalize directive.arguments = arguments, recased.arguments = others at harguments
      cases harguments with
      | nil => rfl
      | @cons first other rest others hfirst hrest =>
          simp only [List.head?_cons, List.contains_cons, BEq.rfl, Bool.true_or, Bool.and_true,
            hfirst.isFlag_eq, hfirst.isFlagOption_eq]
          by_cases hbare : (other.isFlag && !Policy.isFlagOption other.key) = true
          · obtain ⟨hflag, hoption⟩ := Bool.and_eq_true_iff.1 hbare
            have hkey : first.key = other.key :=
              hfirst.name (hfirst.isFlag_eq.trans hflag)
                (hfirst.isFlagOption_eq.trans (Bool.not_eq_true' _ ▸ hoption))
            simp only [if_pos hbare, List.erase_cons_head, hkey]
            exact foldl_takeOption_recased rfl hrest
          · simp only [if_neg hbare]
            exact foldl_takeOption_recased rfl (.cons hfirst hrest)

theorem take_recased (h : state.1 = otherState.1) {directive recased : Directive}
    (hdirective : directive.IsRecased recased) :
    (take state directive).1 = (take otherState recased).1 := by
  unfold take
  simp only [h, hdirective.name_eq]
  split
  · exact takeDirective_recased otherState.1 hdirective
  · rfl

end

theorem readsAlike_ofMember (settings : Settings) (mapping : TypeMapping)
    {declaration otherDeclaration : Declaration} {member recased : Member}
    (hdeclaration : declaration.IsRecased otherDeclaration) (h : member.IsRecased recased) :
    ReadsAlike (fun read other => read.1 = other.1) (ofMember settings mapping declaration member)
      (ofMember settings mapping otherDeclaration recased) := by
  have hplain : plain settings mapping member = plain settings mapping recased := by
    unfold plain
    rw [h.declaredName, h.declaredType]
  unfold ofMember
  rw [hdeclaration.memberUnit_eq h, hplain]
  refine (readsAlike_forUnit h.annotation _).map fun directives others hdirectives => ?_
  exact List.rel_foldl (P := fun state otherState : Field × List Cause => state.1 = otherState.1)
    (R := Directive.IsRecased)
    (fun _ _ hstate _ _ hdirective => take_recased hstate hdirective) rfl hdirectives

theorem rel_ofExtra {directive recased : Directive} (h : directive.IsRecased recased)
    {access : Access} (haccess : directive.name.extraAccess? = some access)
    (hlookups : directive.KeepsLookups recased) :
    Option.Rel (fun read other => read.1 = other.1) (ofExtra directive access)
      (ofExtra recased access) := by
  have hkeys : directive.name.exactKeys = ["name", "type"] := by
    cases hname : directive.name <;> rw [hname] at haccess <;> first | rfl | cases haccess
  unfold Directive.KeepsLookups at hlookups
  rw [hkeys, List.forall_mem_cons, List.forall_mem_singleton] at hlookups
  unfold ofExtra
  rw [h.text?_get? hlookups.1, h.text?_get? hlookups.2, h.name_eq]
  cases nonempty ((recased.get? "name").bind Argument.text?) with
  | none => exact .none
  | some name =>
      refine .some
        (foldl_takeOption_recased rfl (h.filter fun argument other hargument => ?_).forall₂_options)
      rw [hargument.key]

end Field

namespace EnumValue

variable {draft other : Draft}

def Draft.Agrees (draft other : Draft) : Prop :=
  draft.value = other.value ∧ draft.omitted = other.omitted

theorem Draft.Agrees.takeOption (h : draft.Agrees other) {argument recased : Argument}
    (hargument : argument.IsRecased recased) :
    (draft.takeOption argument).Agrees (other.takeOption recased) := by
  unfold Draft.takeOption
  simp only [hargument.key, hargument.text?_eq, hargument.isFlag_eq, h.1]
  split
  · exact ⟨rfl, h.2⟩
  · split
    · exact ⟨rfl, h.2⟩
    · split
      · exact ⟨rfl, h.2⟩
      · split
        · exact ⟨rfl, rfl⟩
        · exact ⟨rfl, h.2⟩

theorem Draft.Agrees.take (h : draft.Agrees other) {directive recased : Directive}
    (hdirective : directive.IsRecased recased) :
    (draft.take directive).Agrees (other.take recased) := by
  unfold Draft.take
  rw [hdirective.name_eq]
  split
  · have hnoted : Draft.Agrees { draft with causes := draft.causes ++ directive.duplicateCauses }
        { other with causes := other.causes ++ recased.duplicateCauses } := h
    exact List.rel_foldl (P := Draft.Agrees) (R := Argument.IsRecased)
      (fun _ _ hdraft _ _ hargument => hdraft.takeOption hargument) hnoted
      hdirective.forall₂_options
  · exact h

theorem readsAlike_ofMember {declaration otherDeclaration : Declaration} {member recased : Member}
    (hdeclaration : declaration.IsRecased otherDeclaration) (h : member.IsRecased recased) :
    ReadsAlike Draft.Agrees (ofMember declaration member) (ofMember otherDeclaration recased) := by
  have hplain : plain declaration.declaredName member =
      plain otherDeclaration.declaredName recased := by
    unfold plain
    rw [h.declaredName, h.value, hdeclaration.declaredName]
  unfold ofMember
  rw [hdeclaration.memberUnit_eq h, hplain]
  refine (readsAlike_forUnit h.annotation _).map fun directives others hdirectives => ?_
  exact List.rel_foldl (P := Draft.Agrees) (R := Directive.IsRecased)
    (fun _ _ hdraft _ _ hdirective => hdraft.take hdirective)
    ⟨rfl, rfl⟩ hdirectives

end EnumValue

namespace Entity

def unnoted (entity : Entity) : Entity :=
  { entity with notes := [] }

/-- Everything but the notes and what comes from lookups: the group and the extra fields. -/
def withoutLookups (entity : Entity) : Entity :=
  { entity with group := none, fields := entity.fields.filter fun field => !field.isExtra,
                notes := [] }

def Agrees (keeps : Prop) (entity other : Entity) : Prop :=
  entity.withoutLookups = other.withoutLookups ∧ (keeps → entity.unnoted = other.unnoted)

section

variable {keeps : Prop} {entity other : Entity} (h : entity.Agrees keeps other)

include h

theorem Agrees.withValues (values : List EnumValue) (notes otherNotes : List Issue) :
    Agrees keeps { entity with values := values, notes := notes }
      { other with values := values, notes := otherNotes } :=
  ⟨congrArg (fun entity : Entity => { entity with values := values }) h.1,
    fun hkeeps => congrArg (fun entity : Entity => { entity with values := values }) (h.2 hkeeps)⟩

theorem Agrees.withFields {fields otherFields : List Field}
    (hown : fields.filter (fun field => !field.isExtra) =
      otherFields.filter fun field => !field.isExtra) (hall : keeps → fields = otherFields)
    (notes otherNotes : List Issue) :
    Agrees keeps { entity with fields := fields, notes := notes }
      { other with fields := otherFields, notes := otherNotes } := by
  constructor
  · unfold withoutLookups
    rw [hown]
    exact congrArg
      (fun entity : Entity =>
        { entity with fields := otherFields.filter fun field => !field.isExtra }) h.1
  · intro hkeeps
    rw [hall hkeeps]
    exact congrArg (fun entity : Entity => { entity with fields := otherFields }) (h.2 hkeeps)

end

theorem readsAlike_readAll {α β γ δ ε : Type} {read : α → Except ε γ} {otherRead : β → Except ε δ}
    {related : γ → δ → Prop} {items : List α} {others : List β}
    (h : List.Forall₂ (fun item other => ReadsAlike related (read item) (otherRead other))
      items others) :
    ReadsAlike (List.Forall₂ related) (readAll read items) (readAll otherRead others) := by
  induction h with
  | nil => exact .ok .nil
  | @cons item other _ _ hfirst _ ih =>
      rw [readAll, readAll]
      generalize read item = result, otherRead other = otherResult at hfirst
      cases hfirst with
      | ok hvalue => exact ih.map fun _ _ hvalues => .cons hvalue hvalues
      | error fault => exact .error fault

theorem fields_extraFields (entity : String) (extras : List Directive) :
    (extraFields entity extras).1 =
      extras.filterMap fun directive =>
        (directive.name.extraAccess?.bind (Field.ofExtra directive)).map (·.1) := by
  induction extras with
  | nil => rfl
  | cons directive extras ih =>
      rw [List.filterMap_cons, ← ih]
      unfold extraFields
      rw [List.filterMap_cons]
      cases directive.name.extraAccess? with
      | none => rfl
      | some access =>
          simp only [Option.map_some, Option.bind_some]
          cases Field.ofExtra directive access <;> rfl

theorem fields_extraFields_eq (entity otherEntity : String) {extras others : List Directive}
    (h : List.Forall₂ (fun directive recased => directive.IsRecased recased ∧
      directive.KeepsLookups recased) extras others) :
    (extraFields entity extras).1 = (extraFields otherEntity others).1 := by
  rw [fields_extraFields, fields_extraFields]
  refine filterMap_eq_of_forall₂ h fun directive recased ⟨hrecased, hlookups⟩ => ?_
  rw [← hrecased.name_eq]
  cases haccess : directive.name.extraAccess? with
  | none => rfl
  | some access =>
      exact map_eq_of_rel (Field.rel_ofExtra hrecased haccess hlookups) fun _ _ hread => hread

theorem filter_extraFields (entity : String) (extras : List Directive) :
    ((extraFields entity extras).1.filter fun field => !field.isExtra) = [] := by
  refine List.filter_eq_nil_iff.2 fun field hmem => ?_
  rw [(extraFields_spec entity extras).1.2 field hmem]
  decide

variable {declaration otherDeclaration : Declaration}

theorem readsAlike_addMembers (settings : Settings) (mapping : TypeMapping) {keeps : Prop}
    (h : declaration.IsRecased otherDeclaration) {extras others : List Directive}
    (hextras : List.Forall₂ (Directive.IsRecasedKeeping keeps) extras others)
    {entity other : Entity} (hagrees : entity.Agrees keeps other) :
    ReadsAlike (Agrees keeps) (addMembers settings mapping declaration extras entity)
      (addMembers settings mapping otherDeclaration others other) := by
  unfold addMembers
  rw [h.kind]
  cases otherDeclaration.kind with
  | enum =>
      refine (readsAlike_readAll
        (h.members.imp fun _ _ hmember => EnumValue.readsAlike_ofMember h hmember)).map
        fun drafts otherDrafts hdrafts => ?_
      have hvalues : (drafts.filter fun draft => !draft.omitted).map (·.value) =
          (otherDrafts.filter fun draft => !draft.omitted).map (·.value) :=
        map_eq_of_forall₂ (List.rel_filter (fun _ _ hdraft => by simp only [hdraft.2]) hdrafts)
          fun _ _ hdraft => hdraft.1
      rw [hvalues]
      exact hagrees.withValues _ _ _
  | object =>
      refine (readsAlike_readAll
        (h.members.imp fun _ _ hmember => Field.readsAlike_ofMember settings mapping h hmember)).map
        fun read otherRead hread => ?_
      have hown : read.map (·.1) = otherRead.map (·.1) :=
        map_eq_of_forall₂ hread fun _ _ hfield => hfield
      have hmembers :
          (read.map (·.1) ++ (extraFields declaration.declaredName extras).1).filter
              (fun field => !field.isExtra) =
            (otherRead.map (·.1) ++ (extraFields otherDeclaration.declaredName others).1).filter
              fun field => !field.isExtra := by
        rw [List.filter_append, List.filter_append, filter_extraFields, filter_extraFields, hown]
      refine hagrees.withFields hmembers (fun hkeeps => ?_) _ _
      have hextra : (extraFields declaration.declaredName extras).1 =
          (extraFields otherDeclaration.declaredName others).1 :=
        fields_extraFields_eq _ _ (hextras.imp fun _ _ hdirective => ⟨hdirective.recased,
          hdirective.lookups hkeeps⟩)
      exact congrArg₂ (· ++ ·) hown hextra

end Entity

/-- Keys in another letter case change nothing but notes, except for what is looked up as it is
written: the group and the extra fields. These stay the same as well if every such key is written so
in both declarations or in neither. -/
theorem keyCase_changes_only_lookups {declaration other : Declaration}
    (h : declaration.IsRecased other) (settings : Settings) (order : Int) :
    ReadsAlike (fun entity recased => entity.withoutLookups = recased.withoutLookups ∧
        (declaration.KeepsLookups other → entity.unnoted = recased.unnoted))
      (Entity.ofDeclaration settings declaration order)
        (Entity.ofDeclaration settings other order) := by
  have hread := readsAlike_forUnit h.readsAlike declaration.unitName
  have hblank : Entity.blank declaration order = Entity.blank other order := by
    unfold Entity.blank
    rw [h.kind, h.declaredName, h.source]
  unfold Entity.ofDeclaration
  rw [← h.unitName_eq]
  generalize ofAnnotation declaration.rawAnnotation.toList (some declaration.unitName) = result,
    ofAnnotation other.rawAnnotation.toList (some declaration.unitName) = otherResult at hread
  cases hread with
  | error fault => exact .error fault
  | @ok directives others hdirectives =>
      have hrecased := hdirectives.imp fun _ _ hdirective => hdirective.recased
      simp only
      rw [Directive.any_name_eq hrecased fun name => name = .ignoreAll, hblank]
      split
      · exact .ok ⟨rfl, fun _ => rfl⟩
      · have hheading := Heading.agrees_foldl_take settings h hdirectives
        refine Entity.readsAlike_addMembers settings settings.typeMapping h hheading.extras ?_
        rw [hheading.allBindings_eq h hrecased, hheading.defaults, h.kind]
        refine ⟨rfl, fun hkeeps => ?_⟩
        rw [hheading.group hkeeps]
        rfl

def profileDeclaration : Declaration where
  kind := .object
  declaredName := "Profile"
  rawAnnotation := "@GqlType(name:Public, ro) @GqlTypeExtraField(name:score, required)"
  members :=
    [{ declaredName := "Email", declaredType := "string",
       rawAnnotation := "gql:\"Mail, type:Text, color:red\"" }]

def recasedProfileDeclaration : Declaration where
  kind := .object
  declaredName := "Profile"
  rawAnnotation := "@GqlType(NAME:Public, RO) @GqlTypeExtraField(name:score, Required)"
  members :=
    [{ declaredName := "Email", declaredType := "string",
       rawAnnotation := "gql:\"Mail, Type:Text, Color:red\"" }]

def profileDirectives (name ro required : String) : List Directive :=
  [{ name := .type, arguments := [⟨name, some (.text "Public"), none, 9, some "Public"⟩,
    { key := ro, position := 22 }] },
    { name := .typeExtraField, position := 26
      arguments :=
        [⟨"name", some (.text "score"), none, 45, some "score"⟩,
          { key := required, position := 57 }] }]

def emailDirective (type color : String) : Directive where
  name := .field
  arguments :=
    [{ key := "Mail", position := 5 }, ⟨type, some (.text "Text"), none, 11, some "Text"⟩,
    ⟨color, some (.text "red"), none, 22, some "red"⟩]
  fromTag := true

def profile : Entity where
  kind := .object
  declaredName := "Profile"
  bindings := [⟨"Public", .object, none, 0⟩]
  fields :=
    [{ declaredName := "Email", declaredType := "string", outputName := "Mail",
       scalarType := "String"
       rules := [⟨.type "Text", none, "type"⟩] },
      { declaredName := "score", declaredType := "String", outputName := "score",
        scalarType := "String", isExtra := true
        rules :=
          [⟨.access .readOnly, none, "GqlTypeExtraField"⟩, ⟨.required true, none, "required"⟩] }]
  fieldDefaults := { access := some .readOnly }
  notes := [⟨.unknownOption "color", "Profile", some "Email", none⟩]

def recasedProfile : Entity :=
  { profile with notes := [⟨.unknownOption "Color", "Profile", some "Email", none⟩] }

theorem keyCase_changes_only_lookups_profile :
    profileDeclaration.IsRecased recasedProfileDeclaration ∧
      profileDeclaration.KeepsLookups recasedProfileDeclaration ∧
      Entity.ofDeclaration {} profileDeclaration 0 = .ok profile ∧
      Entity.ofDeclaration {} recasedProfileDeclaration 0 = .ok recasedProfile ∧
      profile.withoutLookups = recasedProfile.withoutLookups ∧
      profile.unnoted = recasedProfile.unnoted := by
  have hread : ofAnnotation profileDeclaration.rawAnnotation.toList none =
      .ok (profileDirectives "name" "ro" "required") := by
    decide +kernel
  have hother : ofAnnotation recasedProfileDeclaration.rawAnnotation.toList none =
      .ok (profileDirectives "NAME" "RO" "Required") := by decide +kernel
  have hemail : ofAnnotation "gql:\"Mail, type:Text, color:red\"".toList none =
      .ok [emailDirective "type" "color"] := by
    decide +kernel
  have hotherEmail : ofAnnotation "gql:\"Mail, Type:Text, Color:red\"".toList none =
      .ok [emailDirective "Type" "Color"] := by
    decide +kernel
  have hrecased : profileDeclaration.IsRecased recasedProfileDeclaration := {
    kind := rfl
    declaredName := rfl
    source := rfl
    annotation := (readsAlike_ok_iff hread hother).2 (by decide)
    members := .cons ⟨rfl, rfl, rfl, (readsAlike_ok_iff hemail hotherEmail).2 (by decide)⟩ .nil }
  have hkept : profileDeclaration.KeepsLookups recasedProfileDeclaration :=
    (readsAlike_ok_iff hread hother).2 (by decide)
  have hbuilt : Entity.ofDeclaration {} profileDeclaration 0 = .ok profile := by decide +kernel
  have hrebuilt : Entity.ofDeclaration {} recasedProfileDeclaration 0 = .ok recasedProfile := by
    decide +kernel
  obtain ⟨hsame, hall⟩ :=
    (readsAlike_ok_iff hbuilt hrebuilt).1 (keyCase_changes_only_lookups hrecased {} 0)
  exact ⟨hrecased, hkept, hbuilt, hrebuilt, hsame, hall hkept⟩

def scoredDeclaration (written : String) : Declaration where
  kind := .object
  declaredName := "User"
  rawAnnotation := written

def scoredDirective (type : String) : Directive where
  name := .typeExtraField
  arguments :=
    [⟨"name", some (.text "score"), none, 19, some "score"⟩,
      ⟨type, some (.text "Int"), none, 31, some "Int"⟩]

def scored (type : String) : Entity where
  kind := .object
  declaredName := "User"
  bindings := [⟨"User", .object, none, 0⟩]
  fields :=
    [{ declaredName := "score", declaredType := type, outputName := "score", scalarType := type,
       isExtra := true
       rules := [⟨.access .readOnly, none, "GqlTypeExtraField"⟩] }]

/-- With a capital in its key, the type of an extra field is lost without a note. -/
theorem capital_loses_type_of_extraField :
    Declaration.IsRecased (scoredDeclaration "@GqlTypeExtraField(name:score, type:Int)")
        (scoredDeclaration "@GqlTypeExtraField(name:score, Type:Int)") ∧
      Entity.ofDeclaration {} (scoredDeclaration "@GqlTypeExtraField(name:score, type:Int)") 0 =
        .ok (scored "Int") ∧
      Entity.ofDeclaration {} (scoredDeclaration "@GqlTypeExtraField(name:score, Type:Int)") 0 =
        .ok (scored "String") ∧ (scored "Int").fields ≠ (scored "String").fields := by
  have hread : ofAnnotation "@GqlTypeExtraField(name:score, type:Int)".toList none =
      .ok [scoredDirective "type"] := by
    decide +kernel
  have hother : ofAnnotation "@GqlTypeExtraField(name:score, Type:Int)".toList none =
      .ok [scoredDirective "Type"] := by
    decide +kernel
  refine ⟨⟨rfl, rfl, rfl, (readsAlike_ok_iff hread hother).2 (by decide), .nil⟩, ?_⟩
  exact ⟨by decide +kernel, by decide +kernel, by decide⟩

end SchemaViews
