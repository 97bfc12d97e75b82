import Mathlib.Data.List.Induction
import SchemaViews.Proofs.Entity.Ignored
import SchemaViews.Proofs.Schema.Views

/-!
# Built entities are well-kinded

Every directive that asks for a binding gives one, or is noted as rejected, one directive
after the other. An enum has values and no fields, and any other entity has fields and no
values, and so have their views.
-/

namespace SchemaViews

open SchemaViews.Directive (Argument ofAnnotation ofAnnotation_eq_ok_iff)
open SchemaViews.Text

/-- The directive that an invalid binding is about. -/
def Cause.rejected? : Cause → Option DirectiveName
  | .misplaced directive _ | .wrongKind directive _ | .nameless directive => some directive
  | _ => none

def Cause.rejectedBinding? (cause : Cause) : Option DirectiveName :=
  cause.rejected?.filter fun directive => directive.bindingKind?.isSome

def Issue.rejectedBinding? (note : Issue) : Option DirectiveName :=
  if note.member = none then note.cause.rejectedBinding? else none

theorem DirectiveName.bindingKind?_or_extraAccess? (name : DirectiveName) :
    name.bindingKind? = none ∨ name.extraAccess? = none := by
  cases name <;> simp [bindingKind?, extraAccess?]

namespace Directive

variable (declaration : Declaration) (directive : Directive)

/-- The kind that a directive binds, if it suits the declaration. -/
def boundKind? : Option ViewKind :=
  directive.name.bindingKind?.filter fun kind => decide (kind = .enum ↔ declaration.kind = .enum)

/-- Whether a directive asks for a binding of a kind that does not suit the declaration. -/
def isUnsuited : Bool :=
  directive.name.bindingKind?.isSome && (directive.boundKind? declaration).isNone

def extraName? : Option String :=
  if directive.name.extraAccess?.isSome then
    nonempty ((directive.get? "name").bind Argument.text?)
  else none

def Argument.omitsValue (argument : Argument) : Bool :=
  (lowered argument.key == "omit" || lowered argument.key == "ignore") && argument.isFlag

def omitsValue : Bool :=
  directive.name = .enumValue && directive.options.any Argument.omitsValue

end Directive

def Member.isOmitted (member : Member) : Bool :=
  match ofAnnotation member.rawAnnotation.toList none with
  | .error _ => false
  | .ok directives => directives.any Directive.omitsValue

namespace Heading

/-- Nothing has been bound, added or rejected in between. -/
structure Keeps (before after : Heading) : Prop where
  bindings : after.bindings = before.bindings
  extras : after.extras = before.extras
  rejected : after.causes.filterMap Cause.rejectedBinding? =
    before.causes.filterMap Cause.rejectedBinding?

section Keeps

variable {settings : Settings} {declaration : Declaration} {before heading : Heading}

theorem Keeps.refl (heading : Heading) : Keeps heading heading :=
  ⟨rfl, rfl, rfl⟩

theorem Keeps.add (h : Keeps before heading) {causes : List Cause}
    (hcauses : causes.filterMap Cause.rejectedBinding? = []) :
    Keeps before { heading with causes := heading.causes ++ causes } where
  bindings := h.bindings
  extras := h.extras
  rejected := by rw [List.filterMap_append, hcauses, List.append_nil, h.rejected]

end Keeps

/-- What the directives read so far have given: a binding for each that suits the declaration, and a
rejection for each other one that asks for a binding. -/
structure Accounts (declaration : Declaration) (read : List Directive) (heading : Heading) :
    Prop where
  kinds : heading.bindings.map (·.kind) = read.filterMap (·.boundKind? declaration)
  positions : heading.bindings.map (·.position) = List.range heading.bindings.length
  rejected : heading.causes.filterMap Cause.rejectedBinding? =
    (read.filter (·.isUnsuited declaration)).map (·.name)
  extras : heading.extras = read.filter fun directive => directive.name.extraAccess?.isSome

namespace Accounts

variable {settings : Settings} {declaration : Declaration} {read : List Directive}
    {heading : Heading}

theorem empty : Accounts declaration [] {} :=
  ⟨rfl, rfl, rfl, rfl⟩

theorem congr {other : Heading} (h : heading.Accounts declaration read)
    (hkeeps : Keeps heading other) : other.Accounts declaration read where
  kinds := by rw [hkeeps.bindings, h.kinds]
  positions := by rw [hkeeps.bindings, h.positions]
  rejected := by rw [hkeeps.rejected, h.rejected]
  extras := by rw [hkeeps.extras, h.extras]

theorem addOther {directive : Directive} (h : heading.Accounts declaration read)
    (hkind : directive.name.bindingKind? = none) : Accounts declaration (read ++ [directive])
      { heading with extras := heading.extras ++
        if directive.name.extraAccess?.isSome then [directive] else [] } where
  kinds := by simp [h.kinds, Directive.boundKind?, hkind]
  positions := h.positions
  rejected := by simp [h.rejected, Directive.isUnsuited, hkind]
  extras := by rw [List.filter_append, h.extras, List.filter_cons, List.filter_nil]

theorem addBinding {directive : Directive} {kind : ViewKind} (h : heading.Accounts declaration read)
    (hkind : directive.name.bindingKind? = some kind) :
    (heading.addBinding settings declaration directive kind).Accounts declaration
      (read ++ [directive]) := by
  have hextra : directive.name.extraAccess? = none :=
    directive.name.bindingKind?_or_extraAccess?.resolve_left (by simp [hkind])
  unfold Heading.addBinding
  split
  · rename_i hunsuited
    have hnone : directive.boundKind? declaration = none := by
      simp [Directive.boundKind?, hkind, ← eq_iff_iff, hunsuited]
    have hrejected : (Cause.wrongKind directive.name declaration.kind).rejectedBinding? =
        some directive.name := by
      simp [Cause.rejectedBinding?, Cause.rejected?, hkind]
    exact {
      kinds := by simp [note, h.kinds, hnone]
      positions := h.positions
      rejected := by simp [note, h.rejected, Directive.isUnsuited, hnone, hkind, hrejected]
      extras := by simp [note, h.extras, hextra] }
  · rename_i hsuited
    have hbound : directive.boundKind? declaration = some kind := by
      simp [Directive.boundKind?, hkind, ← eq_iff_iff, not_not.1 hsuited]
    -- the options of a directive may set defaults and be unknown, which is not counted
    have hread :
        Keeps heading (directive.options.foldl (Heading.bindingOption directive.name)
          (heading, {})).1 := by
      refine foldl_bindingOption_induction ?_ ?_ ?_ directive.options (.refl heading)
      · exact fun _ _ _ hkeeps => ⟨hkeeps.bindings, hkeeps.extras, hkeeps.rejected⟩
      · exact fun _ _ _ hkeeps => hkeeps.add rfl
      · exact fun _ _ hkeeps => hkeeps.add rfl
    have hkept := h.congr hread
    exact {
      kinds := by simp [hkept.kinds, hbound]
      positions := by simp [hkept.positions, List.range_succ]
      rejected := by simp [hkept.rejected, Directive.isUnsuited, hbound]
      extras := by simp [hkept.extras, hextra] }

theorem take (h : heading.Accounts declaration read) (directive : Directive) :
    (heading.take settings declaration directive).Accounts declaration (read ++ [directive]) := by
  have hduplicates : directive.duplicateCauses.filterMap Cause.rejectedBinding? = [] := by
    simp [Directive.duplicateCauses, Cause.rejectedBinding?, Cause.rejected?]
  have hnoted := h.congr ((Keeps.refl heading).add hduplicates)
  unfold Heading.take
  simp only
  split
  · rename_i kind hkind
    exact hnoted.addBinding hkind
  · rename_i hkind
    have hother := hnoted.addOther hkind
    split
    · rename_i hextra
      rwa [if_pos hextra] at hother
    · rename_i hextra
      rw [if_neg hextra, List.append_nil] at hother
      have hrejects {cause : Cause} (hcause : cause.rejected? = some directive.name) :
          [cause].filterMap Cause.rejectedBinding? = [] := by
        simp [Cause.rejectedBinding?, hcause, hkind]
      split
      · unfold setNamespace
        split
        · exact hother.congr ⟨rfl, rfl, rfl⟩
        · exact hother.congr ((Keeps.refl _).add (hrejects rfl))
      · exact hother
      · exact hother.congr ((Keeps.refl _).add (hrejects rfl))

end Accounts

theorem accounts_foldl_take {settings : Settings} {declaration : Declaration}
    (directives : List Directive) :
    (directives.foldl (take settings declaration) {}).Accounts declaration directives := by
  induction directives using List.reverseRecOn with
  | nil => exact .empty
  | append_singleton directives directive ih =>
      rw [List.foldl_concat]
      exact ih.take directive

theorem Accounts.allBindings {settings : Settings} {declaration : Declaration}
    {directives : List Directive} {heading : Heading}
    (h : heading.Accounts declaration directives) :
    (heading.allBindings settings declaration directives).map (·.position) =
        List.range (heading.allBindings settings declaration directives).length ∧
      (heading.allBindings settings declaration directives).map (·.kind) =
        if settings.implicitBindings && !directives.any fun directive =>
          directive.name.bindingKind?.isSome then [declaration.kind.viewKind]
        else directives.filterMap (·.boundKind? declaration) := by
  unfold Heading.allBindings
  split
  · rename_i himplicit
    have hnone : directives.filterMap (·.boundKind? declaration) = [] := by
      simp only [Bool.and_eq_true, Bool.not_eq_true', List.any_eq_false,
        Option.not_isSome_iff_eq_none] at himplicit
      refine List.filterMap_eq_nil_iff.2 fun directive hmem => ?_
      rw [Directive.boundKind?, himplicit.2 directive hmem]
      rfl
    have hbindings : heading.bindings = [] := List.map_eq_nil_iff.1 (h.kinds.trans hnone)
    rw [hbindings]
    exact ⟨rfl, rfl⟩
  · exact ⟨h.positions, h.kinds⟩

end Heading

namespace Field

def declared (field : Field) : String × String × Bool :=
  (field.declaredName, field.declaredType, field.isExtra)

theorem declared_foldl_takeOption (state : Field × List Cause) (arguments : List Argument) :
    (arguments.foldl takeOption state).1.declared = state.1.declared := by
  obtain ⟨rules, forced, hread⟩ := exists_foldl_takeOption arguments state
  rw [hread]
  rfl

theorem declared_take (state : Field × List Cause) (directive : Directive) :
    (take state directive).1.declared = state.1.declared := by
  have hrename (name : String) : (state.1.rename name).declared = state.1.declared := by
    unfold rename
    split <;> rfl
  unfold take takeDirective
  simp only
  split
  · split
    · rw [declared_foldl_takeOption, hrename]
    · rw [declared_foldl_takeOption]
  · rfl

theorem declared_of_ofMember {settings : Settings} {mapping : TypeMapping}
    {declaration : Declaration} {member : Member} {read : Field × List Cause}
    (h : ofMember settings mapping declaration member = .ok read) :
    read.1.declared = (member.declaredName, member.declaredType, false) := by
  obtain ⟨directives, -, rfl⟩ := exists_of_ofMember h
  refine List.foldlRecOn (motive := fun state : Field × List Cause => state.1.declared = _)
    directives _ rfl ?_
  intro state hstate directive _
  rw [declared_take, hstate]

theorem declared_of_ofExtra {directive : Directive} {access : Access} {read : Field × List Cause}
    (h : ofExtra directive access = some read) :
    nonempty ((directive.get? "name").bind Argument.text?) = some read.1.declaredName ∧
    read.1.isExtra = true := by
  obtain ⟨name, hname, rfl⟩ := Option.map_eq_some_iff.1 h
  have hdeclared (state : Field × List Cause) (arguments : List Argument) :
      (arguments.foldl takeOption state).1.declaredName = state.1.declaredName ∧
        (arguments.foldl takeOption state).1.isExtra = state.1.isExtra := by
    have hread := declared_foldl_takeOption state arguments
    simp only [declared, Prod.mk.injEq] at hread
    exact ⟨hread.1, hread.2.2⟩
  simp only [hname, hdeclared, and_self]

end Field

namespace EnumValue

/-- What reading on keeps of a value, and whether it is to be left out. -/
structure Draft.Follows (before : Draft) (omits : Bool) (after : Draft) : Prop where
  declaredName : after.value.declaredName = before.value.declaredName
  literal : after.value.literal = before.value.literal
  omitted : after.omitted = (before.omitted || omits)

variable {before draft after : Draft} {omits omitsNext : Bool}

theorem Draft.Follows.refl (draft : Draft) : Follows draft false draft :=
  ⟨rfl, rfl, (Bool.or_false _).symm⟩

theorem Draft.Follows.trans (h : Follows before omits draft)
    (hnext : Follows draft omitsNext after) : Follows before (omits || omitsNext) after where
  declaredName := hnext.declaredName.trans h.declaredName
  literal := hnext.literal.trans h.literal
  omitted := by rw [hnext.omitted, h.omitted, Bool.or_assoc]

theorem Draft.Follows.foldl {α : Type} {step : Draft → α → Draft} {omits : α → Bool}
    (hstep : ∀ draft item, Follows draft (omits item) (step draft item)) (items : List α)
    (draft : Draft) : Follows draft (items.any omits) (items.foldl step draft) := by
  induction items generalizing draft with
  | nil => exact .refl draft
  | cons item items ih =>
      rw [List.any_cons, List.foldl_cons]
      exact (hstep draft item).trans (ih _)

theorem follows_takeOption (draft : Draft) (argument : Argument) :
    draft.Follows argument.omitsValue (draft.takeOption argument) := by
  have hother {key : String} (hkey : (lowered argument.key == key) = true)
      (hne : key ≠ "omit" ∧ key ≠ "ignore") :
      argument.omitsValue = false := by
    rw [Directive.Argument.omitsValue, beq_iff_eq.1 hkey, beq_false_of_ne hne.1,
      beq_false_of_ne hne.2]
    rfl
  unfold Draft.takeOption
  simp only
  split
  · rename_i hkey
    rw [hother hkey (by decide)]
    exact ⟨rfl, rfl, (Bool.or_false _).symm⟩
  · split
    · rename_i hkey
      rw [hother (Bool.and_eq_true_iff.1 hkey).1 (by decide)]
      exact ⟨rfl, rfl, (Bool.or_false _).symm⟩
    · split
      · rename_i hname
        have hkey : (lowered argument.key == "name") = true := by
          by_contra hkey
          rw [if_neg hkey] at hname
          cases hname
        rw [hother hkey (by decide)]
        exact ⟨rfl, rfl, (Bool.or_false _).symm⟩
      · rw [Directive.Argument.omitsValue]
        split
        · rename_i homits
          rw [homits]
          exact ⟨rfl, rfl, (Bool.or_true _).symm⟩
        · rename_i homits
          rw [Bool.eq_false_iff.2 homits]
          exact ⟨rfl, rfl, (Bool.or_false _).symm⟩

theorem follows_take (draft : Draft) (directive : Directive) :
    draft.Follows directive.omitsValue (draft.take directive) := by
  unfold Draft.take
  split
  · rename_i hname
    have hread := Draft.Follows.foldl follows_takeOption directive.options
      { draft with causes := draft.causes ++ directive.duplicateCauses }
    rw [Directive.omitsValue, decide_eq_true hname, Bool.true_and]
    exact ⟨hread.declaredName, hread.literal, hread.omitted⟩
  · rename_i hname
    rw [Directive.omitsValue, decide_eq_false hname, Bool.false_and]
    exact ⟨rfl, rfl, (Bool.or_false _).symm⟩

theorem follows_of_ofMember {declaration : Declaration} {member : Member}
    (h : ofMember declaration member = .ok draft) :
    Draft.Follows { value := plain declaration.declaredName member } member.isOmitted draft := by
  obtain ⟨directives, hread, rfl⟩ := exists_of_ofMember h
  rw [Member.isOmitted, ofAnnotation_eq_ok_iff.1 hread]
  exact .foldl follows_take directives _

end EnumValue

namespace Entity

section Rejections

variable (entity : String)

theorem rejectedBindings_issuesOf (causes : List Cause) :
    (issuesOf entity none causes).filterMap Issue.rejectedBinding? =
      causes.filterMap Cause.rejectedBinding? := by
  rw [issuesOf, List.filterMap_map]
  rfl

theorem rejectedBindings_issuesOf_member (member : String) (causes : List Cause) :
    (issuesOf entity (some member) causes).filterMap Issue.rejectedBinding? = [] := by
  rw [issuesOf, List.filterMap_map]
  exact List.filterMap_eq_nil_iff.2 fun _ _ => rfl

theorem rejectedBindings_members {α : Type} (items : List α) (member : α → String)
    (causes : α → List Cause) :
    (items.flatMap fun item => issuesOf entity (some (member item)) (causes item)).filterMap
      Issue.rejectedBinding? = [] := by
  rw [List.filterMap_flatMap]
  simp only [rejectedBindings_issuesOf_member, List.flatMap_eq_nil_iff, implies_true]

theorem extraFields_spec (directives : List Directive) :
    ((extraFields entity directives).1.map (·.declaredName) = directives.filterMap (·.extraName?) ∧
      ∀ field ∈ (extraFields entity directives).1, field.isExtra = true) ∧
      (extraFields entity directives).2.filterMap Issue.rejectedBinding? = [] := by
  induction directives with
  | nil => simp [extraFields]
  | cons directive directives ih =>
      unfold extraFields at ih ⊢
      cases haccess : directive.name.extraAccess? with
      | none => simpa [haccess, Directive.extraName?] using ih
      | some access =>
          have hkind : directive.name.bindingKind? = none :=
            directive.name.bindingKind?_or_extraAccess?.resolve_right (by simp [haccess])
          cases hextra : Field.ofExtra directive access with
          | none =>
              have hnone : directive.extraName? = none := by
                rw [Directive.extraName?, haccess]
                exact Option.map_eq_none_iff.1 hextra
              have hnameless : (Cause.nameless directive.name).rejectedBinding? = none := by
                simp [Cause.rejectedBinding?, Cause.rejected?, hkind]
              simpa [haccess, hextra, hnone, rejectedBindings_issuesOf, hnameless] using ih
          | some read =>
              obtain ⟨hname, hisExtra⟩ := Field.declared_of_ofExtra hextra
              have hsome : directive.extraName? = some read.1.declaredName := by
                rw [Directive.extraName?, haccess]
                exact hname
              simpa [haccess, hextra, hsome, hisExtra, rejectedBindings_issuesOf_member] using ih

end Rejections

structure IsFieldOf (member : Member) (field : Field) : Prop where
  declaredName : field.declaredName = member.declaredName
  declaredType : field.declaredType = member.declaredType
  not_extra : field.isExtra = false

structure IsValueOf (member : Member) (value : EnumValue) : Prop where
  declaredName : value.declaredName = member.declaredName
  literal : value.literal = member.value.getD member.declaredName

theorem forall₂_values {declaration : Declaration} {members : List Member}
    {drafts : List EnumValue.Draft}
    (h : readAll (EnumValue.ofMember declaration) members = .ok drafts) :
    List.Forall₂ IsValueOf (members.filter fun member => !member.isOmitted)
      ((drafts.filter fun draft => !draft.omitted).map (·.value)) := by
  have hkept :=
    List.rel_filter (R := fun member draft => EnumValue.ofMember declaration member = .ok draft)
    (p := fun member => !member.isOmitted) (q := fun draft => !draft.omitted) ?_
    (forall₂_of_readAll h)
  · rw [List.forall₂_map_right_iff]
    refine hkept.imp fun member draft hread => ?_
    have hfollows := EnumValue.follows_of_ofMember hread
    exact ⟨hfollows.declaredName, hfollows.literal⟩
  · intro member draft hread
    simp only [(EnumValue.follows_of_ofMember hread).omitted, Bool.false_or]

theorem forall₂_fields {settings : Settings} {mapping : TypeMapping} {declaration : Declaration}
    {members : List Member} {read : List (Field × List Cause)}
    (h : readAll (Field.ofMember settings mapping declaration) members = .ok read) :
    List.Forall₂ IsFieldOf members (read.map (·.1)) := by
  rw [List.forall₂_map_right_iff]
  refine (forall₂_of_readAll h).imp fun member state hread => ?_
  have hdeclared := Field.declared_of_ofMember hread
  simp only [Field.declared, Prod.mk.injEq] at hdeclared
  exact ⟨hdeclared.1, hdeclared.2.1, hdeclared.2.2⟩

/-- What the declaration of an entity and the directives of its annotation decide about its
kind, bindings and members. -/
structure IsWellKinded (settings : Settings) (declaration : Declaration)
    (directives : List Directive) (entity : Entity) : Prop where
  kind_of_binding : ∀ binding ∈ entity.bindings, binding.kind = .enum ↔ declaration.kind = .enum
  kind_eq : entity.kind = (entity.bindings.head?.map (·.kind)).getD declaration.kind.viewKind
  positions : entity.bindings.map (·.position) = List.range entity.bindings.length
  /-- A directive that suits the declaration gives a binding, and without any that asks for one
  there may be an implicit one. -/
  bound : entity.bindings.map (·.kind) =
    if settings.implicitBindings && !directives.any fun directive =>
        directive.name.bindingKind?.isSome then
      [declaration.kind.viewKind]
    else directives.filterMap (·.boundKind? declaration)
  /-- A directive that asks for a binding that does not suit the declaration gives a note. -/
  rejected : entity.notes.filterMap Issue.rejectedBinding? =
    (directives.filter (·.isUnsuited declaration)).map (·.name)
  values_of_enum : entity.kind = .enum → entity.fields = [] ∧
    List.Forall₂ IsValueOf (declaration.members.filter fun member => !member.isOmitted)
    entity.values
  fields_of_other : entity.kind ≠ .enum → entity.values = [] ∧
    ∃ own extra, entity.fields = own ++ extra ∧ List.Forall₂ IsFieldOf declaration.members own ∧
      extra.map (·.declaredName) = directives.filterMap (·.extraName?) ∧ ∀ field ∈ extra,
      field.isExtra = true

variable {settings : Settings} {declaration : Declaration} {directives : List Directive}
    {entity : Entity}

theorem kind_eq_enum_iff {bindings : List Binding}
    (h : ∀ binding ∈ bindings, binding.kind = .enum ↔ declaration.kind = .enum) :
    (bindings.head?.map (·.kind)).getD declaration.kind.viewKind = .enum ↔
      declaration.kind = .enum := by
  cases bindings with
  | nil => cases hkind : declaration.kind <;> simp [DeclarationKind.viewKind]
  | cons binding bindings => exact h binding List.mem_cons_self

theorem isWellKinded_of_addMembers {order : Int}
    (h : addMembers settings settings.typeMapping declaration
      (directives.foldl (Heading.take settings declaration) {}).extras
      (headed settings declaration directives order) = .ok entity) :
    entity.IsWellKinded settings declaration directives := by
  have haccounts :
      (directives.foldl (Heading.take settings declaration) {}).Accounts declaration directives :=
    Heading.accounts_foldl_take directives
  have hsound : (directives.foldl (Heading.take settings declaration) {}).Sound declaration :=
    Heading.sound_foldl_take directives
  unfold headed at h
  generalize directives.foldl (Heading.take settings declaration) {} = heading at h haccounts hsound
  have hbindings := @Heading.Accounts.allBindings settings _ _ _ haccounts
  have hkind : ∀ binding ∈ heading.allBindings settings declaration directives,
      binding.kind = .enum ↔ declaration.kind = .enum := fun _ => hsound.kind_of_mem_allBindings
  have henum := kind_eq_enum_iff hkind
  have hrejected := haccounts.rejected
  rw [← rejectedBindings_issuesOf declaration.declaredName] at hrejected
  rcases addMembers_cases h with
    ⟨hdeclared, drafts, hdrafts, rfl⟩ | ⟨hdeclared, fields, hfields, rfl⟩
  · refine ⟨hkind, rfl, hbindings.1, hbindings.2, ?_, fun _ => ⟨rfl, forall₂_values hdrafts⟩,
      fun hother => absurd (henum.2 hdeclared) hother⟩
    rw [List.filterMap_append, hrejected, rejectedBindings_members, List.append_nil]
  · have hnot : declaration.kind ≠ .enum := by rw [hdeclared]; decide
    obtain ⟨⟨hnames, hextra⟩, hnone⟩ := extraFields_spec declaration.declaredName heading.extras
    refine ⟨hkind, rfl, hbindings.1, hbindings.2, ?_, fun hother => absurd (henum.1 hother) hnot,
      fun _ => ⟨rfl, _, _, rfl, forall₂_fields hfields, ?_, hextra⟩⟩
    · rw [List.filterMap_append, List.filterMap_append, hrejected, hnone, List.append_nil]
      exact (congrArg _ (rejectedBindings_members _ fields (·.1.declaredName) (·.2))).trans
        (List.append_nil _)
    · rw [hnames, haccounts.extras, List.filterMap_filter]
      refine congrArg (directives.filterMap ·) (funext fun directive => ?_)
      rw [Directive.extraName?]
      split <;> rfl

theorem isWellKinded_of_not_isIgnored {order : Int}
    (hread : ofAnnotation declaration.rawAnnotation.toList none = .ok directives)
    (hkept : ¬declaration.IsIgnored) (h : ofDeclaration settings declaration order = .ok entity) :
    entity.IsWellKinded settings declaration directives := by
  obtain ⟨found, hfound, ⟨hignored, -⟩ | ⟨-, hmembers⟩⟩ := ofDeclaration_cases h
  · exact absurd ⟨found, ofAnnotation_eq_ok_iff.1 hfound, hignored⟩ hkept
  · cases hread.symm.trans (ofAnnotation_eq_ok_iff.1 hfound)
    exact isWellKinded_of_addMembers hmembers

theorem IsBuilt.exists_isWellKinded (h : entity.IsBuilt) (hkept : entity.ignoreAll = false) :
    ∃ settings declaration directives, entity.IsWellKinded settings declaration directives := by
  obtain ⟨settings, declaration, order, hbuilt⟩ := h
  obtain ⟨directives, -, ⟨-, rfl⟩ | ⟨-, hmembers⟩⟩ := ofDeclaration_cases hbuilt
  · cases hkept
  · exact ⟨settings, declaration, directives, isWellKinded_of_addMembers hmembers⟩

end Entity

/-- What a declaration that does not ask to be ignored is read into is well-kinded, under all
settings. An enum among the views of built entities therefore shows all values and leaves out no
field, and any other view leaves out no value. -/
theorem entities_and_views_are_wellKinded :
    (∀ settings declaration directives order entity,
        ofAnnotation declaration.rawAnnotation.toList none = .ok directives →
        ¬declaration.IsIgnored → Entity.ofDeclaration settings declaration order = .ok entity →
        entity.IsWellKinded settings declaration directives) ∧
      ∀ mapping entities, (∀ entity ∈ entities, entity.IsBuilt) →
        ∀ view ∈ (Schema.resolve mapping entities).views,
          (view.kind = .enum → view.fields = [] ∧ view.entity.fields = [] ∧
            view.values = view.entity.values) ∧
          (view.kind ≠ .enum → view.values = [] ∧ view.entity.values = []) := by
  refine ⟨fun _ _ _ _ _ => Entity.isWellKinded_of_not_isIgnored,
    fun mapping entities hbuilt view hview => ?_⟩
  obtain ⟨-, hignored, hbinding⟩ := Schema.mem_placements.1 (Schema.placement_mem hview)
  obtain ⟨settings, declaration, directives, hwell⟩ :=
    (hbuilt _ (Schema.entity_mem hview)).exists_isWellKinded hignored
  have hkind : view.kind = .enum ↔ view.entity.kind = .enum := by
    rw [hwell.kind_eq, Entity.kind_eq_enum_iff hwell.kind_of_binding]
    exact hwell.kind_of_binding _ hbinding
  have hprojected := Schema.view_eq_viewOf hview
  unfold Schema.viewOf at hprojected
  constructor
  · intro (henum : view.placement.binding.kind = .enum)
    rw [if_pos henum] at hprojected
    obtain ⟨hfields, -⟩ := hwell.values_of_enum (hkind.1 henum)
    refine ⟨?_, hfields, ?_⟩
    · rw [hprojected]
    · rw [hprojected]
      rfl
  · intro (hother : view.placement.binding.kind ≠ .enum)
    rw [if_neg hother] at hprojected
    obtain ⟨hvalues, -⟩ := hwell.fields_of_other (hother ∘ hkind.2)
    refine ⟨?_, hvalues⟩
    rw [hprojected]

def colorDeclaration : Declaration where
  kind := .enum
  declaredName := "Color"
  rawAnnotation := "@GqlEnum(name:Hue) @GqlType @GqlEnum"
  members :=
    [{ declaredName := "ColorRed", value := some "red" },
      { declaredName := "ColorOld", rawAnnotation := "@GqlEnumValue(omit)" }]

def colorDirectives : List Directive :=
  [{ name := .enum, arguments := [⟨"name", some (.text "Hue"), none, 9, some "Hue"⟩] },
    { name := .type, position := 19 },
    { name := .enum, position := 28 }]

def color : Entity where
  kind := .enum
  declaredName := "Color"
  bindings := [⟨"Hue", .enum, none, 0⟩, ⟨"Color", .enum, none, 1⟩]
  values := [{ name := "RED", literal := "red", declaredName := "ColorRed" }]
  notes := [⟨.wrongKind .type .enum, "Color", none, none⟩]

theorem entities_and_views_are_wellKinded_color :
    ofAnnotation colorDeclaration.rawAnnotation.toList none = .ok colorDirectives ∧
      ¬colorDeclaration.IsIgnored ∧
      Entity.ofDeclaration {} colorDeclaration 0 = .ok color ∧
      color.IsWellKinded {} colorDeclaration colorDirectives ∧
      ∀ view ∈ (Schema.resolve ⟨TypeMapping.defaults⟩ [color]).views,
        (view.kind = .enum → view.fields = [] ∧ view.entity.fields = [] ∧
          view.values = view.entity.values) ∧
        (view.kind ≠ .enum → view.values = [] ∧ view.entity.values = []) := by
  have hread : ofAnnotation colorDeclaration.rawAnnotation.toList none = .ok colorDirectives := by
    decide +kernel
  have hkept : ¬colorDeclaration.IsIgnored := by decide +kernel
  have hbuilt : Entity.ofDeclaration {} colorDeclaration 0 = .ok color := by decide +kernel
  refine ⟨hread, hkept, hbuilt, entities_and_views_are_wellKinded.1 _ _ _ _ _ hread hkept hbuilt,
    entities_and_views_are_wellKinded.2 _ _ fun entity hmem => ?_⟩
  rw [List.mem_singleton.1 hmem]
  exact ⟨_, _, _, hbuilt⟩

end SchemaViews
