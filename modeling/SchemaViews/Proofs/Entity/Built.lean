import Mathlib.Data.List.Forall2
import SchemaViews.Entity.Declared
import SchemaViews.Proofs.Results

/-!
# Entities that declarations are read into

What the directives of a declaration add up to, one directive at a time: its defaults are about
access and requiredness only, and it binds enums if and only if it is one. An entity with fields
therefore has no enum among its views.
-/

namespace SchemaViews

/-- Nothing but access and requiredness is set. -/
def Policy.IsFieldDefault (policy : Policy) : Prop :=
  policy = { access := policy.access, required := policy.required }

theorem Policy.IsFieldDefault.apply {policy : Policy} (h : policy.IsFieldDefault)
    {setting : Setting} (hsetting : setting.concern = .access ∨ setting.concern = .required) :
    (policy.apply setting).IsFieldDefault := by
  unfold IsFieldDefault at h
  cases setting with
  | access access =>
      rw [h]
      rfl
  | required required =>
      rw [h]
      rfl
  | inclusion | name | type | description | deprecated =>
      rcases hsetting with hconcern | hconcern <;> cases hconcern

namespace Heading

section Options

variable {motive : Heading → Prop} {directive : DirectiveName}

/-- What outlives the setting of a default and the notes about options outlives all
options of a binding directive. -/
theorem foldl_bindingOption_induction
    (hset : ∀ heading setting, setting.concern = .access ∨ setting.concern = .required →
      motive heading → motive { heading with defaults := heading.defaults.apply setting })
    (hoverridden : ∀ heading before value, motive heading →
      motive (heading.note (.overriddenDefault directive before value)))
    (hunknown : ∀ heading key, motive heading →
      motive (heading.note (.unknownOptionOn key directive))) (options : List Directive.Argument)
    {state : Heading × Label} (h : motive state.1) :
    motive (options.foldl (bindingOption directive) state).1 := by
  have hdefault (heading : Heading) (value : EntityDefault) (h : motive heading) :
      motive (heading.setDefault directive value) := by
    unfold setDefault
    simp only
    refine hset _ _ (by cases value <;> simp [Setting.concern]) ?_
    split
    · split
      · exact h
      · exact hoverridden _ _ _ h
    · exact h
  refine List.foldlRecOn (motive := fun state : Heading × Label => motive state.1) options _ h ?_
  intro state hstate argument _
  unfold bindingOption
  simp only
  split
  · exact hstate
  · split
    · exact hstate
    · split
      · exact hdefault _ _ hstate
      · exact hunknown _ _ hstate

end Options

/-- What holds after every directive of a declaration. -/
structure Sound (declaration : Declaration) (heading : Heading) : Prop where
  isFieldDefault : heading.defaults.IsFieldDefault
  kind_eq_enum_iff : ∀ binding ∈ heading.bindings, binding.kind = .enum ↔ declaration.kind = .enum

variable {settings : Settings} {declaration : Declaration} {heading : Heading}

theorem Sound.empty : Sound declaration {} where
  isFieldDefault := rfl
  kind_eq_enum_iff _ hmem := by cases hmem

theorem Sound.congr {other : Heading} (h : heading.Sound declaration)
    (hbindings : other.bindings = heading.bindings)
    (hdefaults : other.defaults = heading.defaults) : other.Sound declaration where
  isFieldDefault := by
    rw [hdefaults]
    exact h.isFieldDefault
  kind_eq_enum_iff := by
    rw [hbindings]
    exact h.kind_eq_enum_iff

theorem Sound.note (h : heading.Sound declaration) (cause : Cause) :
    (heading.note cause).Sound declaration :=
  h.congr rfl rfl

theorem Sound.apply (h : heading.Sound declaration) {setting : Setting}
    (hsetting : setting.concern = .access ∨ setting.concern = .required) :
    Sound declaration { heading with defaults := heading.defaults.apply setting } :=
  ⟨h.isFieldDefault.apply hsetting, h.kind_eq_enum_iff⟩

theorem Sound.addBinding (h : heading.Sound declaration) (directive : Directive) (kind : ViewKind) :
    (heading.addBinding settings declaration directive kind).Sound declaration := by
  unfold Heading.addBinding
  split
  · exact h.note _
  · rename_i hkind
    have hread :
        (directive.options.foldl (Heading.bindingOption directive.name) (heading, {})).1.Sound
        declaration := by
      refine foldl_bindingOption_induction ?_ ?_ ?_ directive.options h
      · exact fun _ _ hsetting hsound => hsound.apply hsetting
      · exact fun _ _ _ hsound => hsound.note _
      · exact fun _ _ hsound => hsound.note _
    refine ⟨hread.isFieldDefault, ?_⟩
    intro binding hmem
    rcases List.mem_append.1 hmem with hold | hnew
    · exact hread.kind_eq_enum_iff binding hold
    · rw [List.mem_singleton.1 hnew]
      exact iff_of_eq (Classical.not_not.1 hkind)

theorem Sound.take (h : heading.Sound declaration) (directive : Directive) :
    (heading.take settings declaration directive).Sound declaration := by
  have hnoted :
      Sound declaration { heading with causes := heading.causes ++ directive.duplicateCauses } :=
    h.congr rfl rfl
  unfold Heading.take
  simp only
  split
  · exact hnoted.addBinding directive _
  · split
    · exact hnoted.congr rfl rfl
    · split
      · unfold setNamespace
        split
        · exact hnoted.congr rfl rfl
        · exact hnoted.note _
      · exact hnoted
      · exact hnoted.note _

theorem sound_foldl_take (directives : List Directive) :
    (directives.foldl (Heading.take settings declaration) {}).Sound declaration := by
  refine List.foldlRecOn directives _ Sound.empty ?_
  intro heading h directive _
  exact h.take directive

theorem Sound.kind_of_mem_allBindings (h : heading.Sound declaration) {directives : List Directive}
    {binding : Binding} (hmem : binding ∈ heading.allBindings settings declaration directives) :
    binding.kind = .enum ↔ declaration.kind = .enum := by
  unfold allBindings at hmem
  split at hmem
  · rcases List.mem_append.1 hmem with hold | hnew
    · exact h.kind_eq_enum_iff binding hold
    · rw [List.mem_singleton.1 hnew]
      cases hkind : declaration.kind <;> simp [DeclarationKind.viewKind]
  · exact h.kind_eq_enum_iff binding hmem

end Heading

/-- The options of a field directive add rules and can force a resolver, and leave
everything else of the field. -/
theorem Field.exists_foldl_takeOption (arguments : List Directive.Argument)
    (state : Field × List Cause) : ∃ rules forced, (arguments.foldl takeOption state).1 =
      { state.1 with rules := state.1.rules ++ rules, forceResolver := forced } := by
  induction arguments generalizing state with
  | nil => exact ⟨[], state.1.forceResolver, by rw [List.append_nil]; rfl⟩
  | cons argument arguments ih =>
      obtain ⟨rules, forced, hlater⟩ := ih (takeOption state argument)
      rw [List.foldl_cons, hlater]
      unfold takeOption
      cases Policy.readOption argument with
      | rule rule =>
          exact ⟨rule :: rules, forced, by simp only [List.append_assoc, List.singleton_append]⟩
      | forceResolver | missingValue | unknown => exact ⟨rules, forced, rfl⟩

theorem Field.exists_of_ofMember {settings : Settings} {mapping : TypeMapping}
    {declaration : Declaration} {member : Member} {read : Field × List Cause}
    (h : ofMember settings mapping declaration member = .ok read) :
    ∃ directives,
      Directive.ofAnnotation member.rawAnnotation.toList (some (declaration.memberUnit member)) =
        .ok directives ∧ read = directives.foldl take (plain settings mapping member, []) := by
  obtain ⟨directives, hread, rfl⟩ := map_eq_ok_iff.1 h
  exact ⟨directives, hread, rfl⟩

theorem EnumValue.exists_of_ofMember {declaration : Declaration} {member : Member} {draft : Draft}
    (h : ofMember declaration member = .ok draft) :
    ∃ directives,
      Directive.ofAnnotation member.rawAnnotation.toList (some (declaration.memberUnit member)) =
        .ok directives ∧
      draft = directives.foldl Draft.take { value := plain declaration.declaredName member } := by
  obtain ⟨directives, hread, rfl⟩ := map_eq_ok_iff.1 h
  exact ⟨directives, hread, rfl⟩

namespace Entity

/-- An entity that some declaration was read into. -/
def IsBuilt (entity : Entity) : Prop :=
  ∃ settings declaration order, ofDeclaration settings declaration order = .ok entity

theorem forall₂_of_readAll {α β ε : Type} {read : α → Except ε β} {items : List α} {values : List β}
    (h : readAll read items = .ok values) :
    List.Forall₂ (fun item value => read item = .ok value) items values := by
  induction items generalizing values with
  | nil =>
      cases h
      exact .nil
  | cons item items ih =>
      rw [readAll] at h
      cases hitem : read item with
      | error error =>
          rw [hitem] at h
          cases h
      | ok first =>
          rw [hitem] at h
          obtain ⟨rest, hrest, rfl⟩ := map_eq_ok_iff.1 h
          exact .cons hitem (ih hrest)

/-- All that adding the members of a declaration can come to: an enum gets the values that are not
omitted, and any other entity a field for each member and then the extra ones. -/
theorem addMembers_cases {settings : Settings} {mapping : TypeMapping} {declaration : Declaration}
    {extras : List Directive} {entity built : Entity}
    (h : addMembers settings mapping declaration extras entity = .ok built) :
    (declaration.kind = .enum ∧ ∃ drafts,
      readAll (EnumValue.ofMember declaration) declaration.members = .ok drafts ∧
      built = { entity with
        values := (drafts.filter fun draft => !draft.omitted).map (·.value)
        notes := entity.notes ++ drafts.flatMap fun draft =>
          issuesOf declaration.declaredName (some draft.value.declaredName) draft.causes }) ∨
    (declaration.kind = .object ∧
      ∃ read, readAll (Field.ofMember settings mapping declaration) declaration.members = .ok read ∧
        built = { entity with
          fields := read.map (·.1) ++ (extraFields declaration.declaredName extras).1
          notes := entity.notes ++
            read.flatMap (fun (field, causes) =>
              issuesOf declaration.declaredName (some field.declaredName) causes) ++
            (extraFields declaration.declaredName extras).2 }) := by
  unfold addMembers at h
  cases hkind : declaration.kind with
  | enum =>
      simp only [hkind] at h
      obtain ⟨drafts, hread, rfl⟩ := map_eq_ok_iff.1 h
      exact .inl ⟨rfl, drafts, hread, rfl⟩
  | object =>
      simp only [hkind] at h
      obtain ⟨read, hread, rfl⟩ := map_eq_ok_iff.1 h
      exact .inr ⟨rfl, read, hread, rfl⟩

/-- Adding the members of a declaration keeps everything else of its entity, and an
enum keeps its fields too. -/
theorem addMembers_ok {settings : Settings} {mapping : TypeMapping} {declaration : Declaration}
    {extras : List Directive} {entity built : Entity}
    (h : addMembers settings mapping declaration extras entity = .ok built) :
    ∃ fields values notes,
      built = { entity with fields := fields, values := values, notes := notes } ∧
      (declaration.kind = .enum → fields = entity.fields) := by
  rcases addMembers_cases h with ⟨-, drafts, -, rfl⟩ | ⟨hkind, read, -, rfl⟩
  · exact ⟨_, _, _, rfl, fun _ => rfl⟩
  · refine ⟨_, _, _, rfl, fun henum => ?_⟩
    rw [hkind] at henum
    cases henum

def headed (settings : Settings) (declaration : Declaration) (directives : List Directive)
    (order : Int) : Entity :=
  let heading := directives.foldl (Heading.take settings declaration) {}
  let bindings := heading.allBindings settings declaration directives
  { blank declaration order with
    kind := (bindings.head?.map (·.kind)).getD declaration.kind.viewKind
    bindings := bindings
    fieldDefaults := heading.defaults
    group := heading.group
    notes := issuesOf declaration.declaredName none heading.causes }

/-- All that a declaration can be read into: an ignored entity without anything
else, or one with its members. -/
theorem ofDeclaration_cases {settings : Settings} {declaration : Declaration} {order : Int}
    {entity : Entity} (h : ofDeclaration settings declaration order = .ok entity) :
    ∃ directives,
      Directive.ofAnnotation declaration.rawAnnotation.toList (some declaration.unitName) =
        .ok directives ∧
      ((∃ directive ∈ directives, directive.name = .ignoreAll) ∧
        entity = { blank declaration order with ignoreAll := true } ∨
        (∀ directive ∈ directives, directive.name ≠ .ignoreAll) ∧
          addMembers settings settings.typeMapping declaration
            (directives.foldl (Heading.take settings declaration) {}).extras
            (headed settings declaration directives order) = .ok entity) := by
  unfold ofDeclaration at h
  split at h
  · cases h
  · rename_i directives hread
    refine ⟨directives, hread, ?_⟩
    split at h
    · rename_i hignored
      cases h
      exact .inl ⟨by simpa using hignored, rfl⟩
    · rename_i hkept
      exact .inr ⟨by simpa using hkept, h⟩

variable {entity : Entity}

theorem IsBuilt.sound (h : entity.IsBuilt) :
    entity.fieldDefaults.IsFieldDefault ∧
      (entity.fields ≠ [] → ∀ binding ∈ entity.bindings, binding.kind ≠ .enum) := by
  obtain ⟨settings, declaration, order, hbuilt⟩ := h
  obtain ⟨directives, -, ⟨-, rfl⟩ | ⟨-, hmembers⟩⟩ := ofDeclaration_cases hbuilt
  · exact ⟨rfl, fun _ _ hmem => by cases hmem⟩
  · obtain ⟨fields, values, notes, rfl, hfields⟩ := addMembers_ok hmembers
    have hsound : (directives.foldl (Heading.take settings declaration) {}).Sound declaration :=
      Heading.sound_foldl_take directives
    refine ⟨hsound.isFieldDefault, ?_⟩
    intro hnonempty binding hmem henum
    exact hnonempty (hfields ((hsound.kind_of_mem_allBindings hmem).1 henum))

theorem IsBuilt.isFieldDefault (h : entity.IsBuilt) : entity.fieldDefaults.IsFieldDefault :=
  h.sound.1

theorem IsBuilt.kind_ne_enum (h : entity.IsBuilt) (hfields : entity.fields ≠ []) :
    ∀ binding ∈ entity.bindings, binding.kind ≠ .enum :=
  h.sound.2 hfields

/-- An entity is of the kind of its first binding. -/
theorem IsBuilt.kind_eq_of_head? (h : entity.IsBuilt) {binding : Binding}
    (hhead : entity.bindings.head? = some binding) : entity.kind = binding.kind := by
  obtain ⟨settings, declaration, order, hbuilt⟩ := h
  obtain ⟨directives, -, ⟨-, rfl⟩ | ⟨-, hmembers⟩⟩ := ofDeclaration_cases hbuilt
  · cases hhead
  · obtain ⟨fields, values, notes, rfl, -⟩ := addMembers_ok hmembers
    rw [headed] at hhead ⊢
    simp only [hhead, Option.map_some, Option.getD_some]

end Entity

def accountDeclaration : Declaration where
  kind := .object
  declaredName := "Account"
  rawAnnotation := "@GqlType(name:Public) @GqlType(name:Admin, ro) @GqlInput"
  members :=
    [{ declaredName := "ID", declaredType := "int", rawAnnotation := "@GqlField(rw:Admin)" },
      { declaredName := "Email", declaredType := "string",
        rawAnnotation := "@GqlField(wo, omit:Public, name:\"mail\")" },
      { declaredName := "Role", declaredType := "Role"
        rawAnnotation :=
          "@GqlField(deprecated:\"see \\\"rights\\\"\", description:\"What it may do\", forceResolver)" }]

def account : Entity where
  kind := .object
  declaredName := "Account"
  bindings := [⟨"Public", .object, none, 0⟩, ⟨"Admin", .object, none, 1⟩,
    ⟨"AccountInput", .input, none, 2⟩]
  fields :=
    [{ declaredName := "ID", declaredType := "int", outputName := "id", scalarType := "Int"
       rules := [⟨.access .readWrite, some ["Admin"], "rw"⟩] },
      { declaredName := "Email", declaredType := "string", outputName := "email",
        scalarType := "String"
        rules := [⟨.access .writeOnly, none, "wo"⟩, ⟨.inclusion false, some ["Public"], "omit"⟩,
          ⟨.name "mail", none, "name"⟩] },
      { declaredName := "Role", declaredType := "Role", outputName := "role", scalarType := "Role"
        rules :=
          [⟨.deprecated "see \"rights\"", none, "deprecated"⟩,
            ⟨.description "What it may do", none, "description"⟩]
        forceResolver := true }]
  fieldDefaults := { access := some .readOnly }

theorem isBuilt_of_mem_account : ∀ entity ∈ [account], entity.IsBuilt := by
  intro entity hmem
  rw [List.mem_singleton.1 hmem]
  exact ⟨{}, accountDeclaration, 0, by decide +kernel⟩

end SchemaViews
