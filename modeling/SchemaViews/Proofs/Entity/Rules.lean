import Mathlib.Data.List.Basic
import SchemaViews.Proofs.Entity.Built

/-!
# The rules of a field that was read

Every rule that an option is read into either holds everywhere or is qualified with some view. A
list of views that is present but empty never arises, through whichever directive a rule came in.
-/

namespace SchemaViews

namespace Rule

def IsScoped (rule : Rule) : Prop :=
  rule.views ≠ some []

theorem IsScoped.scope_eq_nil_iff {rule : Rule} (h : rule.IsScoped) :
    rule.scope = [] ↔ rule.views = none := by
  unfold IsScoped at h
  unfold scope
  cases hviews : rule.views with
  | none => simp
  | some views =>
      rw [hviews] at h
      simpa using h

end Rule

namespace Policy

theorem scopeOf_ne_nil (names : List String) : scopeOf names ≠ some [] := by
  unfold scopeOf
  split
  · exact fun h => by cases h
  · rename_i hnames
    intro h
    cases names with
    | nil => exact hnames rfl
    | cons name names =>
        rw [Option.some.injEq, List.eraseDups_cons] at h
        cases h

theorem isScoped_of_readOption {argument : Directive.Argument} {rule : Rule}
    (h : readOption argument = .rule rule) : rule.IsScoped := by
  unfold readOption at h
  simp only at h
  split at h
  · cases h
  · split at h
    · cases h
      exact scopeOf_ne_nil _
    · split at h
      · split at h
        · cases h
          exact scopeOf_ne_nil _
        · cases h
      · split at h
        · cases h
          exact scopeOf_ne_nil _
        · split at h <;> cases h

end Policy

namespace Field

def IsScoped (field : Field) : Prop :=
  ∀ rule ∈ field.rules, rule.IsScoped

theorem isScoped_of_rules_eq_nil {field : Field} (h : field.rules = []) : field.IsScoped := by
  intro rule hmem
  rw [h] at hmem
  cases hmem

theorem IsScoped.add {field : Field} (h : field.IsScoped) {rule : Rule} (hrule : rule.IsScoped) :
    IsScoped { field with rules := field.rules ++ [rule] } := by
  intro other hmem
  rcases List.mem_append.1 hmem with hold | hnew
  · exact h other hold
  · rw [List.mem_singleton.1 hnew]
    exact hrule

theorem IsScoped.takeOption {state : Field × List Cause} (h : state.1.IsScoped)
    (argument : Directive.Argument) : (takeOption state argument).1.IsScoped := by
  unfold Field.takeOption
  simp only
  split
  · rename_i rule hrule
    exact h.add (Policy.isScoped_of_readOption hrule)
  · exact h
  · exact h
  · exact h

theorem IsScoped.foldl_takeOption {state : Field × List Cause} (h : state.1.IsScoped)
    (arguments : List Directive.Argument) :
    (arguments.foldl Field.takeOption state).1.IsScoped := by
  refine List.foldlRecOn (motive := fun state : Field × List Cause => state.1.IsScoped) arguments
    _ h ?_
  intro state hstate argument _
  exact hstate.takeOption argument

theorem IsScoped.rename {field : Field} (h : field.IsScoped) (name : String) :
    (field.rename name).IsScoped := by
  unfold Field.rename
  split
  · exact h.add (by intro heq; cases heq)
  · exact h

theorem IsScoped.takeDirective {field : Field} (h : field.IsScoped) (directive : Directive) :
    (field.takeDirective directive).1.IsScoped := by
  unfold Field.takeDirective
  split
  · exact (h.rename _).foldl_takeOption _
  · exact h.foldl_takeOption _

theorem IsScoped.take {state : Field × List Cause} (h : state.1.IsScoped) (directive : Directive) :
    (take state directive).1.IsScoped := by
  unfold Field.take
  simp only
  split
  · exact h.takeDirective directive
  · exact h

theorem isScoped_of_ofMember {settings : Settings} {mapping : TypeMapping}
    {declaration : Declaration} {member : Member} {read : Field × List Cause}
    (h : ofMember settings mapping declaration member = .ok read) :
    read.1.IsScoped := by
  obtain ⟨directives, -, rfl⟩ := exists_of_ofMember h
  have hplain : (plain settings mapping member).IsScoped := isScoped_of_rules_eq_nil rfl
  refine List.foldlRecOn (motive := fun state : Field × List Cause => state.1.IsScoped) directives
    _ hplain ?_
  intro state hstate directive _
  exact hstate.take directive

theorem isScoped_of_ofExtra {directive : Directive} {access : Access} {read : Field × List Cause}
    (h : ofExtra directive access = some read) : read.1.IsScoped := by
  obtain ⟨name, -, rfl⟩ := Option.map_eq_some_iff.1 h
  refine IsScoped.foldl_takeOption ?_ _
  intro rule hmem heq
  rw [List.mem_singleton.1 hmem] at heq
  cases heq

end Field

namespace Entity

theorem exists_of_mem_readAll {α β ε : Type} {read : α → Except ε β} {items : List α}
    {values : List β} (h : readAll read items = .ok values) {value : β} (hmem : value ∈ values) :
    ∃ item ∈ items, read item = .ok value := by
  obtain ⟨place, hplace, rfl⟩ := List.getElem_of_mem hmem
  have hread := forall₂_of_readAll h
  have hbound : place < items.length := hread.length_eq ▸ hplace
  exact ⟨items[place], List.getElem_mem hbound, hread.get hbound hplace⟩

theorem isScoped_of_mem_extraFields {entity : String} {extras : List Directive} {field : Field}
    (hmem : field ∈ (extraFields entity extras).1) : field.IsScoped := by
  unfold extraFields at hmem
  obtain ⟨found, hfound, hfield⟩ := List.mem_flatMap.1 hmem
  obtain ⟨directive, -, hdirective⟩ := List.mem_filterMap.1 hfound
  obtain ⟨access, -, rfl⟩ := Option.map_eq_some_iff.1 hdirective
  cases hextra : Field.ofExtra directive access with
  | none =>
      rw [hextra] at hfield
      cases hfield
  | some read =>
      rw [hextra] at hfield
      rw [List.mem_singleton.1 hfield]
      exact Field.isScoped_of_ofExtra hextra

theorem isScoped_of_mem_addMembers {settings : Settings} {mapping : TypeMapping}
    {declaration : Declaration} {extras : List Directive} {entity built : Entity}
    (hnone : entity.fields = [])
    (h : addMembers settings mapping declaration extras entity = .ok built) :
    ∀ field ∈ built.fields, field.IsScoped := by
  rcases addMembers_cases h with ⟨-, drafts, -, rfl⟩ | ⟨-, members, hread, rfl⟩
  · simp [hnone]
  · intro field hmem
    rcases List.mem_append.1 hmem with hmember | hextra
    · obtain ⟨read, hin, rfl⟩ := List.mem_map.1 hmember
      obtain ⟨member, -, hok⟩ := exists_of_mem_readAll hread hin
      exact Field.isScoped_of_ofMember hok
    · exact isScoped_of_mem_extraFields hextra

theorem IsBuilt.isScoped {entity : Entity} (h : entity.IsBuilt) :
    ∀ field ∈ entity.fields, field.IsScoped := by
  obtain ⟨settings, declaration, order, hbuilt⟩ := h
  obtain ⟨directives, -, ⟨-, rfl⟩ | ⟨-, hmembers⟩⟩ := ofDeclaration_cases hbuilt
  · intro field hmem
    cases hmem
  · exact isScoped_of_mem_addMembers rfl hmembers

end Entity

end SchemaViews
