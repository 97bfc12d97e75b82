import SchemaViews.Proofs.Entity.Rules
import SchemaViews.Proofs.Policy.Order
import SchemaViews.Schema.Issues

/-!
# Conflicts

A check groups the rules of a field by what they decide and where, and a policy takes the
last of them. The check reports a conflict exactly where the order of the rules would
make a difference to the policy.
-/

namespace SchemaViews

namespace Rule

def isIn (scope : Option String) (rule : Rule) : Bool :=
  match scope with
  | none => rule.views.isNone
  | some view => rule.scope.contains view

theorem IsScoped.contains_scopes {rule : Rule} (h : rule.IsScoped) (scope : Option String) :
    rule.scopes.contains scope = rule.isIn scope := by
  rw [Bool.eq_iff_iff, List.contains_iff_mem, scopes]
  cases scope with
  | none =>
      rw [isIn, Option.isNone_iff_eq_none, ← h.scope_eq_nil_iff]
      cases rule.scope <;> simp
  | some view =>
      rw [isIn, List.contains_iff_mem]
      cases rule.scope <;> simp

theorem exists_mem_firstOfEach_iff {rules : List Rule} {setting : Setting} :
    (∃ rule ∈ firstOfEach rules, rule.setting = setting) ↔ ∃ rule ∈ rules,
      rule.setting = setting := by
  induction rules with
  | nil => rfl
  | cons rule rest ih =>
      simp only [firstOfEach, List.mem_cons, exists_eq_or_imp, ← ih]
      by_cases hsetting : rule.setting = setting
      · simp [hsetting]
      · refine or_congr_right (exists_congr fun later => ?_)
        rw [List.mem_filter, decide_eq_true_iff]
        constructor
        · rintro ⟨⟨hmem, -⟩, hlater⟩
          exact ⟨hmem, hlater⟩
        · rintro ⟨hmem, hlater⟩
          exact ⟨⟨hmem, fun heq => hsetting (heq.symm.trans hlater)⟩, hlater⟩

/-- One rule is kept for each setting, so at most one is left if all rules agree. -/
theorem length_firstOfEach_lt_two_iff {rules : List Rule} :
    (firstOfEach rules).length < 2 ↔ ∀ first ∈ rules, ∀ second ∈ rules,
      first.setting = second.setting := by
  cases rules with
  | nil => simp [firstOfEach]
  | cons rule rest =>
      have hkept : (firstOfEach (rule :: rest)).length < 2 ↔ ∀ later ∈ rest,
          later.setting = rule.setting := by
        rw [firstOfEach, List.length_cons, Nat.succ_lt_succ_iff, Nat.lt_one_iff,
          List.length_eq_zero_iff, List.filter_eq_nil_iff]
        constructor
        · intro h later hmem
          obtain ⟨kept, hkept, hsetting⟩ := exists_mem_firstOfEach_iff.2 ⟨later, hmem, rfl⟩
          rw [← hsetting]
          simpa using h kept hkept
        · intro h kept hmem
          obtain ⟨later, hlater, hsetting⟩ := exists_mem_firstOfEach_iff.1 ⟨kept, hmem, rfl⟩
          simpa [← hsetting] using h later hlater
      rw [hkept]
      constructor
      · intro h first hfirst second hsecond
        have hrule (other : Rule) (hmem : other ∈ rule :: rest) : other.setting = rule.setting := by
          rcases List.mem_cons.1 hmem with rfl | hlater
          · rfl
          · exact h other hlater
        rw [hrule first hfirst, hrule second hsecond]
      · intro h later hmem
        exact h later (List.mem_cons_of_mem rule hmem) rule List.mem_cons_self

end Rule

structure Aspect.Decides {α : Type} (aspect : Aspect α) (dispute : Dispute) : Prop where
  dispute_eq_some_iff : ∀ setting : Setting, setting.dispute? = some dispute ↔ ∃ value,
    aspect.select setting = some value
  select_injective : ∀ (first second : Setting) (value : α), aspect.select first = some value →
    aspect.select second = some value → first = second

namespace Aspect

theorem inclusion_decides : inclusion.Decides .inclusion where
  dispute_eq_some_iff setting := by cases setting <;> simp [inclusion, Setting.dispute?]
  select_injective first second value hfirst hsecond := by
    cases first <;> cases hfirst
    cases second <;> cases hsecond
    rfl

theorem access_decides : access.Decides .access where
  dispute_eq_some_iff setting := by cases setting <;> simp [access, Setting.dispute?]
  select_injective first second value hfirst hsecond := by
    cases first <;> cases hfirst
    cases second <;> cases hsecond
    rfl

theorem required_decides : required.Decides .required where
  dispute_eq_some_iff setting := by cases setting <;> simp [required, Setting.dispute?]
  select_injective first second value hfirst hsecond := by
    cases first <;> cases hfirst
    cases second <;> cases hsecond
    rfl

theorem Decides.agrees_iff {α : Type} {aspect : Aspect α} {dispute : Dispute}
    (h : aspect.Decides dispute) {rules : List Rule} :
    aspect.Agrees rules ↔ ∀ first ∈ rules, first.setting.dispute? = some dispute →
      ∀ second ∈ rules, second.setting.dispute? = some dispute →
        first.setting = second.setting := by
  constructor
  · intro hagrees first hfirst hfirstDispute second hsecond hsecondDispute
    obtain ⟨value, hvalue⟩ := (h.dispute_eq_some_iff _).1 hfirstDispute
    obtain ⟨other, hother⟩ := (h.dispute_eq_some_iff _).1 hsecondDispute
    obtain rfl := hagrees value (aspect.mem_answers.2 ⟨first, hfirst, hvalue⟩) other
      (aspect.mem_answers.2 ⟨second, hsecond, hother⟩)
    exact h.select_injective _ _ value hvalue hother
  · intro hsame value hvalue other hother
    obtain ⟨first, hfirst, hfirstValue⟩ := aspect.mem_answers.1 hvalue
    obtain ⟨second, hsecond, hsecondValue⟩ := aspect.mem_answers.1 hother
    have hsetting :=
      hsame first hfirst ((h.dispute_eq_some_iff _).2 ⟨value, hfirstValue⟩) second hsecond
      ((h.dispute_eq_some_iff _).2 ⟨other, hsecondValue⟩)
    rw [hsetting, hsecondValue] at hfirstValue
    exact (Option.some.inj hfirstValue).symm

end Aspect

namespace Field

variable {field : Field}

theorem conflictViews_ne_nil (entity : Entity) (scope : Option String) :
    conflictViews entity scope ≠ [] := by
  cases scope with
  | some view => exact List.cons_ne_nil _ _
  | none =>
      rw [conflictViews]
      cases entity.bindings.filter fun binding => binding.kind ≠ .enum <;>
        exact List.cons_ne_nil _ _

theorem mem_disputes {rule : Rule} {dispute : Dispute} {scope : Option String}
    (hmem : rule ∈ field.rules)
    (hbelongs : rule.belongsTo dispute scope = true) : (dispute, scope) ∈ field.disputes := by
  rw [Rule.belongsTo, Bool.and_eq_true, decide_eq_true_iff, List.contains_iff_mem] at hbelongs
  obtain ⟨hdispute, hscope⟩ := hbelongs
  rw [disputes, List.mem_eraseDups, List.mem_flatMap]
  refine ⟨rule, hmem, ?_⟩
  rw [hdispute]
  exact List.mem_map.2 ⟨scope, hscope, rfl⟩

theorem conflicts_eq_nil_iff_opposing {entity : Entity} :
    field.conflicts entity = [] ↔ ∀ dispute scope, (field.opposing dispute scope).length < 2 := by
  have hreport (dispute : Dispute) (scope : Option String) :
      (if (field.opposing dispute scope).length < 2 then []
        else (conflictViews entity scope).map fun view =>
          (⟨.conflict dispute (field.opposing dispute scope) scope.isNone, entity.declaredName,
            some field.declaredName, view⟩ :
            Issue)) = [] ↔ (field.opposing dispute scope).length < 2 := by
    by_cases hlength : (field.opposing dispute scope).length < 2
    · rw [if_pos hlength]
      exact iff_of_true rfl hlength
    · rw [if_neg hlength, List.map_eq_nil_iff]
      exact iff_of_false (conflictViews_ne_nil entity scope) hlength
  rw [conflicts, List.flatMap_eq_nil_iff]
  constructor
  · intro h dispute scope
    by_cases hmem : (dispute, scope) ∈ field.disputes
    · exact (hreport dispute scope).1 (h _ hmem)
    · have hnone : field.rules.filter (Rule.belongsTo dispute scope) = [] := by
        rw [List.filter_eq_nil_iff]
        intro rule hrule hbelongs
        exact hmem (mem_disputes hrule hbelongs)
      rw [opposing, hnone]
      exact Nat.zero_lt_two
  · rintro h ⟨dispute, scope⟩ -
    exact (hreport dispute scope).2 (h dispute scope)

theorem IsScoped.length_opposing_lt_two_iff (h : field.IsScoped) {α : Type} {aspect : Aspect α}
    {dispute : Dispute} (hdecides : aspect.Decides dispute) (scope : Option String) :
    (field.opposing dispute scope).length < 2 ↔
      aspect.Agrees (field.rules.filter (Rule.isIn scope)) := by
  have hmem (rule : Rule) : rule ∈ field.rules.filter (Rule.belongsTo dispute scope) ↔
      rule ∈ field.rules.filter (Rule.isIn scope) ∧ rule.setting.dispute? = some dispute := by
    rw [List.mem_filter, List.mem_filter, and_assoc]
    refine and_congr_right fun hrule => ?_
    rw [Rule.belongsTo, (h rule hrule).contains_scopes, Bool.and_eq_true, decide_eq_true_iff,
      and_comm]
  rw [opposing, List.length_map, Rule.length_firstOfEach_lt_two_iff, hdecides.agrees_iff]
  simp only [hmem, and_imp]

theorem IsScoped.conflicts_eq_nil_iff (h : field.IsScoped) {entity : Entity} :
    field.conflicts entity = [] ↔ ∀ scope,
      Aspect.inclusion.Agrees (field.rules.filter (Rule.isIn scope)) ∧
        Aspect.access.Agrees (field.rules.filter (Rule.isIn scope)) ∧
        Aspect.required.Agrees (field.rules.filter (Rule.isIn scope)) := by
  rw [conflicts_eq_nil_iff_opposing, forall_comm]
  refine forall_congr' fun scope => ?_
  rw [← h.length_opposing_lt_two_iff Aspect.inclusion_decides, ← h.length_opposing_lt_two_iff
    Aspect.access_decides, ← h.length_opposing_lt_two_iff Aspect.required_decides]
  constructor
  · intro hall
    exact ⟨hall .inclusion, hall .access, hall .required⟩
  · rintro ⟨hinclusion, haccess, hrequired⟩ dispute
    cases dispute <;> assumption

/-- What the rules of a scope say. -/
def policyIn (field : Field) (scope : Option String) : Policy :=
  .ofRules (field.rules.filter (Rule.isIn scope))

theorem policyIn_none (field : Field) : field.policyIn none = field.defaultPolicy := rfl

theorem policyIn_some (field : Field) (view : String) :
    field.policyIn (some view) = field.viewPolicy view := rfl

/-- A conflict is reported exactly if in some scope another order of the
rules says something else. -/
theorem IsScoped.conflicts_ne_nil_iff (h : field.IsScoped) {entity : Entity} :
    field.conflicts entity ≠ [] ↔ ∃ rules : List Rule, rules.Perm field.rules ∧
      ∃ scope, (policyIn { field with rules := rules } scope).disputed ≠
        (field.policyIn scope).disputed := by
  have hscope (scope : Option String) : (∃ rules : List Rule, rules.Perm field.rules ∧
      (policyIn { field with rules := rules } scope).disputed ≠ (field.policyIn scope).disputed) ↔
      _ :=
    exists_perm_disputed_ne_iff field.rules (Rule.isIn scope)
  rw [ne_eq, h.conflicts_eq_nil_iff, not_forall]
  simp only [not_and_or, ← hscope]
  rw [exists_comm]
  simp only [exists_and_left]

theorem mem_viewPolicies {view : String} {policy : Policy} :
    (view, policy) ∈ field.viewPolicies ↔ (∃ rule ∈ field.rules, view ∈ rule.scope) ∧
    policy = field.viewPolicy view := by
  rw [viewPolicies, List.mem_map]
  constructor
  · rintro ⟨other, hmem, heq⟩
    cases heq
    rw [referencedViews, List.mem_eraseDups, List.mem_flatMap] at hmem
    exact ⟨hmem, rfl⟩
  · rintro ⟨hmem, rfl⟩
    refine ⟨view, ?_, rfl⟩
    rwa [referencedViews, List.mem_eraseDups, List.mem_flatMap]

/-- Whether two fields differ in what the rules for every view, or those for some view that both
name, say about inclusion, access or requiredness. -/
def DiffersFrom (field other : Field) : Prop :=
  field.defaultPolicy.disputed ≠ other.defaultPolicy.disputed ∨
    ∃ view policy otherPolicy, (view, policy) ∈ field.viewPolicies ∧
    (view, otherPolicy) ∈ other.viewPolicies ∧
      policy.disputed ≠ otherPolicy.disputed

theorem viewPolicy_of_not_named {view : String} (h : ¬∃ rule ∈ field.rules, view ∈ rule.scope) :
    field.viewPolicy view = {} := by
  have hnone : (field.rules.filter fun rule => rule.scope.contains view) = [] := by
    rw [List.filter_eq_nil_iff]
    intro rule hmem hcontains
    exact h ⟨rule, hmem, List.contains_iff_mem.1 hcontains⟩
  rw [viewPolicy, hnone]
  rfl

theorem differsFrom_iff {rules : List Rule} (hperm : rules.Perm field.rules) :
    DiffersFrom { field with rules := rules } field ↔
      ∃ scope, (policyIn { field with rules := rules } scope).disputed ≠
        (field.policyIn scope).disputed := by
  rw [Option.exists, policyIn_none, policyIn_none, DiffersFrom]
  refine or_congr_right (exists_congr fun view => ?_)
  rw [policyIn_some, policyIn_some]
  have hnamed : (∃ rule ∈ rules, view ∈ rule.scope) ↔ ∃ rule ∈ field.rules, view ∈ rule.scope := by
    simp only [hperm.mem_iff]
  constructor
  · rintro ⟨policy, otherPolicy, hpolicy, hother, hne⟩
    rwa [(mem_viewPolicies.1 hpolicy).2, (mem_viewPolicies.1 hother).2] at hne
  · intro hne
    by_cases hview : ∃ rule ∈ field.rules, view ∈ rule.scope
    · exact ⟨_, _, mem_viewPolicies.2 ⟨hnamed.2 hview, rfl⟩, mem_viewPolicies.2 ⟨hview, rfl⟩, hne⟩
    · rw [viewPolicy_of_not_named hview, viewPolicy_of_not_named fun h => hview (hnamed.1 h)] at hne
      exact absurd rfl hne

def IsBuilt (field : Field) : Prop :=
  ∃ entity : Entity, entity.IsBuilt ∧ field ∈ entity.fields

theorem IsBuilt.isScoped (h : field.IsBuilt) : field.IsScoped := by
  obtain ⟨entity, hbuilt, hmem⟩ := h
  exact hbuilt.isScoped field hmem

/-- Conflicts are reported exactly for the fields whose rules depend on their order. The rules of
the other fields say the same in every view in whatever order they are written. -/
theorem conflicts_iff_order_matters (hbuilt : field.IsBuilt) (entity : Entity) :
    (field.conflicts entity ≠ [] ↔
        ∃ rules : List Rule, rules.Perm field.rules ∧
          DiffersFrom { field with rules := rules } field) ∧
      (field.conflicts entity = [] → ∀ rules : List Rule, rules.Perm field.rules → ∀ view defaults,
        (policyFor { field with rules := rules } view defaults).disputed =
          (field.policyFor view defaults).disputed) := by
  have hiff : field.conflicts entity ≠ [] ↔
      ∃ rules : List Rule, rules.Perm field.rules ∧
      DiffersFrom { field with rules := rules } field := by
    rw [hbuilt.isScoped.conflicts_ne_nil_iff]
    exact exists_congr fun rules => and_congr_right fun hperm => (differsFrom_iff hperm).symm
  refine ⟨hiff, ?_⟩
  intro hnone rules hperm view defaults
  have hsame (scope : Option String) :
      (policyIn { field with rules := rules } scope).disputed =
        (field.policyIn scope).disputed := by
    by_contra hne
    exact hbuilt.isScoped.conflicts_ne_nil_iff.2 ⟨rules, hperm, scope, hne⟩ hnone
  exact Policy.disputed_withBase_congr
    (Policy.disputed_withBase_congr (hsame (some view)) (hsame none)) rfl

def contested : Field where
  declaredName := "Email"
  declaredType := "string"
  outputName := "email"
  scalarType := "String"
  rules :=
    [⟨.access .readOnly, some ["Public"], "ro"⟩,
      ⟨.access .writeOnly, some ["Admin", "Public"], "wo"⟩,
    ⟨.inclusion true, none, "include"⟩, ⟨.required true, none, "required"⟩]

theorem isBuilt_contested : contested.IsBuilt := by
  refine ⟨{ kind := .object, declaredName := "User", bindings := [⟨"User", .object, none, 0⟩],
            fields := [contested] },
    ⟨{}, { kind := .object, declaredName := "User", rawAnnotation := "@GqlType", members := [{
      declaredName := "Email", declaredType := "string"
      rawAnnotation := "@GqlField(ro:Public, wo:[Admin, Public], include, required)" }] }, 0, ?_⟩,
      List.mem_singleton_self _⟩
  decide +kernel

theorem conflicts_iff_order_matters_contested :
    contested.IsBuilt ∧ contested.conflicts account ≠ [] ∧
      (∃ rules : List Rule, rules.Perm contested.rules ∧
        DiffersFrom { contested with rules := rules } contested) ∧
      ∀ field ∈ account.fields, field.conflicts account = [] ∧
        ∀ rules : List Rule, rules.Perm field.rules →
          ∀ view defaults, (policyFor { field with rules := rules } view defaults).disputed =
            (field.policyFor view defaults).disputed := by
  have hconflicts : contested.conflicts account ≠ [] := by decide
  have hnone : ∀ field ∈ account.fields, field.conflicts account = [] := by decide
  refine ⟨isBuilt_contested, hconflicts,
    (conflicts_iff_order_matters isBuilt_contested account).1.1 hconflicts, ?_⟩
  intro field hmem
  have hbuilt : field.IsBuilt :=
    ⟨account, isBuilt_of_mem_account account (List.mem_singleton_self account), hmem⟩
  exact ⟨hnone field hmem, (conflicts_iff_order_matters hbuilt account).2 (hnone field hmem)⟩

end Field

end SchemaViews
