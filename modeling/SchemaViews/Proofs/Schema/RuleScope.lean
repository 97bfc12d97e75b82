import SchemaViews.Proofs.Schema.Outline

/-!
# One more rule

A rule that is qualified with some views is added to a field, anywhere among its rules. In every
other view of the entity it says nothing about the field. It can still matter there in one way:
a field without any rule about inclusion or access is listed in an opt-in view, and one with
such a rule has to ask for it.
-/

namespace SchemaViews

/-- A field with one more rule between its rules. -/
def Field.withRule (field : Field) (early : List Rule) (rule : Rule) (late : List Rule) : Field :=
  { field with rules := early ++ rule :: late }

namespace Field

variable {field : Field} {early late : List Rule} {rule : Rule} {names : List String}
    {view : String} (hrules : field.rules = early ++ late) (hviews : rule.views = some names)
include hrules

theorem filter_rules_withRule {test : Rule → Bool} (htest : ¬test rule = true) :
    (field.withRule early rule late).rules.filter test = field.rules.filter test := by
  calc
    (early ++ rule :: late).filter test = early.filter test ++ late.filter test := by
      rw [List.filter_append, List.filter_cons_of_neg htest]
    _ = field.rules.filter test := by rw [hrules, List.filter_append]

include hviews

theorem defaultPolicy_withRule :
    (field.withRule early rule late).defaultPolicy = field.defaultPolicy := by
  rw [defaultPolicy, filter_rules_withRule hrules (by simp [hviews]), defaultPolicy]

theorem viewPolicy_withRule (hview : view ∉ names) :
    (field.withRule early rule late).viewPolicy view = field.viewPolicy view := by
  rw [viewPolicy, filter_rules_withRule hrules (by simpa [Rule.scope, hviews] using hview),
    viewPolicy]

theorem policyFor_withRule (hview : view ∉ names) (defaults : Policy) :
    (field.withRule early rule late).policyFor view defaults = field.policyFor view defaults := by
  rw [policyFor, policyFor, viewPolicy_withRule hrules hviews hview,
    defaultPolicy_withRule hrules hviews]

theorem namesView_withRule (hview : view ∉ names) :
    (field.withRule early rule late).namesView view = field.namesView view := by
  have hscope : rule.scope.contains view = false := by simpa [Rule.scope, hviews] using hview
  simp only [namesView, withRule, hrules, List.any_append, List.any_cons, hscope, Bool.false_and,
    Bool.false_or]

theorem targets_withRule (hview : view ∉ names) :
    (field.withRule early rule late).targets view = field.targets view := by
  have heverywhere : includedEverywhere rule = false := by simp [includedEverywhere, hviews]
  rw [targets, targets, namesView_withRule hrules hviews hview]
  simp only [withRule, hrules, List.any_append, List.any_cons, heverywhere, Bool.false_or]

omit hviews in
/-- A field is constrained as before, unless the rule is the first one about inclusion or access. -/
theorem isConstrained_withRule
    (h : (rule.concern ≠ .inclusion ∧ rule.concern ≠ .access) ∨ ¬field.IsUnconstrained) :
    (field.withRule early rule late).isConstrained = field.isConstrained := by
  rcases h with hconcern | hconstrained
  · simp only [isConstrained, withRule, hrules, List.any_append, List.any_cons, hconcern,
      decide_false, Bool.or_false, Bool.false_or]
  · rw [← isConstrained_eq_false_iff, Bool.not_eq_false] at hconstrained
    rw [hconstrained]
    simp only [isConstrained, hrules, List.any_append, Bool.or_eq_true] at hconstrained
    simp only [isConstrained, withRule, List.any_append, List.any_cons, Bool.or_eq_true]
    tauto

end Field

/-- A view of an entity, and what it becomes if a rule is added to a field of the entity. A view
that the rule does not name keeps its mode, and keeps its fields too: if the rule is about
something else than inclusion and access, if the view is opt-out, or if the field had a rule about
inclusion or access already. -/
structure View.Withstands (field : Field) (rule : Rule) (changed : Entity) (view other : View) :
    Prop where
  placement : other.placement = { view.placement with entity := changed }
  values : other.values = view.values
  mode : view.name ∉ rule.scope → other.mode = view.mode
  fields : view.name ∉ rule.scope →
    (rule.concern ≠ .inclusion ∧ rule.concern ≠ .access) ∨ view.mode = .optOut ∨
    ¬field.IsUnconstrained →
      other.fields = view.fields

namespace Schema

variable {entity : Entity} {before after : List Field} {field : Field} {early late : List Rule}
    {rule : Rule} {names : List String}

section Local

variable (hfields : entity.fields = before ++ field :: after) (hrules : field.rules = early ++ late)
  (hviews : rule.views = some names)
include hfields hrules hviews

theorem inclusionMode_withRule {binding : Binding} (hview : binding.name ∉ names) :
    (entity.withFields (before ++ field.withRule early rule late :: after)).inclusionMode binding =
      entity.inclusionMode binding := by
  have hnamed :
      (before ++ field.withRule early rule late :: after).any
      (fun field => field.namesView binding.name) =
        entity.fields.any fun field => field.namesView binding.name := by
    calc
      (before ++ field.withRule early rule late :: after).any
        (fun field => field.namesView binding.name) =
          (before.any (fun field => field.namesView binding.name) ||
            (field.namesView binding.name ||
              after.any fun field => field.namesView binding.name)) := by
        rw [List.any_append, List.any_cons, Field.namesView_withRule hrules hviews hview]
      _ = entity.fields.any fun field => field.namesView binding.name := by
        rw [hfields, List.any_append, List.any_cons]
  simp only [Entity.inclusionMode, ← hnamed]
  rfl

omit hfields in
/-- Being constrained is looked at in opt-in views only. -/
theorem viewField?_withRule {placement : Placement} {mode : InclusionMode}
    (hview : placement.binding.name ∉ names)
    (hkept : (rule.concern ≠ .inclusion ∧ rule.concern ≠ .access) ∨ mode = .optOut ∨
      ¬field.IsUnconstrained) (entities : List Entity) :
    viewField? entities placement mode (field.withRule early rule late) =
      viewField? entities placement mode field := by
  have hasked : (decide (mode = .optIn) && (field.withRule early rule late).isConstrained) =
      (decide (mode = .optIn) && field.isConstrained) := by
    rcases hkept with hconcern | hoptOut | hconstrained
    · rw [Field.isConstrained_withRule hrules (Or.inl hconcern)]
    · rw [hoptOut]
      rfl
    · rw [Field.isConstrained_withRule hrules (Or.inr hconstrained)]
  simp only [viewField?, Field.policyFor_withRule hrules hviews hview,
    Field.targets_withRule hrules hviews hview, hasked]
  rfl

theorem withstands_viewOf (entities : List Entity) (owner : Nat) (binding : Binding) :
    View.Withstands field rule
      (entity.withFields (before ++ field.withRule early rule late :: after))
      (viewOf entities ⟨owner, entity, binding⟩)
      (viewOf entities ⟨owner,
        entity.withFields (before ++ field.withRule early rule late :: after), binding⟩) := by
  have hscope : rule.scope = names := by simp [Rule.scope, hviews]
  by_cases henum : binding.kind = .enum
  · simp only [viewOf, henum, if_true]
    exact ⟨rfl, rfl, fun _ => rfl, fun _ _ => rfl⟩
  · simp only [viewOf, henum, if_false, viewField?_withFields]
    refine ⟨rfl, rfl, fun hview => ?_, fun hview hkept => ?_⟩
    · exact inclusionMode_withRule hfields hrules hviews (hscope ▸ hview)
    · replace hview : binding.name ∉ names := hscope ▸ hview
      rw [inclusionMode_withRule hfields hrules hviews hview, Entity.withFields, hfields]
      simp only [List.filterMap_append, List.filterMap_cons]
      rw [viewField?_withRule hrules hviews hview hkept]

end Local

/-- A rule that is qualified with views stays inside them. If it is added to a field of an entity,
anywhere among the rules of the field, the views of the other entities stay what they are, and so
do those of the entity that the rule does not name, apart from a first rule about inclusion or
access in an opt-in view. -/
theorem rule_stays_in_its_views (mapping : TypeMapping) (front back : List Entity)
    (hfields : entity.fields = before ++ field :: after) (hrules : field.rules = early ++ late)
    (hviews : rule.views = some names) :
    List.Forall₂ (fun view other => other = view ∨ view.entity = entity ∧
        View.Withstands field rule
          (entity.withFields (before ++ field.withRule early rule late :: after)) view other)
      (resolve mapping (front ++ entity :: back)).views
      (resolve mapping
        (front ++ entity.withFields (before ++ field.withRule early rule late :: after) ::
          back)).views := by
  generalize hchanged :
    entity.withFields (before ++ field.withRule early rule late :: after) = changed
  let related (first other : Entity) : Prop := other = first ∨ first = entity ∧ other = changed
  have houtline : ∀ first other, related first other → first.outline = other.outline := by
    rintro first other (rfl | ⟨rfl, rfl⟩)
    · rfl
    · rw [← hchanged]
      rfl
  have hself (entities : List Entity) : List.Forall₂ related entities entities :=
    List.forall₂_same.2 fun _ _ => Or.inl rfl
  have hrelated : List.Forall₂ related (front ++ entity :: back) (front ++ changed :: back) :=
    List.rel_append (hself front) (.cons (Or.inr ⟨rfl, rfl⟩) (hself back))
  refine forall₂_views houtline hrelated mapping ?_
  rintro ⟨owner, first, binding⟩ ⟨_, other, _⟩ ⟨rfl, rfl, hentity⟩
  rcases hentity with hsame | ⟨hfirst, hother⟩
  · exact Or.inl (by rw [show other = first from hsame])
  · obtain rfl : first = entity := hfirst
    obtain rfl : other = changed := hother
    rw [View.entity, placement_viewOf, ← hchanged]
    exact Or.inr ⟨rfl, withstands_viewOf hfields hrules hviews _ _ _⟩

def omission : Rule :=
  ⟨.inclusion false, some ["Public"], "omit"⟩

theorem rule_stays_in_its_views_omission :
    ∃ field early late after, account.fields = [] ++ field :: after ∧ field.rules = early ++ late ∧
      omission.views = some ["Public"] ∧ ¬field.IsUnconstrained ∧
      List.Forall₂ (fun view other => other = view ∨ view.entity = account ∧
          View.Withstands field omission
            (account.withFields ([] ++ field.withRule early omission late :: after)) view other)
        (resolve ⟨TypeMapping.defaults⟩ [account]).views
        (resolve ⟨TypeMapping.defaults⟩
          [account.withFields ([] ++ field.withRule early omission late :: after)]).views ∧
      (resolve ⟨TypeMapping.defaults⟩ [account]).views.map
        (fun view => (view.name, view.mode, view.fields.map (·.name))) =
          [("Public", .optOut, ["id", "role"]), ("Admin", .optIn, ["id", "role"]),
            ("AccountInput", .optOut, ["mail"])] ∧
      (resolve ⟨TypeMapping.defaults⟩
        [account.withFields ([] ++ field.withRule early omission late :: after)]).views.map
          (fun view => (view.name, view.mode, view.fields.map (·.name))) =
        [("Public", .optOut, ["role"]), ("Admin", .optIn, ["id", "role"]),
          ("AccountInput", .optOut, ["mail"])] := by
  refine ⟨account.fields.head (by decide), [], [⟨.access .readWrite, some ["Admin"], "rw"⟩],
    account.fields.tail, rfl, rfl, rfl,
    by decide, rule_stays_in_its_views _ [] [] rfl rfl rfl, by decide +kernel, by decide +kernel⟩

end Schema

end SchemaViews
