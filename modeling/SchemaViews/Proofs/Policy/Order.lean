import Mathlib.Data.List.Perm.Basic
import SchemaViews.Proofs.Policy.Aspect

/-!
# The order of rules

The last rule counts, so the order of rules can matter. It matters to an aspect exactly if two
rules answer it differently: either of the two can be written last, and rules with one answer
give that answer in every order.
-/

namespace SchemaViews

namespace Aspect

variable {α : Type} (aspect : Aspect α)

def answers (rules : List Rule) : List α :=
  rules.filterMap fun rule => aspect.select rule.setting

def Agrees (rules : List Rule) : Prop :=
  ∀ first ∈ aspect.answers rules, ∀ second ∈ aspect.answers rules, first = second

theorem mem_answers {rules : List Rule} {value : α} :
    value ∈ aspect.answers rules ↔ ∃ rule ∈ rules, aspect.select rule.setting = some value :=
  List.mem_filterMap

variable {aspect}

theorem Agrees.answers_perm {rules other : List Rule} (h : aspect.Agrees rules)
    (hperm : other.Perm rules) : aspect.answers other = aspect.answers rules := by
  have hanswers : (aspect.answers other).Perm (aspect.answers rules) := hperm.filterMap _
  cases hrules : aspect.answers rules with
  | nil =>
      rw [hrules] at hanswers
      exact List.perm_nil.1 hanswers
  | cons first rest =>
      have hreplicate :
          aspect.answers rules = List.replicate (aspect.answers rules).length first := by
        refine List.eq_replicate_of_mem fun second hmem => ?_
        exact h second hmem first (by rw [hrules]; exact List.mem_cons_self)
      rw [hreplicate] at hanswers
      rw [List.perm_replicate.1 hanswers, ← hreplicate, hrules]

theorem Agrees.lastOf_perm {rules other : List Rule} (h : aspect.Agrees rules)
    (hperm : other.Perm rules) : aspect.lastOf other = aspect.lastOf rules :=
  congrArg List.getLast? (h.answers_perm hperm)

section Scope

variable {rules : List Rule} {inScope : Rule → Bool}

theorem lastOf_moved_last {rule : Rule} {value : α} (hscope : inScope rule = true)
    (hvalue : aspect.select rule.setting = some value) :
    aspect.lastOf ((rules.erase rule ++ [rule]).filter inScope) = some value := by
  have hlast : [rule].filterMap (fun rule => aspect.select rule.setting) = [value] :=
    List.filterMap_cons_some hvalue
  calc
    aspect.lastOf ((rules.erase rule ++ [rule]).filter inScope) =
        (((rules.erase rule).filter inScope).filterMap (fun rule => aspect.select rule.setting) ++
          [rule].filterMap fun rule => aspect.select rule.setting).getLast? := by
      rw [lastOf, List.filter_append, List.filterMap_append, List.filter_cons_of_pos hscope,
        List.filter_nil]
    _ = some value := by rw [hlast, List.getLast?_concat]

/-- Some order of the rules changes the answer in a scope exactly if two rules there disagree. -/
theorem exists_perm_lastOf_ne_iff :
    (∃ other : List Rule, other.Perm rules ∧
        aspect.lastOf (other.filter inScope) ≠ aspect.lastOf (rules.filter inScope)) ↔
      ¬aspect.Agrees (rules.filter inScope) := by
  constructor
  · rintro ⟨other, hperm, hne⟩ hagrees
    exact hne (hagrees.lastOf_perm (hperm.filter inScope))
  · intro hdisagree
    obtain ⟨first, hfirst, second, hsecond, hne⟩ : ∃ first ∈ aspect.answers (rules.filter inScope),
        ∃ second ∈ aspect.answers (rules.filter inScope), first ≠ second := by
      simpa [Agrees] using hdisagree
    -- Of two different answers one is not the present one; its rule is moved to the end.
    have hmoved (value : α) (hmem : value ∈ aspect.answers (rules.filter inScope))
        (hnew : some value ≠ aspect.lastOf (rules.filter inScope)) :
        ∃ other : List Rule, other.Perm rules ∧
          aspect.lastOf (other.filter inScope) ≠ aspect.lastOf (rules.filter inScope) := by
      obtain ⟨rule, hrule, hvalue⟩ := aspect.mem_answers.1 hmem
      obtain ⟨hin, hscope⟩ := List.mem_filter.1 hrule
      refine ⟨rules.erase rule ++ [rule], ?_, ?_⟩
      · exact List.perm_append_comm.trans (List.perm_cons_erase hin).symm
      · rwa [lastOf_moved_last hscope hvalue]
    by_cases hpresent : some first = aspect.lastOf (rules.filter inScope)
    · refine hmoved second hsecond fun heq => hne ?_
      exact Option.some.inj (hpresent.trans heq.symm)
    · exact hmoved first hfirst hpresent

end Scope

end Aspect

/-- What a policy says about the concerns whose rules can conflict. -/
def Policy.disputed (policy : Policy) : Option Bool × Option Access × Option Bool :=
  (policy.included, policy.access, policy.required)

theorem Policy.disputed_ofRules (rules : List Rule) :
    (Policy.ofRules rules).disputed =
      (Aspect.inclusion.lastOf rules, Aspect.access.lastOf rules,
        Aspect.required.lastOf rules) := by
  rw [← Aspect.inclusion.read_ofRules, ← Aspect.access.read_ofRules, ← Aspect.required.read_ofRules]
  rfl

theorem Policy.disputed_withBase_congr {policy other base otherBase : Policy}
    (h : policy.disputed = other.disputed) (hbase : base.disputed = otherBase.disputed) :
    (policy.withBase base).disputed = (other.withBase otherBase).disputed := by
  simp only [disputed, Prod.mk.injEq] at h hbase
  simp only [disputed, withBase, h, hbase]

/-- Some order of the rules changes what the rules of a scope say about inclusion, access or
requiredness exactly if two of them disagree about one of these. -/
theorem exists_perm_disputed_ne_iff (rules : List Rule) (inScope : Rule → Bool) :
    (∃ other : List Rule, other.Perm rules ∧
        (Policy.ofRules (other.filter inScope)).disputed ≠
          (Policy.ofRules (rules.filter inScope)).disputed) ↔
      ¬Aspect.inclusion.Agrees (rules.filter inScope) ∨
    ¬Aspect.access.Agrees (rules.filter inScope) ∨
        ¬Aspect.required.Agrees (rules.filter inScope) := by
  rw [← Aspect.exists_perm_lastOf_ne_iff, ← Aspect.exists_perm_lastOf_ne_iff, ←
    Aspect.exists_perm_lastOf_ne_iff, ← exists_or, ← exists_or]
  refine exists_congr fun other => ?_
  rw [Policy.disputed_ofRules, Policy.disputed_ofRules, ← and_or_left, ← and_or_left]
  refine and_congr_right fun _ => ?_
  simp only [ne_eq, Prod.mk.injEq, not_and_or]

end SchemaViews
