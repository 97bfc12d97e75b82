import Mathlib.Data.List.Basic
import SchemaViews.Entity.Basic

/-!
# Aspects of a policy

A policy answers seven questions, and all of them are answered the same way: the last rule that
is qualified with a view counts, then the last rule for every view, then the defaults. An
*aspect* is one of these questions together with the laws by which policies answer it, so that
what holds of all seven is proved once.
-/

namespace SchemaViews

/-- A question to a policy, and the settings that answer it. -/
structure Aspect (α : Type) where
  read : Policy → Option α
  select : Setting → Option α
  read_apply : ∀ policy setting, read (policy.apply setting) = (select setting).or (read policy)
  read_empty : read {} = none
  read_withBase : ∀ policy base, read (policy.withBase base) = (read policy).or (read base)

namespace Aspect

def inclusion : Aspect Bool where
  read := Policy.included
  select
    | .inclusion included => some included
    | _ => none
  read_apply _ setting := by cases setting <;> rfl
  read_empty := rfl
  read_withBase _ _ := rfl

def access : Aspect Access where
  read := Policy.access
  select
    | .access access => some access
    | _ => none
  read_apply _ setting := by cases setting <;> rfl
  read_empty := rfl
  read_withBase _ _ := rfl

def required : Aspect Bool where
  read := Policy.required
  select
    | .required required => some required
    | _ => none
  read_apply _ setting := by cases setting <;> rfl
  read_empty := rfl
  read_withBase _ _ := rfl

def name : Aspect String where
  read := Policy.name
  select
    | .name name => some name
    | _ => none
  read_apply _ setting := by cases setting <;> rfl
  read_empty := rfl
  read_withBase _ _ := rfl

def type : Aspect String where
  read := Policy.type
  select
    | .type type => some type
    | _ => none
  read_apply _ setting := by cases setting <;> rfl
  read_empty := rfl
  read_withBase _ _ := rfl

def description : Aspect String where
  read := Policy.description
  select
    | .description text => some text
    | _ => none
  read_apply _ setting := by cases setting <;> rfl
  read_empty := rfl
  read_withBase _ _ := rfl

def deprecated : Aspect String where
  read := Policy.deprecated
  select
    | .deprecated reason => some reason
    | _ => none
  read_apply _ setting := by cases setting <;> rfl
  read_empty := rfl
  read_withBase _ _ := rfl

variable {α : Type} (aspect : Aspect α)

/-- What the last of the rules that answer says. -/
def lastOf (rules : List Rule) : Option α :=
  (rules.filterMap fun rule => aspect.select rule.setting).getLast?

/-- What a field says on its own in a view: its last rule that is qualified with the view, else its
last rule for every view. -/
def ofField (field : Field) (view : String) : Option α :=
  (aspect.lastOf (field.rules.filter fun rule => view ∈ rule.scope)).or
    (aspect.lastOf (field.rules.filter fun rule => rule.views = none))

theorem read_foldl_apply (rules : List Rule) (policy : Policy) :
    aspect.read (rules.foldl (fun policy rule => policy.apply rule.setting) policy) =
      (aspect.lastOf rules).or (aspect.read policy) := by
  induction rules generalizing policy with
  | nil => rfl
  | cons rule rest ih =>
      rw [List.foldl_cons, ih, aspect.read_apply, ← Option.or_assoc]
      congr 1
      rw [lastOf, lastOf, List.filterMap_cons]
      cases aspect.select rule.setting with
      | none => exact Option.or_none
      | some value =>
          change _ = (value :: List.filterMap _ rest).getLast?
          rw [List.getLast?_cons]
          cases (rest.filterMap fun rule => aspect.select rule.setting).getLast? <;> rfl

theorem read_ofRules (rules : List Rule) :
    aspect.read (Policy.ofRules rules) = aspect.lastOf rules := by
  rw [Policy.ofRules, aspect.read_foldl_apply, aspect.read_empty, Option.or_none]

/-- The most specific answer wins. -/
theorem read_policyFor (field : Field) (view : String) (defaults : Policy) :
    aspect.read (field.policyFor view defaults) =
      (aspect.ofField field view).or (aspect.read defaults) := by
  have hview : (fun rule : Rule => rule.scope.contains view) = fun rule =>
      decide (view ∈ rule.scope) := by
    funext rule
    rw [Bool.eq_iff_iff, List.contains_iff_mem, decide_eq_true_iff]
  have hdefault : (fun rule : Rule => rule.views.isNone) = fun rule =>
      decide (rule.views = none) := by
    funext rule
    rw [Bool.eq_iff_iff, Option.isNone_iff_eq_none, decide_eq_true_iff]
  calc
    aspect.read (field.policyFor view defaults) =
        ((aspect.read (field.viewPolicy view)).or (aspect.read field.defaultPolicy)).or
          (aspect.read defaults) := by
      rw [Field.policyFor, aspect.read_withBase, aspect.read_withBase]
    _ = (aspect.ofField field view).or (aspect.read defaults) := by
      rw [Field.viewPolicy, Field.defaultPolicy, aspect.read_ofRules, aspect.read_ofRules, hview,
        hdefault, ofField]

end Aspect

theorem Field.policyFor_eq (field : Field) (view : String) (defaults : Policy) :
    field.policyFor view defaults =
      { included := (Aspect.inclusion.ofField field view).or defaults.included
        access := (Aspect.access.ofField field view).or defaults.access
        required := (Aspect.required.ofField field view).or defaults.required
        name := (Aspect.name.ofField field view).or defaults.name
        type := (Aspect.type.ofField field view).or defaults.type
        description := (Aspect.description.ofField field view).or defaults.description
        deprecated := (Aspect.deprecated.ofField field view).or defaults.deprecated } := by
  have hread {α : Type} (aspect : Aspect α) := aspect.read_policyFor field view defaults
  have heta (policy : Policy) : policy =
      ⟨Aspect.inclusion.read policy, Aspect.access.read policy, Aspect.required.read policy,
        Aspect.name.read policy, Aspect.type.read policy, Aspect.description.read policy,
        Aspect.deprecated.read policy⟩ := rfl
  rw [heta (field.policyFor view defaults), hread, hread, hread, hread, hread, hread, hread]
  rfl

end SchemaViews
