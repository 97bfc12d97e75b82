import Mathlib.Data.List.Nodup
import SchemaViews.Entity.Declared
import SchemaViews.Proofs.Directive.Attribution
import SchemaViews.Proofs.Related
import SchemaViews.Proofs.Repetitions

/-!
# Keys in another letter case

Keys that differ in letter case only say the same as options. What is looked up by its key as it is
written may be missed in another letter case, but nothing else is ever found for it.
-/

namespace SchemaViews

open SchemaViews.Text

namespace Directive

/-- The argument with its key in another letter case. A bare key that is no option is a
name, and keeps its letters. -/
structure Argument.IsRecased (argument other : Argument) : Prop where
  key : lowered argument.key = lowered other.key
  value : argument.value = other.value
  qualifier : argument.qualifier = other.qualifier
  raw : argument.raw = other.raw
  name : argument.isFlag = true → Policy.isFlagOption argument.key = false →
    argument.key = other.key

instance (argument other : Argument) : Decidable (argument.IsRecased other) :=
  decidable_of_iff (lowered argument.key = lowered other.key ∧ argument.value = other.value ∧
      argument.qualifier = other.qualifier ∧ argument.raw = other.raw ∧
      (argument.isFlag = true → Policy.isFlagOption argument.key = false →
        argument.key = other.key))
    ⟨fun ⟨key, value, qualifier, raw, name⟩ => ⟨key, value, qualifier, raw, name⟩,
      fun ⟨key, value, qualifier, raw, name⟩ => ⟨key, value, qualifier, raw, name⟩⟩

namespace Argument.IsRecased

theorem refl (argument : Argument) : argument.IsRecased argument :=
  ⟨rfl, rfl, rfl, rfl, fun _ _ => rfl⟩

variable {argument other : Argument} (h : argument.IsRecased other)

include h

theorem isFlag_eq : argument.isFlag = other.isFlag := by
  rw [isFlag, isFlag, h.value]

theorem text?_eq : argument.text? = other.text? := by
  unfold text?
  rw [h.value, h.raw]

theorem items_eq : argument.items = other.items := by
  unfold items
  rw [h.value]

theorem isFlagOption_eq : Policy.isFlagOption argument.key = Policy.isFlagOption other.key := by
  unfold Policy.isFlagOption
  rw [h.key]

theorem readOption_eq : Policy.readOption argument = Policy.readOption other := by
  unfold Policy.readOption
  simp only [h.key, h.qualifier, h.items_eq, h.text?_eq]

end Argument.IsRecased

variable {directive other : Directive}

/-- No two keys come down to one when letter case is ignored. -/
def IsDistinct (directive : Directive) : Prop :=
  (directive.arguments.map fun argument => lowered argument.key).Nodup

instance (directive : Directive) : Decidable directive.IsDistinct :=
  inferInstanceAs (Decidable (List.Nodup _))

theorem IsDistinct.options_eq (h : directive.IsDistinct) :
    directive.options = directive.arguments := by
  have hkeys : ((directive.arguments.map Argument.key).map lowered).Nodup := by
    rw [List.map_map]
    exact h
  exact keepLast_eq_self hkeys.of_map

/-- Among distinct keys, what is found by its key as it is written is what that key
finds in any letter case. -/
theorem IsDistinct.get?_eq (h : directive.IsDistinct) {key : String}
    (hhas : directive.has key = true) :
    directive.get? key = directive.arguments.reverse.find? fun argument => lowered argument.key ==
      lowered key := by
  obtain ⟨found, hfound⟩ := Option.isSome_iff_exists.1 hhas
  unfold get? at hfound ⊢
  have hkey : (found.key == key) = true :=
    List.find?_some (p := fun argument : Argument => argument.key == key) hfound
  have hdistinct :
      (directive.arguments.reverse.map fun argument => lowered argument.key).Nodup := by
    rw [List.map_reverse, List.nodup_reverse]
    exact h
  rw [hfound, ← beq_iff_eq.1 hkey,
    find?_eq_some_of_nodup hdistinct (List.mem_of_find?_eq_some hfound)]

/-- The directive itself, or one with distinct keys that are in another letter case. -/
inductive IsRecased : Directive → Directive → Prop
  | same (directive : Directive) : IsRecased directive directive
  | recased {directive other : Directive} (name : directive.name = other.name)
      (arguments : List.Forall₂ Argument.IsRecased directive.arguments other.arguments)
      (distinct : directive.IsDistinct) : IsRecased directive other

instance (directive other : Directive) : Decidable (directive.IsRecased other) :=
  decidable_of_iff (directive = other ∨ directive.name = other.name ∧
      List.Forall₂ Argument.IsRecased directive.arguments other.arguments ∧ directive.IsDistinct)
    ⟨fun
      | .inl hsame => hsame ▸ .same directive
      | .inr ⟨name, arguments, distinct⟩ => .recased name arguments distinct,
    fun
      | .same _ => .inl rfl
      | .recased name arguments distinct => .inr ⟨name, arguments, distinct⟩⟩

theorem IsDistinct.recased (h : directive.IsDistinct)
    (harguments : List.Forall₂ Argument.IsRecased directive.arguments other.arguments) :
    other.IsDistinct := by
  unfold IsDistinct at h ⊢
  rwa [map_eq_of_forall₂ harguments fun _ _ hargument => hargument.key] at h

namespace IsRecased

variable (h : directive.IsRecased other)

include h

theorem name_eq : directive.name = other.name := by
  cases h with
  | same => rfl
  | recased hname => exact hname

theorem forall₂_options : List.Forall₂ Argument.IsRecased directive.options other.options := by
  cases h with
  | same => exact List.forall₂_same.2 fun argument _ => .refl argument
  | recased hname harguments hdistinct =>
      rw [hdistinct.options_eq, (hdistinct.recased harguments).options_eq]
      exact harguments

theorem filter {keep : Argument → Bool}
    (hkeep : ∀ argument recased, argument.IsRecased recased → keep argument = keep recased) :
    IsRecased { directive with arguments := directive.arguments.filter keep }
      { other with arguments := other.arguments.filter keep } := by
  cases h with
  | same => exact .same _
  | recased hname harguments hdistinct =>
      have hkept :
          List.Forall₂ Argument.IsRecased (directive.arguments.filter keep)
          (other.arguments.filter keep) :=
        List.rel_filter
          (fun argument recased hargument => Bool.eq_iff_iff.1 (hkeep argument recased hargument))
          harguments
      exact .recased hname hkept (hdistinct.sublist (List.filter_sublist.map _))

theorem rel_get? {key : String} (hkey : directive.has key = other.has key) :
    Option.Rel Argument.IsRecased (directive.get? key) (other.get? key) := by
  cases h with
  | same =>
      cases directive.get? key with
      | none => exact .none
      | some argument => exact .some (.refl argument)
  | recased hname harguments hdistinct =>
      cases hhas : directive.has key with
      | false =>
          have hnone : directive.get? key = none :=
            Option.not_isSome_iff_eq_none.1 (Bool.eq_false_iff.1 hhas)
          have hotherNone : other.get? key = none :=
            Option.not_isSome_iff_eq_none.1 (Bool.eq_false_iff.1 (hkey.symm.trans hhas))
          rw [hnone, hotherNone]
          exact .none
      | true =>
          -- both have the key as it is written, and then they may as well
          -- be searched in any letter case
          rw [hdistinct.get?_eq hhas, (hdistinct.recased harguments).get?_eq (hkey ▸ hhas)]
          refine rel_find? (List.rel_reverse harguments) fun argument recased hargument => ?_
          rw [hargument.key]

theorem text?_get? {key : String} (hkey : directive.has key = other.has key) :
    (directive.get? key).bind Argument.text? = (other.get? key).bind Argument.text? := by
  have hfound := h.rel_get? hkey
  generalize directive.get? key = found, other.get? key = otherFound at hfound
  cases hfound with
  | none => rfl
  | some hargument => exact hargument.text?_eq

end IsRecased

theorem any_name_eq {directives others : List Directive}
    (h : List.Forall₂ IsRecased directives others) (test : DirectiveName → Bool) :
    (directives.any fun directive => test directive.name) =
      others.any fun directive => test directive.name := by
  have hnames : directives.map (·.name) = others.map (·.name) :=
    map_eq_of_forall₂ h fun _ _ hdirective => hdirective.name_eq
  have hany (directives : List Directive) :
      (directives.any fun directive => test directive.name) =
        (directives.map (·.name)).any test := by
    rw [List.any_map]
    rfl
  rw [hany, hany, hnames]

/-- The annotations are read into the same directives with keys in another letter case, or
both stop at the same fault. -/
def RecasesKeys (written other : String) : Prop :=
  ReadsAlike (List.Forall₂ IsRecased) (Directive.ofAnnotation written.toList none)
    (Directive.ofAnnotation other.toList none)

theorem readsAlike_forUnit {related : List Directive → List Directive → Prop}
    {written other : List Char} (h : ReadsAlike related (Directive.ofAnnotation written none)
      (Directive.ofAnnotation other none)) (unit : String) :
    ReadsAlike related (Directive.ofAnnotation written (some unit))
      (Directive.ofAnnotation other (some unit)) := by
  generalize hwritten : ofAnnotation written none = result, hother :
    ofAnnotation other none = otherResult at h
  cases h with
  | ok hdirectives =>
      rw [ofAnnotation_eq_ok_iff.2 hwritten, ofAnnotation_eq_ok_iff.2 hother]
      exact .ok hdirectives
  | error fault =>
      rw [ofAnnotation_eq_error_iff.2 ⟨fault, hwritten, rfl⟩,
        ofAnnotation_eq_error_iff.2 ⟨fault, hother, rfl⟩]
      exact .error _

end Directive

/-- The keys that are looked up in a directive as they are written. -/
def DirectiveName.exactKeys : DirectiveName → List String
  | .namespace => ["name"]
  | .typeExtraField | .inputExtraField => ["name", "type"]
  | _ => []

/-- What is looked up as it is written is given that way to both or to neither. -/
def Directive.KeepsLookups (directive other : Directive) : Prop :=
  ∀ key ∈ directive.name.exactKeys, directive.has key = other.has key

instance (directive other : Directive) : Decidable (directive.KeepsLookups other) :=
  inferInstanceAs (Decidable (∀ key ∈ directive.name.exactKeys, directive.has key = other.has key))

end SchemaViews
