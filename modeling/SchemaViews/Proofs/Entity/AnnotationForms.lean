import Mathlib.Data.List.Basic
import SchemaViews.Entity.Declared
import SchemaViews.Proofs.Directive.Forms

/-!
# What an entity takes from an annotation

Where the arguments of a directive stand matters for messages only. An entity therefore cannot tell
which of the two forms a member carries.
-/

namespace SchemaViews

open SchemaViews.Directive
  (Argument SyntaxError balances commentForm tagForm commentOpening tagOpening readAll)

def Directive.placed (directive : Directive) (offset position : Nat) (fromTag : Bool) : Directive :=
  ⟨directive.name, directive.arguments.map (·.shift offset), position, fromTag⟩

namespace Directive

variable (directive : Directive) (offset position : Nat) (fromTag : Bool)

theorem shift_injective : Function.Injective fun argument : Argument => argument.shift offset := by
  intro first second h
  cases first
  cases second
  simp only [Argument.shift, Argument.mk.injEq] at h ⊢
  refine ⟨h.1, h.2.1, h.2.2.1, ?_, h.2.2.2.2⟩
  omega

theorem keepLast_map {α : Type} (key : α → String) (f : α → α)
    (hkey : ∀ item, key (f item) = key item)
    (items : List α) : keepLast key (items.map f) = (keepLast key items).map f := by
  induction items with
  | nil => rfl
  | cons first rest ih =>
      rw [List.map_cons, keepLast, keepLast, List.any_map, ih, hkey]
      simp only [Function.comp_def, hkey]
      split
      · rfl
      · rw [List.map_cons]

theorem options_placed :
    (directive.placed offset position fromTag).options = directive.options.map (·.shift offset) :=
  keepLast_map Argument.key (·.shift offset) (fun _ => rfl) directive.arguments

theorem duplicateKeys_placed :
    (directive.placed offset position fromTag).duplicateKeys = directive.duplicateKeys := by
  unfold duplicateKeys
  simp only [placed, List.map_map]
  rfl

end Directive

namespace Field

variable (directive : Directive) (offset position : Nat) (fromTag : Bool)

theorem foldl_takeOption_shift (arguments : List Argument) (state : Field × List Cause) :
    (arguments.map (·.shift offset)).foldl takeOption state = arguments.foldl takeOption state := by
  rw [List.foldl_map]
  rfl

theorem positional_placed :
    positional? (directive.placed offset position fromTag) =
      (positional? directive).map (·.shift offset) := by
  unfold positional?
  rw [Directive.options_placed]
  simp only [Directive.placed, List.head?_map]
  cases directive.arguments.head? with
  | none => rfl
  | some first =>
      have hcontains : (directive.options.map (·.shift offset)).contains (first.shift offset) =
          directive.options.contains first := by
        rw [Bool.eq_iff_iff, List.contains_iff_mem, List.contains_iff_mem]
        exact List.mem_map_of_injective (Directive.shift_injective offset)
      simp only [Option.map_some, hcontains]
      change (if (first.isFlag && !Policy.isFlagOption first.key &&
        directive.options.contains first) = true then _
        else _) = _
      split <;> rfl

theorem takeDirective_placed (field : Field) :
    field.takeDirective (directive.placed offset position fromTag) =
      field.takeDirective directive := by
  unfold takeDirective
  rw [positional_placed, Directive.options_placed]
  cases positional? directive with
  | none => exact foldl_takeOption_shift offset directive.options (field, [])
  | some first =>
      change ((directive.options.map (·.shift offset)).erase (first.shift offset)).foldl takeOption
        _ = _
      rw [← List.map_erase (Directive.shift_injective offset)]
      exact foldl_takeOption_shift offset _ _

theorem take_placed (state : Field × List Cause) :
    take state (directive.placed offset position fromTag) = take state directive := by
  obtain ⟨field, causes⟩ := state
  unfold take Directive.duplicateCauses
  simp only [takeDirective_placed, Directive.duplicateKeys_placed]
  rfl

end Field

theorem EnumValue.take_placed (directive : Directive) (offset position : Nat) (fromTag : Bool)
    (draft : Draft) :
    draft.take (directive.placed offset position fromTag) = draft.take directive := by
  have htake (first : Draft) :
      (directive.options.map (·.shift offset)).foldl Draft.takeOption first =
        directive.options.foldl Draft.takeOption first := by
    rw [List.foldl_map]
    rfl
  unfold Draft.take Directive.duplicateCauses
  simp only [Directive.duplicateKeys_placed, Directive.options_placed, htake]
  rfl

namespace Directive

variable {payload : List Char}

theorem toOption_ofAnnotation_tagForm (source : Option String) :
    (Directive.ofAnnotation (tagForm payload) source).toOption = (readAll payload).toOption.map
      fun arguments => [placed ⟨.field, arguments, 0, true⟩ tagOpening.length 0 true] := by
  rw [Directive.ofAnnotation, toOption_mapError, toOption_readFrom_tagForm]
  rfl

theorem toOption_ofAnnotation_commentForm (hbalance : balances .plain 0 payload = true)
    (source : Option String) :
    (Directive.ofAnnotation (commentForm payload) source).toOption = (readAll payload).toOption.map
      fun arguments => [placed ⟨.field, arguments, 0, true⟩ commentOpening.length 0 false] := by
  rw [Directive.ofAnnotation, toOption_mapError, toOption_readFrom_commentForm hbalance]
  rfl

/-- Whatever reads the directives one by one and sees no position reads both forms alike. -/
theorem foldl_ofAnnotation_forms {state : Type} {step : state → Directive → state}
    (hstep : ∀ (directive : Directive) (offset position : Nat) (fromTag : Bool) (before : state),
      step before (directive.placed offset position fromTag) = step before directive)
    (hbalance : balances .plain 0 payload = true) (source : Option String) (first : state) :
    ((Directive.ofAnnotation (tagForm payload) source).map
      fun directives => directives.foldl step first).toOption =
        ((Directive.ofAnnotation (commentForm payload) source).map
          fun directives => directives.foldl step first).toOption := by
  rw [toOption_map, toOption_map, toOption_ofAnnotation_tagForm,
    toOption_ofAnnotation_commentForm hbalance, Option.map_map, Option.map_map]
  congr 1
  funext arguments
  simp only [Function.comp_def, List.foldl_cons, List.foldl_nil, hstep]

end Directive

def Member.annotated (member : Member) (written : List Char) : Member :=
  { member with rawAnnotation := String.ofList written }

namespace Entity

theorem toOption_readAll_congr {α β ε : Type} {read : α → Except ε β} {first second : α}
    (h : (read first).toOption = (read second).toOption) (before after : List α) :
    (Entity.readAll read (before ++ first :: after)).toOption =
      (Entity.readAll read (before ++ second :: after)).toOption := by
  have hcons (item : α) (rest : List α) : (Entity.readAll read (item :: rest)).toOption =
      (read item).toOption.bind fun value =>
        (Entity.readAll read rest).toOption.map (value :: ·) := by
    rw [Entity.readAll]
    cases read item with
    | error error => rfl
    | ok value => exact toOption_map _ _
  induction before with
  | nil => rw [List.nil_append, List.nil_append, hcons, hcons, h]
  | cons item before ih => rw [List.cons_append, List.cons_append, hcons, hcons, ih]

variable {payload : List Char} (settings : Settings) (declaration : Declaration) (member : Member)

theorem toOption_addMembers_forms (hbalance : balances .plain 0 payload = true)
    (before after : List Member) (extras : List Directive) (entity : Entity) :
    (addMembers settings settings.typeMapping
        { declaration with members := before ++ member.annotated (tagForm payload) :: after }
        extras entity).toOption =
      (addMembers settings settings.typeMapping
        { declaration with members := before ++ member.annotated (commentForm payload) :: after }
        extras entity).toOption := by
  unfold addMembers
  cases hkind : declaration.kind with
  | enum =>
      simp only [toOption_map]
      congr 1
      apply toOption_readAll_congr
      unfold EnumValue.ofMember Member.annotated
      simp only [String.toList_ofList]
      exact Directive.foldl_ofAnnotation_forms EnumValue.take_placed hbalance _ _
  | object =>
      simp only [toOption_map]
      congr 1
      apply toOption_readAll_congr
      unfold Field.ofMember Member.annotated
      simp only [String.toList_ofList]
      exact Directive.foldl_ofAnnotation_forms Field.take_placed hbalance _ _

theorem toOption_ofDeclaration_forms (hbalance : balances .plain 0 payload = true)
    (before after : List Member) (order : Int) :
    (ofDeclaration settings
        { declaration with members := before ++ member.annotated (tagForm payload) :: after }
          order).toOption =
      (ofDeclaration settings
        { declaration with members := before ++ member.annotated (commentForm payload) :: after }
        order).toOption := by
  unfold ofDeclaration
  simp only [Declaration.unitName]
  split
  · rfl
  · split
    · rfl
    · exact toOption_addMembers_forms settings declaration member hbalance before after _ _

end Entity

namespace Directive

def Argument.unplaced (argument : Argument) : Argument :=
  { argument with position := 0 }

/-- A payload with balanced parentheses says the same in both forms, and an entity does not depend
on which one a member carries. -/
theorem commentForm_agrees_with_tagForm {payload : List Char}
    (hbalance : balances .plain 0 payload = true) :
    (∀ source, (∃ error, ofAnnotation (commentForm payload) source = .error error) ↔
        ∃ error, ofAnnotation (tagForm payload) source = .error error) ∧
      (∀ source commented tagged, ofAnnotation (commentForm payload) source = .ok commented →
        ofAnnotation (tagForm payload) source = .ok tagged →
        ∃ comment tag, commented = [comment] ∧ tagged = [tag] ∧ comment.name = .field ∧
          tag.name = .field ∧
            comment.arguments.map Argument.unplaced = tag.arguments.map Argument.unplaced) ∧
      ∀ (settings : Settings) (declaration : Declaration) (before after : List Member)
        (member : Member) (order : Int),
        (Entity.ofDeclaration settings { declaration with
            members := before ++ member.annotated (commentForm payload) :: after } order).toOption =
          (Entity.ofDeclaration settings { declaration with
            members := before ++ member.annotated (tagForm payload) :: after } order).toOption := by
  refine ⟨fun source => ?_, fun source commented tagged hcommented htagged => ?_, ?_⟩
  · rw [← toOption_eq_none, ← toOption_eq_none, toOption_ofAnnotation_tagForm,
      toOption_ofAnnotation_commentForm hbalance, Option.map_eq_none_iff, Option.map_eq_none_iff]
  · have hcomment := toOption_ofAnnotation_commentForm hbalance source
    have htag : (Directive.ofAnnotation (tagForm payload) source).toOption = _ :=
      toOption_ofAnnotation_tagForm source
    rw [hcommented] at hcomment
    rw [htagged] at htag
    obtain ⟨arguments, hread, rfl⟩ := Option.map_eq_some_iff.1 hcomment.symm
    rw [hread] at htag
    cases htag
    refine ⟨_, _, rfl, rfl, rfl, rfl, ?_⟩
    simp only [placed, List.map_map]
    rfl
  · intro settings declaration before after member order
    exact (Entity.toOption_ofDeclaration_forms settings declaration member hbalance before after
      order).symm

/-- Parentheses inside brackets, quotes and lists, and quotes and backslashes
that a tag has to escape. -/
def nestedPayload : List Char :=
  "shown, name: \"a(b\\\\\\\"c\", ro: 'X),Y', type: [A(b), C]: [D], description: \"C:\\\\d\"".toList

theorem commentForm_agrees_with_tagForm_nested : balances .plain 0 nestedPayload = true ∧
    ((∃ error, ofAnnotation (commentForm nestedPayload) none = .error error) ↔
      ∃ error, ofAnnotation (tagForm nestedPayload) none = .error error) ∧
    (Entity.ofDeclaration {} ⟨.object, "Account", "@GqlType",
        [Member.annotated { declaredName := "Email" } (commentForm nestedPayload)],
        none⟩ 0).toOption = (Entity.ofDeclaration {} ⟨.object, "Account", "@GqlType",
        [Member.annotated { declaredName := "Email" } (tagForm nestedPayload)],
        none⟩ 0).toOption := by
  have hbalance : balances .plain 0 nestedPayload = true := by decide
  refine ⟨hbalance, (commentForm_agrees_with_tagForm hbalance).1 none, ?_⟩
  exact (commentForm_agrees_with_tagForm hbalance).2.2
    {} ⟨.object, "Account", "@GqlType", [], none⟩ [] []
    { declaredName := "Email" } 0

end Directive

end SchemaViews
