import SchemaViews.Proofs.Directive.Attribution
import SchemaViews.Proofs.Entity.Built

/-!
# Ignored declarations

Of a declaration that asks to be ignored only its name, its kind and its source are read. Its entity
has no binding, no member and no note, and no other entity is marked as ignored.
-/

namespace SchemaViews

open SchemaViews.Directive (ofAnnotation_eq_ok_iff ofAnnotation)

/-- The declaration is well-formed itself, and it asks to be ignored. -/
def Declaration.IsIgnored (declaration : Declaration) : Prop :=
  ∃ directives, ofAnnotation declaration.rawAnnotation.toList none = .ok directives ∧
    ∃ directive ∈ directives, directive.name = .ignoreAll

instance (declaration : Declaration) : Decidable declaration.IsIgnored :=
  match hread : ofAnnotation declaration.rawAnnotation.toList none with
  | .error _ => isFalse fun ⟨_, hother, _⟩ => by
      rw [hread] at hother
      cases hother
  | .ok directives => decidable_of_iff (∃ directive ∈ directives, directive.name = .ignoreAll)
      ⟨fun h => ⟨directives, hread, h⟩,
        fun ⟨_, hother, h⟩ => Except.ok.inj (hread.symm.trans hother) ▸ h⟩

namespace Entity

variable {settings : Settings} {declaration : Declaration} {order : Int} {entity : Entity}

theorem ofDeclaration_of_isIgnored (h : declaration.IsIgnored) :
    ofDeclaration settings declaration order = .ok
      { blank declaration order with ignoreAll := true } := by
  obtain ⟨directives, hread, directive, hmem, hname⟩ := h
  have hany : (directives.any fun directive => decide (directive.name = .ignoreAll)) = true :=
    List.any_eq_true.2 ⟨directive, hmem, decide_eq_true hname⟩
  unfold ofDeclaration
  rw [ofAnnotation_eq_ok_iff.2 hread]
  exact if_pos hany

/-- A built entity that is ignored is that of an ignored declaration, and nothing else was read. -/
theorem IsBuilt.eq_blank (h : entity.IsBuilt) (hignored : entity.ignoreAll = true) :
    ∃ declaration order, entity = { blank declaration order with ignoreAll := true } := by
  obtain ⟨settings, declaration, order, hbuilt⟩ := h
  refine ⟨declaration, order, ?_⟩
  obtain ⟨directives, -, ⟨-, rfl⟩ | ⟨-, hmembers⟩⟩ := ofDeclaration_cases hbuilt
  · rfl
  · obtain ⟨fields, values, notes, rfl, -⟩ := addMembers_ok hmembers
    cases hignored

theorem IsBuilt.bindings_eq_nil (h : entity.IsBuilt) (hignored : entity.ignoreAll = true) :
    entity.bindings = [] := by
  obtain ⟨declaration, order, rfl⟩ := h.eq_blank hignored
  rfl

theorem IsBuilt.notes_eq_nil (h : entity.IsBuilt) (hignored : entity.ignoreAll = true) :
    entity.notes = [] := by
  obtain ⟨declaration, order, rfl⟩ := h.eq_blank hignored
  rfl

end Entity

end SchemaViews
