import SchemaViews.Proofs.Pipeline.Emission
import SchemaViews.Proofs.Schema.Names

/-!
# References across the kinds of views

An input view may have a field whose type is an object view, and the other way round. This happens
in two ways only. The type is written as the name of that view, which is no declared name and
therefore kept; or it refers to an entity that has no view of the kind that is needed, and the first
view of that entity stands in.
-/

namespace SchemaViews

/-- One of the kinds is that of objects and the other one that of inputs. -/
def ViewKind.Crosses (kind other : ViewKind) : Prop :=
  kind = .input ∧ other = .object ∨ kind = .object ∧ other = .input

namespace Pipeline

open Schema (RefersTo)

variable {settings : Settings} {filters : List ViewFilter} {headers : List String}
    {declarations : List Declaration} {output : Output} {entities : List Entity}

/-- How a type, as it is shown in a view, comes to be a view of the other kind: it is kept as it is
written, or its entity has no view of the kind that is needed. -/
inductive CrossedBy (entities : List Entity) (view other : View) (type shown : String) : Prop
  | written (hkept : shown = type) (hnone : ¬∃ parts entity, RefersTo entities type parts entity)
  | fallback (parts : TypeParts) (hrefers : RefersTo entities type parts other.entity)
      (hfirst : other.entity.bindings.head? = some other.placement.binding)
      (hmissing : other.entity.bindingsOf view.kind = [])

theorem Emits.crossedBy (h : Emits settings filters headers declarations entities output)
    {view other : View} (hother : other ∈ output.schema.views)
    (hcrosses : view.kind.Crosses other.kind) {type : String}
    (hbase : TypeMapping.baseName (Schema.rewriteType (Schema.byOrder entities) view.kind type) =
      other.name) :
    CrossedBy entities view other type
      (Schema.rewriteType (Schema.byOrder entities) view.kind type) := by
  have hkind : view.kind ≠ .enum ∧ other.kind ≠ .enum ∧ other.kind ≠ view.kind := by
    rcases hcrosses with ⟨hview, hother⟩ | ⟨hview, hother⟩ <;> rw [hview, hother] <;> decide
  have hview := h.mem_views hother
  have hplaced := Schema.mem_placements.1 (Schema.placement_mem hview)
  have hadmits {entity : Entity} (hentity : entity ∈ entities) (hignored : entity.ignoreAll = false)
      {binding : Binding} (hbinding : binding ∈ entity.bindings) :
      Naming.admits binding.name = true :=
    (Schema.hasValidNames_of_clean h.clean).admits_binding
      (Schema.mem_byOrder.2 hentity) hignored hbinding
  by_cases hrefers : ∃ parts entity, RefersTo entities type parts entity
  case neg => exact .written (Schema.rewriteType_eq_self hrefers) hrefers
  case pos =>
    obtain ⟨parts, entity, hrefers⟩ := hrefers
    have hnamed := hrefers.isReferent.isNamed
    have hentity := hrefers.isReferent.mem
    obtain ⟨binding, hchosen, hbinding⟩ :=
      (isBuilt_of_build h.built entity hentity).exists_referenceBinding hnamed.bound hkind.1
    have hname : binding.name = other.name :=
      TypeMapping.eq_of_baseName_eq hrefers.isExact (hrefers.rewriteType_eq hchosen)
        (hadmits hentity hnamed.notIgnored hbinding.mem)
        (hadmits (Schema.entity_mem hview) hplaced.2.1 hplaced.2.2) hbase
    -- no name is taken twice, so the view of that binding is the other view
    obtain ⟨found, hfound, rfl, rfl⟩ :=
      (Schema.isUncontested_of_clean h.clean).view?_binding hentity hnamed.notIgnored hbinding.mem
    rw [hname, Schema.view?_name hview, Option.some.injEq] at hfound
    subst hfound
    obtain ⟨hfirst, hmissing⟩ := hbinding.first_of_kind_ne hkind.2.1 hkind.2.2
    exact .fallback parts hrefers hfirst hmissing

/-- In a run that succeeds, the type of a field of an object or input view is a view of the other
kind only if it is written as the name of that view, or if its entity has no view of the kind that
is needed and the other view is the first one of that entity. -/
theorem crossings_are_written_or_fallbacks
    (h : run settings filters headers declarations = .ok output) :
    ∃ entities, build settings declarations = .ok entities ∧
      ∀ view ∈ output.schema.views, ∀ other ∈ output.schema.views, view.kind.Crosses other.kind →
        ∀ entry ∈ view.fields, TypeMapping.baseName entry.typeName = other.name →
          ∃ field ∈ view.entity.fields,
            entry = field.entryIn view.entity view.placement.binding (Schema.byOrder entities) ∧
              CrossedBy entities view other (field.typeIn view.name) entry.typeName := by
  obtain ⟨entities, hemits⟩ := run_eq_ok_iff.1 h
  refine ⟨entities, hemits.built, fun view hview other hother hcrosses entry hentry hbase => ?_⟩
  have hkind : view.kind ≠ .enum := by
    rcases hcrosses with ⟨hkind, -⟩ | ⟨hkind, -⟩ <;> rw [hkind] <;> decide
  have hresolved := hemits.mem_views hview
  have hdefaults := (isBuilt_of_build hemits.built _ (Schema.entity_mem hresolved)).isFieldDefault
  rw [Schema.fields_of_mem_views hresolved hdefaults hkind] at hentry
  obtain ⟨field, hfield, rfl⟩ := List.mem_map.1 hentry
  exact ⟨field, List.mem_of_mem_filter hfield, rfl, hemits.crossedBy hother hcrosses hbase⟩

def replyDeclaration : Declaration where
  kind := .object
  declaredName := "Letter"
  rawAnnotation := "@GqlType(name:Post) @GqlInput"
  members :=
    [{ declaredName := "Reply", declaredType := "string", rawAnnotation := "@GqlField(type:Post)" }]

def reply : Entity where
  kind := .object
  declaredName := "Letter"
  bindings := [⟨"Post", .object, none, 0⟩, ⟨"LetterInput", .input, none, 1⟩]
  fields :=
    [{ declaredName := "Reply", declaredType := "string", outputName := "reply",
       scalarType := "String"
       rules := [⟨.type "Post", none, "type"⟩] }]

def replyOutput : Output :=
  let schema := Schema.resolve ⟨TypeMapping.defaults⟩ [reply]
  ⟨schema.text true, schema, []⟩

theorem build_reply : build {} [replyDeclaration] = .ok [reply] := by decide +kernel

theorem run_reply : run {} [] [] [replyDeclaration] = .ok replyOutput :=
  run_eq_ok_of_isPlain build_reply (by decide +kernel) rfl (by decide +kernel) (by decide +kernel)
    (by decide +kernel)

theorem crossings_are_written_or_fallbacks_reply :
    run {} [] [] [replyDeclaration] = .ok replyOutput ∧
      ∃ view ∈ replyOutput.schema.views, ∃ other ∈ replyOutput.schema.views,
        view.kind.Crosses other.kind ∧
        ∃ entry ∈ view.fields, TypeMapping.baseName entry.typeName = other.name ∧
          ∃ field ∈ view.entity.fields,
            CrossedBy [reply] view other (field.typeIn view.name) entry.typeName := by
  obtain ⟨view, hview, other, hother, hkinds, entry, hentry, hbase⟩ :
      ∃ view ∈ replyOutput.schema.views, ∃ other ∈ replyOutput.schema.views,
        (view.kind = .input ∧ other.kind = .object) ∧
          ∃ entry ∈ view.fields, TypeMapping.baseName entry.typeName = other.name := by
            decide +kernel
  obtain ⟨entities, hbuilt, hcrossings⟩ := crossings_are_written_or_fallbacks run_reply
  have hentities : entities = [reply] := Except.ok.inj (hbuilt.symm.trans build_reply)
  subst hentities
  obtain ⟨field, hfield, -, hcrossed⟩ :=
    hcrossings view hview other hother (Or.inl hkinds) entry hentry hbase
  exact ⟨run_reply, view, hview, other, hother, Or.inl hkinds, entry, hentry, hbase, field, hfield,
    hcrossed⟩

def letterDeclarations : List Declaration :=
  [{ kind := .object, declaredName := "Letter", rawAnnotation := "@GqlInput"
     members := [{ declaredName := "To", declaredType := "Address" }] },
    { kind := .object, declaredName := "Address", rawAnnotation := "@GqlType(name:Place)"
      members := [{ declaredName := "City", declaredType := "string" }] }]

def letter : Entity where
  kind := .input
  declaredName := "Letter"
  bindings := [⟨"LetterInput", .input, none, 0⟩]
  fields :=
    [{ declaredName := "To", declaredType := "Address", outputName := "to",
       scalarType := "Address" }]

def address : Entity where
  kind := .object
  declaredName := "Address"
  bindings := [⟨"Place", .object, none, 0⟩]
  fields :=
    [{ declaredName := "City", declaredType := "string", outputName := "city",
       scalarType := "String" }]
  order := 1

def letterOutput : Output :=
  let entities := [letter, address]
  let schema : Schema :=
    { entities := entities, views := (Schema.placements entities).map (Schema.viewOf entities) }
  ⟨schema.text true, schema, []⟩

theorem resolve_letter : Schema.resolve ⟨TypeMapping.defaults⟩ [letter, address] =
      letterOutput.schema := by
  have hsorted : Schema.byOrder [letter, address] = [letter, address] :=
    List.mergeSort_of_pairwise (by decide)
  rw [Schema.resolve, hsorted]
  decide +kernel

theorem run_letter : run {} [] [] letterDeclarations = .ok letterOutput := by
  have hissues : (Schema.resolve ⟨TypeMapping.defaults⟩ [letter, address]).issues = [] := by
    rw [resolve_letter]
    decide +kernel
  exact run_eq_ok_of_isPlain (by decide +kernel) hissues resolve_letter.symm (by decide +kernel)
    (by decide +kernel)
    (by decide +kernel)

/-- References do cross: `to` of the input view of the letter has the object view
of the address as its type. -/
theorem references_may_cross :
    ¬∀ (settings : Settings) (declarations : List Declaration) (output : Output),
      run settings [] [] declarations = .ok output →
        ∀ view ∈ output.schema.views, ∀ other ∈ output.schema.views,
          view.kind.Crosses other.kind → ∀ entry ∈ view.fields,
            TypeMapping.baseName entry.typeName ≠ other.name := by
  intro h
  obtain ⟨view, hview, other, hother, hkinds, entry, hentry, hbase⟩ :
      ∃ view ∈ letterOutput.schema.views, ∃ other ∈ letterOutput.schema.views,
        (view.kind = .input ∧ other.kind = .object) ∧
          ∃ entry ∈ view.fields, TypeMapping.baseName entry.typeName = other.name := by
            decide +kernel
  exact h {} letterDeclarations letterOutput run_letter view hview other hother
    (Or.inl hkinds) entry hentry hbase

end Pipeline

end SchemaViews
