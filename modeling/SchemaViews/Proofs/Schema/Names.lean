import SchemaViews.Proofs.Schema.Placed
import SchemaViews.Proofs.Schema.TypeParts

/-!
# Names that are let through

Validation looks at the names of bindings, of the fields of views, and of values, and reports those
that are not let through. So every name that a view writes is a GraphQL name once nothing is
reported, but for one newline that may stand behind it.
-/

namespace SchemaViews

namespace Naming

variable {name : String}

theorem isNameChar_newline : isNameChar '\n' = false := by
  decide

theorem newline_notMem_of_isName {text : List Char} (h : isName text = true) : '\n' ∉ text := by
  intro hmem
  have hchar := Document.isNameChar_of_isName h hmem
  rw [isNameChar_newline] at hchar
  cases hchar

/-- The names that are let through: a GraphQL name, be it with a newline behind it. -/
theorem admits_iff : admits name = true ↔
    ∃ core, isName core = true ∧ (name.toList = core ∨ name.toList = core ++ ['\n']) := by
  rw [admits, Bool.or_eq_true]
  constructor
  · rintro (hname | hfront)
    · exact ⟨name.toList, hname, Or.inl rfl⟩
    · exact ⟨dropNewline name.toList, hfront, eq_dropNewline_or name.toList⟩
  · rintro ⟨core, hcore, hsame | hline⟩
    · exact Or.inl (hsame ▸ hcore)
    · rw [hline, dropNewline_concat]
      exact Or.inr hcore

theorem isName_iff_of_admits (h : admits name = true) :
    isName name.toList = true ↔ '\n' ∉ name.toList := by
  refine ⟨newline_notMem_of_isName, fun hnone => ?_⟩
  obtain ⟨core, hcore, hsame | hline⟩ := admits_iff.1 h
  · rwa [hsame]
  · rw [hline] at hnone
    exact absurd (List.mem_append_right _ List.mem_cons_self) hnone

end Naming

/-- All names that a view writes: its own, and those of its members. -/
def View.names (view : View) : List String :=
  view.name :: (view.fields.map (·.name) ++ view.values.map (·.name))

namespace Schema

variable {mapping : TypeMapping} {entities : List Entity} {schema : Schema} {view : View}

/-- No name is reported. -/
def HasValidNames (schema : Schema) : Prop :=
  ∀ issue ∈ schema.issues, issue.kind ≠ .invalidName

theorem hasValidNames_of_clean (hclean : ∀ issue ∈ schema.issues, issue.isError = false) :
    schema.HasValidNames := by
  intro issue hmem hkind
  have herror := hclean issue hmem
  rw [Issue.isError, Issue.severity, hkind] at herror
  cases herror

theorem exists_invalidName_of_mem_values (entity : Entity) (earlier : List EnumValue)
    {values : List EnumValue} {value : EnumValue} (hmem : value ∈ values)
    (hinvalid : Naming.admits value.name = false) :
    ∃ issue ∈ valueIssues entity earlier values, issue.kind = .invalidName := by
  induction values generalizing earlier with
  | nil => cases hmem
  | cons first rest ih =>
      rw [valueIssues]
      simp only
      rcases List.mem_cons.1 hmem with rfl | hrest
      · rw [hinvalid]
        split
        · exact ⟨_, List.mem_append_left _ List.mem_cons_self, rfl⟩
        · exact ⟨_, List.mem_append_left _ List.mem_cons_self, rfl⟩
      · split
        · obtain ⟨issue, hissue, hkind⟩ := ih earlier hrest
          exact ⟨issue, List.mem_append_right _ (List.mem_cons_of_mem _ hissue), hkind⟩
        · obtain ⟨issue, hissue, hkind⟩ := ih (earlier ++ [first]) hrest
          exact ⟨issue, List.mem_append_right _ hissue, hkind⟩

namespace HasValidNames

theorem admits_binding (h : schema.HasValidNames) {entity : Entity}
    (hentity : entity ∈ schema.entities) (hignored : entity.ignoreAll = false) {binding : Binding}
    (hbinding : binding ∈ entity.bindings) : Naming.admits binding.name = true := by
  by_contra hinvalid
  have hissue : ⟨.invalidTypeName binding.name, entity.declaredName, none, some binding.name⟩ ∈
      bindingIssues entity := by
    rw [bindingIssues, if_neg (Bool.eq_false_iff.1 hignored)]
    exact List.mem_map.2 ⟨binding, List.mem_filter.2 ⟨hbinding, by simpa using hinvalid⟩, rfl⟩
  have hmem : ⟨.invalidTypeName binding.name, entity.declaredName, none, some binding.name⟩ ∈
      schema.issues := by
    rw [issues]
    refine List.mem_append_left
      _ (List.mem_append_left _ (List.mem_append_left _ (List.mem_append_right _ ?_)))
    exact List.mem_flatMap.2 ⟨entity, hentity, hissue⟩
  exact h _ hmem rfl

theorem admits_field (h : schema.HasValidNames) (hview : view ∈ schema.views) {field : ViewField}
    (hfield : field ∈ view.fields) : Naming.admits field.name = true := by
  by_contra hinvalid
  have hissue : ⟨.invalidFieldName field.name, view.entity.declaredName, some field.declaredName,
      some view.name⟩ ∈
      viewIssues view := by
    refine List.mem_append_left _ (List.mem_map.2 ⟨field, List.mem_filter.2 ⟨hfield, ?_⟩, rfl⟩)
    simpa using hinvalid
  have hmem : ⟨.invalidFieldName field.name, view.entity.declaredName, some field.declaredName,
      some view.name⟩ ∈
      schema.issues := by
    rw [issues]
    exact List.mem_append_right _ (List.mem_flatMap.2 ⟨view, hview, hissue⟩)
  exact h _ hmem rfl

theorem admits_value (h : schema.HasValidNames) {entity : Entity}
    (hentity : entity ∈ schema.entities) (hignored : entity.ignoreAll = false) {value : EnumValue}
    (hvalue : value ∈ entity.values) :
    Naming.admits value.name = true := by
  by_contra hinvalid
  obtain ⟨owner, howner⟩ := List.mem_iff_getElem?.1 hentity
  obtain ⟨issue, hissue, hkind⟩ :=
    exists_invalidName_of_mem_values entity [] hvalue (Bool.eq_false_iff.2 hinvalid)
  refine h issue (mem_issues_of_mem_entityIssues howner ?_) hkind
  rw [entityIssues, if_neg (Bool.eq_false_iff.1 hignored)]
  exact List.mem_append_right _ hissue

/-- A view of a resolved schema writes names that are let through only: its
values are those of its entity. -/
theorem admits_names (h : (resolve mapping entities).HasValidNames)
    (hview : view ∈ (resolve mapping entities).views) {name : String}
    (hname : name ∈ view.names) : Naming.admits name = true := by
  obtain ⟨-, hignored, hbinding⟩ := mem_placements.1 (placement_mem hview)
  have hentity : view.entity ∈ (resolve mapping entities).entities :=
    mem_byOrder.2 (entity_mem hview)
  rcases List.mem_cons.1 hname with rfl | hmember
  · exact h.admits_binding hentity hignored hbinding
  · rcases List.mem_append.1 hmember with hfield | hvalue
    · obtain ⟨field, hmem, rfl⟩ := List.mem_map.1 hfield
      exact h.admits_field hview hmem
    · obtain ⟨value, hmem, rfl⟩ := List.mem_map.1 hvalue
      refine h.admits_value hentity hignored ?_
      rw [view_eq_viewOf hview, viewOf] at hmem
      split at hmem
      · exact hmem
      · cases hmem

end HasValidNames

/-- If validation reports no name, every name that a view writes is a GraphQL name up to one newline
behind it. It is a GraphQL name to its very end exactly if no newline is there. -/
theorem names_are_valid_up_to_newline {issues : List Issue}
    (hissues : (resolve mapping entities).issues? = some issues)
    (hvalid : ∀ issue ∈ issues, issue.kind ≠ .invalidName) :
    ∀ view ∈ (resolve mapping entities).views, ∀ name ∈ view.names,
      (∃ core, Naming.isName core = true ∧ (name.toList = core ∨ name.toList = core ++ ['\n'])) ∧
        (Naming.isName name.toList = true ↔ '\n' ∉ name.toList) := by
  rw [issues?_resolve, Option.some.injEq] at hissues
  subst hissues
  intro view hview name hname
  have hadmits : Naming.admits name = true := HasValidNames.admits_names hvalid hview hname
  exact ⟨Naming.admits_iff.1 hadmits, Naming.isName_iff_of_admits hadmits⟩

theorem names_are_valid_up_to_newline_account :
    (∀ issue ∈ (resolve ⟨TypeMapping.defaults⟩ [account]).issues, issue.kind ≠ .invalidName) ∧
      accountAdmin ∈ (resolve ⟨TypeMapping.defaults⟩ [account]).views ∧
      accountAdmin.names = ["Admin", "id", "role"] ∧
      ∀ name ∈ accountAdmin.names, Naming.isName name.toList = true := by
  have hvalid : ∀ issue ∈ (resolve ⟨TypeMapping.defaults⟩ [account]).issues,
      issue.kind ≠ .invalidName := by
    decide +kernel
  have hview : accountAdmin ∈ (resolve ⟨TypeMapping.defaults⟩ [account]).views := by decide +kernel
  have hnames : accountAdmin.names = ["Admin", "id", "role"] := by decide +kernel
  refine ⟨hvalid, hview, hnames, fun name hname => ?_⟩
  refine (names_are_valid_up_to_newline issues?_resolve hvalid accountAdmin hview name hname).2.2 ?_
  rw [hnames] at hname
  revert name
  decide

def personDeclaration : Declaration where
  kind := .object
  declaredName := "Person"
  rawAnnotation := "@GqlType(name:\"User\n\")"
  members :=
    [{ declaredName := "ID", declaredType := "int", rawAnnotation := "@GqlField(name:\"id\n\")" }]

def person : Entity where
  kind := .object
  declaredName := "Person"
  bindings := [⟨"User\n", .object, none, 0⟩]
  fields :=
    [{ declaredName := "ID", declaredType := "int", outputName := "id", scalarType := "Int"
       rules := [⟨.name "id\n", none, "name"⟩] }]

/-- Nothing is reported about the person, and no name of its view is a GraphQL name. -/
theorem names_may_end_in_newline :
    person.IsBuilt ∧ (resolve ⟨TypeMapping.defaults⟩ [person]).issues? = some [] ∧
      ∃ view ∈ (resolve ⟨TypeMapping.defaults⟩ [person]).views, view.names = ["User\n", "id\n"] ∧
        ∀ name ∈ view.names, Naming.isName name.toList = false :=
  ⟨⟨{}, personDeclaration, 0, by decide +kernel⟩, by decide +kernel, by decide +kernel⟩

end Schema

end SchemaViews
