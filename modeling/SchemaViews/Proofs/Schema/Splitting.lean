import SchemaViews.Proofs.Schema.Conflicts
import SchemaViews.Proofs.Schema.Echo

/-!
# One rule for several views

A rule that is qualified with several views says what as many rules say that are qualified with one
view each and follow one another. Wherever a rule is written in one way or the other, everything
that a schema reads of the rules is the same.
-/

namespace SchemaViews

namespace Rule

/-- A rule for each of some views. -/
def forEach (rule : Rule) (names : List String) : List Rule :=
  names.map fun name => { rule with views := some [name] }

/-- Rules, some of which are replaced by a rule for each of their views. -/
inductive Splits : List Rule → List Rule → Prop where
  | nil : Splits [] []
  | keep (rule : Rule) {rules others : List Rule} :
      Splits rules others → Splits (rule :: rules) (rule :: others)
  | split (rule : Rule) {names : List String} {rules others : List Rule} : rule.views = some names →
      Splits rules others → Splits (rule :: rules) (rule.forEach names ++ others)

section ForEach

variable {rule : Rule} {names : List String}

theorem forEach_cons (rule : Rule) (name : String) (names : List String) :
    rule.forEach (name :: names) = { rule with views := some [name] } :: rule.forEach names := rfl

theorem any_forEach {test : Rule → Bool} {holds : String → Bool}
    (htest : ∀ name, test { rule with views := some [name] } = holds name) :
    (rule.forEach names).any test = names.any holds := by
  rw [forEach, List.any_map]
  congr 1
  funext name
  exact htest name

theorem flatMap_scope_forEach : (rule.forEach names).flatMap scope = names := by
  induction names with
  | nil => rfl
  | cons name names ih =>
      rw [forEach_cons, List.flatMap_cons, ih]
      rfl

theorem IsScoped.scopes_eq (h : rule.IsScoped) (hviews : rule.views = some names) :
    rule.scopes = names.map some := by
  have hscope : rule.scope = names := by rw [scope, hviews]; rfl
  have hne : ¬rule.scope.isEmpty = true := by
    rw [List.isEmpty_iff, h.scope_eq_nil_iff, hviews]
    exact Option.some_ne_none _
  rw [scopes, if_neg hne, hscope]

theorem filter_isNone_forEach :
    (rule.forEach names).filter (fun rule => rule.views.isNone) = [] := by
  rw [List.filter_eq_nil_iff]
  intro part hmem
  obtain ⟨name, -, rfl⟩ := List.mem_map.1 hmem
  exact Bool.false_ne_true

end ForEach

section Words

def words (rules : List Rule) : List (Setting × String) :=
  (firstOfEach rules).map fun rule => (rule.setting, rule.option)

theorem words_cons (rule : Rule) (rules : List Rule) : words (rule :: rules) =
    (rule.setting, rule.option) :: (words rules).filter fun word => word.1 ≠ rule.setting := by
  rw [words, firstOfEach, List.map_cons, words, List.filter_map]
  rfl

theorem belongsTo_iff {rule : Rule} {dispute : Dispute} {scope : Option String} :
    rule.belongsTo dispute scope = true ↔ rule.setting.dispute? = some dispute ∧
    scope ∈ rule.scopes := by
  rw [belongsTo, Bool.and_eq_true, decide_eq_true_iff, List.contains_iff_mem]

/-- The rules for the views of a rule have one setting and one word, however many of
them belong to a dispute. -/
theorem words_forEach_append (rule : Rule) (names : List String) (dispute : Dispute)
    (scope : Option String)
    (rest : List Rule) : words ((rule.forEach names).filter (belongsTo dispute scope) ++ rest) =
      if rule.setting.dispute? = some dispute ∧ scope ∈ names.map some then words (rule :: rest)
        else words rest := by
  induction names with
  | nil => simp [forEach]
  | cons name names ih =>
      rw [forEach_cons]
      by_cases hbelongs : rule.setting.dispute? = some dispute ∧ scope = some name
      · have hpart : belongsTo dispute scope { rule with views := some [name] } = true :=
          belongsTo_iff.2 ⟨hbelongs.1, by rw [hbelongs.2]; exact List.mem_singleton_self _⟩
        have hmem : rule.setting.dispute? = some dispute ∧ scope ∈ (name :: names).map some :=
          ⟨hbelongs.1, by rw [hbelongs.2]; exact List.mem_cons_self⟩
        rw [List.filter_cons_of_pos hpart, List.cons_append, words_cons, ih, if_pos hmem,
          words_cons]
        -- a rule of the same setting adds nothing behind the first one
        split
        · simp [List.filter_filter]
        · rfl
      · have hpart : ¬belongsTo dispute scope { rule with views := some [name] } = true := by
          rw [belongsTo_iff]
          rintro ⟨hdispute, hscope⟩
          exact hbelongs ⟨hdispute, List.mem_singleton.1 hscope⟩
        rw [List.filter_cons_of_neg hpart, ih]
        refine if_congr ?_ rfl rfl
        rw [List.map_cons, List.mem_cons]
        tauto

end Words

end Rule

theorem Policy.apply_apply (policy : Policy) (setting : Setting) :
    (policy.apply setting).apply setting = policy.apply setting := by
  cases setting <;> rfl

/-- However often a view is among the names, the rules for it set what the rule sets. -/
theorem Policy.foldl_forEach (rule : Rule) (names : List String) (view : String) (policy : Policy) :
    ((rule.forEach names).filter fun rule => rule.scope.contains view).foldl
        (fun policy rule => policy.apply rule.setting) policy =
      if view ∈ names then policy.apply rule.setting else policy := by
  induction names generalizing policy with
  | nil => rfl
  | cons name names ih =>
      rw [Rule.forEach_cons]
      by_cases hname : view = name
      · have hmem : view ∈ name :: names := by rw [hname]; exact List.mem_cons_self
        rw [List.filter_cons_of_pos (by simp [Rule.scope, hname]), List.foldl_cons, ih,
          Policy.apply_apply, ite_self, if_pos hmem]
      · rw [List.filter_cons_of_neg (by simp [Rule.scope, hname]), ih]
        simp only [List.mem_cons, hname, false_or]

namespace Rule.Splits

variable {rules others : List Rule} (h : Rule.Splits rules others)
include h

theorem filter_isNone : others.filter (fun rule => rule.views.isNone) =
      rules.filter fun rule => rule.views.isNone := by
  induction h with
  | nil => rfl
  | keep rule _ ih => rw [List.filter_cons, List.filter_cons, ih]
  | split rule hviews _ ih =>
      rw [List.filter_append, Rule.filter_isNone_forEach, List.nil_append, ih,
        List.filter_cons_of_neg (by simp [hviews])]

theorem foldl_apply (view : String) (policy : Policy) :
    (others.filter fun rule => rule.scope.contains view).foldl
      (fun policy rule => policy.apply rule.setting) policy =
        (rules.filter fun rule => rule.scope.contains view).foldl
          (fun policy rule => policy.apply rule.setting) policy := by
  induction h generalizing policy with
  | nil => rfl
  | keep rule _ ih =>
      rw [List.filter_cons, List.filter_cons]
      split
      · exact ih _
      · exact ih _
  | @split rule names _ _ hviews _ ih =>
      rw [List.filter_append, List.foldl_append, Policy.foldl_forEach, ih]
      by_cases hview : view ∈ names
      · rw [if_pos hview, List.filter_cons_of_pos (by simpa [Rule.scope, hviews] using hview),
          List.foldl_cons]
      · rw [if_neg hview, List.filter_cons_of_neg (by simpa [Rule.scope, hviews] using hview)]

theorem any_eq {test : Rule → Bool} (htest : ∀ rule ∈ rules, ∀ names, rule.views = some names →
      (rule.forEach names).any test = test rule) : others.any test = rules.any test := by
  induction h with
  | nil => rfl
  | keep rule _ ih =>
      rw [List.any_cons, List.any_cons,
        ih fun later hlater => htest later (List.mem_cons_of_mem _ hlater)]
  | split rule hviews _ ih =>
      rw [List.any_append, List.any_cons, htest rule List.mem_cons_self _ hviews,
        ih fun later hlater => htest later (List.mem_cons_of_mem _ hlater)]

theorem flatMap_eq {α : Type} {collect : Rule → List α}
    (hcollect : ∀ rule ∈ rules, ∀ names, rule.views = some names →
      (rule.forEach names).flatMap collect = collect rule) :
    others.flatMap collect = rules.flatMap collect := by
  induction h with
  | nil => rfl
  | keep rule _ ih =>
      rw [List.flatMap_cons, List.flatMap_cons,
        ih fun later hlater => hcollect later (List.mem_cons_of_mem _ hlater)]
  | split rule hviews _ ih =>
      rw [List.flatMap_append, List.flatMap_cons, hcollect rule List.mem_cons_self _ hviews,
        ih fun later hlater => hcollect later (List.mem_cons_of_mem _ hlater)]

theorem words_eq (hscoped : ∀ rule ∈ rules, rule.IsScoped) (dispute : Dispute)
    (scope : Option String) :
    Rule.words (others.filter (Rule.belongsTo dispute scope)) =
      Rule.words (rules.filter (Rule.belongsTo dispute scope)) := by
  induction h with
  | nil => rfl
  | keep rule _ ih =>
      have hrest := ih fun later hlater => hscoped later (List.mem_cons_of_mem _ hlater)
      rw [List.filter_cons, List.filter_cons]
      split
      · rw [Rule.words_cons, Rule.words_cons, hrest]
      · exact hrest
  | @split rule names _ _ hviews _ ih =>
      have hrest := ih fun later hlater => hscoped later (List.mem_cons_of_mem _ hlater)
      have hscopes := (hscoped rule List.mem_cons_self).scopes_eq hviews
      rw [List.filter_append, Rule.words_forEach_append, List.filter_cons]
      by_cases hbelongs : rule.setting.dispute? = some dispute ∧ scope ∈ names.map some
      · rw [if_pos hbelongs, if_pos (Rule.belongsTo_iff.2 (hscopes ▸ hbelongs)), Rule.words_cons,
          Rule.words_cons, hrest]
      · rw [if_neg hbelongs, if_neg fun hin => hbelongs (hscopes ▸ Rule.belongsTo_iff.1 hin), hrest]

end Rule.Splits

/-- A field with some of its rules replaced by a rule for each of their views. -/
structure Field.Splits (field other : Field) : Prop where
  eq_up_to_rules : other = { field with rules := other.rules }
  rules : Rule.Splits field.rules other.rules

theorem Field.Splits.echoes {field other : Field} (h : field.Splits other)
    (hscoped : field.IsScoped) : field.Echoes other where
  eq_up_to_rules := h.eq_up_to_rules
  defaultPolicy := by rw [Field.defaultPolicy, Field.defaultPolicy, h.rules.filter_isNone]
  viewPolicy view := h.rules.foldl_apply view {}
  namesView view := by
    refine h.rules.any_eq fun rule _ names hviews => ?_
    have hscope : rule.scope = names := by rw [Rule.scope, hviews]; rfl
    have hpart (name : String) : ((Rule.scope { rule with views := some [name] }).contains view &&
        places { rule with views := some [name] }) = (view == name && places rule) := by
      change (List.contains [name] view && places rule) = _
      rw [List.contains_cons, List.contains_nil, Bool.or_false]
    rw [Rule.any_forEach hpart, hscope, List.contains_eq_any_beq]
    cases places rule <;> simp
  includedEverywhere := by
    refine h.rules.any_eq fun rule _ names hviews => ?_
    have heverywhere {part : Rule} {views : List String} (hpart : part.views = some views) :
        includedEverywhere part = false := by simp [includedEverywhere, hpart]
    rw [Rule.any_forEach fun name => heverywhere rfl, heverywhere hviews]
    simp
  isConstrained := by
    refine h.rules.any_eq fun rule hrule names hviews => ?_
    have hne : names ≠ [] := fun hnil => hscoped rule hrule (hviews.trans (congrArg some hnil))
    change (rule.forEach names).any
      (fun part => part.concern = .inclusion || part.concern = .access) = _
    generalize htest :
      (decide (rule.concern = .inclusion) || decide (rule.concern = .access)) = test
    rw [Rule.any_forEach fun name => htest]
    cases names with
    | nil => exact absurd rfl hne
    | cons name names => cases test <;> simp
  referencedViews := by
    rw [Field.referencedViews, Field.referencedViews, h.rules.flatMap_eq]
    intro rule _ names hviews
    rw [Rule.flatMap_scope_forEach, Rule.scope, hviews]
    rfl
  disputes := by
    rw [Field.disputes, Field.disputes, h.rules.flatMap_eq]
    intro rule hrule names hviews
    rw [(hscoped rule hrule).scopes_eq hviews, Rule.forEach, List.flatMap_map]
    cases hdispute : rule.setting.dispute? with
    | none => simp [hdispute]
    | some dispute =>
        simp only [hdispute, List.map_map]
        rw [List.map_eq_flatMap]
        rfl
  opposing dispute scope := by
    have hwords := congrArg (List.map Prod.snd) (h.rules.words_eq hscoped dispute scope)
    rw [Rule.words, Rule.words, List.map_map, List.map_map] at hwords
    exact hwords

structure Entity.Splits (entity other : Entity) : Prop where
  eq_up_to_fields : other = entity.withFields other.fields
  fields : List.Forall₂ Field.Splits entity.fields other.fields

theorem Entity.Splits.echoes {entity other : Entity} (h : entity.Splits other)
    (hbuilt : entity.IsBuilt) : entity.Echoes other where
  outline := by
    rw [h.eq_up_to_fields]
    rfl
  fields := ((List.forall₂_and_left _ _).2 ⟨hbuilt.isScoped, h.fields⟩).imp
    fun _ _ hfield => hfield.2.echoes hfield.1

namespace Schema

/-- A rule for several views is the same as one rule for each of them. If rules of built entities
are written one way in place of the other, there are the same views with the same modes, fields and
values, the same scalars, and the same issues in the same order. -/
theorem splitting_changes_nothing (mapping : TypeMapping) {entities others : List Entity}
    (hbuilt : ∀ entity ∈ entities, entity.IsBuilt)
    (hsplits : List.Forall₂ Entity.Splits entities others) :
    List.Forall₂ View.Echoes (resolve mapping entities).views (resolve mapping others).views ∧
      (resolve mapping others).scalars = (resolve mapping entities).scalars ∧
      ∃ issues, (resolve mapping entities).issues? = some issues ∧
        (resolve mapping others).issues? = some issues := by
  have hechoes : List.Forall₂ Entity.Echoes entities others :=
    ((List.forall₂_and_left _ _).2 ⟨hbuilt, hsplits⟩).imp fun _ _ hentity =>
      hentity.2.echoes hentity.1
  have hschema := echoes_resolve mapping hechoes
  refine ⟨hschema.views, hschema.scalars, _, issues?_resolve, ?_⟩
  rw [issues?_resolve, hschema.issues_eq]

def ticketDeclaration : Declaration where
  kind := .object
  declaredName := "Ticket"
  rawAnnotation := "@GqlType(name:Open) @GqlType(name:Staff)"
  members := [{ declaredName := "Note", declaredType := "string",
                rawAnnotation := "@GqlField(ro:[Open, Staff], required, wo:[Staff, Guest])" }]

def note : Field where
  declaredName := "Note"
  declaredType := "string"
  outputName := "note"
  scalarType := "String"
  rules := [⟨.access .readOnly, some ["Open", "Staff"], "ro"⟩, ⟨.required true, none, "required"⟩,
    ⟨.access .writeOnly, some ["Staff", "Guest"], "wo"⟩]

def splitNote : Field :=
  { note with rules := [⟨.access .readOnly, some ["Open"], "ro"⟩,
    ⟨.access .readOnly, some ["Staff"], "ro"⟩,
      ⟨.required true, none, "required"⟩, ⟨.access .writeOnly, some ["Staff"], "wo"⟩,
      ⟨.access .writeOnly, some ["Guest"], "wo"⟩] }

def ticket : Entity where
  kind := .object
  declaredName := "Ticket"
  bindings := [⟨"Open", .object, none, 0⟩, ⟨"Staff", .object, none, 1⟩]
  fields := [note]

theorem splits_note : note.Splits splitNote where
  eq_up_to_rules := rfl
  rules :=
    .split ⟨.access .readOnly, some ["Open", "Staff"],
      "ro"⟩ (show _ = some ["Open", "Staff"] from rfl)
    (.keep ⟨.required true, none, "required"⟩
      (.split ⟨.access .writeOnly, some ["Staff", "Guest"],
        "wo"⟩ (show _ = some ["Staff", "Guest"] from rfl) .nil))

theorem splitting_changes_nothing_ticket : (∀ entity ∈ [ticket], entity.IsBuilt) ∧
    List.Forall₂ Entity.Splits [ticket] [ticket.withFields [splitNote]] ∧
    List.Forall₂ View.Echoes (resolve ⟨TypeMapping.defaults⟩ [ticket]).views
      (resolve ⟨TypeMapping.defaults⟩ [ticket.withFields [splitNote]]).views ∧
    (resolve ⟨TypeMapping.defaults⟩ [ticket]).views.map
      (fun view => (view.name, view.mode, view.fields.length)) =
        [("Open", .optIn, 1), ("Staff", .optIn, 0)] ∧
    ∃ issues,
      (resolve ⟨TypeMapping.defaults⟩ [ticket.withFields [splitNote]]).issues? = some issues ∧
      issues.map (fun issue => (issue.cause, issue.view)) =
        [(.unknownView "Guest", some "Guest"), (.conflict .access ["ro", "wo"] false, some "Staff"),
          (.emptyView .object, some "Staff")] := by
  have hbuilt : ∀ entity ∈ [ticket], entity.IsBuilt := by
    intro entity hmem
    rw [List.mem_singleton.1 hmem]
    exact ⟨{}, ticketDeclaration, 0, by decide +kernel⟩
  have hsplits : List.Forall₂ Entity.Splits [ticket] [ticket.withFields [splitNote]] :=
    .cons ⟨rfl, .cons splits_note .nil⟩ .nil
  obtain ⟨hviews, -, issues, hissues, hothers⟩ :=
    splitting_changes_nothing ⟨TypeMapping.defaults⟩ hbuilt hsplits
  refine ⟨hbuilt, hsplits, hviews, by decide +kernel, issues, hothers, ?_⟩
  rw [issues?_resolve, Option.some.injEq] at hissues
  rw [← hissues]
  decide +kernel

end Schema

end SchemaViews
