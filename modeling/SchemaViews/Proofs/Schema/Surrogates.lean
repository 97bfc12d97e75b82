import SchemaViews.Proofs.Naming.Cases
import SchemaViews.Proofs.Schema.Plain

/-!
# Surrogates in the text of a schema

The text of a schema is of ASCII but for the descriptions, the reasons and the types in it, which
are escaped one character at a time. So no surrogate is alone in it if none is alone in these.
-/

namespace SchemaViews

open SchemaViews.Document

namespace Text

variable {behindLeading : Bool} {text first second : List Char} {c : Char}

theorem pairsUp_append (hfirst : pairsUp behindLeading first = true)
    (hsecond : hasOnlyPairs second = true) : pairsUp behindLeading (first ++ second) = true := by
  induction first generalizing behindLeading with
  | nil =>
      cases behindLeading with
      | false => exact hsecond
      | true => cases hfirst
  | cons c rest ih =>
      cases behindLeading <;>
        (simp only [List.cons_append, pairsUp, Bool.and_eq_true] at hfirst ⊢; exact ⟨hfirst.1,
          ih hfirst.2⟩)

theorem pairsUp_cons_of_not (hc : isSurrogate c = false) :
    pairsUp behindLeading (c :: text) = (!behindLeading && hasOnlyPairs text) := by
  rw [isSurrogate, Bool.or_eq_false_iff] at hc
  cases behindLeading <;> simp [pairsUp, hasOnlyPairs, hc.1, hc.2]

theorem isSurrogate_of_ascii (h : c.toNat < 128) : isSurrogate c = false := by
  -- Without the value of the shift: with it, the bounds are computed in unary.
  unfold isSurrogate isLeadingSurrogate isTrailingSurrogate
  generalize surrogateShift = shift
  simp only [Bool.or_eq_false_iff, Bool.and_eq_false_iff, decide_eq_false_iff_not]
  omega

theorem hasOnlyPairs_of_forall (h : ∀ c ∈ text, isSurrogate c = false) :
    hasOnlyPairs text = true := by
  induction text with
  | nil => rfl
  | cons c rest ih =>
      obtain ⟨hc, hrest⟩ := List.forall_mem_cons.1 h
      rw [hasOnlyPairs, pairsUp_cons_of_not hc, ih hrest]
      rfl

def isAscii (text : List Char) : Bool :=
  text.all fun c => c.toNat < 128

theorem hasOnlyPairs_of_isAscii (h : isAscii text = true) : hasOnlyPairs text = true :=
  hasOnlyPairs_of_forall fun c hc =>
    isSurrogate_of_ascii (of_decide_eq_true (List.all_eq_true.1 h c hc))

end Text

/-! ### Escaped texts -/

section Escaped

open SchemaViews.Text SchemaViews.Document

variable {text : List Char} {behindLeading : Bool}

theorem escapeChar_eq_self_or (c : Char) :
    escapeChar c = [c] ∨ (isSurrogate c = false ∧ isAscii (escapeChar c) = true) := by
  have hcontrol : ∀ code < 32, isAscii (unitEscape code) = true := by decide
  fun_cases escapeChar c
  case case6 hcode | case7 hcode =>
    have hlow : c.toNat < 128 := by
      rw [eq_of_beq hcode]
      decide
    exact .inr ⟨isSurrogate_of_ascii hlow, by decide⟩
  case case8 hcode =>
    exact .inr ⟨isSurrogate_of_ascii (by omega), hcontrol _ hcode⟩
  case case9 => exact .inl rfl
  all_goals
    obtain rfl := eq_of_beq ‹(c == _) = true›
    exact .inr (by decide)

theorem pairsUp_flatMap_escapeChar (h : pairsUp behindLeading text = true) :
    pairsUp behindLeading (text.flatMap escapeChar) = true := by
  induction text generalizing behindLeading with
  | nil => exact h
  | cons c rest ih =>
      rw [List.flatMap_cons]
      rcases escapeChar_eq_self_or c with hself | ⟨hc, hescaped⟩
      · rw [hself, List.singleton_append]
        cases behindLeading <;> (simp only [pairsUp, Bool.and_eq_true] at h ⊢; exact ⟨h.1, ih h.2⟩)
      · rw [pairsUp_cons_of_not hc, Bool.and_eq_true, Bool.not_eq_true'] at h
        rw [h.1]
        exact pairsUp_append (hasOnlyPairs_of_isAscii hescaped) (ih h.2)

theorem hasOnlyPairs_stringLiteral (h : hasOnlyPairs text = true) :
    hasOnlyPairs (stringLiteral text) = true := by
  have hquote : hasOnlyPairs ['"'] = true := by decide
  exact pairsUp_append (pairsUp_append hquote (pairsUp_flatMap_escapeChar h)) hquote

theorem pairsUp_escapeTripleQuotes (h : pairsUp behindLeading text = true) :
    pairsUp behindLeading (escapeTripleQuotes text) = true := by
  have hquote : isSurrogate '"' = false := by decide
  have hbackslash : isSurrogate '\\' = false := by decide
  fun_induction escapeTripleQuotes text generalizing behindLeading with
  | case1 rest ih =>
      simp only [pairsUp_cons_of_not hquote, pairsUp_cons_of_not hbackslash, hasOnlyPairs,
        Bool.and_eq_true] at h ⊢
      exact ⟨h.1, rfl, rfl, rfl, ih h.2.2.2⟩
  | case2 c rest _ ih =>
      cases behindLeading <;> (simp only [pairsUp, Bool.and_eq_true] at h ⊢; exact ⟨h.1, ih h.2⟩)
  | case3 => exact h

theorem hasOnlyPairs_blockLiteral (h : hasOnlyPairs text = true) :
    hasOnlyPairs (blockLiteral text) = true := by
  have hquotes : hasOnlyPairs tripleQuote = true := by decide
  exact pairsUp_append (pairsUp_append hquotes (pairsUp_escapeTripleQuotes h)) hquotes

end Escaped

/-! ### The whole text -/

/-- Every surrogate in the text is half of a pair. -/
def HasNoLoneSurrogate (text : String) : Prop :=
  Text.hasOnlyPairs text.toList = true

def EnumValue.texts (value : EnumValue) : List String :=
  value.description.toList ++ value.deprecated.toList

def ViewField.texts (field : ViewField) : List String :=
  field.typeName :: (field.description.toList ++ field.deprecated.toList)

def View.texts (view : View) : List String :=
  view.description.toList ++
    (view.values.flatMap EnumValue.texts ++ view.fields.flatMap ViewField.texts)

/-- The descriptions, the reasons of deprecations and the types of fields that
stand in the text of a schema. -/
def Schema.texts (schema : Schema) : List String :=
  schema.views.flatMap View.texts

namespace HasNoLoneSurrogate

theorem append {first second : String} (hfirst : HasNoLoneSurrogate first)
    (hsecond : HasNoLoneSurrogate second) : HasNoLoneSurrogate (first ++ second) := by
  rw [HasNoLoneSurrogate, String.toList_append]
  exact Text.pairsUp_append hfirst hsecond

theorem join {texts : List String} (h : ∀ text ∈ texts, HasNoLoneSurrogate text) :
    HasNoLoneSurrogate (String.join texts) := by
  rw [HasNoLoneSurrogate, String.toList_join]
  induction texts with
  | nil => rfl
  | cons text rest ih =>
      obtain ⟨htext, hrest⟩ := List.forall_mem_cons.1 h
      rw [List.flatMap_cons]
      exact Text.pairsUp_append htext (ih hrest)

end HasNoLoneSurrogate

theorem hasNoLoneSurrogate_of_ascii {text : String} (h : Text.isAscii text.toList = true) :
    HasNoLoneSurrogate text :=
  Text.hasOnlyPairs_of_isAscii h

theorem hasNoLoneSurrogate_of_isName {name : String} (h : Naming.isName name.toList = true) :
    HasNoLoneSurrogate name :=
  hasNoLoneSurrogate_of_ascii (List.all_eq_true.2 fun _ hc =>
    decide_eq_true (Naming.toNat_lt_of_isNameChar (isNameChar_of_isName h hc)))

theorem hasNoLoneSurrogate_descriptionLine {indent : String} {text : Option String}
    (hindent : HasNoLoneSurrogate indent) (htext : ∀ content ∈ text, HasNoLoneSurrogate content) :
    HasNoLoneSurrogate (descriptionLine indent text) := by
  have hnothing : HasNoLoneSurrogate "" := hasNoLoneSurrogate_of_ascii (by decide)
  cases text with
  | none => exact hnothing
  | some content =>
      have hcontent := htext content rfl
      have hdescription : HasNoLoneSurrogate (description content) := by
        rw [HasNoLoneSurrogate, description, String.toList_ofList]
        split
        · rfl
        · split
          · exact hasOnlyPairs_stringLiteral hcontent
          · exact hasOnlyPairs_blockLiteral hcontent
      rw [descriptionLine]
      split
      · exact hnothing
      · exact (hindent.append hdescription).append (hasNoLoneSurrogate_of_ascii (by decide))

theorem hasNoLoneSurrogate_deprecation {reason : Option String}
    (hreason : ∀ content ∈ reason, HasNoLoneSurrogate content) :
    HasNoLoneSurrogate (deprecation reason) := by
  cases reason with
  | none => exact hasNoLoneSurrogate_of_ascii (by decide)
  | some content =>
      rw [deprecation]
      split
      · exact hasNoLoneSurrogate_of_ascii (by decide)
      · have hliteral : HasNoLoneSurrogate (String.ofList (stringLiteral content.toList)) := by
          rw [HasNoLoneSurrogate, String.toList_ofList]
          exact hasOnlyPairs_stringLiteral (hreason content rfl)
        exact ((hasNoLoneSurrogate_of_ascii (by decide)).append hliteral).append
          (hasNoLoneSurrogate_of_ascii (by decide))

theorem hasNoLoneSurrogate_lines_value {value : EnumValue}
    (hname : Naming.isName value.name.toList = true)
    (htexts : ∀ text ∈ value.texts, HasNoLoneSurrogate text) : HasNoLoneSurrogate value.lines := by
  obtain ⟨hdescription, hreason⟩ := List.forall_mem_append.1 htexts
  simp only [Option.mem_toList] at hdescription hreason
  have hindent : HasNoLoneSurrogate "  " := hasNoLoneSurrogate_of_ascii (by decide)
  rw [EnumValue.lines]
  exact ((((hasNoLoneSurrogate_descriptionLine hindent hdescription).append hindent).append
    (hasNoLoneSurrogate_of_isName hname)).append (hasNoLoneSurrogate_deprecation hreason)).append
    (hasNoLoneSurrogate_of_ascii (by decide))

theorem hasNoLoneSurrogate_lines_field {field : ViewField}
    (hname : Naming.isName field.name.toList = true)
    (htexts : ∀ text ∈ field.texts, HasNoLoneSurrogate text) : HasNoLoneSurrogate field.lines := by
  obtain ⟨htype, hothers⟩ := List.forall_mem_cons.1 htexts
  obtain ⟨hdescription, hreason⟩ := List.forall_mem_append.1 hothers
  simp only [Option.mem_toList] at hdescription hreason
  have hindent : HasNoLoneSurrogate "  " := hasNoLoneSurrogate_of_ascii (by decide)
  have htypeRef : HasNoLoneSurrogate field.typeRef := by
    rw [ViewField.typeRef]
    split
    · exact htype.append (hasNoLoneSurrogate_of_ascii (by decide))
    · exact htype
  have hresolver :
      HasNoLoneSurrogate (if field.forceResolver then " @goField(forceResolver: true)"
        else "") := by
    split <;> exact hasNoLoneSurrogate_of_ascii (by decide)
  have hhead := (((hasNoLoneSurrogate_descriptionLine hindent hdescription).append hindent).append
    (hasNoLoneSurrogate_of_isName hname)).append
    (hasNoLoneSurrogate_of_ascii (by decide : Text.isAscii ": ".toList = true))
  exact (((hhead.append htypeRef).append (hasNoLoneSurrogate_deprecation hreason)).append
    hresolver).append
    (hasNoLoneSurrogate_of_ascii (by decide))

theorem hasNoLoneSurrogate_text_view {view : View} (hname : Naming.isName view.name.toList = true)
    (hvalues : ∀ value ∈ view.values, Naming.isName value.name.toList = true)
    (hfields : ∀ field ∈ view.fields, Naming.isName field.name.toList = true)
    (htexts : ∀ text ∈ view.texts, HasNoLoneSurrogate text) : HasNoLoneSurrogate view.text := by
  obtain ⟨hdescription, hmembers⟩ := List.forall_mem_append.1 htexts
  obtain ⟨hvalueTexts, hfieldTexts⟩ := List.forall_mem_append.1 hmembers
  simp only [Option.mem_toList] at hdescription
  have hvalueLines : HasNoLoneSurrogate (String.join (view.values.map EnumValue.lines)) :=
    .join (List.forall_mem_map.2 fun value hvalue => hasNoLoneSurrogate_lines_value
      (hvalues value hvalue)
      fun text htext => hvalueTexts text (List.mem_flatMap.2 ⟨value, hvalue, htext⟩))
  have hfieldLines : HasNoLoneSurrogate (String.join (view.fields.map ViewField.lines)) :=
    .join (List.forall_mem_map.2 fun field hfield => hasNoLoneSurrogate_lines_field
      (hfields field hfield)
      fun text htext => hfieldTexts text (List.mem_flatMap.2 ⟨field, hfield, htext⟩))
  have hkeyword : HasNoLoneSurrogate view.kind.keyword := by
    cases view.kind <;> exact hasNoLoneSurrogate_of_ascii (by decide)
  have hindent : HasNoLoneSurrogate "" := rfl
  have hblank : HasNoLoneSurrogate " " := rfl
  have hhead :=
    (((hasNoLoneSurrogate_descriptionLine hindent hdescription).append hkeyword).append
      hblank).append
    (hasNoLoneSurrogate_of_isName hname)
  rw [View.text]
  split
  · exact hhead.append (hasNoLoneSurrogate_of_ascii (by decide))
  · exact (((hhead.append (hasNoLoneSurrogate_of_ascii (by decide))).append hvalueLines).append
      hfieldLines).append
      (hasNoLoneSurrogate_of_ascii (by decide))

theorem hasNoLoneSurrogate_viewTexts {views : List View}
    (h : ∀ view ∈ views, HasNoLoneSurrogate view.text) (atHead : Bool) :
    HasNoLoneSurrogate (Schema.viewTexts atHead views) := by
  induction views generalizing atHead with
  | nil => exact rfl
  | cons view rest ih =>
      obtain ⟨hview, hrest⟩ := List.forall_mem_cons.1 h
      have hblank : HasNoLoneSurrogate (if atHead then "" else "\n") := by
        split <;> exact hasNoLoneSurrogate_of_ascii (by decide)
      exact (hblank.append hview).append (ih hrest false)

theorem hasNoLoneSurrogate_scalarLines {scalars : List String}
    (h : ∀ name ∈ scalars, Naming.isName name.toList = true) :
    HasNoLoneSurrogate (Schema.scalarLines scalars) :=
  .join (List.forall_mem_map.2 fun name hname =>
    ((hasNoLoneSurrogate_of_ascii (by decide)).append
      (hasNoLoneSurrogate_of_isName (h name hname))).append
      (hasNoLoneSurrogate_of_ascii (by decide)))

theorem hasNoLoneSurrogate_text {schema : Schema}
    (hscalars : ∀ name ∈ schema.scalars, Naming.isName name.toList = true)
    (hnames : ∀ view ∈ schema.views, Naming.isName view.name.toList = true)
    (hvalues : ∀ view ∈ schema.views, ∀ value ∈ view.values, Naming.isName value.name.toList = true)
    (hfields : ∀ view ∈ schema.views, ∀ field ∈ view.fields, Naming.isName field.name.toList = true)
    (htexts : ∀ text ∈ schema.texts, HasNoLoneSurrogate text) (emitScalars : Bool) :
    HasNoLoneSurrogate (schema.text emitScalars) := by
  have hviews : ∀ view ∈ schema.views, HasNoLoneSurrogate view.text := fun view hview =>
    hasNoLoneSurrogate_text_view (hnames view hview) (hvalues view hview) (hfields view hview)
      fun text htext => htexts text (List.mem_flatMap.2 ⟨view, hview, htext⟩)
  have hdeclared : ∀ name ∈ if emitScalars then schema.scalars else [],
      Naming.isName name.toList = true := by
    split
    · exact hscalars
    · exact List.forall_mem_nil _
  exact (hasNoLoneSurrogate_scalarLines hdeclared).append (hasNoLoneSurrogate_viewTexts hviews _)

/-! ### Emission -/

namespace Schema

variable {mapping : TypeMapping} {entities : List Entity} {typeOf : String → TypeRef}

/-- Emitting a resolved schema succeeds, and reading the text gives exactly the definitions of the
schema: one for each of its scalars and views, in order, with the names, types, descriptions and
directives of its members. An empty description is none. -/
theorem emit?_reads_back (hne : (resolve mapping entities).views ≠ [])
    (hviews : ∀ view ∈ (resolve mapping entities).views, view.IsWritable typeOf)
    (htexts : ∀ text ∈ (resolve mapping entities).texts, HasNoLoneSurrogate text)
    (emitScalars : Bool) : (resolve mapping entities).emit? emitScalars none read?.ofCodePoints =
        some ((resolve mapping entities).text emitScalars) ∧
      read?.ofCodePoints ((resolve mapping entities).text emitScalars).toList =
        some ((resolve mapping entities).definitions typeOf emitScalars) := by
  have hmembers : ∀ view ∈ (resolve mapping entities).views, view.HasOwnMembers := by
    intro view hview
    rw [view_eq_viewOf hview]
    exact hasOwnMembers_viewOf _
  have hscalars : ∀ name ∈ (resolve mapping entities).scalars, Naming.isName name.toList = true :=
    fun name => isName_of_mem_scalars
  have hpairs : HasNoLoneSurrogate ((resolve mapping entities).text emitScalars) :=
    hasNoLoneSurrogate_text hscalars
    (fun view hview => (hviews view hview).name)
    (fun view hview value hvalue => ((hviews view hview).values value hvalue).name)
    (fun view hview field hfield => ((hviews view hview).fields field hfield).name) htexts
      emitScalars
  have hread : read?.ofCodePoints ((resolve mapping entities).text emitScalars).toList =
      some ((resolve mapping entities).definitions typeOf emitScalars) := by
    rw [Parser.ofCodePoints]
    exact (if_pos hpairs).trans (read?_text hne hviews hmembers hscalars emitScalars)
  refine ⟨?_, hread⟩
  rw [emit?, Option.getD_none, isEmittable, hread, Option.isSome_some, Bool.or_true]
  exact if_pos rfl

theorem emit?_reads_back_account : (resolve ⟨TypeMapping.defaults⟩ [account]).views ≠ [] ∧
    (resolve ⟨TypeMapping.defaults⟩ [account]).emit? true none read?.ofCodePoints =
      some ((resolve ⟨TypeMapping.defaults⟩ [account]).text true) ∧
    read?.ofCodePoints ((resolve ⟨TypeMapping.defaults⟩ [account]).text true).toList =
      some ((resolve ⟨TypeMapping.defaults⟩ [account]).definitions listType true) := by
  have hne : (resolve ⟨TypeMapping.defaults⟩ [account]).views ≠ [] := by decide +kernel
  have hplain : ∀ view ∈ (resolve ⟨TypeMapping.defaults⟩ [account]).views, view.IsPlain := by
    decide +kernel
  have htexts : ∀ text ∈ (resolve ⟨TypeMapping.defaults⟩ [account]).texts,
      Text.hasOnlyPairs text.toList = true := by decide +kernel
  exact ⟨hne, emit?_reads_back hne (fun view hview => (hplain view hview).isWritable) htexts true⟩

/-- With half a pair of surrogates for a description, a view has all that it takes to be
written, but nothing is emitted. -/
theorem emit?_lone_surrogate :
    let described := { account with
      bindings := [⟨"Public", .object, some (String.singleton (Text.surrogate 0xD800)), 0⟩] }
    let schema := resolve ⟨TypeMapping.defaults⟩ [described]
    schema.views ≠ [] ∧ (∀ view ∈ schema.views, view.IsWritable listType) ∧
      schema.emit? true none read?.ofCodePoints = none := by
  intro described schema
  have hplain : ∀ view ∈ schema.views, view.IsPlain := by decide +kernel
  exact ⟨by decide +kernel, fun view hview => (hplain view hview).isWritable, by decide +kernel⟩

end Schema

end SchemaViews
