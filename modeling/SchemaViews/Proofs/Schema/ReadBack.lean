import SchemaViews.Proofs.Entity.Built
import SchemaViews.Proofs.Schema.Tokens
import SchemaViews.Proofs.Schema.TypeParts
import SchemaViews.Proofs.Schema.Views

/-!
# The text of a schema says what the schema says

The definitions that a resolved schema stands for, and that a reader of its text finds
exactly these, in their order.
-/

namespace SchemaViews

open SchemaViews.Document

section Definitions

variable (typeOf : String → TypeRef)

def EnumValue.definition (value : EnumValue) : EnumValueDefinition where
  description := written value.description
  name := value.name
  directives := deprecationUse value.deprecated

def ViewField.directives (field : ViewField) : List Applied :=
  deprecationUse field.deprecated ++ resolverUse field.forceResolver

def ViewField.fieldDefinition (field : ViewField) : FieldDefinition where
  description := written field.description
  name := field.name
  type := field.type typeOf
  directives := field.directives

def ViewField.inputValue (field : ViewField) : InputValue where
  description := written field.description
  name := field.name
  type := field.type typeOf
  directives := field.directives

def View.body (view : View) : TypeSystem :=
  match view.kind with
  | .object => .object view.name [] [] (view.fields.map (ViewField.fieldDefinition typeOf))
  | .input => .input view.name [] (view.fields.map (ViewField.inputValue typeOf))
  | .enum => .enum view.name [] (view.values.map EnumValue.definition)

def View.definition (view : View) : Definition :=
  .typeSystem (written view.description) (view.body typeOf)

def scalarDefinition (name : String) : Definition :=
  .typeSystem none (.scalar name [])

/-- The definitions that a schema stands for. -/
def Schema.definitions (emitScalars : Bool) (schema : Schema) : List Definition :=
  (if emitScalars then schema.scalars else []).map scalarDefinition ++
    schema.views.map (View.definition typeOf)

end Definitions

section Reading

variable {typeOf : String → TypeRef} {lax : Bool} {fuel levels : Nat} {rest : List Lexeme}

theorem EnumValue.IsWritable.read_tokens {value : EnumValue} (h : value.IsWritable)
    (hrest : EndsMember rest) (hfuel : 2 < fuel) :
    Reader.enumValue fuel levels (value.tokens ++ rest) = some (value.definition, rest) := by
  rw [tokens, List.append_assoc, List.cons_append]
  exact Reader.enumValue_tokens value.description value.deprecated h.notReserved hrest hfuel

section Fields

variable {field : ViewField}

theorem ViewField.tokens_append : field.tokens typeOf ++ rest =
    descriptionTokens field.description ++ .name field.name :: .punctuator ':' ::
      ((field.type typeOf).tokens ++
      (deprecationTokens field.deprecated ++ (resolverTokens field.forceResolver ++ rest))) := by
  rw [tokens, List.append_assoc, List.cons_append, List.cons_append, List.append_assoc,
    List.append_assoc]

theorem ViewField.nesting_type : (field.type typeOf).nesting = (typeOf field.typeName).nesting := by
  rw [type]
  split
  · exact TypeRef.nesting_required _
  · rfl

theorem ViewField.IsWritable.read_fieldDefinition (h : field.IsWritable typeOf)
    (hlevels : (typeOf field.typeName).nesting ≤ levels) (hrest : EndsMember rest)
    (hfuel : 2 < fuel) :
    Reader.fieldDefinition fuel levels (field.tokens typeOf ++ rest) =
      some (field.fieldDefinition typeOf, rest) := by
  rw [← nesting_type] at hlevels
  rw [tokens_append]
  exact Reader.fieldDefinition_tokens field.description field.name field.deprecated
    field.forceResolver
    h.type_written hlevels hrest hfuel

theorem ViewField.IsWritable.read_inputValue (h : field.IsWritable typeOf)
    (hlevels : (typeOf field.typeName).nesting ≤ levels) (hrest : EndsMember rest)
    (hfuel : 2 < fuel) :
    Reader.inputValue fuel levels (field.tokens typeOf ++ rest) =
      some (field.inputValue typeOf, rest) := by
  rw [← nesting_type] at hlevels
  rw [tokens_append]
  exact Reader.inputValue_tokens field.description field.name field.deprecated field.forceResolver
    h.type_written hlevels hrest hfuel

end Fields

theorem head?_descriptionTokens_ne (text : Option String) (label : String) (rest : List Lexeme)
    (c : Char) : (descriptionTokens text ++ .name label :: rest).head? ≠ some (.punctuator c) := by
  rw [descriptionTokens]
  cases written text with
  | none => simp
  | some content =>
      simp only [Option.map_some, Option.toList_some, literalToken, List.singleton_append,
        List.head?_cons]
      split <;> simp

theorem ViewField.head?_tokens_ne (field : ViewField) (rest : List Lexeme) (c : Char) :
    (field.tokens typeOf ++ rest).head? ≠ some (.punctuator c) := by
  rw [tokens_append]
  exact head?_descriptionTokens_ne _ _ _ c

theorem EnumValue.head?_tokens_ne (value : EnumValue) (rest : List Lexeme) (c : Char) :
    (value.tokens ++ rest).head? ≠ some (.punctuator c) := by
  rw [tokens, List.append_assoc, List.cons_append]
  exact head?_descriptionTokens_ne _ _ _ c

theorem View.IsWritable.read_definition {view : View} (h : view.IsWritable typeOf)
    (hlevels : ∀ field ∈ view.fields, (typeOf field.typeName).nesting ≤ levels)
    (hrest : EndsDefinition rest) (hfuel : 2 < fuel) (hfields : view.fields.length < fuel)
    (hvalues : view.values.length < fuel) :
    Reader.definition lax fuel levels (view.tokens typeOf ++ rest) =
      some (view.definition typeOf, rest) := by
  have hword : view.kind.keyword ∈ Reader.definitionWords := by
    cases view.kind <;> decide
  have hbody : Reader.typeSystem false view.kind.keyword fuel levels
      (.name view.name :: (view.memberTokens typeOf ++ rest)) = some (view.body typeOf, rest) := by
    unfold memberTokens body
    cases hkind : view.kind with
    | object =>
        exact Reader.typeSystem_object
          (fun field hmem rest hend => (h.fields field hmem).read_fieldDefinition
            (hlevels field hmem) hend hfuel)
          (fun field _ => field.head?_tokens_ne) hrest hfields
    | input =>
        exact Reader.typeSystem_input
          (fun field hmem rest hend => (h.fields field hmem).read_inputValue
            (hlevels field hmem) hend hfuel)
          (fun field _ => field.head?_tokens_ne) hrest hfields
    | enum =>
        exact Reader.typeSystem_enum
          (fun value hmem rest hend => (h.values value hmem).read_tokens hend hfuel)
          (fun value _ => value.head?_tokens_ne) hrest hvalues
  rw [tokens, List.append_assoc, List.cons_append, List.cons_append]
  exact Reader.definition_tokens view.description hword hbody

end Reading

theorem length_le_length_flatMap {α β : Type} {tokens : α → List β} {entries : List α}
    (h : ∀ entry ∈ entries, tokens entry ≠ []) :
    entries.length ≤ (entries.flatMap tokens).length := by
  induction entries with
  | nil => exact Nat.le_refl 0
  | cons entry entries ih =>
      have hentry := List.length_pos_iff.2 (h entry List.mem_cons_self)
      have hrest := ih fun entry hmem => h entry (List.mem_cons_of_mem _ hmem)
      rw [List.flatMap_cons, List.length_append, List.length_cons]
      omega

theorem length_le_length_flatMap_of_mem {α β : Type} (tokens : α → List β) {entries : List α}
    {entry : α}
    (h : entry ∈ entries) : (tokens entry).length ≤ (entries.flatMap tokens).length := by
  have hsublist := List.sublist_flatten_of_mem (List.mem_map_of_mem (f := tokens) h)
  rw [← List.flatMap_def] at hsublist
  exact hsublist.length_le

theorem length_le_length_braced {α : Type} {tokens : α → List Lexeme} {entries : List α}
    (h : ∀ entry ∈ entries, tokens entry ≠ []) :
    entries.length ≤ (braced tokens entries).length := by
  have hflat := length_le_length_flatMap h
  rw [braced]
  split
  · rename_i hempty
    rw [List.isEmpty_iff.1 hempty]
    exact Nat.le_refl 0
  · rw [List.length_cons, List.length_append]
    omega

theorem View.endsDefinition_tokens {typeOf : String → TypeRef} (view : View) (rest : List Lexeme) :
    EndsDefinition (view.tokens typeOf ++ rest) := by
  rw [tokens, List.append_assoc]
  refine ⟨head?_descriptionTokens_ne _ _ _, ?_⟩
  rw [descriptionTokens]
  cases written view.description with
  | none => cases hkind : view.kind <;> simp [ViewKind.keyword]
  | some content =>
      simp only [Option.map_some, Option.toList_some, literalToken]
      split <;> simp

theorem View.length_tokens (typeOf : String → TypeRef) (view : View)
    (hmembers : view.HasOwnMembers) :
    view.fields.length + 2 ≤ (view.tokens typeOf).length ∧
    view.values.length + 2 ≤ (view.tokens typeOf).length := by
  have hfields : view.fields.length ≤ (braced (ViewField.tokens typeOf) view.fields).length :=
    length_le_length_braced fun field _ => by simp [ViewField.tokens]
  have hvalues : view.values.length ≤ (braced EnumValue.tokens view.values).length :=
    length_le_length_braced fun value _ => by simp [EnumValue.tokens]
  unfold HasOwnMembers at hmembers
  rw [tokens, memberTokens, List.length_append, List.length_cons, List.length_cons]
  split at hmembers
  · rename_i hkind
    rw [if_pos hkind, hmembers, List.length_nil]
    omega
  · rename_i hkind
    rw [if_neg hkind, hmembers, List.length_nil]
    omega

namespace Schema

variable {mapping : TypeMapping} {entities : List Entity} {typeOf : String → TypeRef} {lax : Bool}

theorem hasOwnMembers_viewOf (placement : Placement) :
    (viewOf entities placement).HasOwnMembers := by
  unfold View.HasOwnMembers View.kind
  rw [placement_viewOf, viewOf]
  split <;> rfl

theorem isName_of_mem_scalars {name : String} (hname : name ∈ (resolve mapping entities).scalars) :
    Naming.isName name.toList = true := by
  simp only [resolve, usedScalars, List.mem_mergeSort, List.mem_eraseDups, List.mem_filter,
    List.mem_filterMap, Option.map_eq_some_iff] at hname
  obtain ⟨⟨field, -, parts, hparts, rfl⟩, -⟩ := hname
  rw [String.toList_ofList]
  exact (TypeParts.isExact_of_of? hparts).1.name

def tokens (typeOf : String → TypeRef) (emitScalars : Bool) (schema : Schema) : List Lexeme :=
  (if emitScalars then schema.scalars else []).flatMap scalarTokens ++
    schema.views.flatMap (View.tokens typeOf)

theorem lexemes_text {schema : Schema} (hviews : ∀ view ∈ schema.views, view.IsWritable typeOf)
    (hmembers : ∀ view ∈ schema.views, view.HasOwnMembers)
    (hscalars : ∀ name ∈ schema.scalars, Naming.isName name.toList = true) (emitScalars : Bool) :
    lexemes (schema.text emitScalars).toList = some (schema.tokens typeOf emitScalars) := by
  have hnames : ∀ name ∈ (if emitScalars then schema.scalars else []),
      Naming.isName name.toList = true := by
    cases emitScalars with
    | false => exact fun name hmem => by cases hmem
    | true => exact hscalars
  have htext := (lexes_scalarLines hnames).append
    (lexes_viewTexts hviews hmembers (if emitScalars then schema.scalars else []).isEmpty) []
  rw [List.append_nil, lexemes, Option.map_some, List.append_nil] at htext
  rw [text, String.toList_append]
  exact htext

def entries (typeOf : String → TypeRef) (emitScalars : Bool) (schema : Schema) :
    List (List Lexeme × Definition) :=
  (if emitScalars then schema.scalars else []).map
    (fun name => (scalarTokens name, scalarDefinition name)) ++
    schema.views.map fun view => (view.tokens typeOf, view.definition typeOf)

theorem flatMap_fst_entries (schema : Schema) (emitScalars : Bool) :
    (schema.entries typeOf emitScalars).flatMap Prod.fst = schema.tokens typeOf emitScalars := by
  rw [entries, List.flatMap_append, List.flatMap_map, List.flatMap_map]
  rfl

theorem map_snd_entries (schema : Schema) (emitScalars : Bool) :
    (schema.entries typeOf emitScalars).map Prod.snd = schema.definitions typeOf emitScalars := by
  rw [entries, List.map_append, List.map_map, List.map_map]
  rfl

theorem length_view_tokens (typeOf : String → TypeRef) {schema : Schema} {view : View}
    (hview : view ∈ schema.views) (emitScalars : Bool) :
    (view.tokens typeOf).length ≤ (schema.tokens typeOf emitScalars).length := by
  rw [tokens, List.length_append]
  exact (length_le_length_flatMap_of_mem _ hview).trans (Nat.le_add_left _ _)

theorem length_tokens (typeOf : String → TypeRef) {schema : Schema} {view : View}
    (hview : view ∈ schema.views) (hmembers : view.HasOwnMembers) (emitScalars : Bool) :
    view.fields.length + 2 ≤ (schema.tokens typeOf emitScalars).length ∧
      view.values.length + 2 ≤ (schema.tokens typeOf emitScalars).length := by
  have hown := view.length_tokens typeOf hmembers
  have hall := length_view_tokens typeOf hview emitScalars
  omega

theorem endsDefinition_entry {schema : Schema} {emitScalars : Bool}
    {entry : List Lexeme × Definition} (hmem : entry ∈ schema.entries typeOf emitScalars) :
    (∀ rest, EndsDefinition (entry.1 ++ rest)) ∧ entry.1 ≠ [] := by
  rcases List.mem_append.1 hmem with hscalar | hshown
  · obtain ⟨name, -, rfl⟩ := List.mem_map.1 hscalar
    exact ⟨fun rest => ⟨fun c => by simp [scalarTokens], by simp [scalarTokens]⟩, by
      simp [scalarTokens]⟩
  · obtain ⟨view, -, rfl⟩ := List.mem_map.1 hshown
    exact ⟨view.endsDefinition_tokens, by simp [View.tokens]⟩

theorem definition_entry {schema : Schema} {fuel levels : Nat} {emitScalars : Bool}
    (hfuel : 2 < fuel) (hlength : (schema.tokens typeOf emitScalars).length < fuel)
    (hviews : ∀ view ∈ schema.views, view.IsWritable typeOf)
    (hmembers : ∀ view ∈ schema.views, view.HasOwnMembers)
    (hlevels : ∀ view ∈ schema.views, ∀ field ∈ view.fields,
      (typeOf field.typeName).nesting ≤ levels) {entry : List Lexeme × Definition}
    (hmem : entry ∈ schema.entries typeOf emitScalars) {rest : List Lexeme}
    (hrest : EndsDefinition rest) :
    Reader.definition lax fuel levels (entry.1 ++ rest) = some (entry.2, rest) := by
  rcases List.mem_append.1 hmem with hscalar | hshown
  · obtain ⟨name, -, rfl⟩ := List.mem_map.1 hscalar
    exact Reader.definition_tokens none (by decide) (Reader.typeSystem_scalar hrest (by omega))
  · obtain ⟨view, hview, rfl⟩ := List.mem_map.1 hshown
    obtain ⟨hfields, hvalues⟩ := length_tokens typeOf hview (hmembers view hview) emitScalars
    exact (hviews view hview).read_definition (hlevels view hview) hrest hfuel (by omega) (by omega)

theorem definitions_tokens {schema : Schema} {fuel levels count : Nat} (hne : schema.views ≠ [])
    (hviews : ∀ view ∈ schema.views, view.IsWritable typeOf)
    (hmembers : ∀ view ∈ schema.views, view.HasOwnMembers)
    (hlevels : ∀ view ∈ schema.views, ∀ field ∈ view.fields,
      (typeOf field.typeName).nesting ≤ levels) (emitScalars : Bool)
    (hfuel : (schema.tokens typeOf emitScalars).length < fuel)
    (hcount : (schema.tokens typeOf emitScalars).length ≤ count) :
    Reader.definitions lax fuel levels count (schema.tokens typeOf emitScalars) =
      some (schema.definitions typeOf emitScalars, []) := by
  have hsmall : 2 < fuel := by
    obtain ⟨view, hview⟩ := List.exists_mem_of_ne_nil _ hne
    have hview := length_tokens typeOf hview (hmembers view hview) emitScalars
    omega
  have hentries : schema.entries typeOf emitScalars ≠ [] := by
    intro hempty
    exact hne (List.map_eq_nil_iff.1 (List.append_eq_nil_iff.1 hempty).2)
  have hlong : (schema.entries typeOf emitScalars).length ≤ count := by
    have hflat :=
      length_le_length_flatMap fun entry (hmem : entry ∈ schema.entries typeOf emitScalars) =>
      (endsDefinition_entry hmem).2
    rw [flatMap_fst_entries] at hflat
    omega
  rw [← flatMap_fst_entries, ← map_snd_entries]
  exact Reader.definitions_flatMap hentries
    (fun entry hmem rest => definition_entry hsmall hfuel hviews hmembers hlevels hmem)
    (fun entry hmem => (endsDefinition_entry hmem).1)
    (fun entry hmem => (endsDefinition_entry hmem).2) hlong

theorem readTokens?_tokens {schema : Schema} {levels : Nat} (hne : schema.views ≠ [])
    (hviews : ∀ view ∈ schema.views, view.IsWritable typeOf)
    (hmembers : ∀ view ∈ schema.views, view.HasOwnMembers)
    (hlevels : ∀ view ∈ schema.views, ∀ field ∈ view.fields,
      (typeOf field.typeName).nesting ≤ levels) (emitScalars : Bool) :
    readTokens? lax levels (schema.tokens typeOf emitScalars) =
      some (schema.definitions typeOf emitScalars) := by
  rw [readTokens?,
    definitions_tokens hne hviews hmembers hlevels emitScalars (Nat.lt_succ_self _) (Nat.le_succ _),
    Option.map_some]

/-- The type of a field is open in fewer lists than the text of its schema has tokens. -/
theorem nesting_le_length_tokens {schema : Schema} {view : View} {field : ViewField}
    (hview : view ∈ schema.views) (hmembers : view.HasOwnMembers) (hfield : field ∈ view.fields)
    (emitScalars : Bool) :
    (typeOf field.typeName).nesting ≤ (schema.tokens typeOf emitScalars).length := by
  have htype : (field.type typeOf).tokens.length ≤ (field.tokens typeOf).length := by
    simp only [ViewField.tokens, List.length_append, List.length_cons]
    omega
  have hkind : view.kind ≠ .enum := by
    intro hkind
    rw [View.HasOwnMembers, if_pos hkind] at hmembers
    rw [hmembers] at hfield
    cases hfield
  have hmember : (field.tokens typeOf).length ≤ (view.tokens typeOf).length := by
    have hbraced := length_le_length_flatMap_of_mem (ViewField.tokens typeOf) hfield
    rw [View.tokens, View.memberTokens, if_neg hkind, braced,
      if_neg (by simpa using List.ne_nil_of_mem hfield)]
    simp only [List.length_append, List.length_cons]
    omega
  have hnesting := (field.type typeOf).nesting_le_length_tokens
  rw [ViewField.nesting_type] at hnesting
  exact hnesting.trans (htype.trans (hmember.trans (length_view_tokens typeOf hview emitScalars)))

/-- By the grammar, the text of a schema is a document with exactly the definitions
that the schema stands for. -/
theorem read?_text {schema : Schema} (hne : schema.views ≠ [])
    (hviews : ∀ view ∈ schema.views, view.IsWritable typeOf)
    (hmembers : ∀ view ∈ schema.views, view.HasOwnMembers)
    (hscalars : ∀ name ∈ schema.scalars, Naming.isName name.toList = true) (emitScalars : Bool) :
    read? (schema.text emitScalars).toList = some (schema.definitions typeOf emitScalars) := by
  rw [read?, lexemes_text hviews hmembers hscalars, Option.bind_some]
  exact readTokens?_tokens hne hviews hmembers
    (fun view hview field hfield => nesting_le_length_tokens hview
      (hmembers view hview) hfield emitScalars) emitScalars

/-- The parser that the program runs with finds them too, if no type is open in
more lists than it goes into. -/
theorem readInstalled?_text {schema : Schema} (hne : schema.views ≠ [])
    (hviews : ∀ view ∈ schema.views, view.IsWritable typeOf)
    (hmembers : ∀ view ∈ schema.views, view.HasOwnMembers)
    (hscalars : ∀ name ∈ schema.scalars, Naming.isName name.toList = true)
    (hlevels : ∀ view ∈ schema.views, ∀ field ∈ view.fields, (typeOf field.typeName).nesting ≤ 200)
    (emitScalars : Bool) :
    readInstalled? (schema.text emitScalars).toList =
      some (schema.definitions typeOf emitScalars) := by
  rw [readInstalled?, lexemes_text hviews hmembers hscalars, Option.bind_some]
  exact readTokens?_tokens hne hviews hmembers hlevels emitScalars

end Schema

end SchemaViews
