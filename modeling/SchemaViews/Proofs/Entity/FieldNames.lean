import SchemaViews.Proofs.Entity.Built
import SchemaViews.Proofs.Naming.Cases

/-!
# Default names of fields

A field that no directive names has its declared name in the case that the settings ask
for. For an exported name that is always a GraphQL name, and in camel and snake case one
that begins with a small letter.
-/

namespace SchemaViews

open SchemaViews.Directive (Argument ofAnnotation)
open SchemaViews.Text

namespace Naming

/-- A capital ASCII letter, and then letters, digits and underscores. -/
def IsExported (name : String) : Prop :=
  ∃ c rest, name.toList = c :: rest ∧ c.isUpper = true ∧ ∀ d ∈ rest, isNameChar d = true

/-- What a default name is like in each case. -/
structure IsDefault (fieldCase : FieldCase) (name : String) : Prop where
  isName : isName name.toList = true
  startsSmall : fieldCase ≠ .keep → ∃ c rest, name.toList = c :: rest ∧ c.isLower = true
  notMem_underscore : fieldCase = .camel → '_' ∉ name.toList
  notMem_capital : fieldCase = .snake → ∀ c ∈ name.toList, c.isUpper = false

theorem isNameStart_of_isUpper {c : Char} (h : c.isUpper = true) : isNameStart c = true := by
  have halpha : c.isAlpha = true := Bool.or_eq_true_iff.2 (.inl h)
  rw [isNameStart, halpha, Bool.true_or]

theorem isNameStart_of_isLower {c : Char} (h : c.isLower = true) : isNameStart c = true := by
  have halpha : c.isAlpha = true := Bool.or_eq_true_iff.2 (.inr h)
  rw [isNameStart, halpha, Bool.true_or]

theorem isName_of_head? {text : List Char} {c : Char} (hhead : text.head? = some c)
    (hstart : isNameStart c = true)
    (hchars : ∀ d ∈ text, isNameChar d = true) : isName text = true := by
  obtain ⟨rest, rfl⟩ := List.head?_eq_some_iff.1 hhead
  rw [isName, hstart, Bool.true_and, List.all_eq_true]
  exact (List.forall_mem_cons.1 hchars).2

namespace IsExported

variable {name : String} (h : IsExported name)

include h

theorem isNameChar : ∀ c ∈ name.toList, Naming.isNameChar c = true := by
  obtain ⟨c, rest, hname, hupper, hrest⟩ := h
  rw [hname, List.forall_mem_cons]
  exact ⟨Document.isNameChar_of_isNameStart (isNameStart_of_isUpper hupper), hrest⟩

theorem exists_parts : ∃ c first rest, name.toList.head? = some c ∧ c.isUpper = true ∧
      parts name = (c :: first) :: rest := by
  obtain ⟨c, rest, hname, hupper, -⟩ := h
  have hother : c ≠ '_' := by
    rintro rfl
    cases hupper
  obtain ⟨first, pieces, hsplit⟩ := splitOn_cons_of_ne hother rest
  refine ⟨c, first, pieces.filter fun part => !part.isEmpty, ?_, hupper, ?_⟩
  · rw [hname, List.head?_cons]
  · rw [parts, hname, hsplit]
    rfl

theorem isDefault_camelCase : IsDefault .camel (camelCase name) := by
  obtain ⟨c, first, rest, -, hupper, hparts⟩ := h.exists_parts
  have hunbroken := isUnbroken_camelCase h.isNameChar (hparts ▸ List.cons_ne_nil _ _)
  have hhead := head?_camelCase h.isNameChar hparts
  rw [List.head?_cons, Option.map_some] at hhead
  have hsmall : c.toLower.isLower = true :=
    isLower_toLower (Document.isNameChar_of_isNameStart (isNameStart_of_isUpper hupper)) hupper
  exact {
    isName := isName_of_head? hhead (isNameStart_of_isLower hsmall) fun d hd => (hunbroken d hd).1
    startsSmall := fun _ =>
      have ⟨rest, hrest⟩ := List.head?_eq_some_iff.1 hhead
      ⟨_, rest, hrest, hsmall⟩
    notMem_underscore := fun _ hmem => (hunbroken _ hmem).2 rfl
    notMem_capital := fun hcase => by cases hcase }

theorem isDefault_snakeCase : IsDefault .snake (snakeCase name) := by
  obtain ⟨c, first, rest, hname, hupper, -⟩ := h.exists_parts
  have hchars := isNameChar_snakeCase h.isNameChar
  have hhead := head?_snakeCase h.isNameChar
  rw [hname, Option.map_some] at hhead
  have hsmall : c.toLower.isLower = true :=
    isLower_toLower (Document.isNameChar_of_isNameStart (isNameStart_of_isUpper hupper)) hupper
  exact {
    isName := isName_of_head? hhead (isNameStart_of_isLower hsmall) fun d hd => (hchars d hd).1
    startsSmall := fun _ =>
      have ⟨rest, hrest⟩ := List.head?_eq_some_iff.1 hhead
      ⟨_, rest, hrest, hsmall⟩
    notMem_underscore := fun hcase => by cases hcase
    notMem_capital := fun _ d hd => (hchars d hd).2 }

theorem isDefault_keep : IsDefault .keep name := by
  obtain ⟨c, first, rest, hname, hupper, -⟩ := h.exists_parts
  exact {
    isName := isName_of_head? hname (isNameStart_of_isUpper hupper) h.isNameChar
    startsSmall := fun hcase => absurd rfl hcase
    notMem_underscore := fun hcase => by cases hcase
    notMem_capital := fun hcase => by cases hcase }

end IsExported

end Naming

namespace Field

theorem isDefault_nameFor (settings : Settings) {name : String} (h : Naming.IsExported name) :
    Naming.IsDefault settings.fieldCase (nameFor settings name) := by
  rw [nameFor]
  cases settings.fieldCase with
  | camel => exact h.isDefault_camelCase
  | snake => exact h.isDefault_snakeCase
  | keep => exact h.isDefault_keep

theorem outputName_foldl_takeOption (state : Field × List Cause) (arguments : List Argument) :
    (arguments.foldl takeOption state).1.outputName = state.1.outputName := by
  obtain ⟨rules, forced, hread⟩ := exists_foldl_takeOption arguments state
  rw [hread]

/-- A directive that leaves its field the name that it has: it has no
name at its head, or a dash. -/
def Unnaming (directive : Directive) : Prop :=
  ∀ first ∈ positional? directive, first.key = "-"

theorem outputName_take {directive : Directive} (h : directive.name = .field → Unnaming directive)
    (state : Field × List Cause) : (take state directive).1.outputName = state.1.outputName := by
  by_cases hname : directive.name = .field
  · unfold take takeDirective
    simp only [if_pos hname]
    split
    · rename_i first hfirst
      rw [outputName_foldl_takeOption, h hname first hfirst]
      rfl
    · rw [outputName_foldl_takeOption]
  · unfold take
    simp only [if_neg hname]

theorem outputName_of_ofMember {settings : Settings} {mapping : TypeMapping}
    {declaration : Declaration} {member : Member} {read : Field × List Cause}
    {directives : List Directive} (h : ofMember settings mapping declaration member = .ok read)
    (hdirectives : ofAnnotation member.rawAnnotation.toList (some (declaration.memberUnit member)) =
      .ok directives)
    (hunnaming : ∀ directive ∈ directives, directive.name = .field → Unnaming directive) :
    read.1.outputName = nameFor settings member.declaredName := by
  obtain ⟨found, hfound, rfl⟩ := exists_of_ofMember h
  cases hdirectives.symm.trans hfound
  refine List.foldlRecOn (motive := fun state : Field × List Cause => state.1.outputName = _)
    directives _ rfl ?_
  intro state hstate directive hdirective
  rw [outputName_take (hunnaming directive hdirective), hstate]

end Field

/-- Camel and snake case change no name that has been through them, and of an exported name every
case makes a valid one. A field that no directive names gets that name. -/
theorem default_fieldNames_are_stable_and_valid :
    (∀ name : String, (∀ c ∈ name.toList, Naming.isNameChar c = true) →
        Naming.camelCase (Naming.camelCase name) = Naming.camelCase name ∧
          Naming.snakeCase (Naming.snakeCase name) = Naming.snakeCase name) ∧
      (∀ (settings : Settings) (name : String), Naming.IsExported name →
        Naming.IsDefault settings.fieldCase (Field.nameFor settings name)) ∧
      ∀ settings mapping declaration member read directives,
        Field.ofMember settings mapping declaration member = .ok read →
        ofAnnotation member.rawAnnotation.toList (some (declaration.memberUnit member)) =
          .ok directives →
        (∀ directive ∈ directives, directive.name = .field → Field.Unnaming directive) →
        read.1.outputName = Field.nameFor settings member.declaredName :=
  ⟨fun _ hname => ⟨Naming.camelCase_camelCase hname, Naming.snakeCase_snakeCase hname⟩,
    fun settings _ hname => Field.isDefault_nameFor settings hname,
    fun _ _ _ _ _ _ hread hdirectives hunnaming =>
      Field.outputName_of_ofMember hread hdirectives hunnaming⟩

def hostDeclaration : Declaration where
  kind := .object
  declaredName := "Host"

def serverMember : Member where
  declaredName := "HTTPServer_v2ID"
  declaredType := "string"
  rawAnnotation := "gql:\"ro\""

def serverField : Field where
  declaredName := "HTTPServer_v2ID"
  declaredType := "string"
  outputName := "http_server_v2_id"
  scalarType := "String"
  rules := [⟨.access .readOnly, none, "ro"⟩]

def serverDirective : Directive where
  name := .field
  arguments := [{ key := "ro", position := 5 }]
  fromTag := true

theorem default_fieldNames_are_stable_and_valid_server :
    (∀ c ∈ "HTTPServer_v2ID".toList, Naming.isNameChar c = true) ∧
      Naming.IsExported "HTTPServer_v2ID" ∧
      Naming.camelCase "HTTPServer_v2ID" = "httpServerV2ID" ∧
      Naming.camelCase "httpServerV2ID" = "httpServerV2ID" ∧
      Naming.IsDefault .snake "http_server_v2_id" ∧
      Field.ofMember { fieldCase := .snake } ⟨TypeMapping.defaults⟩ hostDeclaration serverMember =
        .ok (serverField, []) ∧
      serverField.outputName = Field.nameFor { fieldCase := .snake } "HTTPServer_v2ID" := by
  have hchars : ∀ c ∈ "HTTPServer_v2ID".toList, Naming.isNameChar c = true := List.all_eq_true.1 rfl
  have hexported : Naming.IsExported "HTTPServer_v2ID" :=
    ⟨'H', "TTPServer_v2ID".toList, rfl, rfl, List.all_eq_true.1 rfl⟩
  have hcamel : Naming.camelCase "HTTPServer_v2ID" = "httpServerV2ID" := by decide
  have hsnake :
      Field.nameFor { fieldCase := .snake } "HTTPServer_v2ID" = "http_server_v2_id" := by decide
  have hread :
      Field.ofMember { fieldCase := .snake } ⟨TypeMapping.defaults⟩ hostDeclaration serverMember =
        .ok (serverField, []) := by decide +kernel
  have hdirectives :
      ofAnnotation serverMember.rawAnnotation.toList
      (some (hostDeclaration.memberUnit serverMember)) =
        .ok [serverDirective] := by decide +kernel
  have hunnaming : ∀ directive ∈ [serverDirective], directive.name = .field →
      Field.Unnaming directive := by
    intro directive hmem _ first hfirst
    rw [List.mem_singleton.1 hmem] at hfirst
    cases hfirst
  have hstable := (default_fieldNames_are_stable_and_valid.1 _ hchars).1
  have hvalid := default_fieldNames_are_stable_and_valid.2.1 { fieldCase := .snake } _ hexported
  rw [hcamel] at hstable
  rw [hsnake] at hvalid
  exact ⟨hchars, hexported, hcamel, hstable, hvalid, hread,
    default_fieldNames_are_stable_and_valid.2.2 _ _ _ _ _ _ hread hdirectives hunnaming⟩

end SchemaViews
