import SchemaViews.Proofs.Document.Reading
import SchemaViews.Schema.Text

/-!
# The tokens of the text of a schema

Every line of the text of a schema gives the tokens of what it says, if its names are names, its
types are types, and its descriptions can stand in block strings where they are written as such.
-/

namespace SchemaViews

open SchemaViews.Document

/-- A text of one line that a block string gives back. -/
structure FitsBlock (content : List Char) : Prop where
  noControl : ∀ c ∈ content, 32 ≤ c.toNat ∨ c = '\t'
  notBlank : ∃ c ∈ content, c ≠ ' ' ∧ c ≠ '\t'
  noBackslash : content.getLast? ≠ some '\\'

/-- If the description is written as a block string, it fits there. -/
def IsDescription (text : Option String) : Prop :=
  ∀ content, written text = some content → '\n' ∉ content → content.getLast? ≠ some '"' →
    FitsBlock content

instance (content : List Char) : Decidable (FitsBlock content) :=
  decidable_of_iff
    ((content.all fun c => decide (32 ≤ c.toNat ∨ c = '\t')) = true ∧
      (content.any fun c => decide (c ≠ ' ' ∧ c ≠ '\t')) = true ∧ content.getLast? ≠ some '\\')
    ⟨fun h => ⟨by simpa using h.1, by simpa using h.2.1, h.2.2⟩,
      fun h => ⟨by simpa using h.noControl, by simpa using h.notBlank, h.noBackslash⟩⟩

instance (text : Option String) : Decidable (IsDescription text) :=
  match h : written text with
  | none => isTrue fun content hcontent => by rw [h] at hcontent; cases hcontent
  | some content =>
    decidable_of_iff ('\n' ∉ content → content.getLast? ≠ some '"' → FitsBlock content)
      ⟨fun hfits found hfound => by
        rw [h, Option.some.injEq] at hfound; exact hfound ▸ hfits, fun hfits => hfits content h⟩

section Pieces

theorem lexes_blank : Lexes [' '] [] :=
  Lexes.ignored (by decide)

theorem lexes_newline : Lexes ['\n'] [] :=
  Lexes.ignored (by decide)

theorem lexesWord_of_isName {name : String} (h : Naming.isName name.toList = true) :
    LexesWord name.toList [.name name] := by
  have hword := LexesWord.name h
  rwa [String.ofList_toList] at hword

theorem endsWord_cons {c : Char} (hc : isLetterOrDigit c = false) (rest : List Char) :
    EndsWord (c :: rest) :=
  ⟨c, rfl, hc⟩

theorem lexes_literal {content : List Char} (hne : content ≠ [])
    (hfits : '\n' ∉ content → content.getLast? ≠ some '"' → FitsBlock content) :
    Lexes (if content.contains '\n' || content.getLast? == some '"' then stringLiteral content
      else blockLiteral content) [literalToken content] := by
  rw [literalToken]
  split
  · exact Lexes.string hne
  · rename_i hblock
    simp only [Bool.or_eq_true, List.contains_iff_mem, beq_iff_eq, not_or] at hblock
    obtain ⟨hcontrol, ⟨c, hmem, hspace, htab⟩, hbackslash⟩ := hfits hblock.1 hblock.2
    refine Lexes.block (fun d hd => ?_) ?_ hblock.2 hbackslash
    · by_contra hend
      rw [Bool.not_eq_false, isLineEnd, Bool.or_eq_true, beq_iff_eq, beq_iff_eq] at hend
      rcases hend with rfl | rfl
      · exact hblock.1 hd
      · exact absurd (hcontrol _ hd) (by decide)
    · rw [isBlankLine, List.all_eq_false]
      exact ⟨c, hmem, by simp [isIndent, hspace, htab]⟩

theorem lexes_descriptionLine {indent : String} (hindent : indent.toList.all isIgnored = true)
    {text : Option String} (h : IsDescription text) :
    Lexes (descriptionLine indent text).toList (descriptionTokens text) := by
  cases text with
  | none => exact Lexes.nil
  | some content =>
      rw [descriptionLine, descriptionTokens]
      by_cases hempty : content.isEmpty = true
      · rw [written, if_pos hempty, if_pos hempty]
        exact Lexes.nil
      · have hne : content.toList ≠ [] := by simpa using hempty
        have hwritten : written (some content) = some content.toList := by
          rw [written, if_neg hempty]
        have hliteral := lexes_literal hne (h content.toList hwritten)
        rw [if_neg hempty, hwritten, String.toList_append, String.toList_append,
          Document.description, String.toList_ofList, if_neg (by simpa using hne)]
        exact ((Lexes.ignored hindent).append hliteral).append lexes_newline

def usageText (label key : String) (content : List Char) : List Char :=
  [' '] ++
    (['@'] ++ (label.toList ++ (['('] ++ (key.toList ++ ([':'] ++ ([' '] ++ (content ++ [')'])))))))

theorem lexes_usageText {label key : String} {content : List Char} {leaf : Lexeme}
    (hlabel : Naming.isName label.toList = true) (hkey : Naming.isName key.toList = true)
    (hcontent : LexesWord content [leaf]) :
    Lexes (usageText label key content) (usage label (some (key, leaf))) := by
  have hclose : Lexes [')'] [.punctuator ')'] := Lexes.punctuator (by decide)
  have hcolon : Lexes [':'] [.punctuator ':'] := Lexes.punctuator (by decide)
  have hopen : Lexes ['('] [.punctuator '('] := Lexes.punctuator (by decide)
  have hat : Lexes ['@'] [.punctuator '@'] := Lexes.punctuator (by decide)
  have hleaf := hcontent.append hclose (endsWord_cons rfl [])
  have hvalue := (lexesWord_of_isName hkey).append (hcolon.append (lexes_blank.append hleaf))
    (endsWord_cons rfl _)
  have hlabelled := (lexesWord_of_isName hlabel).append (hopen.append hvalue) (endsWord_cons rfl _)
  exact lexes_blank.append (hat.append hlabelled)

def resolverText (forced : Bool) : List Char :=
  if forced then usageText "goField" "forceResolver" "true".toList else []

theorem lexes_resolverText (forced : Bool) :
    Lexes (resolverText forced ++ ['\n']) (resolverTokens forced) ∧
      EndsWord (resolverText forced ++ ['\n']) := by
  cases forced with
  | false => exact ⟨lexes_newline, endsWord_cons rfl []⟩
  | true =>
      have htrue : LexesWord "true".toList [.name "true"] := lexesWord_of_isName (by decide)
      have husage : Lexes (resolverText true) (resolverTokens true) :=
        lexes_usageText (by decide) (by decide) htrue
      have hline := husage.append lexes_newline
      rw [List.append_nil] at hline
      exact ⟨hline, endsWord_cons rfl _⟩

theorem deprecation_some {reason : String} (hempty : ¬reason.isEmpty = true) :
    (deprecation (some reason)).toList =
      usageText "deprecated" "reason" (stringLiteral reason.toList) := by
  rw [deprecation, if_neg hempty, String.toList_append, String.toList_append, String.toList_ofList]
  simp [usageText]

theorem lexes_deprecation {reason : String} (hempty : ¬reason.isEmpty = true) :
    Lexes (deprecation (some reason)).toList
      (usage "deprecated" (some ("reason", .string reason.toList))) := by
  have hstring : Lexes (stringLiteral reason.toList) [.string reason.toList] :=
    Lexes.string (by simpa using hempty)
  rw [deprecation_some hempty]
  exact lexes_usageText (by decide) (by decide) hstring.word

theorem lexes_marks (deprecated : Option String) (forced : Bool) :
    Lexes ((deprecation deprecated).toList ++ (resolverText forced ++ ['\n']))
        (deprecationTokens deprecated ++ resolverTokens forced) ∧
      EndsWord ((deprecation deprecated).toList ++ (resolverText forced ++ ['\n'])) := by
  obtain ⟨hlexes, hends⟩ := lexes_resolverText forced
  cases deprecated with
  | none => exact ⟨hlexes, hends⟩
  | some reason =>
      rw [deprecationTokens]
      by_cases hempty : reason.isEmpty = true
      · have hat : Lexes ['@'] [.punctuator '@'] := Lexes.punctuator (by decide)
        have hword : LexesWord "deprecated".toList [.name "deprecated"] :=
          lexesWord_of_isName (by decide)
        rw [deprecation, if_pos hempty, if_pos hempty]
        exact ⟨lexes_blank.append (hat.append (hword.append hlexes hends)), endsWord_cons rfl _⟩
      · have hreason := (lexes_deprecation hempty).append hlexes
        rw [deprecation_some hempty] at hreason ⊢
        rw [if_neg hempty]
        exact ⟨hreason, endsWord_cons rfl _⟩

end Pieces

structure EnumValue.IsWritable (value : EnumValue) : Prop where
  name : Naming.isName value.name.toList = true
  notReserved : value.name ∉ Reader.reservedNames
  description : IsDescription value.description

def EnumValue.tokens (value : EnumValue) : List Lexeme :=
  descriptionTokens value.description ++ .name value.name :: deprecationTokens value.deprecated

theorem EnumValue.IsWritable.lexes_lines {value : EnumValue} (h : value.IsWritable) :
    Lexes value.lines.toList value.tokens := by
  have htext : value.lines.toList = (descriptionLine "  " value.description).toList ++
      ("  ".toList ++ (value.name.toList ++
        ((deprecation value.deprecated).toList ++ (resolverText false ++ ['\n'])))) := by
    simp only [lines, String.toList_append, List.append_assoc]
    rfl
  obtain ⟨hmarks, hends⟩ := lexes_marks value.deprecated false
  have hindent : "  ".toList.all isIgnored = true := by decide
  have hname := (lexesWord_of_isName h.name).append hmarks hends
  have hline :=
    (lexes_descriptionLine hindent h.description).append ((Lexes.ignored hindent).append hname)
  rw [htext]
  rwa [show resolverTokens false = [] from rfl, List.append_nil] at hline

section Views

variable (typeOf : String → TypeRef)

/-- The type that a field is written with, where the names of types stand for the
types that `typeOf` gives. -/
def ViewField.type (field : ViewField) : TypeRef :=
  if field.required then (typeOf field.typeName).required else typeOf field.typeName

structure ViewField.IsWritable (field : ViewField) : Prop where
  name : Naming.isName field.name.toList = true
  type : (typeOf field.typeName).Written field.typeName.toList
  description : IsDescription field.description

def ViewField.tokens (field : ViewField) : List Lexeme :=
  descriptionTokens field.description ++ .name field.name :: .punctuator ':' ::
    ((field.type typeOf).tokens ++
      (deprecationTokens field.deprecated ++ resolverTokens field.forceResolver))

/-- A view that can be written and read back. It has values if it is an
enum, and fields otherwise. -/
structure View.IsWritable (view : View) : Prop where
  name : Naming.isName view.name.toList = true
  description : IsDescription view.description
  fields : ∀ field ∈ view.fields, field.IsWritable typeOf
  values : ∀ value ∈ view.values, value.IsWritable

def View.memberTokens (view : View) : List Lexeme :=
  if view.kind = .enum then braced EnumValue.tokens view.values
    else braced (ViewField.tokens typeOf) view.fields

def View.tokens (view : View) : List Lexeme :=
  descriptionTokens view.description ++ .name view.kind.keyword :: .name view.name ::
    view.memberTokens typeOf

variable {typeOf}

theorem ViewField.IsWritable.type_written {field : ViewField} (h : field.IsWritable typeOf) :
    (field.type typeOf).Written field.typeRef.toList := by
  have hrequired := h.type.required
  unfold ViewField.type ViewField.typeRef
  cases field.required with
  | false => exact h.type
  | true =>
      simp only [Bool.true_and, if_true, bne_iff_ne, ne_eq]
      by_cases hlast : field.typeName.toList.getLast? = some '!'
      · rw [if_pos hlast] at hrequired
        rwa [if_neg (by simpa using hlast)]
      · rw [if_neg hlast] at hrequired
        rwa [if_pos hlast, String.toList_append]

theorem ViewField.IsWritable.lexes_lines {field : ViewField} (h : field.IsWritable typeOf) :
    Lexes field.lines.toList (field.tokens typeOf) := by
  have hresolver : (if field.forceResolver then " @goField(forceResolver: true)" else "").toList =
      resolverText field.forceResolver := by
    cases field.forceResolver <;> simp [resolverText, usageText]
  have htext : field.lines.toList = (descriptionLine "  " field.description).toList ++
      ("  ".toList ++ (field.name.toList ++ ([':'] ++ ([' '] ++ (field.typeRef.toList ++
        ((deprecation field.deprecated).toList ++
          (resolverText field.forceResolver ++ ['\n']))))))) := by
    simp only [lines, String.toList_append, hresolver, List.append_assoc]
    rfl
  obtain ⟨hmarks, hends⟩ := lexes_marks field.deprecated field.forceResolver
  have hindent : "  ".toList.all isIgnored = true := by decide
  have hcolon : Lexes [':'] [.punctuator ':'] := Lexes.punctuator (by decide)
  have htype := h.type_written.lexes.append hmarks hends
  have hname := (lexesWord_of_isName h.name).append (hcolon.append (lexes_blank.append htype))
    (endsWord_cons rfl _)
  have hline :=
    (lexes_descriptionLine hindent h.description).append ((Lexes.ignored hindent).append hname)
  rw [htext]
  exact hline

theorem lexes_join {α : Type} {lines : α → String} {tokens : α → List Lexeme} {entries : List α}
    (h : ∀ entry ∈ entries, Lexes (lines entry).toList (tokens entry)) :
    Lexes (String.join (entries.map lines)).toList (entries.flatMap tokens) := by
  rw [String.toList_join, List.flatMap_map]
  induction entries with
  | nil => exact Lexes.nil
  | cons entry entries ih =>
      exact (h entry List.mem_cons_self).append
        (ih fun entry hmem => h entry (List.mem_cons_of_mem _ hmem))

theorem lexes_braced {α : Type} {lines : α → String} {tokens : α → List Lexeme} {entries : List α}
    (hne : entries ≠ []) (h : ∀ entry ∈ entries, Lexes (lines entry).toList (tokens entry)) :
    Lexes ([' '] ++
      (['\x7b'] ++ (['\n'] ++ ((String.join (entries.map lines)).toList ++ (['\x7d'] ++ ['\n'])))))
      (braced tokens entries) := by
  have hopen : Lexes ['\x7b'] [.punctuator '\x7b'] := Lexes.punctuator (by decide)
  have hclose : Lexes ['\x7d'] [.punctuator '\x7d'] := Lexes.punctuator (by decide)
  have hentries := (lexes_join h).append (hclose.append lexes_newline)
  rw [braced, if_neg (by simpa using hne)]
  exact lexes_blank.append (hopen.append (lexes_newline.append hentries))

/-- A view has only the members that its kind provides for. -/
def View.HasOwnMembers (view : View) : Prop :=
  if view.kind = .enum then view.fields = [] else view.values = []

def View.bodyText (view : View) : List Char :=
  if view.memberNames.isEmpty then ['\n']
  else [' '] ++ (['\x7b'] ++ (['\n'] ++ ((String.join (view.values.map EnumValue.lines)).toList ++
    ((String.join (view.fields.map ViewField.lines)).toList ++ (['\x7d'] ++ ['\n'])))))

theorem View.toList_text (view : View) :
    view.text.toList = (descriptionLine "" view.description).toList ++
      (view.kind.keyword.toList ++ ([' '] ++ (view.name.toList ++ view.bodyText))) := by
  unfold text bodyText
  split
  · simp only [String.toList_append, List.append_assoc]
    rfl
  · simp only [String.toList_append, List.append_assoc]
    rfl

theorem View.IsWritable.lexes_bodyText {view : View} (h : view.IsWritable typeOf)
    (hmembers : view.HasOwnMembers) :
    Lexes view.bodyText (view.memberTokens typeOf) ∧ EndsWord view.bodyText := by
  unfold HasOwnMembers at hmembers
  unfold bodyText memberTokens memberNames
  by_cases hkind : view.kind = .enum
  · rw [if_pos hkind] at hmembers
    rw [if_pos hkind, if_pos hkind, hmembers]
    by_cases hempty : view.values = []
    · rw [hempty]
      exact ⟨lexes_newline, endsWord_cons rfl _⟩
    · rw [if_neg (by simpa using hempty)]
      exact ⟨lexes_braced hempty fun value hmem => (h.values value hmem).lexes_lines,
        endsWord_cons rfl _⟩
  · rw [if_neg hkind] at hmembers
    rw [if_neg hkind, if_neg hkind, hmembers]
    by_cases hempty : view.fields = []
    · rw [hempty]
      exact ⟨lexes_newline, endsWord_cons rfl _⟩
    · rw [if_neg (by simpa using hempty)]
      exact ⟨lexes_braced hempty fun field hmem => (h.fields field hmem).lexes_lines,
        endsWord_cons rfl _⟩

theorem View.IsWritable.lexes_text {view : View} (h : view.IsWritable typeOf)
    (hmembers : view.HasOwnMembers) : Lexes view.text.toList (view.tokens typeOf) := by
  obtain ⟨hbody, hends⟩ := h.lexes_bodyText hmembers
  have hkeyword : LexesWord view.kind.keyword.toList [.name view.kind.keyword] := by
    apply lexesWord_of_isName
    cases view.kind <;> decide
  have hname := (lexesWord_of_isName h.name).append hbody hends
  have hhead := hkeyword.append (lexes_blank.append hname) (endsWord_cons rfl _)
  have hindent : "".toList.all isIgnored = true := by decide
  rw [toList_text]
  exact (lexes_descriptionLine hindent h.description).append hhead

def scalarTokens (name : String) : List Lexeme :=
  [.name "scalar", .name name]

theorem lexes_scalarLines {names : List String}
    (h : ∀ name ∈ names, Naming.isName name.toList = true) :
    Lexes (Schema.scalarLines names).toList (names.flatMap scalarTokens) := by
  refine lexes_join fun name hmem => ?_
  have hscalar : LexesWord "scalar".toList [.name "scalar"] := lexesWord_of_isName (by decide)
  have hname := (lexesWord_of_isName (h name hmem)).append lexes_newline (endsWord_cons rfl [])
  have hline := hscalar.append (lexes_blank.append hname) (endsWord_cons rfl _)
  have htext : ("scalar " ++ name ++ "\n").toList =
      "scalar".toList ++ ([' '] ++ (name.toList ++ ['\n'])) := by
    simp only [String.toList_append, List.append_assoc]
    rfl
  rw [htext]
  exact hline

theorem lexes_viewTexts {views : List View} (h : ∀ view ∈ views, view.IsWritable typeOf)
    (hmembers : ∀ view ∈ views, view.HasOwnMembers) (atHead : Bool) :
    Lexes (Schema.viewTexts atHead views).toList (views.flatMap (View.tokens typeOf)) := by
  induction views generalizing atHead with
  | nil => exact Lexes.nil
  | cons view views ih =>
      have hview := (h view List.mem_cons_self).lexes_text (hmembers view List.mem_cons_self)
      have hlater := ih (fun view hmem => h view (List.mem_cons_of_mem _ hmem))
        (fun view hmem => hmembers view (List.mem_cons_of_mem _ hmem)) false
      have hblank : Lexes (if atHead then "" else "\n").toList [] := by
        cases atHead with
        | true => exact Lexes.nil
        | false => exact lexes_newline
      rw [Schema.viewTexts, String.toList_append, String.toList_append]
      exact (hblank.append hview).append hlater

end Views

end SchemaViews
