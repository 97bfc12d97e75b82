import SchemaViews.Declaration.Reader
import Mathlib.Data.List.Forall2

/-!
# Declarations that are written as data

The same declarations can be written in many ways: each key has two spellings, a default may stand
there or be left out, records may hold other fields, and the fields of a record may come in any
order. All of them are read as these declarations.
-/

namespace SchemaViews

namespace Data

namespace FieldKey

/-- The fields of a record that are given under one of the two spellings of a key. -/
def entries (names : FieldKey) (fields : List (String × Data)) : List (String × Data) :=
  fields.filter fun field => field.1 == names.key || field.1 == names.alternative

/-- The ways to write a datum under a key. Beside the first spelling, the
second one may hold anything. -/
inductive Spelling (names : FieldKey) (datum : Data) (omissible : Prop) :
    List (String × Data) → Prop
  | first : Spelling names datum omissible [(names.key, datum)]
  | second : Spelling names datum omissible [(names.alternative, datum)]
  | firstThenSecond (other : Data) (hne : names.key ≠ names.alternative) :
      Spelling names datum omissible [(names.key, datum), (names.alternative, other)]
  | secondThenFirst (other : Data) (hne : names.key ≠ names.alternative) :
      Spelling names datum omissible [(names.alternative, other), (names.key, datum)]
  | omitted (h : omissible) : Spelling names datum omissible []

/-- A record holds a datum under a key, in one of its spellings; it may do without it
if the datum is omissible. -/
def Holds (names : FieldKey) (datum : Data) (omissible : Prop)
    (fields : List (String × Data)) : Prop :=
  Spelling names datum omissible (names.entries fields)

variable {names : FieldKey} {datum : Data} {omissible : Prop} {fields : List (String × Data)}

theorem get?_entries {key : String} (hkey : key = names.key ∨ key = names.alternative)
    (fields : List (String × Data)) : get? key (names.entries fields) = get? key fields := by
  rw [get?, entries, List.find?_filter, get?]
  congr 2
  funext field
  rcases hkey with rfl | rfl <;> grind

theorem find?_entries (names : FieldKey) (fields : List (String × Data)) :
    names.find? (names.entries fields) = names.find? fields := by
  rw [find?, find?, get?_entries (.inl rfl), get?_entries (.inr rfl)]

theorem Holds.find? (h : names.Holds datum omissible fields) :
    (∃ key, names.find? fields = some (key, datum)) ∨ omissible ∧ names.find? fields = none := by
  rw [← find?_entries]
  unfold Holds at h
  generalize names.entries fields = entries at h
  cases h with
  | first => exact .inl ⟨names.key, by simp [FieldKey.find?, get?]⟩
  | second =>
      by_cases heq : names.alternative = names.key
      · exact .inl ⟨names.key, by simp [FieldKey.find?, get?, heq]⟩
      · exact .inl ⟨names.alternative, by simp [FieldKey.find?, get?, heq]⟩
  | firstThenSecond other hne => exact .inl ⟨names.key, by simp [FieldKey.find?, get?]⟩
  | secondThenFirst other hne => exact .inl ⟨names.key, by simp [FieldKey.find?, get?, hne.symm]⟩
  | omitted homissible => exact .inr ⟨homissible, rfl⟩

variable {α : Type} {read : Data → Checked α} {value default : α}

theorem Holds.require (h : names.Holds datum False fields) (hread : read datum = .ok value) :
    names.require read fields = .ok value := by
  obtain ⟨key, hfound⟩ | ⟨hfalse, -⟩ := h.find?
  · rw [FieldKey.require, hfound]
    simp only [hread]
    rfl
  · exact hfalse.elim

theorem Holds.readD (h : names.Holds datum (value = default) fields)
    (hread : read datum = .ok value) : names.readD read default fields = .ok value := by
  obtain ⟨key, hfound⟩ | ⟨rfl, hnone⟩ := h.find?
  · rw [FieldKey.readD, hfound]
    simp only [hread]
    rfl
  · rw [FieldKey.readD, hnone]

end FieldKey

variable {α : Type} {read : Data → Checked α} {values : List α} {items : List Data}

theorem readList_of_forall₂
    (h : List.Forall₂ (fun value item => read item = .ok value) values items) :
    readList read (.list items) = .ok values := by
  rw [readList]
  generalize 0 = start
  induction h generalizing start with
  | nil => rfl
  | cons hread _ ih =>
      have hplaced : placed (.index start) (read _) = .ok _ :=
        congrArg (placed (.index start)) hread
      simp only [List.zipIdx_cons, List.map_cons, collect, hplaced, ih (start + 1)]

def ofText? : Option String → Data
  | none => .null
  | some value => .text value

theorem readText?_ofText? (value : Option String) : readText? (ofText? value) = .ok value := by
  cases value <;> rfl

end Data

open Data

namespace Member

/-- The data is a record of the member: each key is spelled in one of its ways, a default may be
left out, and any other fields may be there. -/
inductive IsWritten (member : Member) : Data → Prop
  | record (fields : List (String × Data))
      (name : declaredNameKey.Holds (.text member.declaredName) False fields)
      (type : declaredTypeKey.Holds (.text member.declaredType) (member.declaredType = "") fields)
      (annotated : rawAnnotationKey.Holds (.text member.rawAnnotation)
        (member.rawAnnotation = "") fields)
      (value : valueKey.Holds (ofText? member.value) (member.value = none) fields) :
      IsWritten member (.record fields)

theorem IsWritten.ofData_eq {member : Member} {data : Data} (h : member.IsWritten data) :
    ofData data = .ok member := by
  obtain ⟨fields, name, type, annotated, value⟩ := h
  have hname : declaredNameKey.require readText fields = .ok member.declaredName := name.require rfl
  have htype : declaredTypeKey.readD readText "" fields = .ok member.declaredType := type.readD rfl
  have hannotation : rawAnnotationKey.readD readText "" fields = .ok member.rawAnnotation :=
    annotated.readD rfl
  have hvalue : valueKey.readD readText? none fields = .ok member.value :=
    value.readD (readText?_ofText? member.value)
  simp only [ofData, hname, htype, hannotation, hvalue]

def toData (member : Member) : Data :=
  .record [(declaredNameKey.key, .text member.declaredName),
    (declaredTypeKey.key, .text member.declaredType),
    (rawAnnotationKey.key, .text member.rawAnnotation), (valueKey.key, ofText? member.value)]

theorem isWritten_toData (member : Member) : member.IsWritten member.toData := by
  refine .record _ ?_ ?_ ?_ ?_
  all_goals
    simp only [FieldKey.Holds, FieldKey.entries, declaredNameKey, declaredTypeKey, rawAnnotationKey,
      valueKey]
    exact .first

end Member

namespace Declaration

inductive IsWritten (declaration : Declaration) : Data → Prop
  | record (fields : List (String × Data)) (items : List Data)
      (kind : kindKey.Holds (.text declaration.kind.word) False fields)
      (name : Member.declaredNameKey.Holds (.text declaration.declaredName) False fields)
      (annotated : Member.rawAnnotationKey.Holds (.text declaration.rawAnnotation)
        (declaration.rawAnnotation = "") fields)
      (members : membersKey.Holds (.list items) (declaration.members = []) fields)
      (written : List.Forall₂ Member.IsWritten declaration.members items)
      (source : sourceKey.Holds (ofText? declaration.source) (declaration.source = none) fields) :
      IsWritten declaration (.record fields)

/-- The data is a list of records of the declarations, or an object that
has one among its fields. -/
inductive AreWritten (declarations : List Declaration) : Data → Prop
  | bare (items : List Data) (written : List.Forall₂ IsWritten declarations items) :
      AreWritten declarations (.list items)
  | underEntities (fields : List (String × Data)) (items : List Data)
      (held : get? "entities" fields = some (.list items))
      (written : List.Forall₂ IsWritten declarations items) :
      AreWritten declarations (.record fields)

theorem readKind_word (kind : DeclarationKind) : readKind (.text kind.word) = .ok kind := by
  cases kind <;> rfl

theorem IsWritten.ofData_eq {declaration : Declaration} {data : Data}
    (h : declaration.IsWritten data) : ofData data = .ok declaration := by
  obtain ⟨fields, items, kind, name, annotated, members, written, source⟩ := h
  have hkind : kindKey.require readKind fields = .ok declaration.kind :=
    kind.require (readKind_word declaration.kind)
  have hname : Member.declaredNameKey.require readText fields = .ok declaration.declaredName :=
    name.require rfl
  have hannotation : Member.rawAnnotationKey.readD readText "" fields =
      .ok declaration.rawAnnotation :=
    annotated.readD rfl
  have hitems : readList Member.ofData (.list items) = .ok declaration.members :=
    readList_of_forall₂ (written.imp fun _ _ => Member.IsWritten.ofData_eq)
  have hmembers : membersKey.readD (readList Member.ofData) [] fields = .ok declaration.members :=
    members.readD hitems
  have hsource : sourceKey.readD readText? none fields = .ok declaration.source :=
    source.readD (readText?_ofText? declaration.source)
  simp only [ofData, hkind, hname, hannotation, hmembers, hsource]

theorem readItems_of_forall₂ {declarations : List Declaration} {items : List Data}
    (h : List.Forall₂ IsWritten declarations items) : readItems items = .ok declarations := by
  induction h with
  | nil => rfl
  | cons hitem _ ih =>
      rw [readItems, hitem.ofData_eq, ih]
      rfl

def toData (declaration : Declaration) : Data :=
  .record [(kindKey.key, .text declaration.kind.word),
    (Member.declaredNameKey.key, .text declaration.declaredName),
    (Member.rawAnnotationKey.key, .text declaration.rawAnnotation),
    (membersKey.key, .list (declaration.members.map Member.toData)),
    (sourceKey.key, ofText? declaration.source)]

theorem isWritten_toData (declaration : Declaration) :
    declaration.IsWritten declaration.toData := by
  have hmembers :
      List.Forall₂ Member.IsWritten declaration.members (declaration.members.map Member.toData) :=
    List.forall₂_map_right_iff.2 (List.forall₂_same.2 fun member _ => member.isWritten_toData)
  refine .record _ (declaration.members.map Member.toData) ?_ ?_ ?_ ?_ hmembers ?_
  all_goals
    simp only [FieldKey.Holds, FieldKey.entries, Member.declaredNameKey, Member.rawAnnotationKey,
      kindKey, membersKey, sourceKey]
    exact .first

/-- Reading undoes writing. Declarations can be written, and whichever of their spellings is chosen
at each place, and whatever is left out or added, these declarations are read back. -/
theorem listOfData_of_areWritten (declarations : List Declaration) :
    AreWritten declarations (.list (declarations.map toData)) ∧
      ∀ data, AreWritten declarations data → listOfData data = .ok declarations := by
  constructor
  · exact .bare _ (List.forall₂_map_right_iff.2
      (List.forall₂_same.2 fun declaration _ => declaration.isWritten_toData))
  · intro data hdata
    cases hdata with
    | bare items written => exact readItems_of_forall₂ written
    | underEntities fields items held written =>
        rw [listOfData]
        simp only [held, Option.getD_some]
        exact readItems_of_forall₂ written

/-- Two declarations, of which the first one has an empty source and a member with an empty literal,
and the second one neither. -/
def mixedDeclarations : List Declaration :=
  [{ kind := .object, declaredName := "Order", rawAnnotation := "@GqlType", source := some "",
     members :=
       [{ declaredName := "ID", rawAnnotation := "gql:\"id\"" },
         { declaredName := "Note", value := some "" }] },
    { kind := .enum, declaredName := "Role" }]

def mixedMembers : List Data :=
  [.record [("raw_annotation", .text "gql:\"id\""), ("line", .integer 3),
    ("declaredName", .text "ID")],
    .record [("declared_name", .text "Note"), ("declaredType", .text ""), ("value", .text "")]]

def mixedItems : List Data :=
  [.record [("raw_annotation", .bool true), ("declared_name", .text "Order"),
    ("rawAnnotation", .text "@GqlType"),
      ("members", .list mixedMembers), ("kind", .text "object"), ("source", .text "")],
    .record [("declaredName", .text "Role"), ("kind", .text "enum"), ("source", .null),
      ("Source", .text "role.go")]]

theorem mixedItems_areWritten : List.Forall₂ IsWritten mixedDeclarations mixedItems := by
  refine .cons
    (.record _ mixedMembers ?_ ?_ ?_ ?_
      (.cons (.record _ ?_ ?_ ?_ ?_) (.cons (.record _ ?_ ?_ ?_ ?_) .nil)) ?_)
    (.cons (.record _ [] ?_ ?_ ?_ ?_ .nil ?_) .nil)
  all_goals
    simp only [FieldKey.Holds, FieldKey.entries, Member.declaredNameKey, Member.declaredTypeKey,
      Member.rawAnnotationKey, Member.valueKey, kindKey, membersKey, sourceKey]
    first
    | exact .first
    | exact .second
    | exact .secondThenFirst _ (by decide)
    | exact .omitted trivial

theorem listOfData_of_areWritten_mixed :
    AreWritten mixedDeclarations
      (.record [("version", .integer 2), ("entities", .list mixedItems)]) ∧
      listOfData (.record [("version", .integer 2), ("entities", .list mixedItems)]) =
        .ok mixedDeclarations := by
  have hwritten :
      AreWritten mixedDeclarations
      (.record [("version", .integer 2), ("entities", .list mixedItems)]) :=
    .underEntities _ mixedItems rfl mixedItems_areWritten
  exact ⟨hwritten, (listOfData_of_areWritten mixedDeclarations).2 _ hwritten⟩

end Declaration

end SchemaViews
