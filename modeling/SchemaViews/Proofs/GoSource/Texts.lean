import SchemaViews.Proofs.GoSource.Feeding
import SchemaViews.Proofs.GoSource.Steps

/-!
# Several texts

The declarations of several texts are those of each text on its own, one text after the other. A
struct has its members from its own text, whatever the texts around it leave open; a named type has
its constants from all texts, those before its own included.
-/

namespace SchemaViews.GoSource

/-! ### Where a type comes from -/

/-- Every type found, and the one whose struct is open, comes from a source. -/
structure ComeFrom (source : Option String) (openType : Option Pending) (found : Extraction) :
    Prop where
  openType : ∀ type ∈ openType, type.source = source
  types : ∀ type ∈ found.types, type.source = source

section

variable {source : Option String} {comments : List String} {line : List Char}
    {before after : Option Pending} {found next : Extraction}

theorem source_of_mem_addType {type : Pending} (htype : type.source = source)
    (hfound : ∀ type ∈ found.types, type.source = source) :
    ∀ other ∈ (found.addType type).types, other.source = source := by
  intro other hother
  rcases List.mem_append.1 hother with hold | hnew
  · exact hfound other hold
  · rw [List.mem_singleton.1 hnew]
    exact htype

theorem Adds.comeFrom (h : Adds source comments line before found after next)
    (hfrom : ComeFrom source before found) : ComeFrom source after next := by
  cases h with
  | nothing => exact hfrom
  | header =>
      refine ⟨fun type htype => ?_, hfrom.types⟩
      cases htype
      rfl
  | fields type =>
      refine ⟨fun other hother => ?_, hfrom.types⟩
      cases hother
      exact hfrom.openType type rfl
  | close type =>
      refine ⟨fun other hother => ?_, source_of_mem_addType (hfrom.openType type rfl) hfrom.types⟩
      cases hother
  | whole => exact ⟨hfrom.openType, source_of_mem_addType rfl hfrom.types⟩
  | constant => exact ⟨hfrom.openType, hfrom.types⟩

theorem State.comeFrom_line {state : State} (raw : List Char)
    (hfrom : ComeFrom source state.position.openType state.extraction) :
    ComeFrom source (state.line source raw).position.openType
      (state.line source raw).extraction := by
  by_cases hcomment : state.IsComment raw
  · rw [line_of_isComment hcomment]
    exact hfrom
  · exact (line_adds source hcomment).2.2.comeFrom hfrom

theorem source_of_mem_feed {text : List Char} :
    ∀ type ∈ (Extraction.feed {} text source).types, type.source = source := by
  have hrun (lines : List (List Char)) (state : State)
      (hfrom : ComeFrom source state.position.openType state.extraction) :
      ComeFrom source (lines.foldl (State.line source) state).position.openType
        (lines.foldl (State.line source) state).extraction := by
    induction lines generalizing state with
    | nil => exact hfrom
    | cons raw lines ih => exact ih (state.line source raw) (state.comeFrom_line raw hfrom)
  refine (hrun (Text.splitLines text)
    { extraction := {} } ⟨fun type htype => ?_, fun type htype => ?_⟩).types
  · cases htype
  · cases htype

end

/-! ### Texts one after the other -/

structure SourceText where
  text : List Char
  source : Option String
  deriving DecidableEq, Repr

def SourceText.found (given : SourceText) : Extraction :=
  Extraction.feed {} given.text given.source

/-- What several texts hold that are read one after the other. -/
def feedAll (texts : List SourceText) : Extraction :=
  texts.foldl (fun read given => read.feed given.text given.source) {}

/-- The constants of a type: those of each text, one text after the other. -/
def constantsAmong (texts : List SourceText) (type : String) : List Member :=
  texts.flatMap fun given => given.found.constantsOf type

def declarationAmong? (texts : List SourceText) (source : Option String) (type : Pending) :
    Option Declaration :=
  match type.kind with
  | .object => some ⟨.object, type.name, type.annotation, type.members, source⟩
  | .enum =>
    if constantsAmong texts type.name = [] ∧ '@' ∉ type.annotation.toList then none
    else some ⟨.enum, type.name, type.annotation, constantsAmong texts type.name, source⟩

def isStruct (declaration : Declaration) : Bool :=
  declaration.kind == .object

theorem feedAll_eq (texts : List SourceText) :
    feedAll texts = ⟨texts.flatMap fun given => given.found.types,
      texts.flatMap fun given => given.found.constants⟩ :=
  Extraction.foldl_feed SourceText.text SourceText.source texts {}

theorem constantsOf_feedAll (texts : List SourceText) (type : String) :
    (feedAll texts).constantsOf type = constantsAmong texts type := by
  rw [feedAll_eq, Extraction.constantsOf, List.filter_flatMap, List.map_flatMap]
  rfl

theorem declaration?_feedAll (texts : List SourceText) (type : Pending) :
    (feedAll texts).declaration? type = declarationAmong? texts type.source type := by
  rw [Extraction.declaration?, declarationAmong?, constantsOf_feedAll]
  cases type.kind with
  | object => rfl
  | enum =>
      refine if_congr ?_ rfl rfl
      rw [Bool.and_eq_true, List.isEmpty_iff, Bool.not_eq_true', List.contains_eq_mem,
        decide_eq_false_iff_not]

theorem filter_isStruct_declaration? (found other : Extraction) (type : Pending) :
    (found.declaration? type).filter isStruct = (other.declaration? type).filter isStruct := by
  have hnone (read : Extraction) (henum : type.kind = .enum) :
      (read.declaration? type).filter isStruct = none := by
    simp only [Extraction.declaration?, henum]
    split
    · rfl
    · rfl
  cases hkind : type.kind with
  | object => simp only [Extraction.declaration?, hkind]
  | enum => rw [hnone found hkind, hnone other hkind]

/-- The declarations of several texts are those of each text with its own source, one text after the
other, and so are those of its structs alone. -/
theorem declarations_of_texts (texts : List SourceText) :
    (feedAll texts).declarations =
        texts.flatMap
          (fun given => given.found.types.filterMap (declarationAmong? texts given.source)) ∧
      (feedAll texts).declarations.filter isStruct =
        texts.flatMap fun given => (extract given.text given.source).filter isStruct := by
  have hall : (feedAll texts).declarations =
      texts.flatMap fun given => given.found.types.filterMap (feedAll texts).declaration? := by
    rw [Extraction.declarations, feedAll_eq, List.filterMap_flatMap]
  constructor
  · rw [hall]
    apply List.flatMap_congr
    intro given _
    apply List.filterMap_congr
    intro type htype
    rw [declaration?_feedAll, source_of_mem_feed type htype]
  · rw [hall, List.filter_flatMap]
    apply List.flatMap_congr
    intro given _
    rw [extract, Extraction.declarations, List.filter_filterMap, List.filter_filterMap]
    apply List.filterMap_congr
    intro type _
    exact filter_isStruct_declaration? _ _ type

end SchemaViews.GoSource
