import SchemaViews.Proofs.GoSource.Comments
import SchemaViews.Proofs.GoSource.ConstantLines
import SchemaViews.Proofs.GoSource.FieldLines

/-!
# Comments and what they belong to

Everything that is extracted stands at a line of the text, and its annotation is made of the comment
lines right above that line, with the comment and the tag behind it on the line. So a comment
belongs to one line of code at most: the one right below its run.
-/

namespace SchemaViews.GoSource

open SchemaViews.Text

/-! ### Things at lines -/

/-- Things that stand at lines from a place up to another, in the order of the lines. -/
def StandBetween {α : Type} (stands : Nat → α → Prop) (start stop : Nat) (things : List α) : Prop :=
  ∃ placed : List (Nat × α), placed.map Prod.snd = things ∧
    placed.Pairwise (fun earlier later => earlier.1 < later.1) ∧
    ∀ entry ∈ placed, start ≤ entry.1 ∧ entry.1 < stop ∧ stands entry.1 entry.2

namespace StandBetween

variable {α β : Type} {stands : Nat → α → Prop} {start stop : Nat} {things : List α}

theorem nil : StandBetween stands start stop [] :=
  ⟨[], rfl, .nil, List.forall_mem_nil _⟩

theorem weaken {stands' : Nat → α → Prop} {stop' : Nat} (h : StandBetween stands start stop things)
    (hstop : stop ≤ stop') (himp : ∀ place thing, stands place thing → stands' place thing) :
    StandBetween stands' start stop' things := by
  obtain ⟨placed, hthings, hsorted, hplaced⟩ := h
  refine ⟨placed, hthings, hsorted, fun entry hentry => ?_⟩
  obtain ⟨hfrom, hto, hstands⟩ := hplaced entry hentry
  exact ⟨hfrom, hto.trans_le hstop, himp _ _ hstands⟩

theorem concat {thing : α} (h : StandBetween stands start stop things) (hstart : start ≤ stop)
    (hthing : stands stop thing) : StandBetween stands start (stop + 1) (things ++ [thing]) := by
  obtain ⟨placed, rfl, hsorted, hplaced⟩ := h
  refine ⟨placed ++ [(stop, thing)], List.map_append, ?_, ?_⟩
  · rw [List.pairwise_append]
    refine ⟨hsorted, List.pairwise_singleton _ _, fun earlier hearlier later hlater => ?_⟩
    rw [List.mem_singleton.1 hlater]
    exact (hplaced earlier hearlier).2.1
  · intro entry hentry
    rcases List.mem_append.1 hentry with hold | hnew
    · obtain ⟨hfrom, hto, hstands⟩ := hplaced entry hold
      exact ⟨hfrom, Nat.lt_succ_of_lt hto, hstands⟩
    · rw [List.mem_singleton.1 hnew]
      exact ⟨hstart, Nat.lt_succ_self stop, hthing⟩

theorem filterMap {stands' : Nat → β → Prop} (h : StandBetween stands start stop things)
    (pick : α → Option β)
    (hpick : ∀ place thing made, stands place thing → pick thing = some made → stands' place made) :
    StandBetween stands' start stop (things.filterMap pick) := by
  obtain ⟨placed, rfl, hsorted, hplaced⟩ := h
  refine ⟨placed.filterMap fun entry => (pick entry.2).map (entry.1, ·), ?_, ?_, ?_⟩
  · rw [List.map_filterMap, List.filterMap_map]
    apply List.filterMap_congr
    intro entry _
    rw [Option.map_map]
    exact Option.map_id'
  · refine hsorted.filterMap _ fun earlier later hlt made hmade made' hmade' => ?_
    obtain ⟨_, -, rfl⟩ := Option.map_eq_some_iff.1 hmade
    obtain ⟨_, -, rfl⟩ := Option.map_eq_some_iff.1 hmade'
    exact hlt
  · intro made hmade
    obtain ⟨entry, hentry, hmade⟩ := List.mem_filterMap.1 hmade
    obtain ⟨thing, hthing, rfl⟩ := Option.map_eq_some_iff.1 hmade
    obtain ⟨hfrom, hto, hstands⟩ := hplaced entry hentry
    exact ⟨hfrom, hto, hpick _ _ _ hstands hthing⟩

end StandBetween

/-! ### Where declarations stand -/

/-- The fields of one line: their annotation is the comments right above
it, its comment and its tag. -/
def FieldsStand (lines : List (List Char)) (place : Nat) (members : List Member) : Prop :=
  ¬IsCommentLine lines place ∧ ∃ field, IsFieldLine (lineAt lines place) field ∧
    members = (field.names.filter fun name => name.head?.any Char.isUpper).map fun name =>
      ⟨String.ofList name, String.ofList field.type,
        joinLines (commentsAbove lines place ++ optional field.comment ++ optional field.tag), none⟩

/-- The constant of one line: its annotation is the comments right above it and its comment. -/
def ConstantStands (lines : List (List Char)) (place : Nat) (member : Member) : Prop :=
  ¬IsCommentLine lines place ∧ ∃ constant type,
    (IsConstantLine (lineAt lines place) constant ∨
      IsSingleConstant (lineAt lines place) constant) ∧
      member = memberOf (commentsAbove lines place) type constant

/-- The header of a type: its annotation is the comments right above it. -/
structure HeaderStands (lines : List (List Char)) (place : Nat) (kind : DeclarationKind)
    (name annotation : String) : Prop where
  code : ¬IsCommentLine lines place
  header : ∃ written, header? (lineAt lines place) = some (kind, written) ∧
    name = String.ofList written
  annotation : annotation = joinLines (commentsAbove lines place)

/-- The members of a struct are those of the field lines between its header and a place. -/
def MembersStand (lines : List (List Char)) (place stop : Nat) (members : List Member) : Prop :=
  ∃ groups : List (List Member), members = groups.flatten ∧
    StandBetween (FieldsStand lines) (place + 1) stop groups

structure DeclarationStands (lines : List (List Char)) (place : Nat) (declaration : Declaration) :
    Prop where
  header :
    HeaderStands lines place declaration.kind declaration.declaredName declaration.rawAnnotation
  fields : declaration.kind = .object → MembersStand lines place lines.length declaration.members
  constants : declaration.kind = .enum →
    StandBetween (ConstantStands lines) 0 lines.length declaration.members

/-! ### Line by line -/

/-- A type that has been started, with the members that have been read up to a place. -/
structure TypeStands (lines : List (List Char)) (stop place : Nat) (type : Pending) : Prop where
  header : HeaderStands lines place type.kind type.name type.annotation
  members : MembersStand lines place stop type.members

/-- All that has been found up to a place stands in front of it; the type whose struct is open
stands behind all others. -/
structure Located (lines : List (List Char)) (place : Nat) (openType : Option Pending)
    (found : Extraction) : Prop where
  types : StandBetween (TypeStands lines place) 0 place found.types
  constants :
    StandBetween (fun line entry => ConstantStands lines line entry.2) 0 place found.constants
  openType : ∀ type ∈ openType, ∃ header < place,
    StandBetween (TypeStands lines place) 0 header found.types ∧ TypeStands lines place header type

section

variable {lines : List (List Char)} {place : Nat} {source : Option String}
    {before after : Option Pending} {found next : Extraction}

theorem TypeStands.succ {stop header : Nat} {type : Pending}
    (h : TypeStands lines stop header type) : TypeStands lines (stop + 1) header type := by
  obtain ⟨groups, hmembers, hgroups⟩ := h.members
  exact ⟨h.header, groups, hmembers, hgroups.weaken (Nat.le_succ stop) fun _ _ => id⟩

theorem Located.succ (h : Located lines place before found) :
    Located lines (place + 1) before found := by
  refine ⟨?_, ?_, fun type htype => ?_⟩
  · exact h.types.weaken (Nat.le_succ place) fun _ _ => TypeStands.succ
  · exact h.constants.weaken (Nat.le_succ place) fun _ _ => id
  · obtain ⟨header, hlt, htypes, hheader⟩ := h.openType type htype
    exact ⟨header, Nat.lt_succ_of_lt hlt,
      htypes.weaken (Nat.le_refl header) fun _ _ => TypeStands.succ, hheader.succ⟩

theorem typeStands_started {kind : DeclarationKind} {name : List Char}
    (hcode : ¬IsCommentLine lines place)
    (hheader : header? (lineAt lines place) = some (kind, name)) (stop : Nat) :
    TypeStands lines stop place (startedType source (commentsAbove lines place) kind name) :=
  ⟨⟨hcode, ⟨name, hheader, rfl⟩, rfl⟩, [], rfl, .nil⟩

theorem MembersStand.concat {header : Nat} {members : List Member}
    (h : MembersStand lines header place members) (hlt : header < place)
    (hcode : ¬IsCommentLine lines place) :
    MembersStand lines header (place + 1)
      (members ++ fieldMembers (lineAt lines place) (commentsAbove lines place)) := by
  obtain ⟨groups, rfl, hgroups⟩ := h
  cases hfield : fieldLine? (lineAt lines place) with
  | none =>
      refine ⟨groups, ?_, hgroups.weaken (Nat.le_succ place) fun _ _ => id⟩
      rw [fieldMembers, hfield, List.append_nil]
  | some field =>
      refine ⟨groups ++ [fieldMembers (lineAt lines place) (commentsAbove lines place)], ?_,
        hgroups.concat hlt ?_⟩
      · rw [List.flatten_append, List.flatten_singleton]
      · refine ⟨hcode, field, isFieldLine_of_fieldLine? hfield, ?_⟩
        rw [fieldMembers, hfield]

theorem Located.adds (h : Located lines place before found) (hcode : ¬IsCommentLine lines place)
    (hadds : Adds source (commentsAbove lines place) (lineAt lines place) before found after next) :
    Located lines (place + 1) after next := by
  have hlater := h.succ
  cases hadds with
  | nothing => exact hlater
  | header _ hheader =>
      refine ⟨hlater.types, hlater.constants, fun type htype => ?_⟩
      cases htype
      refine ⟨place, Nat.lt_succ_self place, ?_, typeStands_started hcode hheader (place + 1)⟩
      exact h.types.weaken (Nat.le_refl place) fun _ _ => TypeStands.succ
  | fields type =>
      refine ⟨hlater.types, hlater.constants, fun other hother => ?_⟩
      cases hother
      obtain ⟨header, hlt, htypes, hheader⟩ := h.openType type rfl
      refine ⟨header, Nat.lt_succ_of_lt hlt,
        htypes.weaken (Nat.le_refl header) fun _ _ => TypeStands.succ, ?_⟩
      exact ⟨hheader.header, hheader.members.concat hlt hcode⟩
  | close type =>
      obtain ⟨header, hlt, htypes, hheader⟩ := hlater.openType type rfl
      refine ⟨?_, hlater.constants, fun other hother => ?_⟩
      · exact (htypes.concat (Nat.zero_le header) hheader).weaken hlt fun _ _ => id
      · cases hother
  | whole _ hheader =>
      refine ⟨?_, hlater.constants, fun other hother => absurd hother (Option.not_mem_none other)⟩
      have htypes := h.types.weaken (Nat.le_refl place) fun _ _ => TypeStands.succ
      exact htypes.concat (Nat.zero_le place) (typeStands_started hcode hheader (place + 1))
  | @constant stated type _ hstated =>
      refine ⟨hlater.types, h.constants.concat (Nat.zero_le place) ⟨hcode, stated, type, ?_, rfl⟩,
        hlater.openType⟩
      exact hstated.imp constantLine?_eq_some_iff.1 isSingleConstant_of_singleConstant?

theorem Located.line {state : State} {raw : List Char}
    (h : Located lines place state.position.openType state.extraction)
    (htracks : Tracks lines place state) (hraw : lines[place]? = some raw) :
    Located lines (place + 1) (state.line source raw).position.openType
      (state.line source raw).extraction := by
  by_cases hcomment : IsCommentLine lines place
  · rw [State.line_of_isComment ((htracks.isComment_iff hraw).2 hcomment)]
    exact h.succ
  · obtain ⟨-, -, hadds⟩ := State.line_adds source fun hstate =>
      hcomment ((htracks.isComment_iff hraw).1 hstate)
    rw [htracks.comments, strip_eq_lineAt hraw] at hadds
    exact h.adds hcomment hadds

theorem foldl_induction {α β : Type} (step : β → α → β) (items : List α) (motive : Nat → β → Prop)
    {start : β} (hstart : motive 0 start)
    (hstep : ∀ place item state, items[place]? = some item → motive place state →
      motive (place + 1) (step state item)) : motive items.length (items.foldl step start) := by
  induction items generalizing motive start with
  | nil => exact hstart
  | cons item items ih =>
      apply ih (fun place => motive (place + 1))
      · exact hstep 0 item start rfl hstart
      · intro place next state hnext
        exact hstep (place + 1) next state hnext

theorem located_feed (text : List Char) (source : Option String) :
    StandBetween (TypeStands (splitLines text) (splitLines text).length) 0 (splitLines text).length
        (Extraction.feed {} text source).types ∧
      StandBetween (fun line entry => ConstantStands (splitLines text) line entry.2) 0
        (splitLines text).length (Extraction.feed {} text source).constants := by
  have hstart : Located (splitLines text) 0 none {} :=
    ⟨.nil, .nil, fun type htype => absurd htype (Option.not_mem_none type)⟩
  have hrun := foldl_induction (State.line source) (splitLines text)
    (fun place state => Tracks (splitLines text) place state ∧
      Located (splitLines text) place state.position.openType state.extraction)
    ⟨tracks_start {}, hstart⟩
    fun place raw state hraw h => ⟨h.1.line hraw source, h.2.line h.1 hraw⟩
  exact ⟨hrun.2.types, hrun.2.constants⟩

theorem standBetween_constantsOf {stop : Nat}
    (h : StandBetween (fun line entry => ConstantStands lines line entry.2) 0 stop found.constants)
    (type : String) : StandBetween (ConstantStands lines) 0 stop (found.constantsOf type) := by
  have hpicked : found.constantsOf type =
      found.constants.filterMap fun entry => if entry.1 == type then some entry.2 else none := by
    rw [Extraction.constantsOf, ← List.filterMap_eq_map, List.filterMap_filter]
    rfl
  rw [hpicked]
  apply h.filterMap
  intro line entry member hstands hmember
  rw [Option.ite_none_right_eq_some, Option.some.injEq] at hmember
  rw [← hmember.2]
  exact hstands

theorem TypeStands.declaration {header : Nat} {type : Pending} {declaration : Declaration}
    (h : TypeStands lines lines.length header type)
    (hconstants : StandBetween (fun line entry => ConstantStands lines line entry.2) 0 lines.length
      found.constants) (hdeclaration : found.declaration? type = some declaration) :
    DeclarationStands lines header declaration := by
  have hheader := h.header
  rw [Extraction.declaration?] at hdeclaration
  cases hkind : type.kind with
  | object =>
      rw [hkind] at hdeclaration hheader
      cases hdeclaration
      exact ⟨hheader, fun _ => h.members, (nomatch ·)⟩
  | enum =>
      rw [hkind] at hdeclaration hheader
      simp only [Option.ite_none_left_eq_some, Option.some.injEq] at hdeclaration
      obtain ⟨-, rfl⟩ := hdeclaration
      exact ⟨hheader, (nomatch ·), fun _ => standBetween_constantsOf hconstants type.name⟩

end

/-- Every declaration stands at its header, its members at their own lines, and the
annotation of each is made of the comment lines right above its line. No comment line stands
right above two lines of code. -/
theorem annotations_stand_above (text : List Char) (source : Option String) :
    StandBetween (DeclarationStands (splitLines text)) 0 (splitLines text).length
      (extract text source) ∧
      ∀ comment first second, comment ∈ runAbove (splitLines text) first →
        comment ∈ runAbove (splitLines text) second →
        ¬IsCommentLine (splitLines text) first → ¬IsCommentLine (splitLines text) second →
        first = second := by
  constructor
  · obtain ⟨htypes, hconstants⟩ := located_feed text source
    apply htypes.filterMap
    intro header type declaration hstands hdeclaration
    exact hstands.declaration hconstants hdeclaration
  · intro comment first second hfirst hsecond hcode hcode'
    exact eq_of_mem_runAbove hcode hcode' hfirst hsecond

end SchemaViews.GoSource
