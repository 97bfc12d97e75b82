import SchemaViews.Proofs.Directive.ListForms
import SchemaViews.Proofs.GoSource.LineParts

/-!
# Field lines

The form of a line that declares fields: names between commas, a type, maybe a tag in
backquotes, maybe a comment. What is read as a field line has this form, and a line with a
single name is read as it is written.
-/

namespace SchemaViews

namespace Text

theorem stripEnd_blanks {blanks : List Char} (h : AreBlanks blanks) : stripEnd blanks = [] := by
  rw [stripEnd, List.reverse_eq_nil_iff, List.dropWhile_eq_nil_iff]
  intro c hc
  exact h c (List.mem_reverse.1 hc)

theorem strip_append_blanks (text : List Char) {blanks : List Char} (h : AreBlanks blanks) :
    strip (text ++ blanks) = strip text := by
  rw [strip, strip, stripStart, stripStart, List.dropWhile_append]
  split
  · next hempty =>
      rw [List.dropWhile_eq_nil_iff.2 h, List.isEmpty_iff.1 hempty]
  · rw [stripEnd_append, stripEnd_blanks h, if_pos rfl]

theorem not_isBlank_of_head?_strip (text : List Char) :
    ∀ c ∈ (strip text).head?, isBlank c = false := by
  intro c hc
  obtain ⟨rest, hrest⟩ := List.head?_eq_some_iff.1 hc
  obtain ⟨more, hmore⟩ := stripEnd_prefix (stripStart text)
  have hhead : (stripStart text).head? = some c := by
    rw [← hmore, ← strip, hrest]
    rfl
  exact stops_dropWhile _ _ c hhead

theorem not_isBlank_of_getLast?_strip (text : List Char) :
    ∀ c ∈ (strip text).getLast?, isBlank c = false := by
  intro c hc
  rw [strip, stripEnd, List.getLast?_reverse] at hc
  exact stops_dropWhile _ _ c hc

end Text

namespace GoSource

open SchemaViews.Text

variable {text rest line : List Char} {tag comment : Option (List Char)}

theorem isTypeChar_of_isBlank {c : Char} (h : isBlank c = true) : isTypeChar c = true := by
  rw [isTypeChar, Bool.and_eq_true, bne_iff_ne, bne_iff_ne]
  constructor <;> rintro rfl <;> exact absurd h (by decide)

/-! ### Behind the type -/

def IsTag (tag : Option (List Char)) : Prop :=
  ∀ text ∈ tag, ∃ content, text = backquote :: (content ++ [backquote]) ∧ backquote ∉ content

/-- What may come behind the type of a field: a tag, a comment, both or
nothing, with blanks around them. -/
inductive IsFieldTail : List Char → Option (List Char) → Option (List Char) → Prop where
  | tail {behind between : List Char} {tag comment : Option (List Char)}
      (hbehind : AreBlanks behind) (htag : IsTag tag) (hbetween : AreBlanks between)
      (hcomment : IsTrailing comment) :
      IsFieldTail (behind ++ (tag.getD [] ++ (between ++ comment.getD []))) tag comment

theorem isTag_none : IsTag none :=
  fun _ h => absurd h (Option.not_mem_none _)

theorem isTag_some {content : List Char} (h : backquote ∉ content) :
    IsTag (some (backquote :: (content ++ [backquote]))) := by
  intro text htext
  cases htext
  exact ⟨content, rfl, h⟩

theorem IsFieldTail.areBlanks (h : IsFieldTail text none none) : AreBlanks text := by
  cases h with
  | tail hbehind _ hbetween _ =>
      simp only [Option.getD_none, List.nil_append, List.append_nil]
      exact List.forall_mem_append.2 ⟨hbehind, hbetween⟩

theorem fieldTail?_tag (h : stripStart text = backquote :: rest) :
    fieldTail? text =
      (closed? (rawContent? rest)).map fun (content, comment) =>
        (some (backquote :: (content ++ [backquote])), comment) := by
  rw [fieldTail?, h, map_closed? (fun content => some (backquote :: (content ++ [backquote])))]
  simp only [beq_self_eq_true, if_true, rawContent?]
  cases rest.dropWhile (· != backquote) with
  | nil => rfl
  | cons c after => rfl

theorem fieldTail?_untagged (h : ∀ c ∈ (stripStart text).head?, c ≠ backquote) :
    fieldTail? text = if isTail (stripStart text) then some (none, comment? (stripStart text))
      else none := by
  rw [fieldTail?]
  cases hstrip : stripStart text with
  | nil => rfl
  | cons c rest =>
      rw [hstrip] at h
      simp only
      rw [if_neg (by simpa using h c rfl)]
      rfl

theorem isFieldTail_tagged (hstart : stripStart text = backquote :: rest)
    (h : fieldTail? text = some (tag, comment)) : IsFieldTail text tag comment := by
  rw [fieldTail?_tag hstart, Option.map_eq_some_iff] at h
  obtain ⟨⟨content, found⟩, hclosed, heq⟩ := h
  cases heq
  obtain ⟨between, hcontent, hbetween, htrailing⟩ := closed?_eq_some_iff.1 hclosed
  obtain ⟨hraw, rfl⟩ := rawContent?_eq_some_iff.1 hcontent
  obtain ⟨behind, hbehind, hblanks⟩ := exists_blanks text
  have htail := IsFieldTail.tail hblanks (isTag_some hraw) hbetween htrailing
  rw [hbehind, hstart]
  simpa using htail

theorem isFieldTail_untagged (hhead : ∀ c ∈ (stripStart text).head?, c ≠ backquote)
    (h : fieldTail? text = some (tag, comment)) : IsFieldTail text tag comment := by
  rw [fieldTail?_untagged hhead, Option.ite_none_right_eq_some] at h
  obtain ⟨htail, heq⟩ := h
  cases heq
  obtain ⟨hrest, htrailing⟩ := isTail_iff.1 ⟨htail, rfl⟩
  obtain ⟨behind, hbehind, hblanks⟩ := exists_blanks text
  have hform := IsFieldTail.tail hblanks isTag_none areBlanks_nil htrailing
  rwa [← hrest, Option.getD_none, List.nil_append, List.nil_append, ← hbehind] at hform

theorem IsFieldTail.fieldTail?_eq (h : IsFieldTail text tag comment) :
    fieldTail? text = some (tag, comment) := by
  cases h with
  | @tail behind between tag comment hbehind htag hbetween htrailing =>
      cases tag with
      | none =>
          have hstrip : stripStart (behind ++ (between ++ comment.getD [])) = comment.getD [] := by
            rw [← List.append_assoc]
            apply stripStart_append _ htrailing.not_isBlank
            exact List.forall_mem_append.2 ⟨hbehind, hbetween⟩
          obtain ⟨hend, hcomment⟩ := isTail_iff.2 ⟨rfl, htrailing⟩
          rw [Option.getD_none, List.nil_append, fieldTail?_untagged, hstrip, if_pos hend, hcomment]
          intro c hc
          rw [hstrip] at hc
          rw [htrailing.eq_slash c hc]
          decide
      | some text =>
          obtain ⟨content, rfl, hraw⟩ := htag text rfl
          have hstrip :
              stripStart
              (behind ++ (backquote :: (content ++ [backquote]) ++ (between ++ comment.getD []))) =
                backquote :: (content ++ backquote :: (between ++ comment.getD [])) := by
            rw [List.cons_append, List.append_assoc, List.singleton_append]
            exact stripStart_append_cons hbehind (by decide) _
          rw [Option.getD_some, fieldTail?_tag hstrip, rawContent?_eq_some_iff.2 ⟨hraw, rfl⟩,
            closed?_eq_some_iff.2 ⟨between, rfl, hbetween, htrailing⟩]
          rfl

theorem fieldTail?_eq_some_iff :
    fieldTail? text = some (tag, comment) ↔ IsFieldTail text tag comment := by
  refine ⟨fun h => ?_, IsFieldTail.fieldTail?_eq⟩
  by_cases htagged : ∃ rest, stripStart text = backquote :: rest
  · obtain ⟨rest, hrest⟩ := htagged
    exact isFieldTail_tagged hrest h
  · refine isFieldTail_untagged ?_ h
    rintro c hc rfl
    exact htagged (List.head?_eq_some_iff.1 hc)

/-! ### Names -/

/-- More names behind a first one, each behind a comma, with blanks around the comma. -/
inductive FollowNames : List Char → List (List Char) → Prop where
  | nil : FollowNames [] []
  | cons {before after name written : List Char} {names : List (List Char)}
      (hbefore : AreBlanks before) (hafter : AreBlanks after) (hname : IsIdentifier name)
      (h : FollowNames written names) :
      FollowNames (before ++ ',' :: (after ++ (name ++ written))) (name :: names)

theorem exists_of_nextName? {name : List Char} (h : nextName? text = some (name, rest)) :
    ∃ before after, text = before ++ ',' :: (after ++ (name ++ rest)) ∧ AreBlanks before ∧
      AreBlanks after ∧ IsIdentifier name := by
  obtain ⟨afterComma, hcomma, hname⟩ := Option.bind_eq_some_iff.1 h
  obtain ⟨before, hbefore, hblanks⟩ := exists_blanks text
  obtain ⟨after, hafter, hblanks'⟩ := exists_blanks afterComma
  obtain ⟨hrest, hidentifier, -⟩ := identifier?_eq_some_iff.1 hname
  rw [dropStart?_eq_some_iff.1 hcomma, hafter, hrest] at hbefore
  exact ⟨before, after, hbefore, hblanks, hblanks', hidentifier⟩

theorem exists_of_mem_nameLists {fuel : Nat} {names : List (List Char)}
    (h : (names, rest) ∈ nameLists fuel text) :
    ∃ written, text = written ++ rest ∧ FollowNames written names := by
  induction fuel generalizing text names with
  | zero =>
      rw [nameLists, List.mem_singleton] at h
      cases h
      exact ⟨[], rfl, .nil⟩
  | succ fuel ih =>
      rw [nameLists] at h
      split at h
      · rw [List.mem_singleton] at h
        cases h
        exact ⟨[], rfl, .nil⟩
      · next name after hnext =>
          rcases List.mem_append.1 h with hmore | hnone
          · obtain ⟨⟨found, left⟩, hfound, heq⟩ := List.mem_map.1 hmore
            cases heq
            obtain ⟨written, rfl, hwritten⟩ := ih hfound
            obtain ⟨before, behind, rfl, hbefore, hbehind, hname⟩ := exists_of_nextName? hnext
            refine ⟨before ++ ',' :: (behind ++ (name ++ written)), ?_,
              .cons hbefore hbehind hname hwritten⟩
            simp only [List.append_assoc, List.cons_append]
          · rw [List.mem_singleton] at hnone
            cases hnone
            exact ⟨[], rfl, .nil⟩

/-! ### Whole lines -/

/-- The form of a field line. The type is what stands between the names and the tag or the
comment, without its blanks. -/
inductive IsFieldLine : List Char → FieldLine → Prop where
  | field {name more gap type tail : List Char} {names : List (List Char)}
      {tag comment : Option (List Char)} (hname : IsIdentifier name)
      (hmore : FollowNames more names) (hgap : gap ≠ []) (hblanks : AreBlanks gap)
      (htype : ∀ c ∈ type, isTypeChar c = true) (htail : IsFieldTail tail tag comment) :
      IsFieldLine (name ++ (more ++ (gap ++ (type ++ tail))))
        ⟨name :: names, strip type, tag, comment⟩

theorem isFieldLine_of_fieldLine? {field : FieldLine} (h : fieldLine? line = some field) :
    IsFieldLine line field := by
  obtain ⟨⟨name, rest⟩, hname, hread⟩ := Option.bind_eq_some_iff.1 h
  obtain ⟨rfl, hidentifier, -⟩ := identifier?_eq_some_iff.1 hname
  obtain ⟨⟨names, after⟩, hnames, hfield⟩ := List.exists_of_findSome?_eq_some hread
  obtain ⟨⟨type, tag, comment⟩, htype, rfl⟩ := Option.map_eq_some_iff.1 hfield
  obtain ⟨more, rfl, hmore⟩ := exists_of_mem_nameLists hnames
  obtain ⟨body, hbody, hrest⟩ := Option.bind_eq_some_iff.1 htype
  obtain ⟨gap, rfl, hgap, hblanks, -⟩ := blanks?_eq_some_iff.1 hbody
  obtain ⟨⟨readTag, readComment⟩, htail, heq⟩ := Option.bind_eq_some_iff.1 hrest
  rw [Option.ite_none_left_eq_some] at heq
  cases heq.2
  have hchars : ∀ c ∈ body.takeWhile isTypeChar, isTypeChar c = true :=
    fun _ => List.mem_takeWhile_imp
  have hform :=
    IsFieldLine.field hidentifier hmore hgap hblanks hchars (fieldTail?_eq_some_iff.1 htail)
  rwa [List.takeWhile_append_dropWhile] at hform

/-! ### Fields with one name -/

/-- A type as it is written behind a name: no backquotes, slashes and blanks around it, and no comma
in front, which would go on with the names. -/
structure IsTypeText (type : List Char) : Prop where
  ne_nil : type ≠ []
  chars : ∀ c ∈ type, isTypeChar c = true
  trimmed : strip type = type
  no_comma : type.head? ≠ some ','

instance (type : List Char) : Decidable (IsTypeText type) :=
  decidable_of_iff
    (type ≠ [] ∧ type.all isTypeChar = true ∧ strip type = type ∧ type.head? ≠ some ',')
    ⟨fun h => ⟨h.1, List.all_eq_true.1 h.2.1, h.2.2.1, h.2.2.2⟩,
      fun h => ⟨h.ne_nil, List.all_eq_true.2 h.chars, h.trimmed, h.no_comma⟩⟩

theorem IsTrailing.not_isTypeChar (h : IsTrailing comment) :
    ∀ c ∈ (comment.getD []).head?, isTypeChar c = false := by
  intro c hc
  rw [h.eq_slash c hc]
  decide

theorem IsFieldTail.exists_stop {tail : List Char} (h : IsFieldTail tail tag comment) :
    ∃ blanks stop, tail = blanks ++ stop ∧ AreBlanks blanks ∧
      (∀ c ∈ stop.head?, isTypeChar c = false) ∧ IsFieldTail stop tag comment := by
  cases h with
  | @tail behind between tag comment hbehind htag hbetween htrailing =>
      cases tag with
      | none =>
          refine ⟨behind ++ between, comment.getD [], ?_, ?_, htrailing.not_isTypeChar, ?_⟩
          · rw [List.append_assoc]
            rfl
          · exact List.forall_mem_append.2 ⟨hbehind, hbetween⟩
          · exact .tail areBlanks_nil htag areBlanks_nil htrailing
      | some text =>
          refine ⟨behind, text ++ (between ++ comment.getD []), rfl, hbehind, ?_, ?_⟩
          · obtain ⟨content, rfl, -⟩ := htag text rfl
            exact forall_mem_head?_cons (by decide) _
          · exact .tail areBlanks_nil htag hbetween htrailing

theorem IsTypeText.not_isBlank {type : List Char} (h : IsTypeText type) (behind : List Char) :
    ∀ c ∈ (type ++ behind).head?, isBlank c = false := by
  obtain ⟨c, more, rfl⟩ := List.exists_cons_of_ne_nil h.ne_nil
  apply forall_mem_head?_cons
  apply not_isBlank_of_head?_strip (c :: more) c
  rw [h.trimmed]
  rfl

theorem fieldType?_append {gap type tail : List Char} (hgap : gap ≠ []) (hblanks : AreBlanks gap)
    (htype : IsTypeText type) (htail : IsFieldTail tail tag comment) :
    fieldType? (gap ++ (type ++ tail)) = some (type, tag, comment) := by
  obtain ⟨blanks, stop, rfl, hblanks', hstop, hstopTail⟩ := htail.exists_stop
  have hchars : ∀ d ∈ type ++ blanks, isTypeChar d = true := by
    intro d hd
    rcases List.mem_append.1 hd with hinside | hbehind
    · exact htype.chars d hinside
    · exact isTypeChar_of_isBlank (hblanks' d hbehind)
  rw [fieldType?, blanks?_eq_some_iff.2 ⟨gap, rfl, hgap, hblanks, htype.not_isBlank _⟩]
  simp only [Option.bind_eq_bind, Option.bind_some]
  rw [← List.append_assoc, takeWhile_append_of_stop hchars hstop,
    dropWhile_append_of_stop hchars hstop]
  rw [fieldTail?_eq_some_iff.2 hstopTail, Option.bind_some, strip_append_blanks type hblanks',
    htype.trimmed]
  simp [htype.ne_nil]

theorem nextName?_type {gap type : List Char} (hblanks : AreBlanks gap) (htype : IsTypeText type)
    (behind : List Char) : nextName? (gap ++ (type ++ behind)) = none := by
  obtain ⟨c, more, hhead⟩ := List.exists_cons_of_ne_nil htype.ne_nil
  have hcomma : c ≠ ',' := by
    rintro rfl
    exact htype.no_comma (by rw [hhead]; rfl)
  have hstart : stripStart (gap ++ (type ++ behind)) = c :: (more ++ behind) := by
    rw [stripStart_append hblanks (htype.not_isBlank behind), hhead, List.cons_append]
  rw [nextName?, hstart, dropStart?, if_neg (by simpa using hcomma.symm)]
  rfl

theorem fieldLine?_single {name gap type tail : List Char} (hname : IsIdentifier name)
    (hgap : gap ≠ []) (hblanks : AreBlanks gap) (htype : IsTypeText type)
    (htail : IsFieldTail tail tag comment) :
    fieldLine? (name ++ (gap ++ (type ++ tail))) = some ⟨[name], type, tag, comment⟩ := by
  obtain ⟨fuel, hfuel⟩ : ∃ fuel, (gap ++ (type ++ tail)).length = fuel + 1 := by
    obtain ⟨first, others, rfl⟩ := List.exists_cons_of_ne_nil hgap
    exact ⟨_, rfl⟩
  rw [fieldLine?, identifier?_eq_some_iff.2 ⟨rfl, hname, hblanks.not_isWordChar hgap _⟩]
  simp only [Option.bind_eq_bind, Option.bind_some]
  rw [hfuel, nameLists, nextName?_type hblanks htype, List.findSome?_singleton,
    fieldType?_append hgap hblanks htype htail]
  rfl

end GoSource

end SchemaViews
