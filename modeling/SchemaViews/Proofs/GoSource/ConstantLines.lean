import SchemaViews.Proofs.GoSource.LineParts

/-!
# Constant lines

The form of a line that states a constant: a name, maybe a type, maybe a value, maybe a comment. A
value is a string literal or an expression without quotes and slashes. A line is read as a constant
exactly if it has this form, and then as that constant.
-/

namespace SchemaViews.GoSource

open SchemaViews.Text

variable {text line : List Char} {type literal comment : Option (List Char)}

def isPlainChar (c : Char) : Bool :=
  isTypeChar c && c != '"'

theorem isPlainChar_iff {c : Char} :
    isPlainChar c = true ↔ c ≠ backquote ∧ c ≠ '/' ∧ c ≠ '"' := by
  simp only [isPlainChar, isTypeChar, Bool.and_eq_true, bne_iff_ne, and_assoc]

theorem isPlainChar_of_isBlank {c : Char} (h : isBlank c = true) : isPlainChar c = true := by
  refine isPlainChar_iff.2 ⟨?_, ?_, ?_⟩ <;> rintro rfl <;> exact absurd h (by decide)

theorem IsTrailing.not_isPlainChar (h : IsTrailing comment) :
    ∀ c ∈ (comment.getD []).head?, isPlainChar c = false := by
  intro c hc
  rw [h.eq_slash c hc]
  decide

/-! ### Values -/

/-- What follows the equals sign of a constant line: a value, and maybe a comment behind it. The
literal is the content of the value if that is a string. -/
inductive IsValue : List Char → Option (List Char) → Option (List Char) → Prop where
  | literal {before written content behind : List Char} {comment : Option (List Char)}
      (hbefore : AreBlanks before) (hwritten : IsLiteral written content)
      (hbehind : AreBlanks behind) (hcomment : IsTrailing comment) :
      IsValue (before ++ written ++ behind ++ comment.getD []) (some content) comment
  | plain {expression : List Char} {comment : Option (List Char)} (hexpression : expression ≠ [])
      (hplain : ∀ c ∈ expression, isPlainChar c = true) (hcomment : IsTrailing comment) :
      IsValue (expression ++ comment.getD []) none comment

theorem constantValue?_quoted {rest : List Char} (h : stripStart text = '"' :: rest) :
    constantValue? text = (closed? (quotedContent? rest)).map fun (content, comment) =>
      (some content, comment) := by
  rw [constantValue?, h]
  exact (map_closed? some _).symm

theorem constantValue?_raw {rest : List Char} (h : stripStart text = backquote :: rest) :
    constantValue? text = (closed? (rawContent? rest)).map fun (content, comment) =>
      (some content, comment) := by
  rw [constantValue?, h]
  exact (map_closed? some _).symm

theorem constantValue?_plain (h : ∀ c ∈ (stripStart text).head?, c ≠ '"' ∧ c ≠ backquote) :
    constantValue? text =
      if text.takeWhile isPlainChar = [] ∨ isTail (text.dropWhile isPlainChar) = false then none
      else some (none, comment? (text.dropWhile isPlainChar)) := by
  rw [constantValue?]
  split
  · next rest hstrip =>
      rw [hstrip] at h
      exact absurd rfl (h '"' rfl).1
  · next c rest _ hstrip =>
      rw [hstrip] at h
      rw [if_neg (by simpa using (h c rfl).2)]
      refine if_congr ?_ rfl rfl
      rw [Bool.or_eq_true, List.isEmpty_iff, Bool.not_eq_true']
      rfl
  · next hstrip =>
      have hblanks : ∀ c ∈ text, isPlainChar c = true := by
        intro c hc
        exact isPlainChar_of_isBlank (List.dropWhile_eq_nil_iff.1 hstrip c hc)
      rw [List.takeWhile_eq_self_iff.2 hblanks, List.dropWhile_eq_nil_iff.2 hblanks]
      refine if_congr ?_ rfl rfl
      rw [List.isEmpty_iff]
      exact (or_iff_left (by decide)).symm

theorem constantValue?_literal {before written content : List Char} (hbefore : AreBlanks before)
    (hwritten : IsLiteral written content) (after : List Char) :
    constantValue? (before ++ (written ++ after)) =
      (closed? (some (content, after))).map fun (content, comment) => (some content, comment) := by
  cases hwritten with
  | quoted hescaped =>
      rw [List.cons_append, List.append_assoc, List.singleton_append,
        constantValue?_quoted (stripStart_append_cons hbefore (by decide) _),
        quotedContent?_append hescaped]
  | raw hplain =>
      rw [List.cons_append, List.append_assoc, List.singleton_append,
        constantValue?_raw (stripStart_append_cons hbefore (by decide) _),
        rawContent?_eq_some_iff.2 ⟨hplain, rfl⟩]

theorem IsTrailing.head_of_plain {expression : List Char}
    (hplain : ∀ c ∈ expression, isPlainChar c = true) (h : IsTrailing comment) :
    ∀ c ∈ (stripStart (expression ++ comment.getD [])).head?, c ≠ '"' ∧ c ≠ backquote := by
  intro c hc
  rw [stripStart, List.dropWhile_append] at hc
  split at hc
  · rw [← List.nil_append (comment.getD []),
      dropWhile_append_of_stop (List.forall_mem_nil _) h.not_isBlank] at hc
    rw [h.eq_slash c hc]
    decide
  · next hrest =>
      obtain ⟨d, rest, hd⟩ := List.exists_cons_of_ne_nil fun hnil => hrest (List.isEmpty_iff.2 hnil)
      rw [hd] at hc
      cases hc
      have hmem : c ∈ expression := by
        apply (List.dropWhile_sublist isBlank).subset
        rw [hd]
        exact List.mem_cons_self
      obtain ⟨hraw, -, hquote⟩ := isPlainChar_iff.1 (hplain c hmem)
      exact ⟨hquote, hraw⟩

theorem isValue_closed {found : Option (List Char × List Char)} {quote : Char} {rest : List Char}
    (hstart : stripStart text = quote :: rest)
    (hopened : ∀ content after, found = some (content, after) →
      IsLiteral (quote :: content ++ [quote]) content ∧ rest = content ++ quote :: after)
    (h : (closed? found).map (fun (content, comment) => (some content, comment)) =
      some (literal, comment)) : IsValue text literal comment := by
  obtain ⟨⟨content, trailing⟩, hclosed, heq⟩ := Option.map_eq_some_iff.1 h
  cases heq
  obtain ⟨behind, hcontent, hbehind, htrailing⟩ := closed?_eq_some_iff.1 hclosed
  obtain ⟨hliteral, rfl⟩ := hopened _ _ hcontent
  obtain ⟨before, hbefore, hblanks⟩ := exists_blanks text
  have hvalue := IsValue.literal hblanks hliteral hbehind htrailing
  rw [hbefore, hstart]
  simpa using hvalue

theorem isValue_plain (hhead : ∀ c ∈ (stripStart text).head?, c ≠ '"' ∧ c ≠ backquote)
    (h : constantValue? text = some (literal, comment)) : IsValue text literal comment := by
  rw [constantValue?_plain hhead, Option.ite_none_left_eq_some, not_or, Option.some.injEq,
    Prod.mk.injEq] at h
  obtain ⟨⟨hexpression, htail⟩, rfl, hcomment⟩ := h
  obtain ⟨hrest, htrailing⟩ := isTail_iff.1 ⟨by simpa using htail, hcomment⟩
  rw [← List.takeWhile_append_dropWhile (p := isPlainChar) (l := text), hrest]
  exact .plain hexpression (fun _ => List.mem_takeWhile_imp) htrailing

theorem isValue_of_constantValue? (h : constantValue? text = some (literal, comment)) :
    IsValue text literal comment := by
  -- The first character that is no blank tells the three kinds of values apart.
  by_cases hquoted : ∃ rest, stripStart text = '"' :: rest
  · obtain ⟨rest, hrest⟩ := hquoted
    rw [constantValue?_quoted hrest] at h
    refine isValue_closed hrest (fun content after hcontent => ?_) h
    obtain ⟨hescaped, heq⟩ := isEscaped_of_quotedContent? hcontent
    exact ⟨.quoted hescaped, heq⟩
  by_cases hraw : ∃ rest, stripStart text = backquote :: rest
  · obtain ⟨rest, hrest⟩ := hraw
    rw [constantValue?_raw hrest] at h
    refine isValue_closed hrest (fun content after hcontent => ?_) h
    obtain ⟨hplain, heq⟩ := rawContent?_eq_some_iff.1 hcontent
    exact ⟨.raw hplain, heq⟩
  refine isValue_plain (fun c hc => ?_) h
  obtain ⟨rest, hrest⟩ := List.head?_eq_some_iff.1 hc
  constructor
  · rintro rfl
    exact hquoted ⟨rest, hrest⟩
  · rintro rfl
    exact hraw ⟨rest, hrest⟩

theorem constantValue?_eq_some_iff :
    constantValue? text = some (literal, comment) ↔ IsValue text literal comment := by
  refine ⟨isValue_of_constantValue?, fun h => ?_⟩
  cases h with
  | literal hbefore hwritten hbehind htrailing =>
      rw [List.append_assoc, List.append_assoc, constantValue?_literal hbefore hwritten,
        closed?_eq_some_iff.2 ⟨_, rfl, hbehind, htrailing⟩]
      rfl
  | plain hexpression hplain htrailing =>
      obtain ⟨htail, hcomment⟩ := isTail_iff.2 ⟨rfl, htrailing⟩
      rw [constantValue?_plain (htrailing.head_of_plain hplain),
        takeWhile_append_of_stop hplain htrailing.not_isPlainChar,
        dropWhile_append_of_stop hplain htrailing.not_isPlainChar,
        if_neg (by simp [hexpression, htail]), hcomment]

/-! ### Types -/

/-- What may stand between the name of a constant and its value:
nothing, or a type behind blanks. -/
inductive IsTyped : List Char → Option (List Char) → Prop where
  | untyped : IsTyped [] none
  | typed {gap type : List Char} (hgap : gap ≠ []) (hblanks : AreBlanks gap) (htype : type ≠ [])
      (hchars : ∀ c ∈ type, isTypeNameChar c = true) : IsTyped (gap ++ type) (some type)

theorem isTypeNameChar_of_isBlank {c : Char} (h : isBlank c = true) : isTypeNameChar c = false := by
  rw [isTypeNameChar, isWordChar_of_isBlank h, Bool.false_or, beq_eq_false_iff_ne]
  rintro rfl
  exact absurd h (by decide)

theorem isWordChar_of_not_isTypeNameChar {c : Char} (h : isTypeNameChar c = false) :
    isWordChar c = false := by
  rw [isTypeNameChar, Bool.or_eq_false_iff] at h
  exact h.1

/-- What comes behind the name and the type of a constant: the end of the line, a
comment, or an equals sign. -/
def IsStatement (stated : List Char) : Prop :=
  ∀ c ∈ stated.head?, c = '/' ∨ c = '='

variable {typed gap stated : List Char}

theorem IsStatement.not_isBlank (h : IsStatement stated) :
    ∀ c ∈ stated.head?, isBlank c = false := by
  intro c hc
  rcases h c hc with rfl | rfl <;> decide

theorem IsStatement.not_isTypeNameChar (h : IsStatement stated) (hgap : AreBlanks gap) :
    ∀ c ∈ (gap ++ stated).head?, isTypeNameChar c = false := by
  cases gap with
  | nil =>
      intro c hc
      rcases h c hc with rfl | rfl <;> decide
  | cons d gap =>
      exact forall_mem_head?_cons (isTypeNameChar_of_isBlank (hgap d List.mem_cons_self))
        (gap ++ stated)

theorem constantType_append (htyped : IsTyped typed type) (hgap : AreBlanks gap)
    (hstated : IsStatement stated) :
    constantType (typed ++ (gap ++ stated)) = (type, gap ++ stated) := by
  rw [constantType]
  cases htyped with
  | untyped =>
      rw [List.nil_append]
      cases hblanks : blanks? (gap ++ stated) with
      | none => rfl
      | some rest =>
          obtain ⟨gap', heq, -, hgap', hrest⟩ := blanks?_eq_some_iff.1 hblanks
          have hsame : rest = stated := by
            rw [← stripStart_append hgap' hrest, ← heq, stripStart_append hgap hstated.not_isBlank]
          have hnone : rest.takeWhile isTypeNameChar = [] := by
            have hstop := hstated.not_isTypeNameChar areBlanks_nil
            have htake : ([] ++ stated).takeWhile isTypeNameChar = [] :=
              takeWhile_append_of_stop (List.forall_mem_nil _) hstop
            rwa [hsame]
          simp only [hnone, List.isEmpty_nil, if_true]
  | @typed before type hbefore hblanks htype hchars =>
      have hhead : ∀ c ∈ (type ++ (gap ++ stated)).head?, isBlank c = false := by
        obtain ⟨c, more, rfl⟩ := List.exists_cons_of_ne_nil htype
        apply forall_mem_head?_cons
        rw [← Bool.not_eq_true]
        intro hblank
        have hc := hchars c List.mem_cons_self
        rw [isTypeNameChar_of_isBlank hblank] at hc
        cases hc
      have hstop := hstated.not_isTypeNameChar hgap
      have hread : blanks? (before ++ (type ++ (gap ++ stated))) = some (type ++ (gap ++ stated)) :=
        blanks?_eq_some_iff.2 ⟨before, rfl, hbefore, hblanks, hhead⟩
      rw [List.append_assoc, hread]
      simp only [takeWhile_append_of_stop hchars hstop, dropWhile_append_of_stop hchars hstop]
      rw [if_neg (by simpa using htype)]

theorem exists_isTyped_of_constantType {rest : List Char} (h : constantType text = (type, rest)) :
    ∃ typed, text = typed ++ rest ∧ IsTyped typed type := by
  rw [constantType] at h
  split at h
  · next after hafter =>
      obtain ⟨gap, rfl, hgap, hblanks, -⟩ := blanks?_eq_some_iff.1 hafter
      simp only at h
      split at h
      · cases h
        exact ⟨[], rfl, .untyped⟩
      · next hsome =>
          cases h
          refine ⟨gap ++ after.takeWhile isTypeNameChar, ?_, ?_⟩
          · rw [List.append_assoc, List.takeWhile_append_dropWhile]
          · exact .typed hgap hblanks (by simpa using hsome) fun _ => List.mem_takeWhile_imp
  · cases h
    exact ⟨[], rfl, .untyped⟩

/-! ### Whole lines -/

inductive IsConstantLine : List Char → ConstantLine → Prop where
  | bare {name typed gap : List Char} {type comment : Option (List Char)}
      (hname : IsIdentifier name) (htyped : IsTyped typed type) (hgap : AreBlanks gap)
      (hcomment : IsTrailing comment) :
      IsConstantLine (name ++ (typed ++ (gap ++ comment.getD []))) ⟨name, type, none, comment⟩
  | valued {name typed gap value : List Char} {type literal comment : Option (List Char)}
      (hname : IsIdentifier name) (htyped : IsTyped typed type) (hgap : AreBlanks gap)
      (hvalue : IsValue value literal comment) :
      IsConstantLine (name ++ (typed ++ (gap ++ '=' :: value))) ⟨name, type, literal, comment⟩

theorem IsTyped.not_isWordChar (htyped : IsTyped typed type) (hgap : AreBlanks gap)
    (hstated : IsStatement stated) :
    ∀ c ∈ (typed ++ (gap ++ stated)).head?, isWordChar c = false := by
  cases htyped with
  | untyped =>
      intro c hc
      exact isWordChar_of_not_isTypeNameChar (hstated.not_isTypeNameChar hgap c hc)
  | typed hbefore hblanks =>
      rw [List.append_assoc]
      exact hblanks.not_isWordChar hbefore _

def statedConstant? (name : List Char) (type : Option (List Char)) (stated : List Char) :
    Option ConstantLine :=
  match stated with
  | '=' :: rest => do
    let (literal, comment) ← constantValue? rest
    some ⟨name, type, literal, comment⟩
  | tail => if isTail tail then some ⟨name, type, none, comment? tail⟩ else none

theorem constantLine?_eq_bind (line : List Char) :
    constantLine? line = (identifier? line).bind fun (name, afterName) =>
      statedConstant? name (constantType afterName).1 (stripStart (constantType afterName).2) :=
  rfl

theorem statedConstant?_tail {name : List Char} (hne : ∀ rest, stated ≠ '=' :: rest) :
    statedConstant? name type stated =
      if isTail stated then some ⟨name, type, none, comment? stated⟩ else none := by
  rw [statedConstant?]
  exact fun rest heq => hne rest heq

theorem isConstantLine_of_statedConstant? {name : List Char} {constant : ConstantLine}
    (hname : IsIdentifier name) (htyped : IsTyped typed type) (hgap : AreBlanks gap)
    (h : statedConstant? name type stated = some constant) :
    IsConstantLine (name ++ (typed ++ (gap ++ stated))) constant := by
  by_cases hvalued : ∃ rest, stated = '=' :: rest
  · obtain ⟨rest, rfl⟩ := hvalued
    obtain ⟨⟨literal, comment⟩, hvalue, heq⟩ := Option.bind_eq_some_iff.1 h
    cases heq
    exact .valued hname htyped hgap (constantValue?_eq_some_iff.1 hvalue)
  · rw [statedConstant?_tail (not_exists.1 hvalued), Option.ite_none_right_eq_some] at h
    obtain ⟨htail, heq⟩ := h
    cases heq
    obtain ⟨hrest, htrailing⟩ := isTail_iff.1 ⟨htail, rfl⟩
    have hline := IsConstantLine.bare hname htyped hgap htrailing
    rwa [← hrest] at hline

theorem constantLine?_append {name : List Char} (hname : IsIdentifier name)
    (htyped : IsTyped typed type) (hgap : AreBlanks gap) (hstated : IsStatement stated) :
    constantLine? (name ++ (typed ++ (gap ++ stated))) = statedConstant? name type stated := by
  rw [constantLine?_eq_bind,
    identifier?_eq_some_iff.2 ⟨rfl, hname, htyped.not_isWordChar hgap hstated⟩, Option.bind_some]
  simp only [constantType_append htyped hgap hstated, stripStart_append hgap hstated.not_isBlank]

theorem constantLine?_eq_some_iff {constant : ConstantLine} :
    constantLine? line = some constant ↔ IsConstantLine line constant := by
  constructor
  · intro hline
    obtain ⟨⟨name, afterName⟩, hidentifier, h⟩ :=
      Option.bind_eq_some_iff.1 (constantLine?_eq_bind line ▸ hline)
    obtain ⟨rfl, hname, -⟩ := identifier?_eq_some_iff.1 hidentifier
    rcases hread : constantType afterName with ⟨type, afterType⟩
    simp only [hread] at h
    obtain ⟨typed, rfl, htyped⟩ := exists_isTyped_of_constantType hread
    obtain ⟨gap, hgap, hblanks⟩ := exists_blanks afterType
    rw [hgap]
    exact isConstantLine_of_statedConstant? hname htyped hblanks h
  · intro h
    cases h with
    | @bare name typed gap type comment hname htyped hgap htrailing =>
        obtain ⟨htail, hcomment⟩ := isTail_iff.2 ⟨rfl, htrailing⟩
        rw [constantLine?_append hname htyped hgap fun c hc => .inl (htrailing.eq_slash c hc),
          statedConstant?_tail, if_pos htail, hcomment]
        -- A comment starts with a slash, so that the line has no value.
        intro rest heq
        have hslash := htrailing.eq_slash '=' (by rw [heq]; rfl)
        exact absurd hslash (by decide)
    | @valued name typed gap value type literal comment hname htyped hgap hvalue =>
        rw [constantLine?_append hname htyped hgap fun c hc => .inr (Option.mem_some.1 hc).symm,
          statedConstant?, constantValue?_eq_some_iff.2 hvalue]
        rfl

inductive IsSingleConstant : List Char → ConstantLine → Prop where
  | single {gap line : List Char} {constant : ConstantLine} (hgap : gap ≠ [])
      (hblanks : AreBlanks gap) (hline : IsConstantLine line constant) :
      IsSingleConstant ("const".toList ++ (gap ++ line)) constant

theorem isSingleConstant_of_singleConstant? {constant : ConstantLine}
    (h : singleConstant? line = some constant) : IsSingleConstant line constant := by
  obtain ⟨afterKeyword, hkeyword, hread⟩ := Option.bind_eq_some_iff.1 h
  obtain ⟨rest, hrest, hconstant⟩ := Option.bind_eq_some_iff.1 hread
  obtain ⟨gap, rfl, hgap, hblanks, -⟩ := blanks?_eq_some_iff.1 hrest
  rw [dropStart?_eq_some_iff.1 hkeyword]
  exact .single hgap hblanks (constantLine?_eq_some_iff.1 hconstant)

end SchemaViews.GoSource
