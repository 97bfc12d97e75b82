import Mathlib.Data.List.TakeWhile
import SchemaViews.GoSource.Line
import SchemaViews.Proofs.Directive.Spelling

/-!
# Parts of lines

What lines of Go source are made of: names, blanks, string literals and trailing comments. Each part
is said on its own, and each reader is shown to read exactly its part.
-/

namespace SchemaViews

namespace Text

/-! ### Runs of characters -/

variable {accept : Char → Bool} {body rest text : List Char}

theorem forall_mem_head?_cons {p : Char → Prop} {c : Char} (h : p c) (rest : List Char) :
    ∀ d ∈ (c :: rest).head?, p d := by
  intro d hd
  rwa [← Option.mem_some.1 hd]

theorem takeWhile_append_of_stop (hbody : ∀ c ∈ body, accept c = true)
    (hrest : ∀ c ∈ rest.head?, accept c = false) : (body ++ rest).takeWhile accept = body := by
  rw [List.takeWhile_append_of_pos hbody]
  cases rest with
  | nil => exact List.append_nil body
  | cons c rest => rw [List.takeWhile_cons_of_neg (by rw [hrest c rfl]; decide), List.append_nil]

theorem dropWhile_append_of_stop (hbody : ∀ c ∈ body, accept c = true)
    (hrest : ∀ c ∈ rest.head?, accept c = false) : (body ++ rest).dropWhile accept = rest := by
  rw [List.dropWhile_append_of_pos hbody]
  cases rest with
  | nil => rfl
  | cons c rest => rw [List.dropWhile_cons_of_neg (by rw [hrest c rfl]; decide)]

theorem stops_dropWhile (accept : Char → Bool) (text : List Char) :
    ∀ c ∈ (text.dropWhile accept).head?, accept c = false := by
  intro c hc
  have hstop := List.head?_dropWhile_not accept text
  rw [Option.mem_def.1 hc] at hstop
  exact hstop

theorem dropStart?_eq_some_iff {start : List Char} :
    dropStart? start text = some rest ↔ text = start ++ rest := by
  induction start generalizing text with
  | nil => rw [dropStart?, Option.some.injEq, List.nil_append]
  | cons c start ih =>
      cases text with
      | nil => simp [dropStart?]
      | cons d text =>
          rw [dropStart?, List.cons_append, List.cons.injEq, ← ih]
          by_cases hcd : c = d
          · rw [if_pos (beq_iff_eq.2 hcd), and_iff_right hcd.symm]
          · rw [if_neg (by simpa using hcd)]
            exact iff_of_false (by simp) fun h => hcd h.1.symm

/-! ### Blanks -/

def blankCodes : List Nat :=
  List.range' 9 5 ++
    (List.range' 28 5 ++
      (List.range' 0x2000 11 ++ [0x85, 0xA0, 0x1680, 0x2028, 0x2029, 0x202F, 0x205F, 0x3000]))

theorem toNat_mem_blankCodes {c : Char} (h : isBlank c = true) : c.toNat ∈ blankCodes := by
  simp only [isBlank, Bool.or_eq_true, Bool.and_eq_true, decide_eq_true_eq, beq_iff_eq] at h
  simp only [blankCodes, List.mem_append, List.mem_range'_1, List.mem_cons, List.not_mem_nil,
    or_false]
  rcases h with (((((((((h | h) | h) | h) | h) | h) | h) | h) | h) | h) | h
  · exact .inl (by omega)
  · exact .inr (.inl (by omega))
  all_goals simp [h]
  omega

theorem isWordChar_of_isBlank {c : Char} (h : isBlank c = true) : isWordChar c = false := by
  have hall : ∀ code ∈ blankCodes, isWordChar (Char.ofNat code) = false := by decide +kernel
  rw [← Char.ofNat_toNat c]
  exact hall c.toNat (toNat_mem_blankCodes h)

def AreBlanks (text : List Char) : Prop :=
  ∀ c ∈ text, isBlank c = true

instance (text : List Char) : Decidable (AreBlanks text) :=
  decidable_of_iff (text.all isBlank = true) List.all_eq_true

theorem areBlanks_nil : AreBlanks [] :=
  List.forall_mem_nil _

theorem areBlanks_space : AreBlanks [' '] :=
  List.forall_mem_singleton.2 rfl

theorem exists_blanks (text : List Char) : ∃ gap, text = gap ++ stripStart text ∧ AreBlanks gap :=
  ⟨text.takeWhile isBlank, List.takeWhile_append_dropWhile.symm, fun _ => List.mem_takeWhile_imp⟩

theorem stripStart_append (hbody : AreBlanks body) (hrest : ∀ c ∈ rest.head?, isBlank c = false) :
    stripStart (body ++ rest) = rest :=
  dropWhile_append_of_stop hbody hrest

theorem stripStart_append_cons (hbody : AreBlanks body) {c : Char} (hc : isBlank c = false)
    (rest : List Char) : stripStart (body ++ c :: rest) = c :: rest :=
  stripStart_append hbody (forall_mem_head?_cons hc rest)

theorem AreBlanks.not_isWordChar (h : AreBlanks body) (hbody : body ≠ []) (rest : List Char) :
    ∀ c ∈ (body ++ rest).head?, isWordChar c = false := by
  obtain ⟨c, more, rfl⟩ := List.exists_cons_of_ne_nil hbody
  exact forall_mem_head?_cons (isWordChar_of_isBlank (h c List.mem_cons_self)) (more ++ rest)

end Text

namespace GoSource

open SchemaViews.Text

variable {text rest : List Char} {comment : Option (List Char)}

/-! ### Names -/

structure IsIdentifier (name : List Char) : Prop where
  start : ∃ c rest, name = c :: rest ∧ isIdentifierStart c = true
  word : ∀ c ∈ name, isWordChar c = true

theorem isIdentifier_iff {name : List Char} :
    IsIdentifier name ↔ name.head?.any isIdentifierStart = true ∧ name.all isWordChar = true := by
  constructor
  · rintro ⟨⟨c, rest, rfl, hc⟩, hword⟩
    exact ⟨hc, List.all_eq_true.2 hword⟩
  · rintro ⟨hstart, hword⟩
    cases name with
    | nil => cases hstart
    | cons c rest => exact ⟨⟨c, rest, rfl, hstart⟩, List.all_eq_true.1 hword⟩

instance (name : List Char) : Decidable (IsIdentifier name) :=
  decidable_of_iff _ isIdentifier_iff.symm

theorem isWordChar_of_isIdentifierStart {c : Char} (h : isIdentifierStart c = true) :
    isWordChar c = true := by
  rw [isIdentifierStart, Bool.or_eq_true, beq_iff_eq] at h
  rcases h with halpha | rfl
  · exact isWordChar_of_isAlpha halpha
  · decide

theorem IsIdentifier.not_isBlank {name : List Char} (h : IsIdentifier name) (rest : List Char) :
    ∀ c ∈ (name ++ rest).head?, isBlank c = false := by
  obtain ⟨c, more, rfl, hc⟩ := h.start
  apply forall_mem_head?_cons
  rw [← Bool.not_eq_true]
  intro hblank
  have hword := isWordChar_of_isIdentifierStart hc
  rw [isWordChar_of_isBlank hblank] at hword
  cases hword

theorem identifier?_eq_some_iff {name : List Char} :
    identifier? text = some (name, rest) ↔
      text = name ++ rest ∧ IsIdentifier name ∧ ∀ c ∈ rest.head?, isWordChar c = false := by
  constructor
  · intro h
    cases text with
    | nil => cases h
    | cons c text =>
        rw [identifier?, Option.ite_none_right_eq_some, Option.some.injEq, Prod.mk.injEq] at h
        obtain ⟨hstart, rfl, rfl⟩ := h
        refine ⟨List.takeWhile_append_dropWhile.symm,
          ⟨⟨c, text.takeWhile isWordChar, ?_, hstart⟩, ?_⟩, stops_dropWhile _ _⟩
        · exact List.takeWhile_cons_of_pos (isWordChar_of_isIdentifierStart hstart)
        · exact fun _ => List.mem_takeWhile_imp
  · rintro ⟨rfl, ⟨⟨c, tail, hname, hstart⟩, hword⟩, hrest⟩
    have htake := takeWhile_append_of_stop hword hrest
    have hdrop := dropWhile_append_of_stop hword hrest
    subst hname
    rw [List.cons_append] at htake hdrop ⊢
    rw [identifier?, if_pos hstart, htake, hdrop]

theorem blanks?_eq_some_iff :
    blanks? text = some rest ↔
      ∃ gap, text = gap ++ rest ∧ gap ≠ [] ∧ AreBlanks gap ∧
        ∀ c ∈ rest.head?, isBlank c = false := by
  constructor
  · intro h
    cases text with
    | nil => cases h
    | cons c text =>
        rw [blanks?, Option.ite_none_right_eq_some, Option.some.injEq] at h
        obtain ⟨hblank, rfl⟩ := h
        refine ⟨(c :: text).takeWhile isBlank, List.takeWhile_append_dropWhile.symm, ?_, ?_,
          stops_dropWhile _ _⟩
        · rw [List.takeWhile_cons_of_pos hblank]
          exact List.cons_ne_nil _ _
        · exact fun _ => List.mem_takeWhile_imp
  · rintro ⟨gap, rfl, hgap, hblanks, hrest⟩
    obtain ⟨c, tail, rfl⟩ := List.exists_cons_of_ne_nil hgap
    rw [List.cons_append, blanks?, if_pos (hblanks c List.mem_cons_self), ← List.cons_append,
      stripStart_append hblanks hrest]

/-! ### Comments behind a line -/

/-- What may stand at the end of a line: nothing, or a line comment. -/
def IsTrailing (comment : Option (List Char)) : Prop :=
  ∀ text ∈ comment, ['/', '/'] <+: text

theorem isTrailing_none : IsTrailing none :=
  fun _ h => absurd h (Option.not_mem_none _)

theorem isTail_iff : isTail text = true ∧ comment? text = comment ↔ text = comment.getD [] ∧
      IsTrailing comment := by
  simp only [isTail, comment?, Bool.or_eq_true, List.isEmpty_iff, List.isPrefixOf_iff_prefix]
  constructor
  · rintro ⟨htail, rfl⟩
    by_cases hempty : text = []
    · subst hempty
      exact ⟨rfl, isTrailing_none⟩
    · rw [if_neg hempty]
      refine ⟨rfl, fun found hfound => ?_⟩
      rw [← Option.mem_some.1 hfound]
      exact htail.resolve_left hempty
  · rintro ⟨rfl, htrailing⟩
    cases comment with
    | none => exact ⟨.inl rfl, rfl⟩
    | some found =>
        have hfound : ['/', '/'] <+: found := htrailing found rfl
        refine ⟨.inr hfound, if_neg ?_⟩
        rintro rfl
        exact absurd hfound (by decide)

/-- A comment starts with a slash, so nothing that a line goes on with runs into it. -/
theorem IsTrailing.eq_slash (h : IsTrailing comment) : ∀ c ∈ (comment.getD []).head?, c = '/' := by
  intro c hc
  cases comment with
  | none => cases hc
  | some found =>
      obtain ⟨more, rfl⟩ := h found rfl
      exact (Option.mem_some.1 hc).symm

theorem IsTrailing.not_isBlank (h : IsTrailing comment) :
    ∀ c ∈ (comment.getD []).head?, isBlank c = false := by
  intro c hc
  rw [h.eq_slash c hc]
  decide

/-- A content that has been read up to its closing mark, and the comment that is
all that comes behind it. -/
def closed? (found : Option (List Char × List Char)) : Option (List Char × Option (List Char)) :=
  found.bind fun (content, after) =>
    if isTail (stripStart after) then some (content, comment? (stripStart after)) else none

theorem closed?_eq_some_iff {found : Option (List Char × List Char)} {content : List Char} :
    closed? found = some (content, comment) ↔
      ∃ behind, found = some (content, behind ++ comment.getD []) ∧ AreBlanks behind ∧
    IsTrailing comment := by
  rw [closed?, Option.bind_eq_some_iff]
  constructor
  · rintro ⟨⟨read, after⟩, rfl, h⟩
    rw [Option.ite_none_right_eq_some, Option.some.injEq, Prod.mk.injEq] at h
    obtain ⟨htail, rfl, hcomment⟩ := h
    obtain ⟨hafter, htrailing⟩ := isTail_iff.1 ⟨htail, hcomment⟩
    obtain ⟨behind, hbehind, hblanks⟩ := exists_blanks after
    rw [hafter] at hbehind
    exact ⟨behind, by rw [← hbehind], hblanks, htrailing⟩
  · rintro ⟨behind, rfl, hblanks, htrailing⟩
    obtain ⟨htail, hcomment⟩ := isTail_iff.2 ⟨rfl, htrailing⟩
    refine ⟨_, rfl, ?_⟩
    simp only [stripStart_append hblanks htrailing.not_isBlank, htail, hcomment, if_true]

theorem map_closed? {α : Type} (build : List Char → α) (found : Option (List Char × List Char)) :
    (closed? found).map (fun (content, comment) => (build content, comment)) =
      found.bind fun (content, after) =>
        if isTail (stripStart after) then some (build content, comment? (stripStart after))
          else none := by
  cases found with
  | none => rfl
  | some read => exact apply_ite (Option.map _) _ _ _

/-! ### String literals -/

/-- The content of a string in double quotes as it is written: every quote and every backslash
in it belongs to an escape. -/
inductive IsEscaped : List Char → Prop where
  | nil : IsEscaped []
  | plain {c : Char} {content : List Char} (hquote : c ≠ '"') (hbackslash : c ≠ '\\')
      (h : IsEscaped content) : IsEscaped (c :: content)
  | escape {c : Char} {content : List Char} (hline : c ≠ '\n') (h : IsEscaped content) :
      IsEscaped ('\\' :: c :: content)

theorem quotedContent?_plain {c : Char} (hquote : c ≠ '"') (hbackslash : c ≠ '\\')
    (rest : List Char) :
    quotedContent? (c :: rest) = (quotedContent? rest).map fun (content, after) =>
      (c :: content, after) := by
  rw [quotedContent?]
  · exact hquote
  · exact fun h _ => hbackslash h
  · exact fun _ _ h _ => hbackslash h

theorem quotedContent?_append {content : List Char} (h : IsEscaped content) (rest : List Char) :
    quotedContent? (content ++ '"' :: rest) = some (content, rest) := by
  induction h with
  | nil => rw [List.nil_append, quotedContent?]
  | plain hquote hbackslash _ ih =>
      rw [List.cons_append, quotedContent?_plain hquote hbackslash, ih]
      rfl
  | escape hline _ ih =>
      rw [List.cons_append, List.cons_append, quotedContent?, if_neg (by simpa using hline), ih]
      rfl

theorem isEscaped_of_quotedContent? {content after : List Char}
    (h : quotedContent? text = some (content, after)) :
    IsEscaped content ∧ text = content ++ '"' :: after := by
  induction text using quotedContent?.induct generalizing content with
  | case1 => cases h
  | case2 rest =>
      rw [quotedContent?] at h
      cases h
      exact ⟨.nil, rfl⟩
  | case3 => cases h
  | case4 c rest hline =>
      rw [quotedContent?, if_pos hline] at h
      cases h
  | case5 c rest hline ih =>
      rw [quotedContent?, if_neg hline, Option.map_eq_some_iff] at h
      obtain ⟨⟨found, left⟩, hfound, heq⟩ := h
      cases heq
      obtain ⟨hescaped, rfl⟩ := ih hfound
      exact ⟨.escape (by simpa using hline) hescaped, rfl⟩
  | case6 c rest hquote hlast hescape ih =>
      have hbackslash : c ≠ '\\' := by
        intro hc
        cases rest with
        | nil => exact hlast hc rfl
        | cons d rest => exact hescape d rest hc rfl
      rw [quotedContent?_plain hquote hbackslash, Option.map_eq_some_iff] at h
      obtain ⟨⟨found, left⟩, hfound, heq⟩ := h
      cases heq
      obtain ⟨hescaped, rfl⟩ := ih hfound
      exact ⟨.plain hquote hbackslash hescaped, rfl⟩

theorem rawContent?_eq_some_iff {content after : List Char} :
    rawContent? text = some (content, after) ↔ backquote ∉ content ∧
    text = content ++ backquote :: after := by
  rw [rawContent?]
  constructor
  · intro h
    cases hrest : text.dropWhile (· != backquote) with
    | nil =>
        rw [hrest] at h
        cases h
    | cons c rest =>
        rw [hrest] at h
        cases h
        have hstop := stops_dropWhile (· != backquote) text c (by rw [hrest]; rfl)
        have hc : c = backquote := by simpa using hstop
        subst hc
        refine ⟨fun hmem => ?_, ?_⟩
        · have hplain := List.mem_takeWhile_imp hmem
          simp at hplain
        · rw [← hrest, List.takeWhile_append_dropWhile]
  · rintro ⟨hcontent, rfl⟩
    have hplain : ∀ c ∈ content, (c != backquote) = true := by
      intro c hc
      rw [bne_iff_ne]
      rintro rfl
      exact hcontent hc
    have hstop : ∀ c ∈ (backquote :: after).head?, (c != backquote) = false :=
      forall_mem_head?_cons (bne_self_eq_false backquote) after
    rw [dropWhile_append_of_stop hplain hstop, takeWhile_append_of_stop hplain hstop]

/-- A string literal as it is written, with its content. -/
inductive IsLiteral : List Char → List Char → Prop where
  | quoted {content : List Char} (h : IsEscaped content) :
      IsLiteral ('"' :: (content ++ ['"'])) content
  | raw {content : List Char} (h : backquote ∉ content) :
      IsLiteral (backquote :: (content ++ [backquote])) content

end GoSource

end SchemaViews
