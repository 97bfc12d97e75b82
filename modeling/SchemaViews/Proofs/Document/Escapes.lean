import Mathlib.Data.List.Basic
import Mathlib.Tactic.SplitIfs
import SchemaViews.Document.Lexeme
import SchemaViews.Document.Literal

/-!
# Escapes in quoted strings

What may stand between the quotes of a string, and the text that it stands for. Every quote in it is
escaped, and it has no line ends. The reader finds the text that it stands for, so there is only
one. What is written for a text stands for that text.
-/

namespace SchemaViews.Document

open SchemaViews.Text

def letterEscapes : List (Char × Char) :=
  [('"', '"'), ('\\', '\\'), ('/', '/'), ('b', Char.ofNat 8), ('f', Char.ofNat 12), ('n', '\n'),
    ('r', '\r'), ('t', '\t')]

/-- What stands between the quotes of a string, and the text that it stands for. A character stands
for itself unless it is a quote, a backslash or a line end. Behind a backslash stands a letter, or
the code of a character in four digits. -/
inductive StandsFor : List Char → List Char → Prop
  | nil : StandsFor [] []
  | plain {c : Char} {content text : List Char} (hquote : c ≠ '"') (hbackslash : c ≠ '\\')
      (hline : isLineEnd c = false) (later : StandsFor content text) :
      StandsFor (c :: content) (c :: text)
  | letter {letter meant : Char} {content text : List Char}
      (hletter : (letter, meant) ∈ letterEscapes) (later : StandsFor content text) :
      StandsFor ('\\' :: letter :: content) (meant :: text)
  | code {digits : List Char} {c : Char} {content text : List Char} (hlength : digits.length = 4)
      (hcode : hexNumber? digits = some c.toNat) (later : StandsFor content text) :
      StandsFor ('\\' :: 'u' :: (digits ++ content)) (c :: text)

/-- A backslash that is not itself escaped stands right in front of what comes behind this text. -/
def escapesNext (before : List Char) : Bool :=
  before.foldl (fun escaped c => !escaped && c == '\\') false

/-! ### Digits of a code -/

theorem isSome_hexDigit {digits : List Char} {start value : Nat}
    (h : digits.foldlM (fun value digit => (hexDigit? digit).map (value * 16 + ·)) start =
      some value) : ∀ c ∈ digits, (hexDigit? c).isSome = true := by
  induction digits generalizing start with
  | nil => exact List.forall_mem_nil _
  | cons digit digits ih =>
      rw [List.foldlM_cons, Option.bind_eq_bind] at h
      obtain ⟨next, hnext, hlater⟩ := Option.bind_eq_some_iff.1 h
      obtain ⟨found, hfound, -⟩ := Option.map_eq_some_iff.1 hnext
      exact List.forall_mem_cons.2 ⟨Option.isSome_of_eq_some hfound, ih hlater⟩

theorem ne_of_hexDigit {c other : Char} (hc : (hexDigit? c).isSome = true)
    (hother : hexDigit? other = none) : c ≠ other := by
  rintro rfl
  rw [hother] at hc
  cases hc

theorem isLineEnd_of_hexDigit {c : Char} (hc : (hexDigit? c).isSome = true) :
    isLineEnd c = false := by
  rw [isLineEnd, Bool.or_eq_false_iff, beq_eq_false_iff_ne, beq_eq_false_iff_ne]
  exact ⟨ne_of_hexDigit hc rfl, ne_of_hexDigit hc rfl⟩

theorem isScalarValue_toNat (c : Char) : isScalarValue c.toNat = true := by
  have hvalid := c.valid
  rw [isScalarValue, Bool.or_eq_true, Bool.and_eq_true, decide_eq_true_iff, decide_eq_true_iff,
    decide_eq_true_iff]
  change c.toNat < 0xD800 ∨ 0xDFFF < c.toNat ∧ c.toNat < 0x110000 at hvalid
  omega

theorem escape_letter {letter meant : Char} (hletter : (letter, meant) ∈ letterEscapes)
    (rest : List Char) : escape? (letter :: rest) = some (meant, rest) := by
  have hletters : ∀ pair ∈ letterEscapes, escape? (pair.1 :: rest) = some (pair.2, rest) := by
    simp only [letterEscapes, List.forall_mem_cons]
    exact ⟨rfl, rfl, rfl, rfl, rfl, rfl, rfl, rfl, List.forall_mem_nil _⟩
  exact hletters _ hletter

theorem escape_code {digits : List Char} {c : Char} (hlength : digits.length = 4)
    (hcode : hexNumber? digits = some c.toNat)
    (rest : List Char) : escape? ('u' :: (digits ++ rest)) = some (c, rest) := by
  have hfixed : escape? ('u' :: (digits ++ rest)) = fixedEscape? (digits ++ rest) := by
    cases digits with
    | nil => cases hlength
    | cons digit digits =>
        have hbrace : digit ≠ '\x7b' :=
          ne_of_hexDigit (isSome_hexDigit hcode digit List.mem_cons_self) rfl
        rw [List.cons_append, escape?]
        exact fun _ heq => hbrace (List.cons.inj heq).1
  have hlong : ¬(digits ++ rest).length < 4 := by
    rw [List.length_append]
    omega
  rw [hfixed, fixedEscape?, if_neg hlong, List.take_left' hlength, List.drop_left' hlength, hcode]
  simp only [Option.bind_eq_bind, Option.bind_some, isScalarValue_toNat, if_true, Char.ofNat_toNat]

/-- Digits are neither quotes nor backslashes, so what comes behind them is read
as if they were not there. -/
theorem foldl_digits {digits : List Char} (hdigits : ∀ c ∈ digits, (hexDigit? c).isSome = true) :
    digits.foldl (fun escaped c => !escaped && c == '\\') false = false := by
  induction digits with
  | nil => rfl
  | cons digit digits ih =>
      obtain ⟨hdigit, hlater⟩ := List.forall_mem_cons.1 hdigits
      have hbackslash : digit ≠ '\\' := ne_of_hexDigit hdigit rfl
      rw [List.foldl_cons, beq_eq_false_iff_ne.2 hbackslash]
      exact ih hlater

theorem exists_behind_digits {digits content before after : List Char}
    (hdigits : ∀ c ∈ digits, (hexDigit? c).isSome = true)
    (h : digits ++ content = before ++ '"' :: after) :
    ∃ between, before = digits ++ between ∧ content = between ++ '"' :: after := by
  induction digits generalizing before with
  | nil => exact ⟨before, rfl, h⟩
  | cons digit digits ih =>
      obtain ⟨hdigit, hlater⟩ := List.forall_mem_cons.1 hdigits
      cases before with
      | nil => exact absurd (List.cons.inj h).1 (ne_of_hexDigit hdigit rfl)
      | cons first before =>
          obtain ⟨rfl, hrest⟩ := List.cons.inj h
          obtain ⟨between, rfl, hcontent⟩ := ih hlater hrest
          exact ⟨between, rfl, hcontent⟩

/-! ### What stands between quotes -/

theorem readString_cons (c : Char) (rest : List Char) :
    readString (c :: rest) =
      if c == '"' then some ([], rest)
      else if c == '\\' then
        (escape? rest).bind fun (meant, after) =>
          (readString after).map fun (value, left) => (meant :: value, left)
      else if isLineEnd c then none
      else (readString rest).map fun (value, left) => (c :: value, left) := by
  rw [readString]
  split
  · rfl
  · split
    · split <;> rename_i hescape <;> simp only [hescape] <;> rfl
    · rfl

theorem readString_escape {rest after : List Char} {meant : Char}
    (h : escape? rest = some (meant, after)) :
    readString ('\\' :: rest) = (readString after).map fun (value, left) =>
      (meant :: value, left) := by
  rw [readString_cons, if_neg (by decide), if_pos (by decide), h]
  rfl

namespace StandsFor

variable {content text : List Char}

theorem isLineEnd_eq (h : StandsFor content text) : ∀ c ∈ content, isLineEnd c = false := by
  have hletters : ∀ pair ∈ letterEscapes, isLineEnd pair.1 = false := by decide
  induction h with
  | nil => exact List.forall_mem_nil _
  | plain _ _ hline _ ih => exact List.forall_mem_cons.2 ⟨hline, ih⟩
  | letter hletter _ ih =>
      exact List.forall_mem_cons.2 ⟨rfl, List.forall_mem_cons.2 ⟨hletters _ hletter, ih⟩⟩
  | code _ hcode _ ih =>
      refine List.forall_mem_cons.2 ⟨rfl, List.forall_mem_cons.2 ⟨rfl, fun c hmem => ?_⟩⟩
      rcases List.mem_append.1 hmem with hdigit | hlater
      · exact isLineEnd_of_hexDigit (isSome_hexDigit hcode c hdigit)
      · exact ih c hlater

/-- Read on from the content so far, every quote in the rest is escaped. -/
theorem quotes_escaped (h : StandsFor content text) {before after : List Char}
    (hquote : content = before ++ '"' :: after) : escapesNext before = true := by
  unfold escapesNext
  -- Every piece of the content leaves the state in which it found it, so an outer quote
  -- would have to stand on its own.
  induction h generalizing before with
  | nil => simp at hquote
  | @plain c content text hc hbackslash _ _ ih =>
      cases before with
      | nil => exact absurd (List.cons.inj hquote).1 hc
      | cons first before =>
          obtain ⟨rfl, hrest⟩ := List.cons.inj hquote
          rw [List.foldl_cons, beq_eq_false_iff_ne.2 hbackslash]
          exact ih hrest
  | letter hletter _ ih =>
      match before with
      | [] => exact absurd (List.cons.inj hquote).1 (by decide)
      | [first] =>
          obtain ⟨rfl, -⟩ := List.cons.inj hquote
          rfl
      | first :: second :: before =>
          rw [List.cons_append, List.cons_append, List.cons.injEq, List.cons.injEq] at hquote
          obtain ⟨rfl, rfl, hrest⟩ := hquote
          have hlater := ih hrest
          exact hlater
  | code _ hcode _ ih =>
      match before with
      | [] => exact absurd (List.cons.inj hquote).1 (by decide)
      | [first] =>
          obtain ⟨-, hrest⟩ := List.cons.inj hquote
          exact absurd (List.cons.inj hrest).1 (by decide)
      | first :: second :: before =>
          rw [List.cons_append, List.cons_append, List.cons.injEq, List.cons.injEq] at hquote
          obtain ⟨rfl, rfl, hrest⟩ := hquote
          obtain ⟨between, rfl, hcontent⟩ := exists_behind_digits (isSome_hexDigit hcode) hrest
          change (_ ++ between).foldl _ false = true
          rw [List.foldl_append, foldl_digits (isSome_hexDigit hcode)]
          exact ih hcontent

theorem readString_eq (h : StandsFor content text) (rest : List Char) :
    readString (content ++ '"' :: rest) = some (text, rest) := by
  induction h with
  | nil => rw [List.nil_append, readString_cons, if_pos (by decide)]
  | plain hquote hbackslash hline _ ih =>
      rw [List.cons_append, readString_cons, if_neg (by simpa using hquote),
        if_neg (by simpa using hbackslash), hline, ih]
      rfl
  | letter hletter _ ih =>
      rw [List.cons_append, List.cons_append, readString_escape (escape_letter hletter _), ih]
      rfl
  | code hlength hcode _ ih =>
      rw [List.cons_append, List.cons_append, List.append_assoc,
        readString_escape (escape_code hlength hcode _), ih]
      rfl

/-- The content of a string stands for a single text, as the reader finds only one. -/
theorem eq_of_standsFor {other : List Char} (h : StandsFor content text)
    (hother : StandsFor content other) : other = text := by
  have hread := hother.readString_eq []
  rw [h.readString_eq []] at hread
  exact congrArg Prod.fst (Option.some.inj hread.symm)

end StandsFor

/-! ### What is written for a text -/

theorem hexNumber_hexDigits : ∀ code < 32, (hexDigits 4 code).length = 4 ∧
      hexNumber? (hexDigits 4 code) = some code := by
  decide

theorem standsFor_escapeChar (c : Char) {content text : List Char}
    (later : StandsFor content text) : StandsFor (escapeChar c ++ content) (c :: text) := by
  have hcode {code : Nat} (hcode : (c.toNat == code) = true) : c = Char.ofNat code := by
    rw [← beq_iff_eq.1 hcode, Char.ofNat_toNat]
  unfold escapeChar
  split_ifs with hquote hbackslash hnewline hreturn htab hbackspace hfeed hcontrol
  · exact .letter (by rw [beq_iff_eq.1 hquote]; decide) later
  · exact .letter (by rw [beq_iff_eq.1 hbackslash]; decide) later
  · exact .letter (by rw [beq_iff_eq.1 hnewline]; decide) later
  · exact .letter (by rw [beq_iff_eq.1 hreturn]; decide) later
  · exact .letter (by rw [beq_iff_eq.1 htab]; decide) later
  · exact .letter (by rw [hcode hbackspace]; decide) later
  · exact .letter (by rw [hcode hfeed]; decide) later
  · obtain ⟨hlength, hvalue⟩ := hexNumber_hexDigits c.toNat hcontrol
    exact .code hlength hvalue later
  · refine .plain (by simpa using hquote) (by simpa using hbackslash) ?_ later
    rw [isLineEnd, Bool.or_eq_false_iff]
    exact ⟨Bool.eq_false_iff.2 hnewline, Bool.eq_false_iff.2 hreturn⟩

theorem standsFor_flatMap (text : List Char) : StandsFor (text.flatMap escapeChar) text := by
  induction text with
  | nil => exact .nil
  | cons c text ih =>
      rw [List.flatMap_cons]
      exact standsFor_escapeChar c ih

end SchemaViews.Document
