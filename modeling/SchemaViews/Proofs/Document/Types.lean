import SchemaViews.Document.Reader
import SchemaViews.Proofs.Document.Lexing

/-!
# Type references

How a type may be written, with spaces and comments between its tokens, and that the
reader finds the type again.
-/

namespace SchemaViews.Document

/-- Text between two tokens: ignored characters and whole lines of comment. -/
inductive IsGap : List Char → Prop
  | nil : IsGap []
  | ignored {c : Char} {gap : List Char} (hc : isIgnored c = true) (hgap : IsGap gap) :
      IsGap (c :: gap)
  | comment {text gap : List Char} {lineEnd : Char} (htext : ∀ c ∈ text, isLineEnd c = false)
      (hend : isLineEnd lineEnd = true) (hgap : IsGap gap) : IsGap ('#' :: text ++ [lineEnd] ++ gap)

theorem IsGap.lexes {gap : List Char} (h : IsGap gap) : Lexes gap [] := by
  induction h with
  | nil => exact Lexes.nil
  | @ignored c _ hc _ ih =>
      have hfirst : Lexes [c] [] := Lexes.ignored (by simpa using hc)
      exact hfirst.append ih
  | comment htext hend _ ih => exact (Lexes.comment htext hend).append ih

theorem isLetterOrDigit_of_isIgnored {c : Char} (h : isIgnored c = true) :
    isLetterOrDigit c = false := by
  simp only [isIgnored, Bool.or_eq_true, beq_iff_eq] at h
  rcases h with ((((rfl | rfl) | rfl) | rfl) | rfl) | hcode
  any_goals rfl
  have hchar : c = Char.ofNat 0xFEFF := by rw [← hcode, Char.ofNat_toNat]
  rw [hchar]
  decide

theorem IsGap.endsWord {gap : List Char} (h : IsGap gap) {c : Char} (hc : isLetterOrDigit c = false)
    (rest : List Char) : EndsWord (gap ++ c :: rest) := by
  cases h with
  | nil => exact ⟨c, rfl, hc⟩
  | ignored hd _ => exact ⟨_, rfl, isLetterOrDigit_of_isIgnored hd⟩
  | comment _ _ _ => exact ⟨'#', rfl, rfl⟩

theorem isNameChar_of_isNameStart {c : Char} (h : Naming.isNameStart c = true) :
    Naming.isNameChar c = true := by
  simp only [Naming.isNameStart, Naming.isNameChar, Char.isAlphanum, Bool.or_eq_true] at h ⊢
  exact h.imp_left Or.inl

theorem isNameChar_of_isName {name : List Char} (h : Naming.isName name = true) {c : Char}
    (hmem : c ∈ name) : Naming.isNameChar c = true := by
  cases name with
  | nil => cases h
  | cons first rest =>
      rw [Naming.isName, Bool.and_eq_true, List.all_eq_true] at h
      rcases List.mem_cons.1 hmem with rfl | hrest
      · exact isNameChar_of_isNameStart h.1
      · exact h.2 c hrest

namespace TypeRef

def IsNullable : TypeRef → Prop
  | .nonNull _ => False
  | _ => True

/-- How many lists are open inside each other. -/
def nesting : TypeRef → Nat
  | .named _ => 0
  | .list item => item.nesting + 1
  | .nonNull type => type.nesting

def tokens : TypeRef → List Lexeme
  | .named name => [.name name]
  | .list item => .punctuator '[' :: item.tokens ++ [.punctuator ']']
  | .nonNull type => type.tokens ++ [.punctuator '!']

def required : TypeRef → TypeRef
  | .nonNull type => .nonNull type
  | type => .nonNull type

theorem nesting_required (type : TypeRef) : type.required.nesting = type.nesting := by
  cases type <;> rfl

/-- Every list that is open has a bracket of its own. -/
theorem nesting_le_length_tokens (type : TypeRef) : type.nesting ≤ type.tokens.length := by
  induction type with
  | named name => exact Nat.zero_le _
  | list item ih =>
      rw [nesting, tokens, List.length_append, List.length_cons]
      omega
  | nonNull type ih =>
      rw [nesting, tokens, List.length_append]
      omega

/-- The grammar of types: the text from the first to the last token of a type, where gaps
may stand between tokens. -/
inductive Written : TypeRef → List Char → Prop
  | named {name : List Char} (hname : Naming.isName name = true) :
      Written (.named (String.ofList name)) name
  | list {item : TypeRef} {text before after : List Char} (hitem : Written item text)
      (hbefore : IsGap before) (hafter : IsGap after) :
      Written (.list item) (['['] ++ before ++ text ++ after ++ [']'])
  | nonNull {type : TypeRef} {text gap : List Char} (htype : Written type text)
      (hnullable : type.IsNullable) (hgap : IsGap gap) :
      Written (.nonNull type) (text ++ gap ++ ['!'])

variable {type : TypeRef} {text : List Char}

theorem Written.lexes (h : Written type text) : LexesWord text type.tokens := by
  induction h with
  | named hname => exact LexesWord.name hname
  | list _ hbefore hafter ih =>
      have hopen : Lexes ['['] [.punctuator '['] := Lexes.punctuator (by decide)
      have hclose : Lexes [']'] [.punctuator ']'] := Lexes.punctuator (by decide)
      rw [List.append_assoc, List.append_assoc]
      exact ((hopen.append hbefore.lexes).append
        (ih.append (hafter.lexes.append hclose) (hafter.endsWord rfl []))).word
  | nonNull _ _ hgap ih =>
      have hmark : Lexes ['!'] [.punctuator '!'] := Lexes.punctuator (by decide)
      rw [List.append_assoc]
      exact (ih.append (hgap.lexes.append hmark) (hgap.endsWord rfl [])).word

theorem Written.getLast?_eq (h : Written type text) :
    text.getLast? = some '!' ↔ ¬type.IsNullable := by
  cases h with
  | named hname =>
      simp only [IsNullable, not_true_eq_false, iff_false]
      intro hlast
      cases isNameChar_of_isName hname (List.mem_of_getLast? hlast)
  | list _ _ _ =>
      rw [List.getLast?_concat]
      simp [IsNullable]
  | nonNull _ _ _ =>
      rw [List.getLast?_concat]
      simp [IsNullable]

theorem Written.required (h : Written type text) :
    Written type.required (if text.getLast? = some '!' then text else text ++ ['!']) := by
  by_cases hnullable : type.IsNullable
  · rw [if_neg fun hlast => h.getLast?_eq.1 hlast hnullable]
    have hrequired : type.required = .nonNull type := by
      cases type with
      | nonNull => cases hnullable
      | named | list => rfl
    have hmarked : Written (.nonNull type) (text ++ [] ++ ['!']) := h.nonNull hnullable IsGap.nil
    rw [hrequired]
    rwa [List.append_nil] at hmarked
  · rw [if_pos (h.getLast?_eq.2 hnullable)]
    cases type with
    | nonNull => exact h
    | named | list => exact absurd trivial hnullable

end TypeRef

namespace Reader

theorem bind_apply {α β : Type} (reader : Reader α) (next : α → Reader β) (tokens : List Lexeme) :
    (reader >>= next) tokens = (reader tokens).bind fun (value, rest) => next value rest :=
  rfl

theorem pure_apply {α : Type} (value : α) (tokens : List Lexeme) :
    (pure value : Reader α) tokens = some (value, tokens) :=
  rfl

theorem get_apply (tokens : List Lexeme) :
    (get : Reader (List Lexeme)) tokens = some (tokens, tokens) :=
  rfl

theorem accept_cons_self (lexeme : Lexeme) (rest : List Lexeme) :
    accept lexeme (lexeme :: rest) = some (true, rest) := by
  rw [accept, if_pos rfl]

theorem accept_of_ne {lexeme : Lexeme} {tokens : List Lexeme} (h : tokens.head? ≠ some lexeme) :
    accept lexeme tokens = some (false, tokens) := by
  cases tokens with
  | nil => rfl
  | cons first rest => rw [accept, if_neg fun heq => h (congrArg some heq)]

theorem expect_cons_self (lexeme : Lexeme) (rest : List Lexeme) :
    expect lexeme (lexeme :: rest) = some ((), rest) := by
  rw [expect, if_pos rfl]

theorem name_cons (text : String) (rest : List Lexeme) :
    name (.name text :: rest) = some (text, rest) :=
  rfl

theorem withNonNull_mark (type : TypeRef) (rest : List Lexeme) :
    withNonNull type (mark '!' :: rest) = some (.nonNull type, rest) := by
  rw [withNonNull, bind_apply, accept_cons_self]
  rfl

theorem withNonNull_of_ne (type : TypeRef) {rest : List Lexeme} (h : rest.head? ≠ some (mark '!')) :
    withNonNull type rest = some (type, rest) := by
  rw [withNonNull, bind_apply, accept_of_ne h]
  rfl

theorem typeRef_name (levels : Nat) (name : String) (rest : List Lexeme) :
    typeRef levels (.name name :: rest) = withNonNull (.named name) rest := by
  cases levels with
  | zero => rfl
  | succ levels =>
      rw [typeRef, bind_apply, accept_of_ne (by simp [mark])]
      rfl

/-- A type that may be null is read up to the mark that may come after it, any other to its end. -/
theorem typeRef_tokens {type : TypeRef} {text : List Char} (h : type.Written text) {levels : Nat}
    (hlevels : type.nesting ≤ levels) :
    (type.IsNullable → ∀ rest, typeRef levels (type.tokens ++ rest) = withNonNull type rest) ∧
      ∀ rest, rest.head? ≠ some (mark '!') →
        typeRef levels (type.tokens ++ rest) = some (type, rest) := by
  induction h generalizing levels with
  | named _ =>
      refine ⟨fun _ rest => typeRef_name levels _ rest, fun rest hrest => ?_⟩
      rw [← withNonNull_of_ne _ hrest]
      exact typeRef_name levels _ rest
  | @list item _ _ _ _ _ _ ih =>
      have hread (rest : List Lexeme) : typeRef levels ((TypeRef.list item).tokens ++ rest) =
          withNonNull (.list item) rest := by
        obtain ⟨levels, rfl⟩ : ∃ inner, levels = inner + 1 :=
          ⟨levels - 1, by simp only [TypeRef.nesting] at hlevels; omega⟩
        have hitem := (ih (Nat.le_of_succ_le_succ hlevels)).2 (mark ']' :: rest) (by simp [mark])
        rw [TypeRef.tokens, List.cons_append, List.cons_append, List.append_assoc, typeRef,
          bind_apply]
        change (accept (mark '[') (mark '[' :: (item.tokens ++ mark ']' :: rest))).bind _ = _
        rw [accept_cons_self]
        simp only [Option.bind_some, if_true, bind_apply, hitem, expect_cons_self]
      exact ⟨fun _ => hread, fun rest hrest => (hread rest).trans (withNonNull_of_ne _ hrest)⟩
  | @nonNull type _ _ _ hnullable _ ih =>
      refine ⟨fun hnone => hnone.elim, fun rest _ => ?_⟩
      rw [TypeRef.tokens, List.append_assoc, (ih hlevels).1 hnullable]
      exact withNonNull_mark type rest

end Reader

end SchemaViews.Document
