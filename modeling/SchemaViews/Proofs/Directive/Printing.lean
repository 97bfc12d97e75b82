import SchemaViews.Proofs.Directive.Pieces

/-!
# Written directives

Directives as they are written in comments, one on each line, and what a scan finds in their
arguments. A string may contain anything, since its quotes and backslashes are escaped. A plain word
contains nothing that could end it, but only what comes after it does so.
-/

namespace SchemaViews.Directive

open SchemaViews.Text

def isReserved (c : Char) : Bool :=
  [' ', '\t', '\r', '\n', ',', ':', '[', ']', '"', '\'', '(', ')'].contains c

structure PlainWord where
  text : String
  ne_empty : text ≠ ""
  plain : text.toList.any isReserved = false

inductive Literal where
  | text (content : String)
  | list (items : List PlainWord)

/-- An argument as it is written. Only a value can be qualified. -/
inductive Clause where
  | flag (key : PlainWord)
  | keyed (key : PlainWord) (value : Literal) (qualifier : Option (List PlainWord))

/-- A directive as it is written: its name in any letter case, and its arguments. -/
structure Invocation where
  name : DirectiveName
  spelling : List Char
  spells : spelling.map Char.toLower = name.text.toList.map Char.toLower
  clauses : List Clause

def separated (pieces : List (List Char)) : List Char :=
  [',', ' '].intercalate pieces

def printedList (words : List PlainWord) : List Char :=
  ['['] ++ separated (words.map (·.text.toList)) ++ [']']

def Literal.printed : Literal → List Char
  | .text content => '"' :: escapePayload content.toList ++ ['"']
  | .list items => printedList items

def printedQualifier : Option (List PlainWord) → List Char
  | none => []
  | some words => [':'] ++ printedList words

def Clause.printed : Clause → List Char
  | .flag key => key.text.toList
  | .keyed key value qualifier =>
    key.text.toList ++ ([':'] ++ (value.printed ++ printedQualifier qualifier))

def printedArguments : List Clause → List Char
  | [] => []
  | clauses => '(' :: separated (clauses.map Clause.printed) ++ [')']

def Invocation.line (invocation : Invocation) : List Char :=
  ['/', '/', ' ', '@'] ++ invocation.spelling ++ printedArguments invocation.clauses

/-- An annotation with a directive on each line. -/
def printed (invocations : List Invocation) : List Char :=
  ['\n'].intercalate (invocations.map Invocation.line)

def mixedInvocations : List Invocation :=
  [⟨.ignoreAll, "GqlIgnoreAll".toList, by decide, []⟩,
    ⟨.type, "gqlTYPE".toList, by decide,
      [.flag ⟨"all", by decide, by decide⟩,
        .keyed ⟨"name", by decide, by decide⟩ (.text "@(\"")
          (some [⟨"A", by decide, by decide⟩, ⟨"B", by decide, by decide⟩])]⟩]

theorem printed_mixedInvocations :
    printed mixedInvocations =
      "// @GqlIgnoreAll\n// @gqlTYPE(all, name:\"@(\\\"\":[A, B])".toList := by
  decide

section Symbols

def Token.symbol (token : Token) : TokenKind × String :=
  (token.kind, token.value)

def PlainWord.symbol (word : PlainWord) : TokenKind × String :=
  (.word, word.text)

def comma : TokenKind × String :=
  (.comma, String.singleton ',')

def colon : TokenKind × String :=
  (.colon, String.singleton ':')

def openBracket : TokenKind × String :=
  (.openBracket, String.singleton '[')

def closeBracket : TokenKind × String :=
  (.closeBracket, String.singleton ']')

def wordSymbols (words : List PlainWord) : List (TokenKind × String) :=
  [comma].intercalate (words.map fun word => [word.symbol])

def listSymbols (words : List PlainWord) : List (TokenKind × String) :=
  [openBracket] ++ wordSymbols words ++ [closeBracket]

def Literal.symbols : Literal → List (TokenKind × String)
  | .text content => [(.string, content)]
  | .list items => listSymbols items

def qualifierSymbols : Option (List PlainWord) → List (TokenKind × String)
  | none => []
  | some words => [colon] ++ listSymbols words

def Clause.symbols : Clause → List (TokenKind × String)
  | .flag key => [key.symbol]
  | .keyed key value qualifier =>
    [key.symbol] ++ ([colon] ++ (value.symbols ++ qualifierSymbols qualifier))

def clauseSymbols (clauses : List Clause) : List (TokenKind × String) :=
  [comma].intercalate (clauses.map Clause.symbols)

end Symbols

/-- In front of `rest`, a piece of an argument list gives tokens with the symbols, and
the scan goes on behind it. -/
def ScansAs (piece : List Char) (symbols : List (TokenKind × String)) (rest : List Char) : Prop :=
  ∀ unclosed position, ∃ tokens : List Token, tokens.map Token.symbol = symbols ∧
    scanFrom (some unclosed) 0 position (piece ++ rest) =
      (scanFrom (some unclosed) 0 (position + piece.length) rest).map fun scan =>
        { scan with tokens := tokens ++ scan.tokens }

def EndsWord (text : List Char) : Prop :=
  ∃ c after, text = c :: after ∧ isDelimiter true c = true

theorem endsWord_cons {c : Char} (h : isDelimiter true c = true) (after : List Char) :
    EndsWord (c :: after) :=
  ⟨c, after, rfl, h⟩

section Scans

variable {first second piece rest : List Char} {symbols later : List (TokenKind × String)}

theorem scansAs_iff : ScansAs piece symbols rest ↔
    ∀ unclosed, Scans (some unclosed) (· = 0) piece rest fun _ tokens => tokens.map Token.symbol =
      symbols := by
  constructor
  · rintro h unclosed _ position rfl
    obtain ⟨tokens, htokens, hscan⟩ := h unclosed position
    exact ⟨tokens, 0, rfl, htokens, hscan⟩
  · intro h unclosed position
    obtain ⟨tokens, _, rfl, htokens, hscan⟩ := h unclosed 0 position rfl
    exact ⟨tokens, htokens, hscan⟩

/-- A piece whose only token is known wherever the piece stands. -/
theorem scansAs_of_scans {token : Nat → Token} {symbol : TokenKind × String}
    (h : ∀ unclosed, Scans (some unclosed) (· = 0) piece rest
      fun position tokens => tokens = [token position])
    (hsymbol : ∀ position, (token position).symbol = symbol) : ScansAs piece [symbol] rest := by
  refine scansAs_iff.2 fun unclosed => (h unclosed).weaken ?_
  rintro position tokens rfl
  rw [List.map_singleton, hsymbol]

theorem ScansAs.nil (rest : List Char) : ScansAs [] [] rest := by
  refine scansAs_iff.2 fun _ => (Scans.nil rest).weaken ?_
  rintro _ _ rfl
  rfl

theorem ScansAs.append (hfirst : ScansAs first symbols (second ++ rest))
    (hsecond : ScansAs second later rest) : ScansAs (first ++ second) (symbols ++ later) rest := by
  refine scansAs_iff.2 fun unclosed =>
    ((scansAs_iff.1 hfirst unclosed).append (scansAs_iff.1 hsecond unclosed)).weaken ?_
  rintro _ _ ⟨before, after, rfl, rfl, rfl⟩
  rw [List.map_append]

theorem scansAs_blank (rest : List Char) : ScansAs [' '] [] rest := by
  refine scansAs_iff.2 fun _ => (scans_blank (by decide) rest).weaken ?_
  rintro _ _ rfl
  rfl

theorem scansAs_punctuation {c : Char} {kind : TokenKind} (h : punctuation? c = some kind)
    (rest : List Char) : ScansAs [c] [(kind, String.singleton c)] rest :=
  scansAs_of_scans (fun _ => scans_punctuation h rest) fun _ => rfl

theorem scansAs_string (content : String) (rest : List Char) :
    ScansAs (Literal.text content).printed [(.string, content)] rest :=
  scansAs_of_scans (fun _ => scans_string content rest) fun _ => rfl

theorem plain_of_isReserved {c : Char} (h : isReserved c = false) :
    isSpacing c = false ∧ punctuation? c = none ∧ c ≠ '"' ∧ c ≠ '\'' ∧ c ≠ '(' ∧ c ≠ ')' := by
  simp only [isReserved, List.contains_eq_mem, List.mem_cons, List.not_mem_nil, or_false,
    decide_eq_false_iff_not, not_or] at h
  obtain ⟨hspace, htab, hreturn, hnewline, hcomma, hcolon, hopen, hclose, hdouble, hsingle, hleft,
      hright⟩ := h
  refine ⟨?_, ?_, hdouble, hsingle, hleft, hright⟩
  · simp [isSpacing, hspace, htab, hreturn, hnewline]
  · simp [punctuation?, hopen, hclose, hcomma, hcolon]

theorem scanWord_plain {word : List Char} (h : word.any isReserved = false)
    (hrest : EndsWord rest) : scanWord true 0 (word ++ rest) = (word, 0, rest) := by
  induction word with
  | nil =>
      obtain ⟨c, after, rfl, hc⟩ := hrest
      rw [List.nil_append, scanWord_cons, if_pos (by simp [hc])]
  | cons c word ih =>
      rw [List.any_cons, Bool.or_eq_false_iff] at h
      obtain ⟨hspacing, hkind, hdouble, hsingle, hleft, hright⟩ := plain_of_isReserved h.1
      have hnest : nestAfter 0 c = 0 := by simp [nestAfter, hleft]
      have hgoes : isDelimiter true c = false := by
        simp [isDelimiter, hspacing, hkind, hdouble, hsingle, hright]
      rw [List.cons_append, scanWord_cons, hgoes, if_neg (by simp), hnest, ih h.2]

theorem scansAs_word (word : PlainWord) (hrest : EndsWord rest) :
    ScansAs word.text.toList [word.symbol] rest := by
  have htext : String.ofList word.text.toList = word.text := String.ofList_toList
  have hplain := word.plain
  cases hchars : word.text.toList with
  | nil => exact absurd (String.toList_eq_nil_iff.1 hchars) word.ne_empty
  | cons c tail =>
      rw [hchars] at htext hplain
      rw [List.any_cons, Bool.or_eq_false_iff] at hplain
      obtain ⟨hspacing, hkind, hdouble, hsingle, hleft, hright⟩ := plain_of_isReserved hplain.1
      -- The word opens no parenthesis, so that the next closing one ends the list.
      have hnest : nestAfter 0 c = 0 := by simp [nestAfter, hleft]
      have hword : isDelimiter false c = false :=
        isDelimiter_eq_false_iff.2 ⟨hspacing, hkind, hsingle, hdouble⟩
      refine scansAs_of_scans (fun unclosed => scans_word hword (.inr hright) ?_) fun _ => ?_
      · rintro _ rfl
        rw [hnest]
        exact ⟨0, rfl, scanWord_plain hplain.2 hrest⟩
      · rw [Token.symbol, htext]
        rfl

theorem scansAs_comma (rest : List Char) : ScansAs [',', ' '] [comma] rest :=
  (scansAs_punctuation rfl (' ' :: rest)).append (scansAs_blank rest)

/-- Pieces that only need an end behind them can stand in a row with commas between them. -/
theorem scansAs_separated {α : Type} {print : α → List Char}
    {symbols : α → List (TokenKind × String)}
    (hpiece : ∀ element rest, EndsWord rest → ScansAs (print element) (symbols element) rest)
    (elements : List α) (hrest : EndsWord rest) :
    ScansAs (separated (elements.map print)) ([comma].intercalate (elements.map symbols)) rest := by
  induction elements with
  | nil => exact ScansAs.nil rest
  | cons element elements ih =>
      cases elements with
      | nil =>
          simp only [separated, List.map_cons, List.map_nil, List.intercalate_singleton]
          exact hpiece element rest hrest
      | cons next elements =>
          simp only [separated, List.map_cons, List.intercalate_cons_cons] at ih ⊢
          rw [List.append_assoc, List.append_assoc]
          refine ScansAs.append (hpiece element _ ?_) ((scansAs_comma _).append ih)
          exact endsWord_cons (by decide) _

theorem scansAs_list (words : List PlainWord) (rest : List Char) :
    ScansAs (printedList words) (listSymbols words) rest := by
  have hwords : ScansAs (separated (words.map (·.text.toList))) (wordSymbols words) (']' :: rest) :=
    scansAs_separated (fun word _ => scansAs_word word) words (endsWord_cons (by decide) rest)
  exact ((scansAs_punctuation rfl _).append hwords).append (scansAs_punctuation rfl rest)

theorem scansAs_literal (value : Literal) (rest : List Char) :
    ScansAs value.printed value.symbols rest := by
  cases value with
  | text content => exact scansAs_string content rest
  | list items => exact scansAs_list items rest

theorem scansAs_qualifier (qualifier : Option (List PlainWord)) (rest : List Char) :
    ScansAs (printedQualifier qualifier) (qualifierSymbols qualifier) rest := by
  cases qualifier with
  | none => exact ScansAs.nil rest
  | some words => exact (scansAs_punctuation rfl _).append (scansAs_list words rest)

theorem scansAs_clause (clause : Clause) (hrest : EndsWord rest) :
    ScansAs clause.printed clause.symbols rest := by
  cases clause with
  | flag key => exact scansAs_word key hrest
  | keyed key value qualifier =>
      have hvalue := (scansAs_literal value _).append (scansAs_qualifier qualifier rest)
      exact (scansAs_word key (endsWord_cons (by decide) _)).append
        ((scansAs_punctuation rfl _).append hvalue)

/-- The arguments of a directive are scanned up to the parenthesis behind them. -/
theorem scanFrom_clauses (clauses : List Clause) (unclosed : SyntaxError) (position : Nat)
    (after : List Char) :
    ∃ scan, scanFrom (some unclosed) 0 position
      (separated (clauses.map Clause.printed) ++ ')' :: after) = .ok scan ∧
      scan.tokens.map Token.symbol = clauseSymbols clauses ∧ scan.rest = after := by
  have hclauses :
      ScansAs (separated (clauses.map Clause.printed)) (clauseSymbols clauses) (')' :: after) :=
    scansAs_separated (fun clause _ => scansAs_clause clause) clauses
      (endsWord_cons (by decide) after)
  obtain ⟨tokens, htokens, hscan⟩ := hclauses unclosed position
  rw [hscan, scanFrom_closeParen rfl]
  refine ⟨_, rfl, ?_, rfl⟩
  change (tokens ++ []).map Token.symbol = _
  rw [List.append_nil, htokens]

end Scans

end SchemaViews.Directive
