import Mathlib.Data.List.TakeWhile
import SchemaViews.Directive.Token
import SchemaViews.Proofs.Results

/-!
# Where a scan stands

A scan passes over white space and reads one token after the other, until the text or the list ends
or a quote stays open. These are all its steps, and whatever holds of a scan is proved along them.
One of the first things is that a scan that starts further on finds the same tokens further on.
-/

namespace SchemaViews.Directive

open SchemaViews.Text

def Token.shift (token : Token) (offset : Nat) : Token :=
  { token with start := token.start + offset, stop := token.stop + offset }

def Ending.shift (ending : Ending) (offset : Nat) : Ending :=
  { ending with start := ending.start + offset, stop := ending.stop + offset }

def Scan.shift (scan : Scan) (offset : Nat) : Scan :=
  { scan with tokens := scan.tokens.map (·.shift offset), ending := scan.ending.shift offset }

theorem tokenize_whole (text : List Char) : tokenize text 0 false = scanFrom none 0 0 text := by
  rw [tokenize, List.drop_zero, Nat.zero_min, if_neg Bool.false_ne_true]

section Quotes

variable {rest after : List Char}

/-- What stands between double quotes, and the value that it is read as: a backslash is dropped,
the character after it kept. -/
inductive Escapes : List Char → List Char → Prop
  | nil : Escapes [] []
  | plain {c : Char} {content value : List Char} (hquote : c ≠ '"') (hbackslash : c ≠ '\\')
      (later : Escapes content value) : Escapes (c :: content) (c :: value)
  | escaped (c : Char) {content value : List Char} (later : Escapes content value) :
      Escapes ('\\' :: c :: content) (c :: value)

theorem ne_backslash {c : Char} (hlast : c = '\\' → rest = [] → False)
    (hescape : ∀ d tail, c = '\\' → rest = d :: tail → False) : c ≠ '\\' := by
  intro hc
  cases rest with
  | nil => exact hlast hc rfl
  | cons d tail => exact hescape d tail hc rfl

theorem scanString_cons {c : Char} (hquote : c ≠ '"') (hbackslash : c ≠ '\\') :
    scanString (c :: rest) =
      (scanString rest).map fun (value, width, after) => (c :: value, width + 1, after) := by
  rw [scanString]
  · exact hquote
  · exact fun hc _ => hbackslash hc
  · exact fun _ _ hc _ => hbackslash hc

example : scanString ['\\', '"', 'a', '"', ','] = some (['"', 'a'], 4, [',']) := by
  simp [scanString]

theorem Escapes.scanString_eq {content value : List Char} (h : Escapes content value)
    (after : List Char) :
    scanString (content ++ '"' :: after) = some (value, content.length + 1, after) := by
  induction h with
  | nil => rfl
  | plain hquote hbackslash _ ih =>
      rw [List.cons_append, scanString_cons hquote hbackslash, ih]
      rfl
  | escaped c _ ih =>
      rw [List.cons_append, List.cons_append, scanString, ih]
      rfl

theorem exists_of_scanString {text value : List Char} {width : Nat}
    (h : scanString text = some (value, width, after)) :
    ∃ content, text = content ++ '"' :: after ∧ width = content.length + 1 ∧
      Escapes content value := by
  fun_induction scanString text generalizing value width after with
  | case1 | case3 => cases h
  | case2 rest =>
      cases h
      exact ⟨[], rfl, rfl, .nil⟩
  | case4 c rest ih =>
      obtain ⟨⟨value', width', after'⟩, hrest, heq⟩ := Option.map_eq_some_iff.1 h
      cases heq
      obtain ⟨content, rfl, rfl, hvalue⟩ := ih hrest
      exact ⟨'\\' :: c :: content, rfl, rfl, hvalue.escaped c⟩
  | case5 c rest hquote hlast hescape ih =>
      obtain ⟨⟨value', width', after'⟩, hrest, heq⟩ := Option.map_eq_some_iff.1 h
      cases heq
      obtain ⟨content, rfl, rfl, hvalue⟩ := ih hrest
      exact ⟨c :: content, rfl, rfl, .plain hquote (ne_backslash hlast hescape) hvalue⟩

theorem bne_of_notMem {content : List Char} (h : '\'' ∉ content) :
    ∀ c ∈ content, (c != '\'') = true := by
  intro c hmem
  rw [bne_iff_ne]
  rintro rfl
  exact h hmem

theorem takeWhile_quoted {content : List Char} (h : '\'' ∉ content) (after : List Char) :
    (content ++ '\'' :: after).takeWhile (· != '\'') = content := by
  rw [List.takeWhile_append_of_pos (bne_of_notMem h), List.takeWhile_cons_of_neg (by decide),
    List.append_nil]

theorem dropWhile_quoted {content : List Char} (h : '\'' ∉ content) (after : List Char) :
    (content ++ '\'' :: after).dropWhile (· != '\'') = '\'' :: after := by
  rw [List.dropWhile_append_of_pos (bne_of_notMem h), List.dropWhile_cons_of_neg (by decide)]

theorem dropWhile_of_notMem {content : List Char} (h : '\'' ∉ content) :
    content.dropWhile (· != '\'') = [] :=
  List.dropWhile_eq_nil_iff.2 (bne_of_notMem h)

theorem notMem_of_dropWhile (h : rest.dropWhile (· != '\'') = []) : '\'' ∉ rest := by
  intro hmem
  have hne := List.dropWhile_eq_nil_iff.1 h '\'' hmem
  simp at hne

theorem exists_of_dropWhile {quote : Char} (h : rest.dropWhile (· != '\'') = quote :: after) :
    rest = rest.takeWhile (· != '\'') ++ '\'' :: after ∧ '\'' ∉ rest.takeWhile (· != '\'') := by
  have hhead := List.head?_dropWhile_not (· != '\'') rest
  rw [h] at hhead
  obtain rfl : quote = '\'' := by simpa using hhead
  constructor
  · rw [← h, List.takeWhile_append_dropWhile]
  · exact fun hmem => by simpa using List.all_eq_true.1 List.all_takeWhile _ hmem

end Quotes

section Words

variable {c : Char}

theorem isDelimiter_eq_false_iff : isDelimiter false c = false ↔
    isSpacing c = false ∧ punctuation? c = none ∧ c ≠ '\'' ∧ c ≠ '"' := by
  simp [isDelimiter, and_assoc]

theorem eq_of_punctuation? {kind : TokenKind} (h : punctuation? c = some kind) :
    c = '[' ∨ c = ']' ∨ c = ',' ∨ c = ':' := by
  unfold punctuation? at h
  simp only [beq_iff_eq] at h
  split_ifs at h with hopen hclose hcomma hcolon
  · exact .inl hopen
  · exact .inr (.inl hclose)
  · exact .inr (.inr (.inl hcomma))
  · exact .inr (.inr (.inr hcolon))

theorem between_of_isSpacing (h : isSpacing c = true) :
    isDelimiter false c = true ∧ c ≠ '"' ∧ c ≠ '\'' := by
  refine ⟨by simp [isDelimiter, h], ?_, ?_⟩ <;> exact ne_of_apply_ne isSpacing (by rw [h]; decide)

theorem between_of_punctuation? {kind : TokenKind} (h : punctuation? c = some kind) :
    isDelimiter false c = true ∧ c ≠ '"' ∧ c ≠ '\'' := by
  refine ⟨by simp [isDelimiter, h], ?_, ?_⟩ <;>
    exact ne_of_apply_ne punctuation? (by rw [h]; exact nofun)

theorem scanWord_cons (inParens : Bool) (nesting : Nat) (c : Char) (rest : List Char) :
    scanWord inParens nesting (c :: rest) =
      if isDelimiter inParens c && !(c == ')' && nesting != 0) then ([], nesting, c :: rest)
      else
        (c :: (scanWord inParens (nestAfter nesting c) rest).1,
          (scanWord inParens (nestAfter nesting c) rest).2.1,
          (scanWord inParens (nestAfter nesting c) rest).2.2) := by
  rw [scanWord]

theorem scanWord_append (inParens : Bool) (nesting : Nat) (text : List Char) :
    (scanWord inParens nesting text).1 ++ (scanWord inParens nesting text).2.2 = text := by
  induction text generalizing nesting with
  | nil => rfl
  | cons c rest ih =>
      rw [scanWord_cons]
      split
      · rfl
      · rw [List.cons_append, ih]

theorem not_isDelimiter_of_goes_on {inParens : Bool} {nesting : Nat}
    (h : ¬(isDelimiter inParens c && !(c == ')' && nesting != 0)) = true) :
    isDelimiter false c = false := by
  by_cases hparen : c = ')'
  · rw [hparen]
    rfl
  · cases inParens <;> simpa [isDelimiter, hparen] using h

theorem not_isDelimiter_of_mem_scanWord {inParens : Bool} {nesting : Nat} {text : List Char} :
    ∀ c ∈ (scanWord inParens nesting text).1, isDelimiter false c = false := by
  induction text generalizing nesting with
  | nil => exact List.forall_mem_nil _
  | cons c rest ih =>
      rw [scanWord_cons]
      split
      · exact List.forall_mem_nil _
      · rename_i hgoes
        exact List.forall_mem_cons.2 ⟨not_isDelimiter_of_goes_on hgoes, ih⟩

end Words

section Equations

variable {unclosed : Option SyntaxError} {nesting position : Nat} {c : Char} {rest : List Char}

theorem scanFrom_spacing (hspacing : isSpacing c = true) :
    scanFrom unclosed nesting position (c :: rest) =
      scanFrom unclosed nesting (position + 1) rest := by
  rw [scanFrom, if_pos hspacing]

theorem scanFrom_closeParen (hinside : unclosed.isSome = true) :
    scanFrom unclosed 0 position (')' :: rest) =
      .ok ⟨[], ⟨.closeParen, position, position + 1⟩, rest⟩ := by
  rw [scanFrom, if_neg (by decide), if_pos (by simp [hinside])]

theorem scanFrom_string {value after : List Char} {width : Nat}
    (h : scanString rest = some (value, width, after)) :
    scanFrom unclosed nesting position ('"' :: rest) =
      (scanFrom unclosed nesting (position + 1 + width) after).map
        (Scan.push ⟨.string, String.ofList value, position, position + 1 + width⟩) := by
  rw [scanFrom, if_neg (by decide), if_neg (by simp), if_pos (by decide)]
  split
  · rename_i hnone
    rw [h] at hnone
    cases hnone
  · rename_i hsome
    rw [h] at hsome
    cases hsome
    rfl

theorem scanFrom_unterminatedString (h : scanString rest = none) :
    scanFrom unclosed nesting position ('"' :: rest) =
      .error ⟨.unterminatedString, '"' :: rest, position, none⟩ := by
  rw [scanFrom, if_neg (by decide), if_neg (by simp), if_pos (by decide)]
  split
  · rfl
  · rename_i hsome
    rw [h] at hsome
    cases hsome

theorem scanFrom_quotedList {quote : Char} {after : List Char}
    (h : rest.dropWhile (· != '\'') = quote :: after) :
    scanFrom unclosed nesting position ('\'' :: rest) =
      (scanFrom unclosed nesting (position + (rest.takeWhile (· != '\'')).length + 2) after).map
        (Scan.push ⟨.quotedList, String.ofList (rest.takeWhile (· != '\'')), position,
          position + (rest.takeWhile (· != '\'')).length + 2⟩) := by
  rw [scanFrom, if_neg (by decide), if_neg (by simp), if_neg (by decide), if_pos (by decide)]
  split
  · rename_i hnil
    rw [h] at hnil
    cases hnil
  · rename_i hcons
    rw [h] at hcons
    cases hcons
    rfl

theorem scanFrom_unterminatedQuotedList (h : rest.dropWhile (· != '\'') = []) :
    scanFrom unclosed nesting position ('\'' :: rest) =
      .error ⟨.unterminatedQuotedList, '\'' :: rest, position, none⟩ := by
  rw [scanFrom, if_neg (by decide), if_neg (by simp), if_neg (by decide), if_pos (by decide)]
  split
  · rfl
  · rename_i hcons
    rw [h] at hcons
    cases hcons

variable (hspacing : ¬isSpacing c = true)
    (hclose : ¬(unclosed.isSome && c == ')' && nesting == 0) = true) (hdouble : ¬(c == '"') = true)
    (hsingle : ¬(c == '\'') = true)

include hspacing hclose hdouble hsingle

theorem scanFrom_punctuation {kind : TokenKind} (hkind : punctuation? c = some kind) :
    scanFrom unclosed nesting position (c :: rest) =
      (scanFrom unclosed nesting (position + 1) rest).map
        (Scan.push ⟨kind, String.singleton c, position, position + 1⟩) := by
  rw [scanFrom, if_neg hspacing, if_neg hclose, if_neg hdouble, if_neg hsingle]
  simp only [hkind]

theorem scanFrom_word (hkind : punctuation? c = none) {word after : List Char} {left : Nat}
    (hword : scanWord unclosed.isSome (nestAfter nesting c) rest = (word, left, after)) :
    scanFrom unclosed nesting position (c :: rest) =
      (scanFrom unclosed left (position + 1 + word.length) after).map
        (Scan.push ⟨.word, String.ofList (c :: word), position, position + 1 + word.length⟩) := by
  rw [scanFrom, if_neg hspacing, if_neg hclose, if_neg hdouble, if_neg hsingle]
  simp only [hkind, hword]

end Equations

section Steps

/-- A token with its kind and value, as it is written in front of `rest`. Words leave `left`
parentheses open behind it. -/
inductive IsToken (inParens : Bool) (nesting : Nat) (rest : List Char) :
    List Char → TokenKind → List Char → Nat → Prop
  | string {content value : List Char} (escapes : Escapes content value) :
      IsToken inParens nesting rest ('"' :: content ++ ['"']) .string value nesting
  | quotedList {content : List Char} (plain : '\'' ∉ content) :
      IsToken inParens nesting rest ('\'' :: content ++ ['\'']) .quotedList content nesting
  | punctuation {c : Char} {kind : TokenKind} (mark : punctuation? c = some kind) :
      IsToken inParens nesting rest [c] kind [c] nesting
  | word {c : Char} {run : List Char} {left : Nat} (plain : isDelimiter false c = false)
      (opened : inParens = true → c = ')' → nesting ≠ 0)
      (ends : scanWord inParens (nestAfter nesting c) (run ++ rest) = (run, left, rest)) :
      IsToken inParens nesting rest (c :: run) .word (c :: run) left

/-- A quote in front of a text that never closes it. -/
inductive IsUnterminated : Char → List Char → SyntaxCause → Prop
  | string {rest : List Char} (h : scanString rest = none) :
      IsUnterminated '"' rest .unterminatedString
  | quotedList {rest : List Char} (h : '\'' ∉ rest) :
      IsUnterminated '\'' rest .unterminatedQuotedList

/-- The steps of a scan, and what it comes to. -/
inductive ScansTo (unclosed : Option SyntaxError) :
    Nat → Nat → List Char → Except SyntaxError Scan → Prop
  | missing {nesting position : Nat} {error : SyntaxError} (inside : unclosed = some error) :
      ScansTo unclosed nesting position [] (.error error)
  | exhausted {nesting position : Nat} (outside : unclosed = none) :
      ScansTo unclosed nesting position [] (.ok ⟨[], ⟨.endOfInput, position, position⟩, []⟩)
  | closed {position : Nat} {rest : List Char} (inside : unclosed.isSome = true) :
      ScansTo unclosed 0 position (')' :: rest)
        (.ok ⟨[], ⟨.closeParen, position, position + 1⟩, rest⟩)
  | unterminated {nesting position : Nat} {c : Char} {rest : List Char} {cause : SyntaxCause}
      (h : IsUnterminated c rest cause) :
      ScansTo unclosed nesting position (c :: rest) (.error ⟨cause, c :: rest, position, none⟩)
  | spacing {nesting position : Nat} {c : Char} {rest : List Char}
      {result : Except SyntaxError Scan} (hc : isSpacing c = true)
      (later : ScansTo unclosed nesting (position + 1) rest result) :
      ScansTo unclosed nesting position (c :: rest) result
  | token {nesting position left : Nat} {source rest value : List Char} {kind : TokenKind}
      {result : Except SyntaxError Scan}
      (h : IsToken unclosed.isSome nesting rest source kind value left)
      (later : ScansTo unclosed left (position + source.length) rest result) :
      ScansTo unclosed nesting position (source ++ rest)
        (result.map (Scan.push ⟨kind, String.ofList value, position, position + source.length⟩))

variable {unclosed : Option SyntaxError} {nesting position left : Nat} {c : Char}
    {rest source value : List Char} {kind : TokenKind}

theorem IsToken.length_pos {inParens : Bool}
    (h : IsToken inParens nesting rest source kind value left) : 0 < source.length := by
  cases h <;> exact Nat.succ_pos _

theorem IsToken.scanFrom_eq {inParens : Bool}
    (h : IsToken inParens nesting rest source kind value left)
    (hparens : unclosed.isSome = inParens) (position : Nat) :
    scanFrom unclosed nesting position (source ++ rest) =
      (scanFrom unclosed left (position + source.length) rest).map
        (Scan.push ⟨kind, String.ofList value, position, position + source.length⟩) := by
  subst hparens
  cases h with
  | @string content _ escapes =>
      have hstop : position + ('"' :: content ++ ['"']).length =
          position + 1 + (content.length + 1) := by
        rw [List.length_append, List.length_cons, List.length_singleton]
        omega
      have hsource : '"' :: content ++ ['"'] ++ rest = '"' :: (content ++ '"' :: rest) := by
        rw [List.cons_append, List.cons_append, List.append_assoc, List.singleton_append]
      rw [hstop, hsource, scanFrom_string (escapes.scanString_eq rest)]
  | quotedList plain =>
      have hstop : position + ('\'' :: value ++ ['\'']).length = position + value.length + 2 := by
        rw [List.length_append, List.length_cons, List.length_singleton]
        omega
      have hsource : '\'' :: value ++ ['\''] ++ rest = '\'' :: (value ++ '\'' :: rest) := by
        rw [List.cons_append, List.cons_append, List.append_assoc, List.singleton_append]
      rw [hstop, hsource, scanFrom_quotedList (dropWhile_quoted plain rest),
        takeWhile_quoted plain rest]
  | punctuation mark =>
      rcases eq_of_punctuation? mark with rfl | rfl | rfl | rfl <;>
        exact scanFrom_punctuation (by decide) (by simp) (by decide) (by decide) mark
  | @word c run _ plain opened ends =>
      obtain ⟨hspacing, hkind, hsingle, hdouble⟩ := isDelimiter_eq_false_iff.1 plain
      have hstop : position + (c :: run).length = position + 1 + run.length := by
        rw [List.length_cons]
        omega
      rw [hstop, List.cons_append]
      exact scanFrom_word (by simp [hspacing]) (by simpa using opened) (by simpa using hdouble)
        (by simpa using hsingle)
        hkind ends

theorem IsUnterminated.scanFrom_eq {cause : SyntaxCause} (h : IsUnterminated c rest cause)
    (unclosed : Option SyntaxError) (nesting position : Nat) :
    scanFrom unclosed nesting position (c :: rest) = .error ⟨cause, c :: rest, position, none⟩ := by
  cases h with
  | string h => exact scanFrom_unterminatedString h
  | quotedList h => exact scanFrom_unterminatedQuotedList (dropWhile_of_notMem h)

theorem ScansTo.eq {text : List Char} {result : Except SyntaxError Scan}
    (h : ScansTo unclosed nesting position text result) :
    scanFrom unclosed nesting position text = result := by
  induction h with
  | missing inside | exhausted inside => simp only [scanFrom, inside]
  | closed inside => exact scanFrom_closeParen inside
  | unterminated h => exact h.scanFrom_eq _ _ _
  | spacing hc _ ih => rw [scanFrom_spacing hc, ih]
  | token h _ ih => rw [h.scanFrom_eq rfl, ih]

theorem ScansTo.of_token {text : List Char} {stop : Nat} {result : Except SyntaxError Scan}
    (h : IsToken unclosed.isSome nesting rest source kind value left)
    (htext : text = source ++ rest) (hstop : stop = position + source.length)
    (later : ScansTo unclosed left stop rest result) :
    ScansTo unclosed nesting position text
      (result.map (Scan.push ⟨kind, String.ofList value, position, stop⟩)) := by
  subst htext hstop
  exact .token h later

theorem scansTo_scanFrom (unclosed : Option SyntaxError) (nesting position : Nat)
    (text : List Char) :
    ScansTo unclosed nesting position text (scanFrom unclosed nesting position text) := by
  fun_induction scanFrom unclosed nesting position text with
  | case1 nesting position error hunclosed => exact .missing hunclosed
  | case2 nesting position hunclosed => exact .exhausted hunclosed
  | case3 nesting position c rest hspacing ih => exact .spacing hspacing ih
  | case4 nesting position c rest hspacing hclose =>
      simp only [Bool.and_eq_true, beq_iff_eq] at hclose
      obtain ⟨⟨hinside, rfl⟩, rfl⟩ := hclose
      exact .closed hinside
  | case5 nesting position c rest hspacing hclose hdouble hnone =>
      obtain rfl : c = '"' := by simpa using hdouble
      exact .unterminated (.string hnone)
  | case6 nesting position c rest hspacing hclose hdouble value width after hvalue stop hlt ih =>
      obtain rfl : c = '"' := by simpa using hdouble
      obtain ⟨content, rfl, rfl, hescapes⟩ := exists_of_scanString hvalue
      refine .of_token (.string hescapes) (by simp) ?_ ih
      simp only [stop, List.length_append, List.length_cons, List.length_nil]
      omega
  | case7 nesting position c rest hspacing hclose hdouble hsingle hnil =>
      obtain rfl : c = '\'' := by simpa using hsingle
      exact .unterminated (.quotedList (notMem_of_dropWhile hnil))
  | case8 nesting position c rest hspacing hclose hdouble hsingle content quote after
      hafter stop hlt ih =>
      obtain rfl : c = '\'' := by simpa using hsingle
      obtain ⟨hrest, hplain⟩ := exists_of_dropWhile hafter
      refine .of_token (.quotedList hplain) ?_ ?_ ih
      · rw [List.cons_append, List.cons_append, List.append_assoc, List.singleton_append, ← hrest]
      · simp only [stop, content, List.length_append, List.length_cons, List.length_nil]
        omega
  | case9 nesting position c rest hspacing hclose hdouble hsingle kind hkind ih =>
      rw [String.singleton_eq_ofList]
      exact .of_token (.punctuation hkind) rfl rfl ih
  | case10 nesting position c rest hspacing hclose hdouble hsingle hkind hle word stop ih =>
      simp only [Bool.not_eq_true, beq_eq_false_iff_ne] at hspacing hdouble hsingle
      have hplain : isDelimiter false c = false :=
        isDelimiter_eq_false_iff.2 ⟨hspacing, hkind, hsingle, hdouble⟩
      have hsplit : word.1 ++ word.2.2 = rest :=
        scanWord_append unclosed.isSome (nestAfter nesting c) rest
      refine .of_token (.word hplain (by simpa using hclose) ?_) ?_ ?_ ih
      · rw [hsplit]
      · rw [List.cons_append, hsplit]
      · rw [List.length_cons]
        omega

theorem scansTo_of_scanFrom {text : List Char} {result : Except SyntaxError Scan}
    (h : scanFrom unclosed nesting position text = result) :
    ScansTo unclosed nesting position text result := by
  subst h
  exact scansTo_scanFrom unclosed nesting position text

end Steps

private theorem map_push_shift (result : Except SyntaxError Scan) (token : Token) (offset : Nat) :
    ((result.map (·.shift offset)).mapError (·.shift offset)).map (Scan.push (token.shift offset)) =
      ((result.map (Scan.push token)).map (·.shift offset)).mapError (·.shift offset) := by
  cases result <;> rfl

/-- A scan that starts further on finds what it would have found, further on. -/
theorem scanFrom_shift (unclosed : Option SyntaxError) (nesting position offset : Nat)
    (text : List Char) : scanFrom (unclosed.map (·.shift offset)) nesting (position + offset) text =
      ((scanFrom unclosed nesting position text).map (·.shift offset)).mapError
        (·.shift offset) := by
  have hsome : (unclosed.map (·.shift offset)).isSome = unclosed.isSome := by simp
  have hscan := scansTo_scanFrom unclosed nesting position text
  generalize scanFrom unclosed nesting position text = result at hscan ⊢
  induction hscan with
  | missing inside | exhausted inside =>
      simp only [inside, Option.map, scanFrom]
      rfl
  | closed inside =>
      rw [scanFrom_closeParen (hsome.trans inside), Nat.add_right_comm]
      rfl
  | unterminated h =>
      rw [h.scanFrom_eq, Int.natCast_add]
      rfl
  | spacing hc _ ih => rw [scanFrom_spacing hc, Nat.add_right_comm, ih]
  | token h _ ih =>
      rw [h.scanFrom_eq hsome, Nat.add_right_comm, ih]
      exact map_push_shift _ ⟨_, _, _, _⟩ offset

end SchemaViews.Directive
