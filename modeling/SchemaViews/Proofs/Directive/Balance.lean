import SchemaViews.Proofs.Directive.Scan

/-!
# Balanced argument lists

A list whose parentheses balance outside its quotes reads the same on its own and in front of a
closing parenthesis: the words of the list open and close the same parentheses, and none of them
closes the one behind the list.
-/

namespace SchemaViews.Directive

open SchemaViews.Text

/-- What the next character of a text stands in. -/
inductive Region where
  | plain
  | string
  | escape
  | quotedList
  deriving DecidableEq, Repr

/-- Whether the parentheses outside quotes balance, `depth` of which are open already. A quote that
is never closed leaves nothing to balance. -/
def balances : Region → Nat → List Char → Bool
  | .plain, depth, [] => depth == 0
  | _, _, [] => true
  | .plain, depth, c :: rest =>
    if c == '"' then balances .string depth rest
    else if c == '\'' then balances .quotedList depth rest
    else if c == '(' then balances .plain (depth + 1) rest
    else if c == ')' then depth != 0 && balances .plain (depth - 1) rest
    else balances .plain depth rest
  | .string, depth, c :: rest =>
    balances (if c == '"' then .plain else if c == '\\' then .escape else .string) depth rest
  | .escape, depth, _ :: rest => balances .string depth rest
  | .quotedList, depth, c :: rest => balances (if c == '\'' then .plain else .quotedList) depth rest

example (rest : List Char) :
    balances .plain 0 ('(' :: '"' :: ')' :: '"' :: ')' :: rest) = balances .plain 0 rest := by
  simp [balances]

theorem balances_string {depth : Nat} {content value : List Char} (h : Escapes content value)
    (after : List Char) :
    balances .string depth (content ++ '"' :: after) = balances .plain depth after := by
  induction h with
  | nil => rfl
  | plain hquote hbackslash _ ih =>
      rw [List.cons_append, balances, if_neg (by simpa using hquote),
        if_neg (by simpa using hbackslash)]
      exact ih
  | escaped c _ ih => exact ih

theorem balances_quotedList {depth : Nat} {content : List Char} (h : '\'' ∉ content)
    (after : List Char) :
    balances .quotedList depth (content ++ '\'' :: after) = balances .plain depth after := by
  induction content with
  | nil => rfl
  | cons c content ih =>
      rw [List.mem_cons, not_or] at h
      rw [List.cons_append, balances, if_neg (by simpa using Ne.symm h.1)]
      exact ih h.2

theorem scanString_append_closeParen {text : List Char} (h : scanString text = none) :
    scanString (text ++ [')']) = none := by
  fun_induction scanString text with
  | case1 | case3 => rfl
  | case2 => cases h
  | case4 c rest ih =>
      rw [List.cons_append, List.cons_append, scanString, ih (Option.map_eq_none_iff.1 h)]
      rfl
  | case5 c rest hquote hlast hescape ih =>
      rw [List.cons_append, scanString_cons hquote (ne_backslash hlast hescape),
        ih (Option.map_eq_none_iff.1 h)]
      rfl

theorem IsUnterminated.append_closeParen {c : Char} {rest : List Char} {cause : SyntaxCause}
    (h : IsUnterminated c rest cause) : IsUnterminated c (rest ++ [')']) cause := by
  cases h with
  | string h => exact .string (scanString_append_closeParen h)
  | quotedList h => exact .quotedList (by simpa using h)

theorem isDelimiter_true (c : Char) : isDelimiter true c = (isDelimiter false c || c == ')') := by
  simp [isDelimiter, Bool.or_assoc]

theorem balances_plain_cons {c : Char} {depth : Nat} {rest : List Char}
    (hword : isDelimiter false c = false) (hbalance : balances .plain depth (c :: rest) = true) :
    (c = ')' → depth ≠ 0) ∧ balances .plain (nestAfter depth c) rest = true := by
  have hdouble : c ≠ '"' := ne_of_apply_ne (isDelimiter false) (by rw [hword]; decide)
  have hsingle : c ≠ '\'' := ne_of_apply_ne (isDelimiter false) (by rw [hword]; decide)
  rw [balances, if_neg (by simpa using hdouble), if_neg (by simpa using hsingle)] at hbalance
  by_cases hopening : c = '('
  · subst hopening
    exact ⟨fun h => absurd h (by decide), hbalance⟩
  · rw [if_neg (by simpa using hopening)] at hbalance
    by_cases hclosing : c = ')'
    · subst hclosing
      simpa [nestAfter] using hbalance
    · rw [if_neg (by simpa using hclosing)] at hbalance
      exact ⟨fun h => absurd h hclosing, by simpa [nestAfter, hopening, hclosing] using hbalance⟩

theorem balances_plain_delimiter {c : Char} {depth : Nat} {rest : List Char}
    (hdelimiter : isDelimiter false c = true) (hdouble : c ≠ '"') (hsingle : c ≠ '\'') :
    balances .plain depth (c :: rest) = balances .plain depth rest := by
  have hopening : c ≠ '(' := ne_of_apply_ne (isDelimiter false) (by rw [hdelimiter]; decide)
  have hclosing : c ≠ ')' := ne_of_apply_ne (isDelimiter false) (by rw [hdelimiter]; decide)
  rw [balances, if_neg (by simpa using hdouble), if_neg (by simpa using hsingle),
    if_neg (by simpa using hopening), if_neg (by simpa using hclosing)]

/-- A word of a balanced text goes as far in front of a closing
parenthesis as it goes on its own. -/
theorem scanWord_append_closeParen {nesting left : Nat} {text word after : List Char}
    (hbalance : balances .plain nesting text = true)
    (hword : scanWord false nesting text = (word, left, after)) :
    scanWord true nesting (text ++ [')']) = (word, left, after ++ [')']) ∧
    balances .plain left after = true := by
  induction text generalizing nesting word with
  | nil =>
      have hnesting : nesting = 0 := by simpa [balances] using hbalance
      subst hnesting
      cases hword
      exact ⟨rfl, rfl⟩
  | cons c rest ih =>
      rw [List.cons_append, scanWord_cons]
      rw [scanWord_cons] at hword
      cases hdelimiter : isDelimiter false c with
      | true =>
          have hclosing : c ≠ ')' := ne_of_apply_ne (isDelimiter false) (by rw [hdelimiter]; decide)
          rw [if_pos (by simp [hdelimiter, hclosing])] at hword
          rw [if_pos (by simp [isDelimiter_true, hdelimiter, hclosing])]
          cases hword
          exact ⟨rfl, hbalance⟩
      | false =>
          obtain ⟨hopen, hrest⟩ := balances_plain_cons hdelimiter hbalance
          rw [if_neg (by simp [hdelimiter])] at hword
          rw [if_neg (by simpa [isDelimiter_true, hdelimiter] using fun hc => ⟨hc, hopen hc⟩)]
          cases hword
          obtain ⟨hscan, hleft⟩ := ih hrest rfl
          rw [hscan]
          exact ⟨rfl, hleft⟩

/-- A token of a balanced text is the same in front of a closing parenthesis, and leaves
a balanced text behind it. -/
theorem IsToken.append_closeParen {nesting left : Nat} {source rest value : List Char}
    {kind : TokenKind} (h : IsToken false nesting rest source kind value left)
    (hbalance : balances .plain nesting (source ++ rest) = true) :
    IsToken true nesting (rest ++ [')']) source kind value left ∧
    balances .plain left rest = true := by
  cases h with
  | @string content _ escapes =>
      have hrest : balances .string nesting (content ++ ['"'] ++ rest) = true := hbalance
      rw [List.append_assoc, List.singleton_append, balances_string escapes] at hrest
      exact ⟨.string escapes, hrest⟩
  | quotedList plain =>
      have hrest : balances .quotedList nesting (value ++ ['\''] ++ rest) = true := hbalance
      rw [List.append_assoc, List.singleton_append, balances_quotedList plain] at hrest
      exact ⟨.quotedList plain, hrest⟩
  | punctuation mark =>
      obtain ⟨hdelimiter, hdouble, hsingle⟩ := between_of_punctuation? mark
      rw [List.singleton_append, balances_plain_delimiter hdelimiter hdouble hsingle] at hbalance
      exact ⟨.punctuation mark, hbalance⟩
  | word plain opened ends =>
      rw [List.cons_append] at hbalance
      obtain ⟨hopen, hrest⟩ := balances_plain_cons plain hbalance
      obtain ⟨hends, hleft⟩ := scanWord_append_closeParen hrest ends
      rw [List.append_assoc] at hends
      exact ⟨.word plain (fun _ => hopen) hends, hleft⟩

/-- What a text gives in front of a closing parenthesis, if it gives `scan` on its own. -/
def Scan.closedAt (scan : Scan) (position : Nat) : Scan :=
  ⟨scan.tokens, ⟨.closeParen, position, position + 1⟩, []⟩

/-- A balanced text has the same tokens on its own and in front of a closing
parenthesis, or none in both places. -/
theorem toOption_scanFrom_append_closeParen (unclosed : SyntaxError) {nesting position : Nat}
    {text : List Char} (hbalance : balances .plain nesting text = true) :
    (scanFrom (some unclosed) nesting position (text ++ [')'])).toOption =
      (scanFrom none nesting position text).toOption.map (·.closedAt (position + text.length)) := by
  have hscan := scansTo_scanFrom none nesting position text
  generalize scanFrom none nesting position text = result at hscan ⊢
  induction hscan with
  | missing inside | closed inside => cases inside
  | @exhausted nesting position outside =>
      obtain rfl : nesting = 0 := by simpa [balances] using hbalance
      rw [List.nil_append, scanFrom_closeParen rfl]
      rfl
  | unterminated h =>
      rw [List.cons_append, h.append_closeParen.scanFrom_eq]
      rfl
  | @spacing nesting position c rest result hspacing _ ih =>
      obtain ⟨hdelimiter, hdouble, hsingle⟩ := between_of_isSpacing hspacing
      rw [balances_plain_delimiter hdelimiter hdouble hsingle] at hbalance
      rw [List.cons_append, scanFrom_spacing hspacing, ih hbalance, List.length_cons,
        Nat.add_right_comm position 1, Nat.add_assoc]
  | token htoken _ ih =>
      obtain ⟨hclosed, hrest⟩ := htoken.append_closeParen hbalance
      rw [List.append_assoc, hclosed.scanFrom_eq rfl, toOption_map, toOption_map, ih hrest]
      rw [List.length_append, ← Nat.add_assoc, Option.map_map, Option.map_map]
      rfl

end SchemaViews.Directive
