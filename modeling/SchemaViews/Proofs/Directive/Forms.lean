import SchemaViews.Proofs.Directive.Tiling
import SchemaViews.Proofs.Directive.Frame

/-!
# The two forms of a field directive

A payload can stand in a tag, where quotes and backslashes are escaped, or as the arguments of a
field directive in a comment. Both forms give the arguments that the payload has on its own, each
further on by what stands before it.
-/

namespace SchemaViews.Directive

open SchemaViews.Text

def escapePayload (payload : List Char) : List Char :=
  payload.flatMap fun c => if c == '\\' || c == '"' then ['\\', c] else [c]

def doubleBackslashes (payload : List Char) : List Char :=
  payload.flatMap fun c => if c == '\\' then ['\\', '\\'] else [c]

def tagForm (payload : List Char) : List Char :=
  tagOpening ++ escapePayload payload ++ ['"']

def commentOpening : List Char :=
  ['@', 'G', 'q', 'l', 'F', 'i', 'e', 'l', 'd', '(']

def commentForm (payload : List Char) : List Char :=
  commentOpening ++ payload ++ [')']

theorem scanPayload_escapePayload (payload rest : List Char) :
    scanPayload (escapePayload payload ++ '"' :: rest) = some (escapePayload payload, rest) := by
  induction payload with
  | nil => rfl
  | cons c payload ih =>
      rw [escapePayload, List.flatMap_cons, List.append_assoc]
      change scanPayload (_ ++ (escapePayload payload ++ '"' :: rest)) =
        some (_ ++ escapePayload payload, rest)
      by_cases hescaped : (c == '\\' || c == '"') = true
      · rw [if_pos hescaped, List.cons_append, List.singleton_append, scanPayload, ih]
        rfl
      · rw [if_neg hescaped, List.singleton_append]
        simp only [Bool.or_eq_true, beq_iff_eq, not_or] at hescaped
        rw [scanPayload_cons hescaped.2 hescaped.1, ih]
        rfl

theorem head_escapePayload_ne_quote (payload rest : List Char) :
    escapePayload payload ≠ '"' :: rest := by
  cases payload with
  | nil => exact fun h => by cases h
  | cons c payload =>
      rw [escapePayload, List.flatMap_cons]
      by_cases hescaped : (c == '\\' || c == '"') = true
      · rw [if_pos hescaped]
        exact fun h => by cases h
      · rw [if_neg hescaped]
        simp only [Bool.or_eq_true, beq_iff_eq, not_or] at hescaped
        exact fun h => hescaped.2 (List.cons.inj h).1

theorem unescapeQuotes_cons {c : Char} {rest : List Char}
    (h : ∀ after, c = '\\' → rest ≠ '"' :: after) :
    unescapeQuotes (c :: rest) = c :: unescapeQuotes rest := by
  rw [unescapeQuotes]
  exact fun after hc hrest => h after hc hrest

theorem unescapeQuotes_escapePayload (payload : List Char) :
    unescapeQuotes (escapePayload payload) = doubleBackslashes payload := by
  induction payload with
  | nil => rfl
  | cons c payload ih =>
      rw [escapePayload, List.flatMap_cons, doubleBackslashes, List.flatMap_cons]
      change unescapeQuotes (_ ++ escapePayload payload) = _ ++ doubleBackslashes payload
      by_cases hbackslash : c = '\\'
      · subst hbackslash
        change unescapeQuotes ('\\' :: '\\' :: escapePayload payload) =
          '\\' :: '\\' :: doubleBackslashes payload
        rw [unescapeQuotes_cons (by simp),
          unescapeQuotes_cons fun after _ => head_escapePayload_ne_quote payload after, ih]
      · by_cases hquote : c = '"'
        · subst hquote
          change unescapeQuotes ('\\' :: '"' :: escapePayload payload) =
            '"' :: doubleBackslashes payload
          rw [unescapeQuotes, ih]
        · simp only [hbackslash, hquote, beq_iff_eq, Bool.or_eq_true, or_self, if_false]
          rw [List.singleton_append, unescapeQuotes_cons fun _ hc => absurd hc hbackslash, ih]
          rfl

theorem unescapeBackslashes_doubleBackslashes (payload : List Char) :
    unescapeBackslashes (doubleBackslashes payload) = payload := by
  induction payload with
  | nil => rfl
  | cons c payload ih =>
      rw [doubleBackslashes, List.flatMap_cons]
      change unescapeBackslashes (_ ++ doubleBackslashes payload) = _
      by_cases hbackslash : c = '\\'
      · subst hbackslash
        change unescapeBackslashes ('\\' :: '\\' :: doubleBackslashes payload) = _
        rw [unescapeBackslashes, ih]
      · rw [if_neg (by simpa using hbackslash), List.singleton_append, unescapeBackslashes, ih]
        exact fun _ hc _ => hbackslash hc

theorem unescapePayload_escapePayload (payload : List Char) :
    unescapePayload (escapePayload payload) = payload := by
  rw [unescapePayload, unescapeQuotes_escapePayload, unescapeBackslashes_doubleBackslashes]

theorem readTag_tagForm (payload : List Char) :
    (readTag 0 (tagForm payload)).toOption =
      (readAll payload).toOption.map fun arguments =>
        ⟨⟨.field, arguments.map (·.shift tagOpening.length), 0, true⟩, '"',
          tagOpening.length + (escapePayload payload).length + 1, []⟩ := by
  have hdrop : (tagForm payload).drop tagOpening.length = escapePayload payload ++ ['"'] := by
    rw [tagForm, List.append_assoc, List.drop_left]
  unfold readTag
  simp only [hdrop, scanPayload_escapePayload, unescapePayload_escapePayload, Nat.zero_add]
  cases readAll payload <;> rfl

theorem toOption_readFrom_tagForm (payload : List Char) :
    (readFrom (tagForm payload) none 0 (tagForm payload)).toOption =
      (readAll payload).toOption.map fun arguments =>
        [⟨.field, arguments.map (·.shift tagOpening.length), 0, true⟩] := by
  have hopens : opensTag none (tagForm payload) = true := by
    simp [opensTag, mayFollow, tagForm, tagOpening]
  have hcons : tagForm payload = 'g' :: (tagForm payload).tail := rfl
  change (readFrom (tagForm payload) none 0 ('g' :: (tagForm payload).tail)).toOption = _
  rw [readFrom_cons, ← hcons, if_pos hopens, toOption_bind, readTag_tagForm]
  cases hread : readAll payload with
  | error error => rfl
  | ok arguments =>
      change ((readFrom _ _ _ []).map _).toOption = _
      rw [readFrom]
      rfl

theorem toOption_scanFrom_commentForm {payload : List Char} (unclosed : SyntaxError)
    (hbalance : balances .plain 0 payload = true) :
    (scanFrom (some unclosed) 0 commentOpening.length (payload ++ [')'])).toOption =
      (scanFrom none 0 0 payload).toOption.map fun scan =>
        (scan.closedAt payload.length).shift commentOpening.length := by
  obtain ⟨moved, rfl⟩ : ∃ moved : SyntaxError, unclosed = moved.shift commentOpening.length :=
    ⟨{ unclosed with position := unclosed.position - commentOpening.length }, by
      simp [SyntaxError.shift]⟩
  have hshift := scanFrom_shift (some moved) 0 0 commentOpening.length (payload ++ [')'])
  have hclosed : (scanFrom (some moved) 0 0 (payload ++ [')'])).toOption = _ :=
    toOption_scanFrom_append_closeParen moved hbalance
  rw [Option.map_some, Nat.zero_add] at hshift
  calc
    _ = (scanFrom (some moved) 0 0 (payload ++ [')'])).toOption.map
          (·.shift commentOpening.length) := by
      rw [hshift, toOption_mapError, toOption_map]
    _ = _ := by
      rw [hclosed, Option.map_map, Nat.zero_add]
      rfl

theorem toOption_readArguments_commentForm {payload : List Char} {scan : Scan}
    (hscan : scanFrom none 0 0 payload = .ok scan) (ending : Ending) :
    (readArguments (commentForm payload) ending
      (scan.tokens.map (·.shift commentOpening.length))).toOption =
        (readAll payload).toOption.map (List.map (·.shift commentOpening.length)) := by
  have hwithin : Within payload.length scan.tokens :=
    within_scanFrom (Advances.refl 0 payload) hscan
  have hall : readAll payload = readArguments payload scan.ending scan.tokens := by
    rw [readAll, tokenize_whole, hscan]
    rfl
  rw [hall]
  exact readArguments_frame commentOpening [')'] scan.ending ending hwithin

def writtenField : List Char :=
  ['G', 'q', 'l', 'F', 'i', 'e', 'l', 'd']

theorem opensDirective_commentForm (payload : List Char) :
    opensDirective? none (commentForm payload) = some writtenField := by
  have hname : (['F', 'i', 'e', 'l', 'd', '('] ++ (payload ++ [')'])).takeWhile isWordChar =
      ['F', 'i', 'e', 'l', 'd'] := by
    rw [List.takeWhile_append, if_neg (by decide)]
    decide
  change writtenName? ('G' :: 'q' :: 'l' ::
    (['F', 'i', 'e', 'l', 'd', '('] ++ (payload ++ [')']))) = _
  rw [writtenName?, if_pos (by decide), hname]
  rfl

theorem toOption_readDirective_commentForm {payload : List Char}
    (hbalance : balances .plain 0 payload = true) :
    (readDirective (commentForm payload) 0 writtenField (commentForm payload)).toOption =
      (readAll payload).toOption.map fun arguments =>
        ⟨⟨.field, arguments.map (·.shift commentOpening.length), 0, false⟩, ')',
          payload.length + 1 + commentOpening.length, []⟩ := by
  have hname : DirectiveName.ofWritten? writtenField = some .field := by decide
  have hdrop : (commentForm payload).drop (1 + writtenField.length) = '(' :: (payload ++ [')']) :=
    rfl
  have hscan :=
    toOption_scanFrom_commentForm (unclosedAt (commentForm payload) commentOpening.length) hbalance
  have hstop : 0 + 1 + writtenField.length + 1 = commentOpening.length := rfl
  unfold readDirective
  simp only [hname, hdrop, hstop]
  cases hplain : scanFrom none 0 0 payload with
  | error error =>
      rw [hplain] at hscan
      obtain ⟨error', hread⟩ := toOption_eq_none.1 hscan
      rw [hread, readAll, tokenize_whole, hplain]
      rfl
  | ok scan =>
      rw [hplain] at hscan
      rw [toOption_eq_some.1 hscan]
      change (Except.map
        _ (readArguments _ _ (scan.tokens.map (·.shift commentOpening.length)))).toOption = _
      rw [toOption_map, toOption_readArguments_commentForm hplain, Option.map_map]
      rfl

theorem toOption_readFrom_commentForm {payload : List Char}
    (hbalance : balances .plain 0 payload = true) :
    (readFrom (commentForm payload) none 0 (commentForm payload)).toOption =
      (readAll payload).toOption.map fun arguments =>
        [⟨.field, arguments.map (·.shift commentOpening.length), 0, false⟩] := by
  have hcons : commentForm payload = '@' :: (commentForm payload).tail := rfl
  have hopens : opensTag none (commentForm payload) = false := rfl
  change (readFrom (commentForm payload) none 0 ('@' :: (commentForm payload).tail)).toOption = _
  rw [readFrom_cons, ← hcons, hopens, if_neg Bool.false_ne_true, opensDirective_commentForm]
  simp only [toOption_bind, toOption_readDirective_commentForm hbalance]
  cases hread : readAll payload with
  | error error => rfl
  | ok arguments =>
      change ((readFrom _ _ _ []).map _).toOption = _
      rw [readFrom]
      rfl

end SchemaViews.Directive
