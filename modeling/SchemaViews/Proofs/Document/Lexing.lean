import SchemaViews.Naming
import SchemaViews.Proofs.Document.Literals

/-!
# Texts and their tokens

A piece of a document *lexes* to tokens if it gives them in front of any text. A name
does so only where no letter or digit goes on with it, and so becomes a piece of its own
with the character after it.
-/

namespace SchemaViews.Document

open SchemaViews.Text

/-- The text gives the tokens, whatever comes after it. -/
def Lexes (text : List Char) (tokens : List Lexeme) : Prop :=
  ∀ rest, lexemes (text ++ rest) = (lexemes rest).map (tokens ++ ·)

def LexesWord (text : List Char) (tokens : List Lexeme) : Prop :=
  ∀ rest, rest.head?.any isLetterOrDigit = false →
    lexemes (text ++ rest) = (lexemes rest).map (tokens ++ ·)

def EndsWord (text : List Char) : Prop :=
  ∃ c, text.head? = some c ∧ isLetterOrDigit c = false

theorem lexemes_ignored {c : Char} (hignored : isIgnored c = true) (rest : List Char) :
    lexemes (c :: rest) = lexemes rest := by
  rw [lexemes, if_pos hignored]

theorem lexemes_comment (rest : List Char) :
    lexemes ('#' :: rest) = lexemes (rest.dropWhile fun d => !isLineEnd d) := by
  rw [lexemes, if_neg (by decide), if_pos (by decide)]

theorem lexemes_cons {c : Char} (hignored : isIgnored c = false) (hcomment : c ≠ '#')
    (rest : List Char) :
    lexemes (c :: rest) = (lexeme? (c :: rest)).bind fun (lexeme, after) =>
      (lexemes after).map (lexeme :: ·) := by
  rw [lexemes, hignored, if_neg Bool.false_ne_true, if_neg (by simpa using hcomment)]
  split <;> rename_i hfound <;> simp only [hfound, Option.bind_none, Option.bind_some]

theorem lexemes_lexeme {c : Char} {rest after : List Char} {lexeme : Lexeme}
    (hignored : isIgnored c = false) (hcomment : c ≠ '#')
    (h : lexeme? (c :: rest) = some (lexeme, after)) :
    lexemes (c :: rest) = (lexemes after).map (lexeme :: ·) := by
  rw [lexemes_cons hignored hcomment, h]
  rfl

theorem lexemes_blockLiteral (text rest : List Char) :
    lexemes (blockLiteral text ++ rest) =
      (readBlockLines (escapeTripleQuotes text ++ tripleQuote ++ rest)).bind fun (lines, after) =>
        (lexemes after).map (.blockString (blockValue lines) :: ·) := by
  change lexemes ('"' :: '"' :: '"' :: (escapeTripleQuotes text ++ tripleQuote ++ rest)) = _
  rw [lexemes_cons (by decide) (by decide), lexeme?, Option.bind_map]
  rfl

theorem Lexes.nil : Lexes [] [] := by
  intro rest
  cases h : lexemes rest <;> simp [h]

theorem lexemes_append {first second rest : List Char} {tokens later : List Lexeme}
    (hfirst : lexemes (first ++ (second ++ rest)) = (lexemes (second ++ rest)).map (tokens ++ ·))
    (hsecond : Lexes second later) :
    lexemes (first ++ second ++ rest) = (lexemes rest).map (tokens ++ later ++ ·) := by
  rw [List.append_assoc, hfirst, hsecond, Option.map_map]
  congr 1
  funext after
  exact (List.append_assoc tokens later after).symm

theorem Lexes.append {first second : List Char} {tokens later : List Lexeme}
    (hfirst : Lexes first tokens)
    (hsecond : Lexes second later) : Lexes (first ++ second) (tokens ++ later) := by
  intro rest
  exact lexemes_append (hfirst (second ++ rest)) hsecond

theorem Lexes.word {text : List Char} {tokens : List Lexeme} (h : Lexes text tokens) :
    LexesWord text tokens :=
  fun rest _ => h rest

theorem LexesWord.append {first second : List Char} {tokens later : List Lexeme}
    (hfirst : LexesWord first tokens) (hsecond : Lexes second later) (hboundary : EndsWord second) :
    Lexes (first ++ second) (tokens ++ later) := by
  intro rest
  obtain ⟨c, hhead, hc⟩ := hboundary
  have hends : (second ++ rest).head?.any isLetterOrDigit = false := by
    rw [List.head?_append, hhead]
    exact hc
  exact lexemes_append (hfirst (second ++ rest) hends) hsecond

theorem Lexes.ignored {text : List Char} (h : text.all isIgnored = true) : Lexes text [] := by
  induction text with
  | nil => exact Lexes.nil
  | cons c text ih =>
      intro rest
      rw [List.all_cons, Bool.and_eq_true] at h
      rw [List.cons_append, lexemes_ignored h.1]
      exact ih h.2 rest

theorem isIgnored_of_isLineEnd {c : Char} (h : isLineEnd c = true) : isIgnored c = true := by
  simp only [isLineEnd, Bool.or_eq_true, beq_iff_eq] at h
  rcases h with rfl | rfl <;> rfl

theorem Lexes.comment {text : List Char} {lineEnd : Char} (htext : ∀ c ∈ text, isLineEnd c = false)
    (hend : isLineEnd lineEnd = true) : Lexes ('#' :: text ++ [lineEnd]) [] := by
  intro rest
  calc
    lexemes ('#' :: text ++ [lineEnd] ++ rest) =
        lexemes ((text ++ lineEnd :: rest).dropWhile fun c => !isLineEnd c) := by
      rw [List.append_assoc, List.cons_append, lexemes_comment, List.singleton_append]
    _ = lexemes (lineEnd :: rest) := by
      rw [List.dropWhile_append_of_pos (by simpa using htext),
        List.dropWhile_cons_of_neg (by simp [hend])]
    _ = lexemes rest := lexemes_ignored (isIgnored_of_isLineEnd hend) rest
    _ = (lexemes rest).map ([] ++ ·) := Lexes.nil rest

theorem Lexes.punctuator {c : Char} (h : c ∈ punctuators) : Lexes [c] [.punctuator c] := by
  intro rest
  have hkinds : (punctuators.all fun d => !isIgnored d && d != '#' && d != '"' && d != '.') =
      true := by decide
  have hkind := List.all_eq_true.1 hkinds c h
  simp only [Bool.and_eq_true, Bool.not_eq_true', bne_iff_ne] at hkind
  obtain ⟨⟨⟨hignored, hcomment⟩, hquote⟩, hdot⟩ := hkind
  rw [List.singleton_append, lexemes_lexeme hignored hcomment]
  · rfl
  · rw [lexeme?, if_pos (List.contains_iff_mem.2 h)]
    · exact fun _ hc _ => hquote hc
    · exact fun hc => hquote hc
    · exact fun _ hc _ => hdot hc

theorem Lexes.string {text : List Char} (hne : text ≠ []) :
    Lexes (stringLiteral text) [.string text] := by
  intro rest
  obtain ⟨c, tail, rfl⟩ := List.exists_cons_of_ne_nil hne
  have hlexeme : lexeme? ('"' :: ((c :: tail).flatMap escapeChar ++ '"' :: rest)) =
      some (.string (c :: tail), rest) := by
    rw [lexeme?, readString_stringLiteral]
    · rfl
    · intro more heq
      rw [List.flatMap_cons, List.append_assoc] at heq
      exact escapeChar_append_ne c _ _ heq
  calc
    lexemes (stringLiteral (c :: tail) ++ rest) =
        lexemes ('"' :: ((c :: tail).flatMap escapeChar ++ '"' :: rest)) := by
      rw [stringLiteral, List.cons_append, List.cons_append, List.append_assoc,
        List.singleton_append]
    _ = (lexemes rest).map (.string (c :: tail) :: ·) :=
      lexemes_lexeme (by decide) (by decide) hlexeme

theorem Lexes.block {text : List Char} (hline : ∀ c ∈ text, isLineEnd c = false)
    (hblank : isBlankLine text = false) (hquote : text.getLast? ≠ some '"')
    (hbackslash : text.getLast? ≠ some '\\') :
    Lexes (blockLiteral text) [.blockString text] := by
  intro rest
  rw [lexemes_blockLiteral, readBlockLines_of_line hline hquote hbackslash]
  simp only [Option.bind_some, blockValue_singleton, hblank, Bool.false_eq_true, if_false,
    List.singleton_append]

theorem kind_of_isLetter {c : Char} (hletter : isLetter c = true) :
    c ∉ punctuators ∧ isIgnored c = false ∧ c ≠ '#' ∧ c ≠ '"' ∧ c ≠ '.' := by
  have hne {d : Char} (hother : isLetter d = false) : c ≠ d := by
    rintro rfl
    rw [hletter] at hother
    cases hother
  refine ⟨?_, ?_, hne (by decide), hne (by decide), hne (by decide)⟩
  · have hnone : (punctuators.all fun d => !isLetter d) = true := by decide
    intro hmem
    have hother := List.all_eq_true.1 hnone c hmem
    rw [Bool.not_eq_true'] at hother
    exact hne hother rfl
  · have hmark : c.toNat ≠ 0xFEFF := by
      intro hcode
      have hchar : c = Char.ofNat 0xFEFF := by rw [← hcode, Char.ofNat_toNat]
      exact hne (by decide) hchar
    simp only [isIgnored, Bool.or_eq_false_iff, beq_eq_false_iff_ne]
    exact ⟨⟨⟨⟨⟨hne (by decide), hne (by decide)⟩, hne (by decide)⟩, hne (by decide)⟩,
      hne (by decide)⟩, hmark⟩

theorem LexesWord.name {text : List Char} (h : Naming.isName text = true) :
    LexesWord text [.name (String.ofList text)] := by
  intro rest hends
  cases text with
  | nil => cases h
  | cons c tail =>
      rw [Naming.isName, Bool.and_eq_true, List.all_eq_true] at h
      have hletter : isLetter c = true := h.1
      have hdigits : ∀ d ∈ tail, isLetterOrDigit d = true := h.2
      obtain ⟨hpunctuator, hignored, hcomment, hquote, hdot⟩ := kind_of_isLetter hletter
      have hrest : rest.takeWhile isLetterOrDigit = [] ∧ rest.dropWhile isLetterOrDigit = rest := by
        cases rest with
        | nil => exact ⟨rfl, rfl⟩
        | cons d rest =>
            have hd : ¬isLetterOrDigit d = true := Bool.eq_false_iff.1 hends
            exact ⟨List.takeWhile_cons_of_neg hd, List.dropWhile_cons_of_neg hd⟩
      have htake : (tail ++ rest).takeWhile isLetterOrDigit = tail := by
        rw [List.takeWhile_append_of_pos hdigits, hrest.1, List.append_nil]
      have hdrop : (tail ++ rest).dropWhile isLetterOrDigit = rest := by
        rw [List.dropWhile_append_of_pos hdigits, hrest.2]
      rw [List.cons_append, lexemes_lexeme hignored hcomment]
      · rfl
      · rw [lexeme?, if_neg (by simpa using hpunctuator), if_pos hletter, htake, hdrop]
        · exact fun _ hc _ => hquote hc
        · exact fun hc => hquote hc
        · exact fun _ hc _ => hdot hc

end SchemaViews.Document
