import SchemaViews.Text.Numeral
import SchemaViews.Text.Split

/-!
# Lexemes of GraphQL documents

Splits a document into lexemes. Strings are given by their value, and block strings
without their common indentation.
-/

namespace SchemaViews.Document

open SchemaViews.Text

/-- A lexical token of a GraphQL document. Numbers keep their source, strings their value. -/
inductive Lexeme where
  | punctuator (c : Char)
  | spread
  | name (text : String)
  | int (source : List Char)
  | float (source : List Char)
  | string (value : List Char)
  | blockString (value : List Char)
  deriving DecidableEq, Repr

/-- Spaces, tabs, commas, line ends and byte order marks separate tokens and mean nothing. -/
def isIgnored (c : Char) : Bool :=
  c == ' ' || c == '\t' || c == ',' || c == '\n' || c == '\r' || c.toNat == 0xFEFF

def isLineEnd (c : Char) : Bool :=
  c == '\n' || c == '\r'

def punctuators : List Char :=
  ['!', '$', '&', '(', ')', ':', '=', '@', '[', ']', '\x7b', '\x7d', '|']

def isLetter (c : Char) : Bool :=
  c.isAlpha || c == '_'

def isLetterOrDigit (c : Char) : Bool :=
  c.isAlphanum || c == '_'

/-- The character of an escape with four digits, or of two such escapes that form a surrogate pair,
and the text after it. The backslash and the letter u have been read. -/
def fixedEscape? (text : List Char) : Option (Char × List Char) := do
  if text.length < 4 then none
  let unit ← hexNumber? (text.take 4)
  if isScalarValue unit then some (Char.ofNat unit, text.drop 4)
  else if unit < 0xDC00 then
    match text.drop 4 with
    | '\\' :: 'u' :: rest =>
      if rest.length < 4 then none
      let low ← hexNumber? (rest.take 4)
      if 0xDC00 ≤ low && low < 0xE000 then
        some (Char.ofNat (0x10000 + (unit - 0xD800) * 1024 + (low - 0xDC00)), rest.drop 4)
      else none
    | _ => none
  else none

/-- The character of an escape with digits in braces, of which there are at most eight. The text up
to the opening brace has been read. -/
def bracedEscape? (text : List Char) : Option (Char × List Char) := do
  let digits := text.takeWhile (· != '\x7d')
  match text.dropWhile (· != '\x7d') with
  | [] => none
  | _ :: rest =>
    if digits.isEmpty || 8 < digits.length then none
    let code ← hexNumber? digits
    if isScalarValue code then some (Char.ofNat code, rest) else none

def shortEscape? (c : Char) : Option Char :=
  if c == '"' || c == '\\' || c == '/' then some c
  else if c == 'b' then some (Char.ofNat 8)
  else if c == 'f' then some (Char.ofNat 12)
  else if c == 'n' then some '\n'
  else if c == 'r' then some '\r'
  else if c == 't' then some '\t'
  else none

def escape? : List Char → Option (Char × List Char)
  | 'u' :: '\x7b' :: rest => bracedEscape? rest
  | 'u' :: rest => fixedEscape? rest
  | c :: rest => (shortEscape? c).map fun meant => (meant, rest)
  | [] => none

theorem length_fixedEscape_le {text rest : List Char} {c : Char}
    (h : fixedEscape? text = some (c, rest)) : rest.length ≤ text.length := by
  simp only [fixedEscape?] at h
  split at h
  · simp at h
  · simp only [Option.bind_eq_bind] at h
    obtain ⟨unit, _, h⟩ := Option.bind_eq_some_iff.1 h
    split at h
    · simp only [Option.some.injEq, Prod.mk.injEq] at h
      simp [← h.2]
    · split at h
      · split at h
        · rename_i second hdrop
          have hlength := congrArg List.length hdrop
          simp only [List.length_drop, List.length_cons] at hlength
          split at h
          · simp at h
          · obtain ⟨low, _, h⟩ := Option.bind_eq_some_iff.1 h
            split at h
            · simp only [Option.some.injEq, Prod.mk.injEq] at h
              simp only [← h.2, List.length_drop]
              omega
            · simp at h
        · simp at h
      · simp at h

theorem length_bracedEscape_le {text rest : List Char} {c : Char}
    (h : bracedEscape? text = some (c, rest)) : rest.length ≤ text.length := by
  have hle := length_dropWhile_le (· != '\x7d') text
  simp only [bracedEscape?] at h
  split at h
  · simp at h
  · rename_i brace after hdrop
    simp only [hdrop, List.length_cons] at hle
    split at h
    · simp at h
    · simp only [Option.bind_eq_bind] at h
      obtain ⟨code, _, h⟩ := Option.bind_eq_some_iff.1 h
      split at h
      · simp only [Option.some.injEq, Prod.mk.injEq] at h
        simp only [← h.2]
        omega
      · simp at h

theorem length_escape_lt {text rest : List Char} {c : Char} (h : escape? text = some (c, rest)) :
    rest.length < text.length := by
  unfold escape? at h
  split at h
  · have := length_bracedEscape_le h
    simp only [List.length_cons]
    omega
  · have := length_fixedEscape_le h
    simp only [List.length_cons]
    omega
  · simp only [Option.map_eq_some_iff, Prod.mk.injEq] at h
    obtain ⟨_, _, _, h⟩ := h
    simp [← h]
  · simp at h

/-- The value of a string whose opening quote has been read, and the text after its closing
quote. It has no line ends. -/
def readString (text : List Char) : Option (List Char × List Char) :=
  match text with
  | [] => none
  | c :: rest =>
    if c == '"' then some ([], rest)
    else if c == '\\' then
      match h : escape? rest with
      | none => none
      | some (meant, after) =>
        have := length_escape_lt h
        (readString after).map fun (value, left) => (meant :: value, left)
    else if isLineEnd c then none
    else (readString rest).map fun (value, left) => (c :: value, left)
  termination_by text.length

def readBlockLines : List Char → Option (List (List Char) × List Char)
  | [] => none
  | '"' :: '"' :: '"' :: rest => some ([[]], rest)
  | '\\' :: '"' :: '"' :: '"' :: rest =>
    (readBlockLines rest).map fun (lines, left) =>
      (extendFirst '"' (extendFirst '"' (extendFirst '"' lines)), left)
  | '\r' :: '\n' :: rest => (readBlockLines rest).map fun (lines, left) => ([] :: lines, left)
  | c :: rest =>
    (readBlockLines rest).map fun (lines, left) =>
      (if isLineEnd c then [] :: lines else extendFirst c lines, left)

theorem length_readString_lt {text value rest : List Char}
    (h : readString text = some (value, rest)) : rest.length < text.length := by
  fun_induction readString text generalizing value rest with
  | case1 => simp at h
  | case2 c after _ =>
    simp only [Option.some.injEq, Prod.mk.injEq] at h
    simp [← h.2]
  | case3 => simp at h
  | case4 =>
    rename_i hlt ih
    simp only [Option.map_eq_some_iff, Prod.mk.injEq] at h
    obtain ⟨⟨inner, left⟩, hread, _, hleft⟩ := h
    have := ih hread
    simp only [List.length_cons] at *
    simp only [← hleft]
    omega
  | case5 => simp at h
  | case6 =>
    rename_i ih
    simp only [Option.map_eq_some_iff, Prod.mk.injEq] at h
    obtain ⟨⟨inner, left⟩, hread, _, hleft⟩ := h
    have := ih hread
    simp only [List.length_cons, ← hleft]
    omega

theorem length_readBlockLines_le {text rest : List Char} {lines : List (List Char)}
    (h : readBlockLines text = some (lines, rest)) : rest.length ≤ text.length := by
  fun_induction readBlockLines text generalizing lines rest with
  | case1 => simp at h
  | case2 after =>
    simp only [Option.some.injEq, Prod.mk.injEq] at h
    simp only [← h.2, List.length_cons]
    omega
  | case3 after ih | case4 after ih =>
    simp only [Option.map_eq_some_iff, Prod.mk.injEq] at h
    obtain ⟨⟨inner, left⟩, hread, _, hleft⟩ := h
    have := ih hread
    simp only [List.length_cons, ← hleft]
    omega
  | case5 c after _ _ _ ih =>
    simp only [Option.map_eq_some_iff, Prod.mk.injEq] at h
    obtain ⟨⟨inner, left⟩, hread, _, hleft⟩ := h
    have := ih hread
    simp only [List.length_cons, ← hleft]
    omega

def isIndent (c : Char) : Bool :=
  c == ' ' || c == '\t'

def isBlankLine (line : List Char) : Bool :=
  line.all isIndent

def commonIndent (lines : List (List Char)) : Nat :=
  match (lines.filter fun line => !isBlankLine line).map fun line =>
    (line.takeWhile isIndent).length with
  | [] => 0
  | first :: rest => rest.foldl min first

/-- Removes the common indentation of all lines but the first, and the
blank lines at the two ends. -/
def dedent : List (List Char) → List (List Char)
  | [] => []
  | first :: rest =>
    let indent := commonIndent rest
    let lines := first :: rest.map fun line => line.drop indent
    ((lines.dropWhile isBlankLine).reverse.dropWhile isBlankLine).reverse

def blockValue (lines : List (List Char)) : List Char :=
  ['\n'].intercalate (dedent lines)

def digits? (text : List Char) : Option (List Char × List Char) :=
  let digits := text.takeWhile Char.isDigit
  if digits.isEmpty then none else some (digits, text.dropWhile Char.isDigit)

/-- The digits of an integer, which has no leading zeros. -/
def wholeDigits? (text : List Char) : Option (List Char × List Char) :=
  match text with
  | '0' :: rest => if rest.head?.any Char.isDigit then none else some (['0'], rest)
  | _ => digits? text

def fraction? (text : List Char) : Option (List Char × List Char) :=
  match text with
  | '.' :: rest => (digits? rest).map fun (digits, after) => ('.' :: digits, after)
  | _ => some ([], text)

def exponent? (text : List Char) : Option (List Char × List Char) :=
  match text with
  | mark :: rest =>
    if mark == 'e' || mark == 'E' then
      match rest with
      | sign :: tail =>
        if sign == '+' || sign == '-' then
          (digits? tail).map fun (digits, after) => (mark :: sign :: digits, after)
        else (digits? rest).map fun (digits, after) => (mark :: digits, after)
      | [] => none
    else some ([], text)
  | [] => some ([], [])

def minus (text : List Char) : List Char × List Char :=
  match text with
  | '-' :: rest => (['-'], rest)
  | _ => ([], text)

theorem length_minus_le (text : List Char) : (minus text).2.length ≤ text.length := by
  unfold minus
  split <;> simp

/-- A number, which neither a point nor a letter may follow. -/
def number? (text : List Char) : Option (Lexeme × List Char) := do
  let (whole, afterWhole) ← wholeDigits? (minus text).2
  let (fraction, afterFraction) ← fraction? afterWhole
  let (exponent, rest) ← exponent? afterFraction
  if rest.head?.any fun c => c == '.' || isLetter c then none
  else
    let source := (minus text).1 ++ whole ++ fraction ++ exponent
    some (if fraction.isEmpty && exponent.isEmpty then .int source else .float source, rest)

def lexeme? (text : List Char) : Option (Lexeme × List Char) :=
  match text with
  | '"' :: '"' :: '"' :: rest =>
      (readBlockLines rest).map fun (lines, after) => (.blockString (blockValue lines), after)
  | '"' :: rest => (readString rest).map fun (value, after) => (.string value, after)
  | '.' :: '.' :: '.' :: rest => some (.spread, rest)
  | c :: rest =>
    if punctuators.contains c then some (.punctuator c, rest)
    else if isLetter c then
      some (.name (String.ofList (c :: rest.takeWhile isLetterOrDigit)),
        rest.dropWhile isLetterOrDigit)
    else if c.isDigit || c == '-' then number? (c :: rest)
    else none
  | [] => none

theorem length_digits_lt {text digits rest : List Char} (h : digits? text = some (digits, rest)) :
    rest.length < text.length := by
  simp only [digits?] at h
  split at h
  · simp at h
  · rename_i hne
    simp only [Option.some.injEq, Prod.mk.injEq] at h
    have hsplit :=
      congrArg List.length (List.takeWhile_append_dropWhile (p := Char.isDigit) (l := text))
    have hpos : 0 < (text.takeWhile Char.isDigit).length := by
      cases hdigits : text.takeWhile Char.isDigit with
      | nil => simp [hdigits] at hne
      | cons => simp
    simp only [List.length_append] at hsplit
    simp only [← h.2]
    omega

theorem length_wholeDigits_lt {text digits rest : List Char}
    (h : wholeDigits? text = some (digits, rest)) : rest.length < text.length := by
  simp only [wholeDigits?] at h
  split at h
  · split at h
    · simp at h
    · simp only [Option.some.injEq, Prod.mk.injEq] at h
      simp [← h.2]
  · exact length_digits_lt h

theorem length_fraction_le {text fraction rest : List Char}
    (h : fraction? text = some (fraction, rest)) : rest.length ≤ text.length := by
  simp only [fraction?] at h
  split at h
  · simp only [Option.map_eq_some_iff, Prod.mk.injEq] at h
    obtain ⟨⟨digits, after⟩, hdigits, _, hafter⟩ := h
    have := length_digits_lt hdigits
    simp only [List.length_cons, ← hafter]
    omega
  · simp only [Option.some.injEq, Prod.mk.injEq] at h
    simp [← h.2]

theorem length_exponent_le {text exponent rest : List Char}
    (h : exponent? text = some (exponent, rest)) : rest.length ≤ text.length := by
  simp only [exponent?] at h
  split at h
  · split at h
    · split at h
      · split at h
        all_goals
          simp only [Option.map_eq_some_iff, Prod.mk.injEq] at h
          obtain ⟨⟨digits, after⟩, hdigits, _, hafter⟩ := h
          have := length_digits_lt hdigits
          simp only [List.length_cons, ← hafter] at *
          omega
      · simp at h
    · simp only [Option.some.injEq, Prod.mk.injEq] at h
      simp [← h.2]
  · simp only [Option.some.injEq, Prod.mk.injEq] at h
    simp [← h.2]

theorem length_number_lt {text rest : List Char} {lexeme : Lexeme}
    (h : number? text = some (lexeme, rest)) : rest.length < text.length := by
  have hunsigned := length_minus_le text
  simp only [number?, Option.bind_eq_bind] at h
  obtain ⟨⟨whole, afterWhole⟩, hwhole, h⟩ := Option.bind_eq_some_iff.1 h
  obtain ⟨⟨fraction, afterFraction⟩, hfraction, h⟩ := Option.bind_eq_some_iff.1 h
  obtain ⟨⟨exponent, after⟩, hexponent, h⟩ := Option.bind_eq_some_iff.1 h
  have hfirst := length_wholeDigits_lt hwhole
  have hsecond := length_fraction_le hfraction
  have hthird := length_exponent_le hexponent
  split at h
  · simp at h
  · simp only [Option.some.injEq, Prod.mk.injEq] at h
    simp only [← h.2] at *
    omega

theorem length_lexeme_lt {text rest : List Char} {lexeme : Lexeme}
    (h : lexeme? text = some (lexeme, rest)) : rest.length < text.length := by
  unfold lexeme? at h
  split at h
  · simp only [Option.map_eq_some_iff, Prod.mk.injEq] at h
    obtain ⟨⟨lines, after⟩, hlines, _, hafter⟩ := h
    have := length_readBlockLines_le hlines
    simp only [List.length_cons, ← hafter]
    omega
  · simp only [Option.map_eq_some_iff, Prod.mk.injEq] at h
    obtain ⟨⟨value, after⟩, hvalue, _, hafter⟩ := h
    have := length_readString_lt hvalue
    simp only [List.length_cons, ← hafter]
    omega
  · simp only [Option.some.injEq, Prod.mk.injEq] at h
    simp only [← h.2, List.length_cons]
    omega
  · rename_i c tail _ _ _
    split at h
    · simp only [Option.some.injEq, Prod.mk.injEq] at h
      simp [← h.2]
    · split at h
      · have := length_dropWhile_le isLetterOrDigit tail
        simp only [Option.some.injEq, Prod.mk.injEq] at h
        simp only [← h.2, List.length_cons]
        omega
      · split at h
        · exact length_number_lt h
        · simp at h
  · simp at h

/-- The tokens of a text. A comment runs from a number sign to the end of its line. -/
def lexemes (text : List Char) : Option (List Lexeme) :=
  match text with
  | [] => some []
  | c :: rest =>
    if isIgnored c then lexemes rest
    else if c == '#' then
      have := length_dropWhile_le (fun d => !isLineEnd d) rest
      lexemes (rest.dropWhile fun d => !isLineEnd d)
    else
      match h : lexeme? (c :: rest) with
      | none => none
      | some (lexeme, after) =>
        have := length_lexeme_lt h
        (lexemes after).map (lexeme :: ·)
  termination_by text.length
  decreasing_by
    all_goals simp only [List.length_cons] at *
    all_goals omega

end SchemaViews.Document
