import SchemaViews.Directive.Basic
import SchemaViews.Text.Word

/-!
# Annotations

Finds the directives and tags of an annotation in the order of the text. All other text is skipped.
-/

namespace SchemaViews.Directive

open SchemaViews.Text

/-- A directive that has been read, the last character of its source, where its source
stops, and the text after it. -/
structure Found where
  directive : Directive
  last : Char
  stop : Nat
  rest : List Char

/-- Whether something may begin after `before`: neither after a word character
nor after one of `barred`. -/
def mayFollow (barred : List Char) (before : Option Char) : Bool :=
  match before with
  | none => true
  | some c => !isWordChar c && !barred.contains c

def tagOpening : List Char :=
  ['g', 'q', 'l', ':', '"']

def opensTag (before : Option Char) (text : List Char) : Bool :=
  mayFollow ['-'] before && tagOpening.isPrefixOf text

/-- The name after an at sign, if it begins like that of a directive. -/
def writtenName? : List Char → Option (List Char)
  | first :: second :: third :: rest =>
    if first.toLower == 'g' && second.toLower == 'q' && third.toLower == 'l' then
      some (first :: second :: third :: rest.takeWhile isWordChar)
    else none
  | _ => none

/-- The written name of the directive that a text begins with. -/
def opensDirective? (before : Option Char) : List Char → Option (List Char)
  | '@' :: rest => if mayFollow ['@', '.', '-'] before then writtenName? rest else none
  | _ => none

/-- The payload of a tag whose opening has been read, as it is written, and the
text after its closing quote. -/
def scanPayload : List Char → Option (List Char × List Char)
  | [] => none
  | '"' :: rest => some ([], rest)
  | '\\' :: [] => none
  | '\\' :: c :: rest =>
    (scanPayload rest).map fun (payload, after) => ('\\' :: c :: payload, after)
  | c :: rest => (scanPayload rest).map fun (payload, after) => (c :: payload, after)

def unescapeQuotes : List Char → List Char
  | [] => []
  | '\\' :: '"' :: rest => '"' :: unescapeQuotes rest
  | c :: rest => c :: unescapeQuotes rest

def unescapeBackslashes : List Char → List Char
  | [] => []
  | '\\' :: '\\' :: rest => '\\' :: unescapeBackslashes rest
  | c :: rest => c :: unescapeBackslashes rest

/-- What the payload of a tag stands for: first the escaped quotes are replaced,
then the doubled backslashes. -/
def unescapePayload (payload : List Char) : List Char :=
  unescapeBackslashes (unescapeQuotes payload)

/-- The arguments that fill a whole text. -/
def readAll (text : List Char) : Except SyntaxError (List Argument) :=
  (tokenize text 0 false).bind fun scan => readArguments text scan.ending scan.tokens

/-- Reads the tag that `text` begins with. Its arguments are placed by their offset in
what the payload stands for. -/
def readTag (position : Nat) (text : List Char) : Except SyntaxError Found :=
  let start := position + tagOpening.length
  match scanPayload (text.drop tagOpening.length) with
  | none => .error ⟨.unterminatedTag, text, position, none⟩
  | some (payload, after) =>
    match readAll (unescapePayload payload) with
    | .error error => .error (error.shift start)
    | .ok arguments =>
      .ok ⟨⟨.field, arguments.map (·.shift start), position, true⟩, '"', start + payload.length + 1,
        after⟩

/-- Reads the directive whose at sign stands at `position` of `text` and whose
name is written as `written`. -/
def readDirective (text : List Char) (position : Nat) (written : List Char) (rest : List Char) :
    Except SyntaxError Found :=
  match DirectiveName.ofWritten? written with
  | none => .error ⟨.unknownDirective (String.ofList written), '@' :: written, position, none⟩
  | some name =>
    let stop := position + 1 + written.length
    match rest.drop (1 + written.length) with
    | '(' :: inner =>
      match scanFrom (some (unclosedAt text (stop + 1))) 0 (stop + 1) inner with
      | .error error => .error error
      | .ok scan =>
        (readArguments text scan.ending scan.tokens).map fun arguments =>
          ⟨⟨name, arguments, position, false⟩, ')', scan.ending.stop, scan.rest⟩
    | after => .ok ⟨⟨name, [], position, false⟩, written.getLastD '@', stop, after⟩

theorem length_scanFrom_rest_le {unclosed : Option SyntaxError} {nesting position : Nat}
    {text : List Char} {scan : Scan} (h : scanFrom unclosed nesting position text = .ok scan) :
    scan.rest.length ≤ text.length := by
  have hpush : ∀ {result : Except SyntaxError Scan} {token : Token} {pushed : Scan},
      result.map (Scan.push token) = .ok pushed → ∃ inner, result = .ok inner ∧
      pushed.rest = inner.rest := by
    intro result token pushed hmap
    cases result with
    | error error => simp [Except.map] at hmap
    | ok inner =>
      simp only [Except.map, Except.ok.injEq] at hmap
      exact ⟨inner, rfl, by simp [← hmap, Scan.push]⟩
  fun_induction scanFrom unclosed nesting position text generalizing scan with
  | case1 => simp at h
  | case2 =>
    cases h
    simp
  | case3 nesting position c rest _ ih =>
    have := ih h
    simp only [List.length_cons]
    omega
  | case4 =>
    cases h
    simp
  | case5 => simp at h
  | case6 =>
    rename_i hlt ih
    obtain ⟨inner, hinner, hrest⟩ := hpush h
    have := ih hinner
    simp only [hrest, List.length_cons]
    omega
  | case7 => simp at h
  | case8 =>
    rename_i hlt ih
    obtain ⟨inner, hinner, hrest⟩ := hpush h
    have := ih hinner
    simp only [hrest, List.length_cons]
    omega
  | case9 nesting position c rest _ _ _ _ kind _ ih =>
    obtain ⟨inner, hinner, hrest⟩ := hpush h
    have := ih hinner
    simp only [hrest, List.length_cons]
    omega
  | case10 =>
    rename_i hle word stop ih
    obtain ⟨inner, hinner, hrest⟩ := hpush h
    have := Nat.le_trans (ih hinner) hle
    simp only [hrest, List.length_cons]
    omega

theorem length_scanPayload_le {text payload after : List Char}
    (h : scanPayload text = some (payload, after)) : after.length ≤ text.length := by
  fun_induction scanPayload text generalizing payload after with
  | case1 => simp at h
  | case2 rest =>
    simp only [Option.some.injEq, Prod.mk.injEq] at h
    simp [← h.2]
  | case3 => simp at h
  | case4 c rest ih =>
    obtain ⟨⟨inner, left⟩, hrest, heq⟩ := Option.map_eq_some_iff.1 h
    simp only [Prod.mk.injEq] at heq
    have := ih hrest
    simp only [List.length_cons, ← heq.2]
    omega
  | case5 c rest _ _ _ ih =>
    obtain ⟨⟨inner, left⟩, hrest, heq⟩ := Option.map_eq_some_iff.1 h
    simp only [Prod.mk.injEq] at heq
    have := ih hrest
    simp only [List.length_cons, ← heq.2]
    omega

theorem length_readTag_lt {position : Nat} {text : List Char} {found : Found} (hne : text ≠ [])
    (h : readTag position text = .ok found) :
    found.rest.length < text.length := by
  simp only [readTag] at h
  split at h
  · simp at h
  · rename_i payload after hpayload
    split at h
    · simp at h
    · have hle := length_scanPayload_le hpayload
      have hpos := List.length_pos_iff.2 hne
      simp only [Except.ok.injEq] at h
      simp only [← h, List.length_drop, tagOpening, List.length_cons, List.length_nil] at *
      omega

theorem length_readDirective_lt {text written rest : List Char} {position : Nat} {found : Found}
    (hne : rest ≠ []) (h : readDirective text position written rest = .ok found) :
    found.rest.length < rest.length := by
  have hpos := List.length_pos_iff.2 hne
  simp only [readDirective] at h
  split at h
  · simp at h
  · split at h
    · rename_i inner hdrop
      have hinner := congrArg List.length hdrop
      simp only [List.length_drop, List.length_cons] at hinner
      split at h
      · simp at h
      · rename_i scan hscan
        have hle := length_scanFrom_rest_le hscan
        cases hread : readArguments text scan.ending scan.tokens with
        | error error => simp [hread, Except.map] at h
        | ok arguments =>
          simp only [hread, Except.map, Except.ok.injEq] at h
          simp only [← h]
          omega
    · simp only [Except.ok.injEq] at h
      simp only [← h, List.length_drop]
      omega

/-- Reads every directive and tag of `rest`, which stands at `position` of `text`
after the character `before`. -/
def readFrom (text : List Char) (before : Option Char) (position : Nat) (rest : List Char) :
    Except SyntaxError (List Directive) :=
  match rest with
  | [] => .ok []
  | c :: after =>
    if opensTag before (c :: after) then
      match h : readTag position (c :: after) with
      | .error error => .error error
      | .ok found =>
        have := length_readTag_lt (List.cons_ne_nil c after) h
        (readFrom text (some found.last) found.stop found.rest).map (found.directive :: ·)
    else
      match opensDirective? before (c :: after) with
      | none => readFrom text (some c) (position + 1) after
      | some written =>
        match h : readDirective text position written (c :: after) with
        | .error error => .error error
        | .ok found =>
          have := length_readDirective_lt (List.cons_ne_nil c after) h
          (readFrom text (some found.last) found.stop found.rest).map (found.directive :: ·)
  termination_by rest.length
  decreasing_by
    · exact this
    · exact Nat.lt_succ_self after.length
    · exact this

/-- The directives of an annotation in the order of the text. A fault is attributed to `source`. -/
def ofAnnotation (text : List Char) (source : Option String) :
    Except SyntaxError (List Directive) :=
  (readFrom text none 0 text).mapError (·.attribute source)

end SchemaViews.Directive
