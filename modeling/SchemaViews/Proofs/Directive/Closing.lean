import Mathlib.Data.List.Basic
import SchemaViews.Proofs.Directive.Tiling

/-!
# Where an argument list ends

Read from the left, every character of a text stands outside quotes or inside of them, with some
parentheses open. Inside parentheses a list ends at the first closing one that stands outside quotes
while none is open; otherwise it takes the text.
-/

namespace SchemaViews.Directive

open SchemaViews.Text

/-- What the next character stands in, and how many parentheses outside
quotes are open in front of it. -/
structure Standing where
  region : Region
  depth : Nat
  deriving DecidableEq, Repr

def Standing.after (standing : Standing) (c : Char) : Standing :=
  match standing.region with
  | .plain =>
    if c == '"' then ⟨.string, standing.depth⟩
    else if c == '\'' then ⟨.quotedList, standing.depth⟩
    else ⟨.plain, nestAfter standing.depth c⟩
  | .string => ⟨if c == '"' then .plain else if c == '\\' then .escape else .string, standing.depth⟩
  | .escape => ⟨.string, standing.depth⟩
  | .quotedList => ⟨if c == '\'' then .plain else .quotedList, standing.depth⟩

def Standing.behind (standing : Standing) (text : List Char) : Standing :=
  text.foldl Standing.after standing

def Standing.outermost : Standing :=
  ⟨.plain, 0⟩

/-- Where the character at `place` stands, read from `start` on. -/
def standingAt (text : List Char) (start place : Nat) : Standing :=
  Standing.outermost.behind (slice text start place)

/-- At `place` stands a closing parenthesis outside quotes, and every one opened since
`start` is closed already. -/
def ClosesAt (text : List Char) (start place : Nat) : Prop :=
  start ≤ place ∧ text[place]? = some ')' ∧ standingAt text start place = .outermost

/-- A string or a quoted list begins at `place` and goes on to the end of the text. -/
def NeverCloses (text : List Char) (start place : Nat) : Prop :=
  start ≤ place ∧ place < text.length ∧ (standingAt text start place).region = .plain ∧
    ∀ stop, place < stop → stop ≤ text.length → (standingAt text start stop).region ≠ .plain

/-- Reading `read` leads from one standing to another one, and no
parenthesis in it ends the list. -/
inductive Passes (inParens : Bool) : Standing → List Char → Standing → Prop
  | nil (standing : Standing) : Passes inParens standing [] standing
  | cons {standing final : Standing} {c : Char} {read : List Char}
      (hopen : inParens = true → c = ')' → standing ≠ .outermost)
      (later : Passes inParens (standing.after c) read final) :
      Passes inParens standing (c :: read) final

/-- A quote opens in front of `text` and closes nowhere in it. -/
def NeverPlain (standing : Standing) (text : List Char) : Prop :=
  ∀ read, read <+: text → (standing.behind read).region ≠ .plain

/-- How a scan ends in front of the text that is left, with `depth` parentheses open. -/
inductive EndsAt (inParens : Bool) : Nat → List Char → Except SyntaxError Scan → Prop
  | closed (inside : inParens = true) (tokens : List Token) (position : Nat) (rest : List Char) :
      EndsAt inParens 0 (')' :: rest) (.ok ⟨tokens, ⟨.closeParen, position, position + 1⟩, rest⟩)
  | exhausted (outside : inParens = false) (depth : Nat) (tokens : List Token) (position : Nat) :
      EndsAt inParens depth [] (.ok ⟨tokens, ⟨.endOfInput, position, position⟩, []⟩)
  | missing (inside : inParens = true) (depth : Nat) (error : SyntaxError) :
      EndsAt inParens depth [] (.error error)
  | unclosed {depth : Nat} {quote : Char} {rest : List Char}
      (never : NeverPlain (Standing.after ⟨.plain, depth⟩ quote) rest) (error : SyntaxError) :
      EndsAt inParens depth (quote :: rest) (.error error)

/-- A scan of `text` passes over some of it, and ends in front of what is left. -/
def Reaches (inParens : Bool) (nesting : Nat) (text : List Char)
    (result : Except SyntaxError Scan) : Prop :=
  ∃ read left depth, text = read ++ left ∧ Passes inParens ⟨.plain, nesting⟩ read ⟨.plain, depth⟩ ∧
    EndsAt inParens depth left result

variable {inParens : Bool} {standing middle final : Standing} {text read left rest : List Char}
    {nesting depth : Nat} {result : Except SyntaxError Scan}

theorem Passes.append {later : List Char} (h : Passes inParens standing read middle)
    (hlater : Passes inParens middle later final) :
    Passes inParens standing (read ++ later) final := by
  induction h with
  | nil => exact hlater
  | cons hopen _ ih => exact .cons hopen (ih hlater)

theorem Passes.behind_eq (h : Passes inParens standing read final) :
    standing.behind read = final := by
  induction h with
  | nil => rfl
  | cons _ _ ih => exact ih

theorem Passes.not_outermost {earlier later : List Char} (h : Passes true standing read final)
    (heq : read = earlier ++ ')' :: later) : standing.behind earlier ≠ .outermost := by
  induction h generalizing earlier with
  | nil => simp at heq
  | cons hopen _ ih =>
      cases earlier with
      | nil =>
          obtain ⟨rfl, -⟩ := List.cons.inj heq
          exact hopen rfl rfl
      | cons d earlier =>
          obtain ⟨rfl, hrest⟩ := List.cons.inj heq
          exact ih hrest

theorem Passes.single {c : Char} (hopen : c ≠ ')') :
    Passes inParens standing [c] (standing.after c) :=
  .cons (fun _ hc => absurd hc hopen) (.nil _)

theorem EndsAt.push (token : Token) (h : EndsAt inParens depth left result) :
    EndsAt inParens depth left (result.map (Scan.push token)) := by
  cases h with
  | closed inside tokens position rest => exact .closed inside (token :: tokens) position rest
  | exhausted outside depth tokens position =>
      exact .exhausted outside depth (token :: tokens) position
  | missing inside depth error => exact .missing inside depth error
  | unclosed never error => exact .unclosed never error

theorem EndsAt.reaches (h : EndsAt inParens depth left result) :
    Reaches inParens depth left result :=
  ⟨[], left, depth, rfl, .nil _, h⟩

theorem Reaches.push (token : Token) (h : Reaches inParens nesting text result) :
    Reaches inParens nesting text (result.map (Scan.push token)) := by
  obtain ⟨read, left, depth, htext, hpasses, hends⟩ := h
  exact ⟨read, left, depth, htext, hpasses, hends.push token⟩

theorem Reaches.append {first : List Char} (h : Reaches inParens depth rest result)
    (hfirst : Passes inParens ⟨.plain, nesting⟩ first ⟨.plain, depth⟩) :
    Reaches inParens nesting (first ++ rest) result := by
  obtain ⟨read, left, depth, rfl, hpasses, hends⟩ := h
  exact ⟨first ++ read, left, depth, (List.append_assoc ..).symm, hfirst.append hpasses, hends⟩

theorem passes_escapes {content value : List Char} (h : Escapes content value) :
    Passes inParens ⟨.string, depth⟩ content ⟨.string, depth⟩ := by
  have hstring : (⟨.string, depth⟩ : Standing) ≠ .outermost := nofun
  have hescape : (⟨.escape, depth⟩ : Standing) ≠ .outermost := nofun
  induction h with
  | nil => exact .nil _
  | plain hquote hbackslash _ ih =>
      refine .cons (fun _ _ => hstring) ?_
      simpa [Standing.after, hquote, hbackslash] using ih
  | escaped c _ ih => exact .cons (fun _ _ => hstring) (.cons (fun _ _ => hescape) ih)

theorem passes_string {content value : List Char} (h : Escapes content value) :
    Passes inParens ⟨.plain, depth⟩ ('"' :: content ++ ['"']) ⟨.plain, depth⟩ :=
  (Passes.single (by decide)).append ((passes_escapes h).append (Passes.single (by decide)))

theorem passes_quotedList {content : List Char} (h : '\'' ∉ content) :
    Passes inParens ⟨.plain, depth⟩ ('\'' :: content ++ ['\'']) ⟨.plain, depth⟩ := by
  have hquoted : (⟨.quotedList, depth⟩ : Standing) ≠ .outermost := nofun
  have hcontent : Passes inParens ⟨.quotedList, depth⟩ content ⟨.quotedList, depth⟩ := by
    induction content with
    | nil => exact .nil _
    | cons c content ih =>
        rw [List.mem_cons, not_or] at h
        refine .cons (fun _ _ => hquoted) ?_
        simpa [Standing.after, Ne.symm h.1] using ih h.2
  exact (Passes.single (by decide)).append (hcontent.append (Passes.single (by decide)))

theorem after_word {c : Char} (hc : isDelimiter false c = false) :
    Standing.after ⟨.plain, nesting⟩ c = ⟨.plain, nestAfter nesting c⟩ := by
  have hdouble : c ≠ '"' := ne_of_apply_ne (isDelimiter false) (by rw [hc]; decide)
  have hsingle : c ≠ '\'' := ne_of_apply_ne (isDelimiter false) (by rw [hc]; decide)
  simp [Standing.after, hdouble, hsingle]

theorem passes_between {c : Char} (hc : isDelimiter false c = true) (hdouble : c ≠ '"')
    (hsingle : c ≠ '\'') : Passes inParens ⟨.plain, nesting⟩ [c] ⟨.plain, nesting⟩ := by
  have hopening : c ≠ '(' := ne_of_apply_ne (isDelimiter false) (by rw [hc]; decide)
  have hclosing : c ≠ ')' := ne_of_apply_ne (isDelimiter false) (by rw [hc]; decide)
  have hafter : Standing.after ⟨.plain, nesting⟩ c = ⟨.plain, nesting⟩ := by
    simp [Standing.after, nestAfter, hdouble, hsingle, hopening, hclosing]
  have hpasses : Passes inParens ⟨.plain, nesting⟩ [c] (Standing.after ⟨.plain, nesting⟩ c) :=
    .single hclosing
  rw [hafter] at hpasses
  exact hpasses

theorem passes_scanWord (inParens : Bool) (nesting : Nat) (text : List Char) :
    Passes inParens ⟨.plain, nesting⟩ (scanWord inParens nesting text).1
      ⟨.plain, (scanWord inParens nesting text).2.1⟩ := by
  induction text generalizing nesting with
  | nil => exact .nil _
  | cons c rest ih =>
      rw [scanWord_cons]
      split
      · exact .nil _
      · rename_i hgoes
        refine .cons ?_ ?_
        -- Inside parentheses a closing one goes on with a word only if one is open.
        · rintro rfl rfl heq
          obtain rfl : nesting = 0 := congrArg Standing.depth heq
          exact hgoes rfl
        · rw [after_word (not_isDelimiter_of_goes_on hgoes)]
          exact ih (nestAfter nesting c)

theorem neverPlain_cons {c : Char} (hstanding : standing.region ≠ .plain)
    (h : NeverPlain (standing.after c) text) : NeverPlain standing (c :: text) := by
  intro read hread
  cases read with
  | nil => exact hstanding
  | cons d read =>
      obtain ⟨rfl, hrest⟩ := List.cons_prefix_cons.1 hread
      exact h read hrest

theorem neverPlain_nil (hstanding : standing.region ≠ .plain) : NeverPlain standing [] := by
  intro read hread
  rw [List.prefix_nil.1 hread]
  exact hstanding

theorem neverPlain_string (h : scanString text = none) : NeverPlain ⟨.string, depth⟩ text := by
  have hstring : Region.string ≠ .plain := by decide
  have hescape : Region.escape ≠ .plain := by decide
  fun_induction scanString text with
  | case1 => exact neverPlain_nil hstring
  | case2 => cases h
  | case3 => exact neverPlain_cons hstring (neverPlain_nil hescape)
  | case4 c rest ih =>
      exact neverPlain_cons hstring (neverPlain_cons hescape (ih (Option.map_eq_none_iff.1 h)))
  | case5 c rest hquote hlast hmore ih =>
      have hbackslash := ne_backslash hlast hmore
      refine neverPlain_cons hstring ?_
      have hquote' : ¬(c = '"') := hquote
      simpa [Standing.after, hquote', hbackslash] using ih (Option.map_eq_none_iff.1 h)

theorem neverPlain_quotedList (h : '\'' ∉ text) : NeverPlain ⟨.quotedList, depth⟩ text := by
  have hquoted : Region.quotedList ≠ .plain := by decide
  induction text with
  | nil => exact neverPlain_nil hquoted
  | cons c text ih =>
      rw [List.mem_cons, not_or] at h
      refine neverPlain_cons hquoted ?_
      simpa [Standing.after, Ne.symm h.1] using ih h.2

theorem IsUnterminated.neverPlain {c : Char} {cause : SyntaxCause}
    (h : IsUnterminated c rest cause) : NeverPlain (Standing.after ⟨.plain, nesting⟩ c) rest := by
  cases h with
  | string h => exact neverPlain_string h
  | quotedList h => exact neverPlain_quotedList h

theorem IsToken.passes {left : Nat} {source value : List Char} {kind : TokenKind}
    (h : IsToken inParens nesting rest source kind value left) :
    Passes inParens ⟨.plain, nesting⟩ source ⟨.plain, left⟩ := by
  cases h with
  | string escapes => exact passes_string escapes
  | quotedList plain => exact passes_quotedList plain
  | punctuation mark =>
      obtain ⟨hdelimiter, hdouble, hsingle⟩ := between_of_punctuation? mark
      exact passes_between hdelimiter hdouble hsingle
  | @word c run _ plain opened ends =>
      have hrun := passes_scanWord inParens (nestAfter nesting c) (run ++ rest)
      rw [ends] at hrun
      refine .cons (fun hinside hc heq => ?_) ?_
      · exact opened hinside hc (congrArg Standing.depth heq)
      · rw [after_word plain]
        exact hrun

/-- The nesting of a scan is the depth of its standing, and between two tokens
it stands outside quotes. -/
theorem reaches_scanFrom (unclosed : Option SyntaxError) (nesting position : Nat)
    (text : List Char) :
    Reaches unclosed.isSome nesting text (scanFrom unclosed nesting position text) := by
  have hscan := scansTo_scanFrom unclosed nesting position text
  generalize scanFrom unclosed nesting position text = result at hscan ⊢
  induction hscan with
  | @missing nesting _ error inside =>
      exact (EndsAt.missing (by rw [inside]; rfl) nesting error).reaches
  | @exhausted nesting position outside =>
      exact (EndsAt.exhausted (by rw [outside]; rfl) nesting [] position).reaches
  | @closed position rest inside => exact (EndsAt.closed inside [] position rest).reaches
  | unterminated h => exact (EndsAt.unclosed h.neverPlain _).reaches
  | spacing hspacing _ ih =>
      obtain ⟨hdelimiter, hdouble, hsingle⟩ := between_of_isSpacing hspacing
      exact ih.append (passes_between hdelimiter hdouble hsingle)
  | token htoken _ ih => exact (ih.append htoken.passes).push _

theorem behind_append (standing : Standing) (first second : List Char) :
    standing.behind (first ++ second) = (standing.behind first).behind second :=
  List.foldl_append

/-- A closing parenthesis that ends the list stands behind everything that was passed over. -/
theorem Passes.closing_behind {earlier later : List Char} (h : Passes true .outermost read final)
    (heq : read ++ left = earlier ++ ')' :: later)
    (hclosing : Standing.outermost.behind earlier = .outermost) :
    ∃ more, earlier = read ++ more ∧ left = more ++ ')' :: later := by
  rcases List.append_eq_append_iff.1 heq with ⟨more, hearlier, hleft⟩ | ⟨inside, hread, hlater⟩
  · exact ⟨more, hearlier, hleft⟩
  · cases inside with
    | nil =>
        rw [List.append_nil] at hread
        exact ⟨[], by rw [hread, List.append_nil], hlater.symm⟩
    | cons c inside =>
        obtain ⟨rfl, -⟩ := List.cons.inj hlater
        exact absurd hclosing (h.not_outermost hread)

/-- Where a quote never closes, no parenthesis ends the list. -/
theorem NeverPlain.not_closing {quote : Char} {earlier more later : List Char}
    (h : NeverPlain (Standing.after ⟨.plain, depth⟩ quote) rest)
    (hread : Standing.outermost.behind read = ⟨.plain, depth⟩) (hearlier : earlier = read ++ more)
    (hleft : quote :: rest = more ++ ')' :: later) :
    Standing.outermost.behind earlier ≠ .outermost := by
  intro hclosing
  have hmore : Standing.behind ⟨.plain, depth⟩ more = .outermost := by
    rw [← hread, ← behind_append, ← hearlier, hclosing]
  -- The quote is the closing parenthesis itself, which stays outside quotes, or the
  -- parenthesis stands behind it.
  cases more with
  | nil =>
      obtain ⟨rfl, -⟩ := List.cons.inj hleft
      exact h [] List.nil_prefix rfl
  | cons c more =>
      obtain ⟨rfl, hrest⟩ := List.cons.inj hleft
      refine h more ⟨')' :: later, hrest.symm⟩ ?_
      exact congrArg Standing.region hmore

variable {start place : Nat}

theorem standingAt_add (hdrop : text.drop start = read ++ left) :
    standingAt text start (start + read.length) = Standing.outermost.behind read := by
  rw [standingAt, slice, hdrop, Nat.add_sub_cancel_left, List.take_left]

theorem closesAt_iff : ClosesAt text start place ↔ ∃ earlier later,
      text.drop start = earlier ++ ')' :: later ∧
    place = start + earlier.length ∧ Standing.outermost.behind earlier = .outermost := by
  constructor
  · rintro ⟨hle, hchar, hstanding⟩
    obtain ⟨width, rfl⟩ := Nat.exists_eq_add_of_le hle
    rw [← List.getElem?_drop, List.getElem?_eq_some_iff] at hchar
    obtain ⟨hlt, hchar⟩ := hchar
    have hsplit := List.take_append_drop width (text.drop start)
    rw [List.drop_eq_getElem_cons hlt, hchar] at hsplit
    refine ⟨(text.drop start).take width, _, hsplit.symm, ?_, ?_⟩
    · rw [List.length_take, Nat.min_eq_left (Nat.le_of_lt hlt)]
    · rw [standingAt, slice, Nat.add_sub_cancel_left] at hstanding
      exact hstanding
  · rintro ⟨earlier, later, hdrop, rfl, hclosing⟩
    refine ⟨Nat.le_add_right start earlier.length, ?_, ?_⟩
    · rw [← List.getElem?_drop, hdrop, List.getElem?_append_right (Nat.le_refl _), Nat.sub_self]
      rfl
    · rw [standingAt_add hdrop, hclosing]

theorem neverCloses_of_neverPlain {quote : Char} (hdrop : text.drop start = read ++ quote :: rest)
    (hread : Standing.outermost.behind read = ⟨.plain, depth⟩)
    (hnever : NeverPlain (Standing.after ⟨.plain, depth⟩ quote) rest) :
    NeverCloses text start (start + read.length) := by
  have hlength := congrArg List.length hdrop
  rw [List.length_drop, List.length_append, List.length_cons] at hlength
  refine ⟨Nat.le_add_right start read.length, by omega, ?_, fun stop hlt hle => ?_⟩
  · rw [standingAt_add hdrop, hread]
  · obtain ⟨width, rfl⟩ := Nat.exists_eq_add_of_lt hlt
    have hslice : slice text start (start + read.length + width + 1) =
        read ++ quote :: rest.take width := by
      have hwidth : start + read.length + width + 1 - start = read.length + (width + 1) := by omega
      rw [slice, hdrop, hwidth, List.take_length_add_append, List.take_succ_cons]
    rw [standingAt, hslice, behind_append, hread]
    exact hnever (rest.take width) (List.take_prefix width rest)

theorem NeverCloses.not_closesAt {close : Nat} (h : NeverCloses text start place)
    (hlt : place < close) : ¬ClosesAt text start close := by
  rintro ⟨-, hchar, hstanding⟩
  obtain ⟨hclose, -⟩ := List.getElem?_eq_some_iff.1 hchar
  refine h.2.2.2 close hlt (Nat.le_of_lt hclose) ?_
  rw [hstanding]
  rfl

section Tokenize

variable {scan : Scan}

theorem reaches_tokenize (text : List Char) (start : Nat) (inParens : Bool) :
    Reaches inParens 0 (text.drop start) (tokenize text start inParens) := by
  cases inParens with
  | false => exact reaches_scanFrom none 0 (min start text.length) (text.drop start)
  | true =>
      exact reaches_scanFrom (some (unclosedAt text start)) 0 (min start text.length)
        (text.drop start)

theorem advances_drop (hstart : start ≤ text.length) : Advances 0 text start (text.drop start) := by
  refine ⟨text.take start, (List.take_append_drop start text).symm, ?_⟩
  rw [List.length_take, Nat.min_eq_left hstart, Nat.zero_add]

theorem tiles_tokenize (hstart : start ≤ text.length) {inParens : Bool}
    (h : tokenize text start inParens = .ok scan) :
    Tiles text start scan.tokens scan.ending.start := by
  rw [tokenize, Nat.min_eq_left hstart] at h
  exact (tiles_scanFrom (advances_drop hstart) h).1

theorem advances_tokenize (hstart : start ≤ text.length) {inParens : Bool}
    (h : tokenize text start inParens = .ok scan) : Advances 0 text scan.ending.stop scan.rest := by
  rw [tokenize, Nat.min_eq_left hstart] at h
  exact (advances_drop hstart).trans (advances_scanFrom h)

theorem ending_outside_parens (hstart : start ≤ text.length)
    (h : tokenize text start false = .ok scan) :
    scan.ending = ⟨.endOfInput, text.length, text.length⟩ := by
  have hlength := (advances_tokenize hstart h).length_add
  obtain ⟨read, left, depth, -, -, hends⟩ := reaches_tokenize text start false
  rw [h] at hends
  cases hends with
  | closed inside => cases inside
  | exhausted outside depth tokens position =>
      obtain rfl : position = text.length := by simpa using hlength
      rfl

theorem fails_outside_parens_iff :
    (∃ error, tokenize text start false = .error error) ↔ ∃ place,
      NeverCloses text start place := by
  have hreaches := reaches_tokenize text start false
  constructor
  · rintro ⟨error, herror⟩
    rw [herror] at hreaches
    obtain ⟨read, left, depth, hdrop, hpasses, hends⟩ := hreaches
    cases hends with
    | missing inside => cases inside
    | unclosed never => exact ⟨_, neverCloses_of_neverPlain hdrop hpasses.behind_eq never⟩
  · rintro ⟨place, hle, hlt, -, hnever⟩
    cases hresult : tokenize text start false with
    | error error => exact ⟨error, rfl⟩
    | ok scan =>
        rw [hresult] at hreaches
        obtain ⟨read, left, depth, hdrop, hpasses, hends⟩ := hreaches
        cases hends with
        | closed inside => cases inside
        | exhausted =>
            have hlength := congrArg List.length hdrop
            rw [List.append_nil, List.length_drop] at hlength
            have hstop : start + read.length = text.length := by omega
            have hbehind : Standing.outermost.behind read = ⟨.plain, depth⟩ := hpasses.behind_eq
            have hend := hnever text.length hlt (Nat.le_refl _)
            rw [← hstop, standingAt_add hdrop, hbehind] at hend
            exact absurd rfl hend

theorem ending_inside_parens (hstart : start ≤ text.length)
    (h : tokenize text start true = .ok scan) :
    scan.ending = ⟨.closeParen, scan.ending.start, scan.ending.start + 1⟩ ∧
      ClosesAt text start scan.ending.start ∧
      ∀ place, ClosesAt text start place → scan.ending.start ≤ place := by
  have hlength := (advances_tokenize hstart h).length_add
  obtain ⟨read, left, depth, hdrop, hpasses, hends⟩ := reaches_tokenize text start true
  rw [h] at hends
  cases hends with
  | exhausted outside => cases outside
  | closed inside tokens position rest =>
      have hread := congrArg List.length hdrop
      rw [List.length_drop, List.length_append, List.length_cons] at hread
      obtain rfl : position = start + read.length := by
        change position + 1 + rest.length = 0 + text.length at hlength
        omega
      refine ⟨rfl, closesAt_iff.2 ⟨read, rest, hdrop, rfl, hpasses.behind_eq⟩,
        fun place hplace => ?_⟩
      obtain ⟨earlier, later, hearlier, rfl, hclosing⟩ := closesAt_iff.1 hplace
      obtain ⟨more, rfl, -⟩ := hpasses.closing_behind (hdrop.symm.trans hearlier) hclosing
      change start + read.length ≤ _
      rw [List.length_append]
      omega

theorem fails_inside_parens_iff (hstart : start ≤ text.length) :
    (∃ error, tokenize text start true = .error error) ↔ ∀ place, ¬ClosesAt text start place := by
  constructor
  · rintro ⟨error, herror⟩ place hplace
    obtain ⟨read, left, depth, hdrop, hpasses, hends⟩ := reaches_tokenize text start true
    rw [herror] at hends
    obtain ⟨earlier, later, hearlier, rfl, hclosing⟩ := closesAt_iff.1 hplace
    obtain ⟨more, hmore, hleft⟩ := hpasses.closing_behind (hdrop.symm.trans hearlier) hclosing
    cases hends with
    | missing => simp at hleft
    | unclosed never => exact never.not_closing hpasses.behind_eq hmore hleft hclosing
  · intro hnone
    cases hresult : tokenize text start true with
    | error error => exact ⟨error, rfl⟩
    | ok scan => exact absurd (ending_inside_parens hstart hresult).2.1 (hnone scan.ending.start)

end Tokenize

/-- Nothing of an argument list is lost. Its tokens and white space cover the text from `start` up
to the ending, in order and without overlap, and each token is spelled in its span. Outside
parentheses the ending is the end of the text, unless a quote never closes. Inside of them it is the
first closing parenthesis outside quotes that matches none since `start`, unless there is none, be
it that a quote in front of it never closes. -/
theorem tokenize_loses_nothing {text : List Char} {start : Nat} (hstart : start ≤ text.length) :
    (∀ inParens scan, tokenize text start inParens = .ok scan →
        Tiles text start scan.tokens scan.ending.start ∧
        scan.tokens.Pairwise (fun first second => first.stop ≤ second.start) ∧
        scan.ending.stop ≤ text.length) ∧
      (∀ scan, tokenize text start false = .ok scan →
        scan.ending = ⟨.endOfInput, text.length, text.length⟩) ∧
      ((∃ error, tokenize text start false = .error error) ↔
        ∃ place, NeverCloses text start place) ∧ (∀ scan, tokenize text start true = .ok scan →
          scan.ending = ⟨.closeParen, scan.ending.start, scan.ending.start + 1⟩ ∧
          ClosesAt text start scan.ending.start ∧
          ∀ place, ClosesAt text start place → scan.ending.start ≤ place) ∧
      ((∃ error, tokenize text start true = .error error) ↔
        (∃ place, NeverCloses text start place ∧ ∀ close, ClosesAt text start close →
          place < close) ∨ ∀ place, ¬ClosesAt text start place) := by
  refine ⟨fun inParens scan h => ?_, fun scan => ending_outside_parens hstart,
    fails_outside_parens_iff, fun scan => ending_inside_parens hstart, ?_⟩
  · have htiles := tiles_tokenize hstart h
    have hlength := (advances_tokenize hstart h).length_add
    exact ⟨htiles, htiles.pairwise, by omega⟩
  · rw [fails_inside_parens_iff hstart]
    constructor
    · exact .inr
    · rintro (⟨place, hnever, hbehind⟩ | hnone)
      · exact fun close hclose => hnever.not_closesAt (hbehind close hclose) hclose
      · exact hnone

def crowdedText : List Char :=
  "@GqlField(\"a\\\")\" 'b)' f(c d), e) // )".toList

theorem tokenize_loses_nothing_crowded :
    (∃ scan, tokenize crowdedText 10 true = .ok scan ∧ Tiles crowdedText 10 scan.tokens 31 ∧
        scan.tokens.map (·.value) = ["a\")", "b)", "f(c", "d)", ",", "e"] ∧
        ClosesAt crowdedText 10 31 ∧ ∀ place, ClosesAt crowdedText 10 place → 31 ≤ place) ∧
      ∃ place, NeverCloses "a 'b".toList 0 place := by
  have hstart : 10 ≤ crowdedText.length := by decide
  have hopen : 0 ≤ "a 'b".toList.length := Nat.zero_le _
  obtain ⟨hcovers, -, -, hclosed, -⟩ := tokenize_loses_nothing hstart
  obtain ⟨-, -, hfails, -, -⟩ := tokenize_loses_nothing hopen
  refine ⟨?_, hfails.1 ⟨⟨.unterminatedQuotedList, "'b".toList, 2, none⟩, by decide +kernel⟩⟩
  have hscan : tokenize crowdedText 10 true =
      .ok ⟨[⟨.string, "a\")", 10, 16⟩, ⟨.quotedList, "b)", 17, 21⟩, ⟨.word, "f(c", 22, 25⟩,
        ⟨.word, "d)", 26, 28⟩,
        ⟨.comma, ",", 28, 29⟩, ⟨.word, "e", 30, 31⟩], ⟨.closeParen, 31, 32⟩, " // )".toList⟩ := by
          decide +kernel
  exact ⟨_, hscan, (hcovers true _ hscan).1, rfl, (hclosed _ hscan).2⟩

end SchemaViews.Directive
