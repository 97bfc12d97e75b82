import SchemaViews.Proofs.GoSource.FieldLines
import SchemaViews.Proofs.GoSource.Steps

/-!
# Bodies of structs

What is written between the braces of a struct: fields, and nested structs with bodies of their own.
A nested body is left behind by counting braces, so it adds nothing, however deep it goes. It is
only taken for one if the line that opens it ends with its brace.
-/

namespace SchemaViews.GoSource

open SchemaViews.Text

/-! ### Braces -/

def braceBalance (text : List Char) : Int :=
  text.count '\x7b' - text.count '\x7d'

structure IsBraceless (text : List Char) : Prop where
  no_open : '\x7b' ∉ text
  no_close : '\x7d' ∉ text

theorem isBraceless_nil : IsBraceless [] :=
  ⟨List.not_mem_nil, List.not_mem_nil⟩

instance (text : List Char) : Decidable (IsBraceless text) :=
  decidable_of_iff (_ ∧ _) ⟨fun h => ⟨h.1, h.2⟩, fun h => ⟨h.no_open, h.no_close⟩⟩

/-- Braces in pairs: none is closed before it is opened, and none is left open. -/
structure IsBalanced (text : List Char) : Prop where
  opened : ∀ start, start <+: text → 0 ≤ braceBalance start
  closed : braceBalance text = 0

variable {text first second line name type tail raw : List Char} {comment : Option (List Char)}

theorem braceBalance_append (first second : List Char) :
    braceBalance (first ++ second) = braceBalance first + braceBalance second := by
  simp only [braceBalance, List.count_append, Int.natCast_add]
  omega

theorem IsBraceless.balance (h : IsBraceless text) : braceBalance text = 0 := by
  rw [braceBalance, List.count_eq_zero.2 h.no_open, List.count_eq_zero.2 h.no_close, Int.sub_self]

theorem isBraceless_of_forall {accept : Char → Bool} (h : ∀ c ∈ text, accept c = true)
    (hopen : accept '\x7b' = false) (hclose : accept '\x7d' = false) : IsBraceless text := by
  constructor <;> intro hmem
  · rw [h _ hmem] at hopen
    cases hopen
  · rw [h _ hmem] at hclose
    cases hclose

theorem isBraceless_of_areBlanks (h : AreBlanks text) : IsBraceless text :=
  isBraceless_of_forall h (by decide) (by decide)

theorem IsBraceless.isBalanced (h : IsBraceless text) : IsBalanced text := by
  refine ⟨fun start hstart => ?_, h.balance⟩
  have hpart : IsBraceless start :=
    ⟨fun hmem => h.no_open (hstart.subset hmem), fun hmem => h.no_close (hstart.subset hmem)⟩
  exact Int.le_of_eq hpart.balance.symm

theorem IsBalanced.getLast?_ne (h : IsBalanced text) : text.getLast? ≠ some '\x7b' := by
  intro hlast
  obtain ⟨start, rfl⟩ := List.getLast?_eq_some_iff.1 hlast
  have hstart := h.opened start (List.prefix_append start _)
  have htext := h.closed
  rw [braceBalance_append, show braceBalance ['\x7b'] = 1 from rfl] at htext
  omega

/-! ### What is written in a body -/

/-- An entry of a body: a field, or a nested struct with the comment behind its opening brace. -/
inductive BodyEntry where
  | field (name type : List Char)
  | nested (comment : Option (List Char))

/-- The capitals of all scripts, by any notion that has just those of ASCII
among the characters of ASCII. -/
structure Capitals where
  isCapital : Char → Bool
  ascii : ∀ c : Char, c.toNat < 128 → isCapital c = c.isUpper

/-- A field is exported if its name starts with a capital. -/
def BodyEntry.exported? (capitals : Capitals) : BodyEntry → Option (String × String)
  | .field name type =>
    if name.head?.any capitals.isCapital then
      some (String.ofList name, String.ofList type)
    else none
  | .nested _ => none

/-- A name in the source. Not every name is an identifier to the extraction, which
wants it to start in ASCII. -/
structure IsName (name : List Char) : Prop where
  ne_nil : name ≠ []
  word : ∀ c ∈ name, isWordChar c = true

instance (name : List Char) : Decidable (IsName name) :=
  decidable_of_iff (name ≠ [] ∧ name.all isWordChar = true)
    ⟨fun h => ⟨h.1, List.all_eq_true.1 h.2⟩, fun h => ⟨h.ne_nil, List.all_eq_true.2 h.word⟩⟩

inductive IsPlainField (name type : List Char) : List Char → Prop where
  | written {gap tail : List Char} {tag comment : Option (List Char)} (hname : IsName name)
      (hgap : gap ≠ []) (hblanks : AreBlanks gap) (htype : IsTypeText type)
      (hbalanced : IsBalanced type) (htail : IsFieldTail tail tag comment)
      (hbare : IsBraceless tail) : IsPlainField name type (name ++ (gap ++ (type ++ tail)))

/-- The line that opens a struct: a name, the word, a brace and maybe a comment. -/
inductive IsOpening (name : List Char) (comment : Option (List Char)) : List Char → Prop where
  | written {gap between tail : List Char} (hname : IsName name) (hgap : gap ≠ [])
      (hblanks : AreBlanks gap) (hbetween : AreBlanks between)
      (htail : IsFieldTail tail none comment) (hbare : IsBraceless tail) :
      IsOpening name comment (name ++ (gap ++ ("struct".toList ++ (between ++ '\x7b' :: tail))))

inductive IsClosing : List Char → Prop where
  | written {tail : List Char} (hbare : IsBraceless tail) : IsClosing ('\x7d' :: tail)

/-- The lines of a body, and what they write on its own level. -/
inductive IsBody : List (List Char) → List BodyEntry → Prop where
  | nil : IsBody [] []
  | skip {raw : List Char} {lines : List (List Char)} {entries : List BodyEntry}
      (hskipped : IsSkipped raw) (hrest : IsBody lines entries) : IsBody (raw :: lines) entries
  | field {raw name type : List Char} {lines : List (List Char)} {entries : List BodyEntry}
      (hfield : IsPlainField name type (strip raw)) (hrest : IsBody lines entries) :
      IsBody (raw :: lines) (.field name type :: entries)
  | nested {opening closing name : List Char} {comment : Option (List Char)}
      {inner lines : List (List Char)} {innerEntries entries : List BodyEntry}
      (hopening : IsOpening name comment (strip opening)) (hinner : IsBody inner innerEntries)
      (hclosing : IsClosing (strip closing)) (hrest : IsBody lines entries) :
      IsBody (opening :: (inner ++ closing :: lines)) (.nested comment :: entries)

/-! ### Single lines -/

theorem IsOpening.spaced (hline : line = name ++ (" struct \x7b".toList ++ tail))
    (hname : IsName name) (htail : IsFieldTail tail none comment) (hbare : IsBraceless tail) :
    IsOpening name comment line := by
  rw [hline]
  exact .written hname (List.cons_ne_nil _ _) areBlanks_space areBlanks_space htail hbare

theorem IsPlainField.simple (hline : line = name ++ ' ' :: type) (hname : IsName name)
    (htype : IsTypeText type) (hbare : IsBraceless type) : IsPlainField name type line := by
  have hfield : IsPlainField name type (name ++ ([' '] ++ (type ++ []))) :=
    .written hname (List.cons_ne_nil _ _) areBlanks_space htype hbare.isBalanced
      (fieldTail?_eq_some_iff.1 rfl) isBraceless_nil
  rwa [List.append_nil, List.singleton_append, ← hline] at hfield

theorem IsName.isBraceless (h : IsName name) : IsBraceless name :=
  isBraceless_of_forall h.word (by decide +kernel) (by decide +kernel)

theorem IsName.exists_head (h : IsName name) (rest : List Char) :
    ∃ c, (name ++ rest).head? = some c ∧ isWordChar c = true := by
  obtain ⟨c, more, rfl⟩ := List.exists_cons_of_ne_nil h.ne_nil
  exact ⟨c, rfl, h.word c List.mem_cons_self⟩

theorem IsPlainField.exists_head (h : IsPlainField name type line) :
    ∃ c, line.head? = some c ∧ isWordChar c = true := by
  cases h with
  | written hname => exact hname.exists_head _

theorem IsOpening.exists_head (h : IsOpening name comment line) :
    ∃ c, line.head? = some c ∧ isWordChar c = true := by
  cases h with
  | written hname => exact hname.exists_head _

theorem IsPlainField.balance (h : IsPlainField name type line) : braceBalance line = 0 := by
  cases h with
  | written hname hgap hblanks htype hbalanced htail hbare =>
      have hgap := (isBraceless_of_areBlanks hblanks).balance
      simp only [braceBalance_append, hname.isBraceless.balance, hgap, hbalanced.closed,
        hbare.balance, Int.add_zero]

theorem IsOpening.balance (h : IsOpening name comment line) : braceBalance line = 1 := by
  cases h with
  | @written gap between tail hname hgap hblanks hbetween htail hbare =>
      have hgap := (isBraceless_of_areBlanks hblanks).balance
      have hspace := (isBraceless_of_areBlanks hbetween).balance
      rw [← List.singleton_append]
      simp only [braceBalance_append, hname.isBraceless.balance, hgap, hspace, hbare.balance]
      rfl

theorem IsClosing.balance (h : IsClosing line) : braceBalance line = -1 := by
  cases h with
  | @written tail hbare =>
      rw [← List.singleton_append, braceBalance_append, hbare.balance]
      rfl

theorem IsClosing.head? (h : IsClosing line) : line.head? = some '\x7d' := by
  cases h with
  | written => rfl

theorem IsPlainField.getLast?_ne (h : IsPlainField name type line) :
    line.getLast? ≠ some '\x7b' := by
  cases h with
  | @written gap tail tag comment hname hgap hblanks htype hbalanced htail hbare =>
      intro hlast
      rw [List.getLast?_append, List.getLast?_append, List.getLast?_append] at hlast
      cases htext : tail.getLast? with
      | some c =>
          rw [htext] at hlast
          cases hlast
          exact hbare.no_open (List.mem_of_getLast? htext)
      | none =>
          cases htype' : type.getLast? with
          | none => exact htype.ne_nil (List.getLast?_eq_none_iff.1 htype')
          | some c =>
              rw [htext, htype'] at hlast
              cases hlast
              exact hbalanced.getLast?_ne htype'

theorem IsOpening.getLast? (h : IsOpening name none (strip raw)) :
    (strip raw).getLast? = some '\x7b' := by
  generalize hline : strip raw = line at h
  cases h with
  | @written gap between tail hname hgap hblanks hbetween htail hbare =>
      have hsplit : name ++ (gap ++ ("struct".toList ++ (between ++ '\x7b' :: tail))) =
          (name ++ (gap ++ ("struct".toList ++ between))) ++ '\x7b' :: tail := by
        simp only [List.append_assoc]
      rw [hsplit] at hline ⊢
      rw [List.getLast?_append]
      cases hlast : tail.getLast? with
      | none =>
          rw [List.getLast?_eq_none_iff.1 hlast]
          rfl
      | some c =>
          -- a blank at the end would have been stripped
          have hend : (strip raw).getLast? = some c := by
            rw [hline, List.getLast?_append, List.getLast?_cons, hlast]
            rfl
          have hblank := htail.areBlanks c (List.mem_of_getLast? hlast)
          rw [not_isBlank_of_getLast?_strip raw c hend] at hblank
          cases hblank

theorem toNat_lt_of_isIdentifierStart {c : Char} (h : isIdentifierStart c = true) :
    c.toNat < 128 := by
  rw [isIdentifierStart, Bool.or_eq_true, beq_iff_eq] at h
  rcases h with halpha | rfl
  · exact Text.toNat_lt_of_isAlpha halpha
  · decide

theorem isIdentifierStart_of_isUpper {c : Char} (h : c.isUpper = true) :
    isIdentifierStart c = true := by
  have halpha : c.isAlpha = true := by
    change (c.isUpper || c.isLower) = true
    rw [h, Bool.true_or]
  rw [isIdentifierStart, halpha, Bool.true_or]

/-- A field is a member if it is exported. A name that starts outside of ASCII is not read, so it
must not start with a capital there. -/
theorem IsPlainField.declares (capitals : Capitals)
    (hstart : ∀ c ∈ name.head?, capitals.isCapital c = true → c.toNat < 128)
    (h : IsPlainField name type line) (comments : List String) :
    (fieldMembers line comments).map (fun member => (member.declaredName, member.declaredType)) =
      ((BodyEntry.field name type).exported? capitals).toList := by
  cases h with
  | @written gap tail tag comment hname hgap hblanks htype hbalanced htail hbare =>
      obtain ⟨c, more, rfl⟩ := List.exists_cons_of_ne_nil hname.ne_nil
      rw [fieldMembers, BodyEntry.exported?]
      by_cases hidentifier : isIdentifierStart c = true
      · have hupper := capitals.ascii c (toNat_lt_of_isIdentifierStart hidentifier)
        rw [fieldLine?_single ⟨⟨c, more, rfl, hidentifier⟩, hname.word⟩ hgap hblanks htype htail]
        cases hc : c.isUpper <;> simp [hupper, hc]
      · have hunread : fieldLine? ((c :: more) ++ (gap ++ (type ++ tail))) = none := by
          rw [fieldLine?, List.cons_append, identifier?, if_neg hidentifier]
          rfl
        have hlower : ¬capitals.isCapital c = true := by
          intro hupper
          rw [capitals.ascii c (hstart c rfl hupper)] at hupper
          exact hidentifier (isIdentifierStart_of_isUpper hupper)
        rw [hunread]
        simp [hlower]

/-! ### Line by line -/

variable {source : Option String} {state : State} {pending : Pending} {depth : Int}
    {found : Extraction}

structure State.Inside (state : State) (pending : Pending) (depth : Int) (found : Extraction) :
    Prop where
  position : state.position = .inStruct pending depth
  extraction : state.extraction = found
  code : state.inComment = false

namespace State.Inside

theorem skip (h : state.Inside pending depth found) (hskipped : IsSkipped raw) :
    (state.line source raw).Inside pending depth found := by
  obtain ⟨comments, hline⟩ := State.line_of_isSkipped source h.code hskipped
  rw [hline]
  exact ⟨h.position, h.extraction, h.code⟩

theorem line_eq {c : Char} (h : state.Inside pending depth found)
    (hhead : (strip raw).head? = some c) (hc : c ≠ '/') :
    state.line source raw = state.structLine pending depth (strip raw) := by
  rw [State.line_of_head h.code hhead hc, h.position]

variable (source) in
/-- A line of a nested body, or one that opens it, only counts its braces. -/
theorem count {c : Char} (h : state.Inside pending depth found) (hhead : (strip raw).head? = some c)
    (hc : c ≠ '/') (hopen : 1 < depth ∨ c ≠ '\x7d' ∧ (strip raw).getLast? = some '\x7b') :
    (state.line source raw).Inside pending (depth + braceBalance (strip raw)) found := by
  have hstays : ¬(depth = 1 && (strip raw).head? == some '\x7d') = true := by
    rw [Bool.and_eq_true, decide_eq_true_eq, beq_iff_eq, hhead, Option.some.injEq]
    rintro ⟨hdepth, hbrace⟩
    rcases hopen with hlt | ⟨hne, -⟩
    · omega
    · exact hne hbrace
  have hnested : (decide (1 < depth) || (strip raw).getLast? == some '\x7b') = true := by
    rw [Bool.or_eq_true, decide_eq_true_eq, beq_iff_eq]
    exact hopen.imp_right And.right
  rw [h.line_eq hhead hc, State.structLine, if_neg hstays, if_pos hnested]
  refine ⟨?_, h.extraction, h.code⟩
  rw [braceBalance, Int.add_sub_assoc]

variable (source) in
/-- Every other line of the body itself is read as a field line. -/
theorem field {c : Char} (h : state.Inside pending 1 found) (hhead : (strip raw).head? = some c)
    (hc : c ≠ '/') (hstays : c ≠ '\x7d') (hlast : (strip raw).getLast? ≠ some '\x7b') :
    (state.line source raw).Inside
      { pending with members := pending.members ++ fieldMembers (strip raw) state.comments } 1
        found := by
  rw [h.line_eq hhead hc, State.structLine, if_neg (by simpa [hhead] using hstays),
    if_neg (by simpa using hlast)]
  exact ⟨rfl, h.extraction, h.code⟩

theorem close (h : state.Inside pending 1 found) (hhead : (strip raw).head? = some '\x7d') :
    (state.line source raw).extraction = found.addType pending := by
  rw [h.line_eq hhead (by decide), State.structLine, if_pos (by rw [hhead]; rfl), ← h.extraction]

end State.Inside

theorem ne_of_isWordChar {c d : Char} (hc : isWordChar c = true) (hd : isWordChar d = false) :
    c ≠ d := by
  rintro rfl
  rw [hc] at hd
  cases hd

theorem IsOpening.count (h : IsOpening name comment (strip raw))
    (hstate : state.Inside pending depth found) (hopen : 1 < depth ∨ comment = none) :
    (state.line source raw).Inside pending (depth + 1) found := by
  obtain ⟨c, hhead, hword⟩ := h.exists_head
  rw [← h.balance]
  apply hstate.count source hhead (ne_of_isWordChar hword (by decide))
  rcases hopen with hdepth | rfl
  · exact .inl hdepth
  · exact .inr ⟨ne_of_isWordChar hword (by decide), h.getLast?⟩

theorem IsClosing.count (h : IsClosing (strip raw))
    (hstate : state.Inside pending (depth + 1) found) (hdepth : 1 ≤ depth) :
    (state.line source raw).Inside pending depth found := by
  have hline := hstate.count source h.head? (by decide) (.inl (by omega))
  rwa [h.balance, Int.add_neg_cancel_right] at hline

variable {lines : List (List Char)} {entries : List BodyEntry}

/-- Nothing of a nested body is taken, at whatever depth. -/
theorem IsBody.deeper (h : IsBody lines entries) (hdepth : 1 < depth)
    (hstate : state.Inside pending depth found) :
    (lines.foldl (State.line source) state).Inside pending depth found := by
  induction h generalizing depth state with
  | nil => exact hstate
  | skip hskipped _ ih => exact ih hdepth (hstate.skip hskipped)
  | @field raw name type _ _ hfield _ ih =>
      apply ih hdepth
      obtain ⟨c, hhead, hword⟩ := hfield.exists_head
      have hline := hstate.count source hhead (ne_of_isWordChar hword (by decide)) (.inl hdepth)
      rwa [hfield.balance, Int.add_zero] at hline
  | nested hopening _ hclosing _ ihInner ih =>
      rw [List.foldl_cons, List.foldl_append, List.foldl_cons]
      -- from behind the closing line back to the opening one, which is one level up
      apply ih hdepth
      apply hclosing.count _ (Int.le_of_lt hdepth)
      apply ihInner (by omega)
      exact hopening.count hstate (.inl hdepth)

variable (source) in
/-- The fields of the outermost body are taken, and nothing else. -/
theorem IsBody.outermost (capitals : Capitals) (h : IsBody lines entries)
    (hstart : ∀ name type, .field name type ∈ entries →
      ∀ c ∈ name.head?, capitals.isCapital c = true → c.toNat < 128)
    (hbare : ∀ comment, .nested comment ∈ entries → comment = none)
    (hstate : state.Inside pending 1 found) :
    ∃ members, (lines.foldl (State.line source) state).Inside
      { pending with members := pending.members ++ members } 1 found ∧
      members.map (fun member => (member.declaredName, member.declaredType)) =
        entries.filterMap (BodyEntry.exported? capitals) := by
  induction h generalizing pending state with
  | nil =>
      refine ⟨[], ?_, rfl⟩
      rw [List.append_nil]
      exact hstate
  | skip hskipped _ ih => exact ih hstart hbare (hstate.skip hskipped)
  | @field raw name type _ entries hfield _ ih =>
      obtain ⟨c, hhead, hword⟩ := hfield.exists_head
      have hline := hstate.field source hhead (ne_of_isWordChar hword (by decide))
        (ne_of_isWordChar hword (by decide)) hfield.getLast?_ne
      obtain ⟨members, hrun, hmembers⟩ :=
        ih (fun name type hmem => hstart name type (List.mem_cons_of_mem _ hmem))
        (fun comment hmem => hbare comment (List.mem_cons_of_mem _ hmem)) hline
      refine ⟨fieldMembers (strip raw) state.comments ++ members, ?_, ?_⟩
      · rwa [← List.append_assoc]
      · rw [List.map_append, hfield.declares capitals (hstart name type List.mem_cons_self),
          hmembers, List.filterMap_cons]
        cases (BodyEntry.field name type).exported? capitals <;> rfl
  | @nested opening closing name comment inner _ _ _ hopening hinner hclosing _ _ ih =>
      rw [List.foldl_cons, List.foldl_append, List.foldl_cons]
      apply ih (fun name type hmem => hstart name type (List.mem_cons_of_mem _ hmem))
        fun comment hmem => hbare comment (List.mem_cons_of_mem _ hmem)
      apply hclosing.count _ (Int.le_refl 1)
      -- the inner body is on the second level, so all of it is left out
      apply hinner.deeper (by decide)
      exact hopening.count hstate (.inr (hbare comment List.mem_cons_self))

/-! ### Whole structs -/

inductive IsStructHeader (name : List Char) : List Char → Prop where
  | written {gap opening : List Char} {comment : Option (List Char)} (hgap : gap ≠ [])
      (hblanks : AreBlanks gap) (hname : IsIdentifier name)
      (hopening : IsOpening name comment opening) :
      IsStructHeader name ("type".toList ++ (gap ++ opening))

theorem IsStructHeader.structHeader? (h : IsStructHeader name line) :
    ∃ tail, structHeader? line = some (name, tail) ∧ '\x7d' ∉ tail := by
  cases h with
  | @written keywordGap _ _ hgap hblanks hname hopening =>
      cases hopening with
      | @written gap between tail _ hgap' hblanks' hbetween htail hbare =>
          refine ⟨tail, ?_, hbare.no_close⟩
          have hword : ∀ c ∈ ("struct".toList ++ (between ++ '\x7b' :: tail)).head?,
              isBlank c = false :=
            forall_mem_head?_cons (by decide) _
          have hheader : typeHeader? ("type".toList ++
              (keywordGap ++ (name ++ (gap ++ ("struct".toList ++ (between ++ '\x7b' :: tail)))))) =
              some (name, "struct".toList ++ (between ++ '\x7b' :: tail)) := by
            rw [typeHeader?, dropStart?_eq_some_iff.2 rfl]
            simp only [Option.bind_eq_bind, Option.bind_some]
            rw [blanks?_eq_some_iff.2 ⟨_, rfl, hgap, hblanks, hname.not_isBlank _⟩]
            simp only [Option.bind_some]
            rw [identifier?_eq_some_iff.2 ⟨rfl, hname, hblanks'.not_isWordChar hgap' _⟩]
            simp only [Option.bind_some]
            rw [blanks?_eq_some_iff.2 ⟨_, rfl, hgap', hblanks', hword⟩]
            rfl
          rw [structHeader?, hheader]
          simp only [Option.bind_eq_bind, Option.bind_some]
          rw [dropStart?_eq_some_iff.2 rfl]
          simp only [Option.bind_some]
          rw [stripStart_append_cons hbetween (by decide)]
          rfl

theorem IsStructHeader.opens (h : IsStructHeader name (strip raw)) (source : Option String) :
    (State.line source { extraction := {} } raw).Inside ⟨.object, String.ofList name, "", source,
      []⟩ 1 {} := by
  obtain ⟨tail, hheader, hopen⟩ := h.structHeader?
  have hhead : (strip raw).head? = some 't' := by
    generalize strip raw = line at h
    cases h
    rfl
  rw [State.line_of_head rfl hhead (by decide)]
  simp only [State.topLine, hheader]
  rw [if_neg (by simpa using hopen)]
  exact ⟨rfl, rfl, rfl⟩

/-- A struct has the exported fields of its own body as members, and nothing of the bodies inside
it, if no comment stands behind the brace that opens one of these. Names are read from ASCII on, so
the capital that exports a field has to be of ASCII. -/
theorem members_of_struct {text name header closing : List Char} {body : List (List Char)}
    {entries : List BodyEntry} (capitals : Capitals) (source : Option String)
    (htext : splitLines text = header :: (body ++ [closing]))
    (hheader : IsStructHeader name (strip header)) (hbody : IsBody body entries)
    (hclosing : IsClosing (strip closing)) (hstart : ∀ name type, .field name type ∈ entries →
      ∀ c ∈ name.head?, capitals.isCapital c = true → c.toNat < 128)
    (hbare : ∀ comment, .nested comment ∈ entries → comment = none) :
    ∃ members, extract text source = [⟨.object, String.ofList name, "", members, source⟩] ∧
      members.map (fun member => (member.declaredName, member.declaredType)) =
        entries.filterMap (BodyEntry.exported? capitals) := by
  obtain ⟨members, hrun, hmembers⟩ :=
    hbody.outermost source capitals hstart hbare (hheader.opens source)
  refine ⟨members, ?_, hmembers⟩
  calc
    extract text source =
        ((body.foldl (State.line source) (State.line source { extraction := {} } header)).line
          source closing).extraction.declarations := by
      rw [extract, Extraction.feed, htext, List.foldl_cons, List.foldl_append, List.foldl_cons,
        List.foldl_nil]
    _ = [⟨.object, String.ofList name, "", members, source⟩] := by
      rw [hrun.close hclosing.head?]
      rfl

def orderText (behind : String) : List Char :=
  ("type Order struct \x7b\n\tID string\n\tAddress struct \x7b" ++ behind ++
    "\n\t\tStreet string\n\t\x7d\n\tTotal float64\n\x7d\n").toList

def orderBody (behind : String) : List (List Char) :=
  ["\tID string".toList, ("\tAddress struct \x7b" ++ behind).toList, "\t\tStreet string".toList,
    "\t\x7d".toList, "\tTotal float64".toList]

def orderEntries (comment : Option String) : List BodyEntry :=
  [.field "ID".toList "string".toList, .nested (comment.map String.toList),
    .field "Total".toList "float64".toList]

theorem isOpening_address (behind : String) (comment : Option String)
    (htail : IsFieldTail behind.toList none (comment.map String.toList))
    (hbare : IsBraceless behind.toList)
    (hstrip : strip ("\tAddress struct \x7b" ++ behind).toList = "Address struct \x7b".toList ++
      behind.toList) :
    IsOpening "Address".toList (comment.map String.toList)
      (strip ("\tAddress struct \x7b" ++ behind).toList) :=
  .spaced hstrip (by decide) htail hbare

theorem isStructHeader_order :
    IsStructHeader "Order".toList (strip "type Order struct \x7b".toList) := by
  have hname : IsIdentifier "Order".toList := by decide
  have hopening : IsOpening "Order".toList none "Order struct \x7b".toList :=
    .spaced (show _ = "Order".toList ++ (" struct \x7b".toList ++ []) from rfl) (by decide)
      (fieldTail?_eq_some_iff.1 rfl)
      isBraceless_nil
  have hheader := IsStructHeader.written (List.cons_ne_nil ' ' []) areBlanks_space hname hopening
  exact hheader

theorem isBody_order {behind : String} {comment : Option String}
    (hopening : IsOpening "Address".toList (comment.map String.toList)
      (strip ("\tAddress struct \x7b" ++ behind).toList)) :
    IsBody (orderBody behind) (orderEntries comment) := by
  have hstring : IsTypeText "string".toList := by decide
  have hid : IsPlainField "ID".toList "string".toList (strip "\tID string".toList) :=
    .simple rfl (by decide) hstring (by decide)
  have hstreet : IsPlainField "Street".toList "string".toList (strip "\t\tStreet string".toList) :=
    .simple rfl (by decide) hstring (by decide)
  have htotal : IsPlainField "Total".toList "float64".toList (strip "\tTotal float64".toList) :=
    .simple rfl (by decide) (by decide) (by decide)
  have hclosing : IsClosing (strip "\t\x7d".toList) := .written isBraceless_nil
  exact .field hid (.nested hopening (.field hstreet .nil) hclosing (.field htotal .nil))

theorem isClosing_order : IsClosing (strip "\x7d".toList) :=
  .written isBraceless_nil

/-- The letters that have a small counterpart. -/
def withCounterpart : Capitals where
  isCapital c := c.isUpper || Text.counterpart Text.lowerRuns c != c
  ascii c hc := by
    have hcodes : ∀ code < 128, ((Char.ofNat code).isUpper ||
        Text.counterpart Text.lowerRuns (Char.ofNat code) != Char.ofNat code) =
          (Char.ofNat code).isUpper := by
      decide +kernel
    have hcode := hcodes c.toNat hc
    rwa [Char.ofNat_toNat] at hcode

theorem members_of_struct_order :
    ∃ members, extract (orderText "") none = [⟨.object, "Order", "", members, none⟩] ∧
      members.map (fun member => (member.declaredName, member.declaredType)) =
      [("ID", "string"), ("Total", "float64")] := by
  have hopening := isOpening_address "" none (fieldTail?_eq_some_iff.1 rfl) (by decide) rfl
  have hstart : ∀ name type, .field name type ∈ orderEntries none →
      ∀ c ∈ name.head?, withCounterpart.isCapital c = true → c.toNat < 128 := by
    intro name type hmem c hc _
    simp only [orderEntries, List.mem_cons, BodyEntry.field.injEq, reduceCtorEq, List.not_mem_nil,
      or_false, false_or] at hmem
    rcases hmem with ⟨rfl, -⟩ | ⟨rfl, -⟩ <;> (cases hc; decide)
  have hexported : (orderEntries none).filterMap (BodyEntry.exported? withCounterpart) =
      [("ID", "string"), ("Total", "float64")] := by
    decide +kernel
  rw [← hexported]
  exact members_of_struct withCounterpart none (by decide +kernel) isStructHeader_order
    (isBody_order hopening)
    isClosing_order hstart (by simp [orderEntries])

/-- Behind a brace with a comment, the inner struct is read as fields of the outer one, which
then ends with the inner one. -/
theorem commented_body_is_not_skipped :
    splitLines (orderText " // where") = "type Order struct \x7b".toList ::
      (orderBody " // where" ++ ["\x7d".toList]) ∧
      IsStructHeader "Order".toList (strip "type Order struct \x7b".toList) ∧
      IsBody (orderBody " // where") (orderEntries (some "// where")) ∧
      IsClosing (strip "\x7d".toList) ∧
      extract (orderText " // where") none =
        [⟨.object, "Order", "",
          [⟨"ID", "string", "", none⟩, ⟨"Address", "struct \x7b", "// where", none⟩,
            ⟨"Street", "string", "", none⟩], none⟩] ∧
      ¬∃ members, extract (orderText " // where") none = [⟨.object, "Order", "", members, none⟩] ∧
        members.map (fun member => (member.declaredName, member.declaredType)) =
          (orderEntries (some "// where")).filterMap (BodyEntry.exported? withCounterpart) := by
  have hread : extract (orderText " // where") none =
      [⟨.object, "Order", "",
        [⟨"ID", "string", "", none⟩, ⟨"Address", "struct \x7b", "// where", none⟩,
          ⟨"Street", "string", "", none⟩], none⟩] := by
    decide +kernel
  have hopening := isOpening_address " // where" (some "// where") (fieldTail?_eq_some_iff.1 rfl)
    (by decide) rfl
  refine ⟨by decide +kernel, isStructHeader_order, isBody_order hopening, isClosing_order, hread,
    ?_⟩
  rintro ⟨members, hmembers, hfields⟩
  rw [hread] at hmembers
  cases hmembers
  exact absurd hfields (by decide +kernel)

end SchemaViews.GoSource
