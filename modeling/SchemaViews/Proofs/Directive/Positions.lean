import Mathlib.Data.List.Basic
import SchemaViews.Proofs.Directive.Tiling
import SchemaViews.Proofs.Directive.Remainder

/-!
# What stands at a reported position

Arguments are reported by the position of their key, and faults by the position of the text
that they are about. Every reader keeps the positions of what it reads, so the key or the text
is found there again. The payload of a tag is read without its escapes: behind the first of
them a position counts the characters of what the payload stands for, and it falls short of
the place in the annotation.
-/

namespace SchemaViews.Directive

open SchemaViews.Text

theorem slice_prefix_drop (text : List Char) (start stop : Nat) :
    slice text start stop <+: text.drop start :=
  List.take_prefix _ _

theorem snippet_prefix_drop (text : List Char) (start stop : Nat) :
    snippet text start stop <+: text.drop start := by
  rw [snippet]
  split
  · exact slice_prefix_drop text start (start + 20)
  · exact slice_prefix_drop text start stop

/-- The text that a fault is about stands at its position. -/
def SyntaxError.PointsInto (error : SyntaxError) (text : List Char) : Prop :=
  ∃ position : Nat, error.position = position ∧ error.text <+: text.drop position

theorem SyntaxError.pointsInto_atToken (cause : SyntaxCause) (text : List Char) (token : Token) :
    (SyntaxError.atToken cause text token).PointsInto text :=
  ⟨token.start, rfl, snippet_prefix_drop text token.start token.stop⟩

theorem SyntaxError.pointsInto_atEnding (cause : SyntaxCause) (text : List Char) (ending : Ending) :
    (SyntaxError.atEnding cause text ending).PointsInto text :=
  ⟨ending.start, rfl, snippet_prefix_drop text ending.start ending.stop⟩

theorem SyntaxError.pointsInto_rest {text rest : List Char} {position : Nat} (cause : SyntaxCause)
    (hplace : Advances 0 text position rest) :
    SyntaxError.PointsInto ⟨cause, rest, position, none⟩ text := by
  refine ⟨position, rfl, [], ?_⟩
  rw [List.append_nil, hplace.drop_eq]

theorem pointsInto_unclosedAt {start : Nat} (text : List Char) (hstart : start ≠ 0) :
    (unclosedAt text start).PointsInto text := by
  unfold unclosedAt
  rw [if_neg hstart]
  refine ⟨start - 1, ?_, List.prefix_rfl⟩
  change (start : Int) - 1 = ((start - 1 : Nat) : Int)
  omega

/-- A reading that succeeds gives something good, and one that fails gives an admissible fault. -/
inductive Reports {α : Type} (good : α → Prop) (fault : SyntaxError → Prop) :
    Except SyntaxError α → Prop where
  | ok {value : α} (h : good value) : Reports good fault (.ok value)
  | error {error : SyntaxError} (h : fault error) : Reports good fault (.error error)

namespace Reports

variable {α β : Type} {good : α → Prop} {goodNext : β → Prop} {fault : SyntaxError → Prop}
  {result : Except SyntaxError α}

theorem map (h : Reports good fault result) {f : α → β}
    (hvalue : ∀ value, good value → goodNext (f value)) :
    Reports goodNext fault (result.map f) := by
  cases h with
  | ok hgood => exact .ok (hvalue _ hgood)
  | error hfault => exact .error hfault

theorem bind (h : Reports good fault result) {f : α → Except SyntaxError β}
    (hvalue : ∀ value, result = .ok value → good value → Reports goodNext fault (f value)) :
    Reports goodNext fault (result.bind f) := by
  cases h with
  | ok hgood => exact hvalue _ rfl hgood
  | error hfault => exact .error hfault

theorem weaken {faultNext : SyntaxError → Prop} (h : Reports good fault result)
    (hfault : ∀ error, fault error → faultNext error) : Reports good faultNext result := by
  cases h with
  | ok hgood => exact .ok hgood
  | error herror => exact .error (hfault _ herror)

theorem of_ok {value : α} (h : Reports good fault (.ok value)) : good value := by
  cases h with
  | ok hgood => exact hgood

theorem of_error {error : SyntaxError} (h : Reports good fault (.error error)) : fault error := by
  cases h with
  | error hfault => exact hfault

end Reports

def Admits (fault : SyntaxError → Prop) (text : List Char) (tokens : List Token) : Prop :=
  ∀ cause, ∀ token ∈ tokens, fault (.atToken cause text token)

theorem Admits.suffix {fault : SyntaxError → Prop} {text : List Char} {tokens rest : List Token}
    (h : Admits fault text tokens) (hsuffix : rest <:+ tokens) : Admits fault text rest :=
  fun cause token hmem => h cause token (hsuffix.mem hmem)

theorem Admits.tail {fault : SyntaxError → Prop} {text : List Char} {token : Token}
    {rest : List Token} (h : Admits fault text (token :: rest)) : Admits fault text rest :=
  h.suffix (List.suffix_cons token rest)

theorem Admits.head {fault : SyntaxError → Prop} {text : List Char} {token : Token}
    {rest : List Token} (h : Admits fault text (token :: rest)) (cause : SyntaxCause) :
    fault (.atToken cause text token) :=
  h cause token List.mem_cons_self

section Arguments

variable {text : List Char} {ending : Ending} {fault : SyntaxError → Prop} {tokens : List Token}
  (hending : ∀ cause, fault (.atEnding cause text ending))

include hending

theorem reports_readItems (htokens : Admits fault text tokens) :
    Reports (fun _ => True) fault (readItems text ending tokens) := by
  fun_induction readItems text ending tokens with
  | case1 => exact .error (hending _)
  | case2 token rest hkind => exact .ok trivial
  | case3 token rest hkind ih => exact ih htokens.tail
  | case4 token rest hkind hle ih =>
      exact (ih (htokens.tail.suffix (suffix_afterRun rest))).map fun _ _ => trivial
  | case5 | case6 | case7 | case8 => exact .error (htokens.head _)

theorem reports_readList (htokens : Admits fault text tokens) :
    Reports (fun _ => True) fault (readList text ending tokens) := by
  cases tokens with
  | nil => exact .error (hending _)
  | cons token rest =>
      rw [readList]
      split
      · exact .ok trivial
      · exact reports_readItems hending htokens.tail
      · exact .error (htokens.head _)

theorem reports_readValue (htokens : Admits fault text tokens) :
    Reports (fun _ => True) fault (readValue text ending tokens) := by
  cases tokens with
  | nil => exact .error (hending _)
  | cons token rest =>
      rw [readValue]
      split
      · exact .ok trivial
      · exact .ok trivial
      · exact (reports_readList hending htokens).map fun _ _ => trivial
      · exact (reports_readList hending htokens).map fun _ _ => trivial
      · exact .error (htokens.head _)

theorem reports_readQualifier (htokens : Admits fault text tokens) :
    Reports (fun _ => True) fault (readQualifier text ending tokens) := by
  cases tokens with
  | nil => exact .ok trivial
  | cons token rest =>
      rw [readQualifier]
      split
      · exact (reports_readList hending htokens.tail).map fun _ _ => trivial
      · exact .ok trivial

theorem reports_readArgument {token : Token} {rest : List Token}
    (htokens : Admits fault text (token :: rest)) :
    Reports (fun _ => True) fault (readArgument text ending token rest) := by
  unfold readArgument
  split
  · exact .error (htokens.head _)
  · cases rest with
    | nil => exact .ok trivial
    | cons next later =>
        simp only
        split
        · exact .error (htokens.tail.head _)
        · refine (reports_readValue hending htokens.tail.tail).bind fun reading hread _ => ?_
          have hleft : Admits fault text reading.rest :=
            htokens.tail.tail.suffix (suffix_readValue hread)
          exact (reports_readQualifier hending hleft).map fun _ _ => trivial
        · exact .ok trivial

theorem reports_readArguments (htokens : Admits fault text tokens) :
    Reports (fun _ => True) fault (readArguments text ending tokens) := by
  fun_induction readArguments text ending tokens with
  | case1 | case4 => exact .ok trivial
  | case2 token rest hcomma ih => exact ih htokens.tail
  | case3 token rest hcomma error hread =>
      have hfault : Reports (fun _ => True) fault (readArgument text ending token rest) :=
        reports_readArgument hending htokens
      rw [hread] at hfault
      exact .error hfault.of_error
  | case5 token rest hcomma argument next later hread hnext hlt ih =>
      have hleft : Admits fault text (next :: later) :=
        htokens.tail.suffix (readArgument_eq_ok hread).2.2.2
      exact (ih hleft.tail).map fun _ _ => trivial
  | case6 token rest hcomma argument next later hread hnext =>
      have hleft : Admits fault text (next :: later) :=
        htokens.tail.suffix (readArgument_eq_ok hread).2.2.2
      exact .error (hleft.head _)

end Arguments

section Keys

variable {text : List Char}

def KeysStand (text : List Char) (arguments : List Argument) : Prop :=
  ∀ argument ∈ arguments, argument.key.toList <+: text.drop argument.position

theorem KeysStand.cons {argument : Argument} {arguments : List Argument}
    (h : KeysStand text arguments) (hkey : argument.key.toList <+: text.drop argument.position) :
    KeysStand text (argument :: arguments) := by
  intro other hmem
  rcases List.mem_cons.1 hmem with rfl | hlater
  · exact hkey
  · exact h other hlater

theorem keysStand_nil : KeysStand text [] := by
  intro argument hmem
  cases hmem

theorem Carries.key_stands {ending : Ending} {token : Token} {rest left : List Token}
    {argument : Argument} (h : Carries text (token :: rest))
    (hread : readArgument text ending token rest = .ok (argument, left)) :
    argument.key.toList <+: text.drop argument.position := by
  obtain ⟨hword, hkey, hposition, -⟩ := readArgument_eq_ok hread
  rw [hkey, hposition, ← h token List.mem_cons_self hword]
  exact slice_prefix_drop text token.start token.stop

theorem Carries.keysStand {tokens : List Token} {ending : Ending} {arguments : List Argument}
    (h : Carries text tokens)
    (hread : readArguments text ending tokens = .ok arguments) : KeysStand text arguments := by
  fun_induction readArguments text ending tokens generalizing arguments with
  | case1 =>
      cases hread
      exact keysStand_nil
  | case2 token rest hcomma ih => exact ih h.tail hread
  | case3 | case6 => cases hread
  | case4 token rest hcomma argument hfirst =>
      cases hread
      exact keysStand_nil.cons (h.key_stands hfirst)
  | case5 token rest hcomma argument next later hfirst hnext hlt ih =>
      have hlater : Carries text later := (h.tail.suffix (readArgument_eq_ok hfirst).2.2.2).tail
      obtain ⟨others, hrest, rfl⟩ := map_eq_ok_iff.1 hread
      exact (ih hlater hrest).cons (h.key_stands hfirst)

theorem pointsInto_readArguments {tokens : List Token} (ending : Ending) (h : Carries text tokens) :
    Reports (KeysStand text) (·.PointsInto text) (readArguments text ending tokens) := by
  have hfaults : Reports (fun _ => True) (·.PointsInto text) (readArguments text ending tokens) :=
    reports_readArguments (fun cause => SyntaxError.pointsInto_atEnding cause text ending)
      fun cause token _ => SyntaxError.pointsInto_atToken cause text token
  cases hread : readArguments text ending tokens with
  | ok arguments => exact .ok (h.keysStand hread)
  | error error =>
      rw [hread] at hfaults
      exact .error hfaults.of_error

end Keys

theorem pointsInto_scanFrom {text rest : List Char} {unclosed : Option SyntaxError}
    {nesting position : Nat} {error : SyntaxError} (hplace : Advances 0 text position rest)
    (hunclosed : ∀ error, unclosed = some error → error.PointsInto text)
    (h : scanFrom unclosed nesting position rest = .error error) : error.PointsInto text := by
  generalize hresult : Except.error error = result at h
  replace h := scansTo_of_scanFrom h
  induction h with
  | missing inside =>
      cases hresult
      exact hunclosed error inside
  | exhausted | closed => cases hresult
  | unterminated =>
      cases hresult
      exact SyntaxError.pointsInto_rest _ hplace
  | spacing _ _ ih => exact ih (hplace.trans (advances_cons _ _ _)) hresult
  | token _ _ ih =>
      exact ih (hplace.trans (advances_append _ _ _)) (map_eq_error_iff.1 hresult.symm).symm

theorem reports_readAll (text : List Char) :
    Reports (KeysStand text) (·.PointsInto text) (readAll text) := by
  have hplace : Advances 0 text 0 text := Advances.refl 0 text
  rw [readAll, tokenize_whole]
  cases hscan : scanFrom none 0 0 text with
  | error error => exact .error (pointsInto_scanFrom hplace (fun _ hsome => by cases hsome) hscan)
  | ok scan => exact pointsInto_readArguments scan.ending (carries_scanFrom hplace hscan)

/-- Up to the first escape a payload stands for itself. -/
theorem unescapePayload_append {plain : List Char} (rest : List Char) (h : '\\' ∉ plain) :
    unescapePayload (plain ++ rest) = plain ++ unescapePayload rest := by
  induction plain with
  | nil => rfl
  | cons c plain ih =>
      rw [List.mem_cons, not_or] at h
      have hquotes : unescapeQuotes (c :: (plain ++ rest)) =
          c :: unescapeQuotes (plain ++ rest) := by
        rw [unescapeQuotes]
        exact fun _ hc _ => h.1 hc.symm
      have hbackslashes (left : List Char) :
          unescapeBackslashes (c :: left) = c :: unescapeBackslashes left := by
        rw [unescapeBackslashes]
        exact fun _ hc _ => h.1 hc.symm
      calc
        unescapePayload (c :: plain ++ rest) = c :: unescapePayload (plain ++ rest) := by
          rw [List.cons_append, unescapePayload, hquotes, hbackslashes, ← unescapePayload]
        _ = c :: plain ++ unescapePayload rest := by rw [ih h.2, List.cons_append]

/-- A word that reaches no further than the plain beginning of a payload
stands in the payload itself. -/
theorem prefix_drop_of_unescapePayload {payload word : List Char} {offset : Nat}
    (h : word <+: (unescapePayload payload).drop offset)
    (hplain : '\\' ∉ payload.take (offset + word.length)) : word <+: payload.drop offset := by
  have hsplit : unescapePayload payload =
      payload.take (offset + word.length) ++
      unescapePayload (payload.drop (offset + word.length)) := by
    have happend := unescapePayload_append (payload.drop (offset + word.length)) hplain
    rwa [List.take_append_drop] at happend
  have htake : (unescapePayload payload).take (offset + word.length) =
      payload.take (offset + word.length) := by
    -- Both texts are the same as far as the word reaches. A payload that ends
    -- before that has no escape at all.
    rcases Nat.le_total (offset + word.length) payload.length with hle | hle
    · rw [hsplit, List.take_append_of_le_length (by rw [List.length_take]; omega), List.take_take,
        Nat.min_self]
    · rw [hsplit, List.drop_eq_nil_of_le hle, List.take_of_length_le hle]
      change (payload ++ []).take _ = payload
      rw [List.append_nil, List.take_of_length_le hle]
  have hword : word = ((unescapePayload payload).take (offset + word.length)).drop offset := by
    rw [List.drop_take, Nat.add_sub_cancel_left]
    exact List.prefix_iff_eq_take.1 h
  rw [htake, List.drop_take, Nat.add_sub_cancel_left] at hword
  rw [hword]
  exact List.take_prefix _ _

/-- A word that is found only in what the payload of a tag stands for, counted from behind the
opening of the tag: an escape stands in front of it or in it. -/
def StandsBehindEscape (text : List Char) (tag : Nat) (word : List Char) (position : Nat) : Prop :=
  ∃ payload after offset, tagOpening <+: text.drop tag ∧
    scanPayload (text.drop (tag + tagOpening.length)) = some (payload, after) ∧
    position = tag + tagOpening.length + offset ∧ word <+: (unescapePayload payload).drop offset ∧
    '\\' ∈ payload.take (offset + word.length)

/-- A word of what a payload stands for stands in the annotation, unless it is behind an escape. -/
theorem stands_or_behindEscape {text rest payload after word : List Char} {tag offset : Nat}
    (hplace : Advances 0 text tag (tagOpening ++ rest))
    (hpayload : scanPayload rest = some (payload, after))
    (hword : word <+: (unescapePayload payload).drop offset) :
    word <+: text.drop (tag + tagOpening.length + offset) ∨
      StandsBehindEscape text tag word (tag + tagOpening.length + offset) := by
  have hrest : text.drop (tag + tagOpening.length) = rest :=
    (hplace.trans (advances_append tag tagOpening rest)).drop_eq
  by_cases hescape : '\\' ∈ payload.take (offset + word.length)
  · refine .inr ⟨payload, after, offset, ?_, ?_, rfl, hword, hescape⟩
    · rw [hplace.drop_eq]
      exact List.prefix_append tagOpening rest
    · rw [hrest, hpayload]
  · refine .inl ((prefix_drop_of_unescapePayload hword hescape).trans ?_)
    rw [← List.drop_drop, hrest, eq_append_of_scanPayload hpayload, List.drop_append]
    exact List.prefix_append _ _

/-- The key of every argument is found at its position, up to the escapes of a tag. -/
def KeysPlaced (text : List Char) (directive : Directive) : Prop :=
  ∀ argument ∈ directive.arguments, argument.key.toList <+: text.drop argument.position ∨
    directive.fromTag = true ∧
    StandsBehindEscape text directive.position argument.key.toList argument.position

/-- The text that a fault is about is found at its position, up to the escapes of a tag. -/
def SyntaxError.IsPlaced (error : SyntaxError) (text : List Char) : Prop :=
  ∃ position : Nat, error.position = position ∧
    (error.text <+: text.drop position ∨ ∃ tag, StandsBehindEscape text tag error.text position)

theorem SyntaxError.PointsInto.isPlaced {error : SyntaxError} {text : List Char}
    (h : error.PointsInto text) : error.IsPlaced text := by
  obtain ⟨position, hposition, hstands⟩ := h
  exact ⟨position, hposition, .inl hstands⟩

theorem KeysStand.keysPlaced {text : List Char} {directive : Directive}
    (h : KeysStand text directive.arguments) : KeysPlaced text directive :=
  fun argument hmem => .inl (h argument hmem)

theorem reports_readTag {text rest : List Char} {position : Nat}
    (hplace : Advances 0 text position rest) (hopening : tagOpening <+: rest) :
    Reports (fun found => KeysPlaced text found.directive) (·.IsPlaced text)
      (readTag position rest) := by
  obtain ⟨rest, rfl⟩ := hopening
  unfold readTag
  simp only [List.drop_left]
  split
  · exact .error (SyntaxError.pointsInto_rest _ hplace).isPlaced
  · rename_i payload after hpayload
    have hread := reports_readAll (unescapePayload payload)
    split
    · rename_i error herror
      rw [herror] at hread
      -- The offset in what the payload stands for is only moved: it does not
      -- count the escapes in front of it.
      obtain ⟨offset, hoffset, hstands⟩ := hread.of_error
      refine .error ⟨position + tagOpening.length + offset, ?_, ?_⟩
      · change error.position + ((position + tagOpening.length : Nat) : Int) = _
        omega
      · exact (stands_or_behindEscape hplace hpayload hstands).imp_right
          fun hbehind => ⟨position, hbehind⟩
    · rename_i arguments harguments
      rw [harguments] at hread
      refine .ok ?_
      intro moved hmoved
      obtain ⟨argument, hmem, rfl⟩ := List.mem_map.1 hmoved
      have hstands := stands_or_behindEscape hplace hpayload (hread.of_ok argument hmem)
      exact hstands.imp_right fun hbehind => ⟨rfl, hbehind⟩

theorem reports_readDirective {text written after : List Char} {position : Nat}
    (hplace : Advances 0 text position ('@' :: (written ++ after))) :
    Reports (fun found => KeysPlaced text found.directive) (·.IsPlaced text)
      (readDirective text position written ('@' :: (written ++ after))) := by
  unfold readDirective
  simp only [drop_written]
  split
  · refine .error ⟨position, rfl, .inl ?_⟩
    rw [hplace.drop_eq]
    exact List.prefix_append ('@' :: written) after
  · split
    · rename_i inner
      have hunclosed (error : SyntaxError)
          (hsome : some (unclosedAt text (position + 1 + written.length + 1)) = some error) :
          error.PointsInto text := by
        cases hsome
        exact pointsInto_unclosedAt text (Nat.succ_ne_zero _)
      split
      · rename_i error herror
        exact .error (pointsInto_scanFrom hplace.behind_paren hunclosed herror).isPlaced
      · rename_i scan hscan
        have hread :=
          pointsInto_readArguments scan.ending (carries_scanFrom hplace.behind_paren hscan)
        exact (hread.weaken fun error => SyntaxError.PointsInto.isPlaced).map
          fun arguments hkeys => hkeys.keysPlaced
    · exact .ok keysStand_nil.keysPlaced

theorem Begins.reports {text rest : List Char} {before : Option Char} {position : Nat}
    {result : Except SyntaxError Found} (hplace : Advances 0 text position rest)
    (h : Begins text before position rest result) :
    Reports (fun found => KeysPlaced text found.directive) (·.IsPlaced text) result := by
  cases h with
  | tag opens => exact reports_readTag hplace (opening_of_opensTag opens)
  | directive _ _ => exact reports_readDirective hplace

theorem reports_readFrom {text rest : List Char} {before : Option Char} {position : Nat}
    (hplace : Advances 0 text position rest) :
    Reports (fun directives => ∀ directive ∈ directives, KeysPlaced text directive)
      (·.IsPlaced text) (readFrom text before position rest) := by
  have hread := readsTo_readFrom text before position rest
  generalize readFrom text before position rest = result at hread ⊢
  induction hread with
  | nil => exact .ok (List.forall_mem_nil _)
  | skip _ _ _ ih => exact ih (hplace.trans (advances_cons _ _ _))
  | fault begins => exact .error (begins.reports hplace).of_error
  | found begins _ ih =>
      have hlater := ih (hplace.trans begins.advances)
      exact hlater.map fun directives hkeys =>
        List.forall_mem_cons.2 ⟨(begins.reports hplace).of_ok, hkeys⟩

theorem SyntaxError.IsPlaced.attribute {error : SyntaxError} {text : List Char}
    (h : error.IsPlaced text)
    (source : Option String) : (error.attribute source).IsPlaced text := by
  unfold SyntaxError.attribute
  cases source with
  | none => exact h
  | some name =>
      simp only
      split
      · exact h
      · exact h

/-- Arguments and faults stand where they are reported, except behind an escape in a tag. -/
theorem positions_exact_up_to_escapes (text : List Char) (source : Option String) :
    (∀ directives, ofAnnotation text source = .ok directives →
        ∀ directive ∈ directives, ∀ argument ∈ directive.arguments,
          argument.key.toList <+: text.drop argument.position ∨
            directive.fromTag = true ∧
            StandsBehindEscape text directive.position argument.key.toList argument.position) ∧
      ∀ error, ofAnnotation text source = .error error →
        ∃ position : Nat, error.position = position ∧
          (slice text position (position + error.text.length) = error.text ∨
            ∃ tag, StandsBehindEscape text tag error.text position) := by
  have hreport :
      Reports (fun directives => ∀ directive ∈ directives, KeysPlaced text directive)
      (·.IsPlaced text)
      (readFrom text none 0 text) := reports_readFrom (Advances.refl 0 text)
  unfold ofAnnotation
  cases hread : readFrom text none 0 text with
  | ok directives =>
      rw [hread] at hreport
      refine ⟨?_, ?_⟩
      · intro _ hok
        cases hok
        exact hreport.of_ok
      · intro _ herror
        cases herror
  | error fault =>
      rw [hread] at hreport
      refine ⟨?_, ?_⟩
      · intro _ hok
        cases hok
      · intro _ herror
        cases herror
        obtain ⟨position, hposition, hstands⟩ := hreport.of_error.attribute source
        refine ⟨position, hposition, hstands.imp_left fun hprefix => ?_⟩
        rw [slice, Nat.add_sub_cancel_left, ← List.prefix_iff_eq_take.1 hprefix]

/-- Behind two escaped quotes, an argument and the text of a fault are reported
two characters too early. -/
theorem escapes_misplace_arguments_and_faults :
    (∃ directives, ofAnnotation "gql:\"a:\\\"x\\\",b\"".toList none = .ok directives ∧
        ∃ directive ∈ directives, ∃ argument ∈ directive.arguments,
          argument.key = "b" ∧ argument.position = 11 ∧
            ("gql:\"a:\\\"x\\\",b\"".toList.drop argument.position).take 1 ≠ argument.key.toList ∧
            ("gql:\"a:\\\"x\\\",b\"".toList.drop 13).take 1 = argument.key.toList) ∧
      ∃ error, ofAnnotation "gql:\"a:\\\"x\\\" b\"".toList none = .error error ∧
        error.text = ['b'] ∧ error.position = 11 ∧
          slice "gql:\"a:\\\"x\\\" b\"".toList 11 12 ≠ error.text ∧
          slice "gql:\"a:\\\"x\\\" b\"".toList 13 14 = error.text := by
  refine ⟨⟨[⟨.field,
    [⟨"a", some (.text "x"), none, 5, some "\"x\""⟩, { key := "b", position := 11 }], 0, true⟩],
    by decide +kernel, _, List.mem_singleton_self _, _,
      List.mem_cons_of_mem _ (List.mem_singleton_self _), ?_⟩, ?_⟩
  · decide
  · refine ⟨⟨.missingComma .word, ['b'], 11, none⟩, by decide +kernel, ?_⟩
    decide

end SchemaViews.Directive
