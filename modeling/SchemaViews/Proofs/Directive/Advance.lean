import SchemaViews.Directive.Annotation
import SchemaViews.Proofs.Directive.Balance
import SchemaViews.Proofs.Directive.Remainder

/-!
# Places in a text

A reader stands at a position with the rest of a text before it, and goes on to a later position
with less before it. The position and the rest always move together, so every offset that is
kept on the way finds its text again. An annotation is read in steps, each of which skips a
character or reads what begins there.
-/

namespace SchemaViews.Directive

open SchemaViews.Text

/-- A reader that stood at `position` in front of `text` now stands at `stop` in front of `rest`. -/
def Advances (position : Nat) (text : List Char) (stop : Nat) (rest : List Char) : Prop :=
  ∃ read, text = read ++ rest ∧ stop = position + read.length

section Advances

variable {position stop : Nat} {text rest : List Char}

theorem Advances.refl (position : Nat) (text : List Char) : Advances position text position text :=
  ⟨[], rfl, rfl⟩

theorem Advances.trans {later : Nat} {left : List Char} (h : Advances position text stop rest)
    (hlater : Advances stop rest later left) : Advances position text later left := by
  obtain ⟨first, rfl, rfl⟩ := h
  obtain ⟨second, rfl, rfl⟩ := hlater
  refine ⟨first ++ second, (List.append_assoc ..).symm, ?_⟩
  rw [List.length_append, Nat.add_assoc]

theorem advances_append (position : Nat) (read rest : List Char) :
    Advances position (read ++ rest) (position + read.length) rest :=
  ⟨read, rfl, rfl⟩

theorem advances_cons (position : Nat) (c : Char) (rest : List Char) :
    Advances position (c :: rest) (position + 1) rest :=
  advances_append position [c] rest

theorem Advances.cons {start : Nat} (c : Char) (h : Advances (start + 1) text stop rest) :
    Advances start (c :: text) stop rest :=
  (advances_cons start c text).trans h

theorem Advances.length_add (h : Advances position text stop rest) :
    stop + rest.length = position + text.length := by
  obtain ⟨read, rfl, rfl⟩ := h
  rw [List.length_append, Nat.add_assoc]

theorem Advances.drop_eq (h : Advances 0 text position rest) : text.drop position = rest := by
  obtain ⟨read, rfl, rfl⟩ := h
  rw [Nat.zero_add, List.drop_left]

theorem Advances.slice_eq {word : List Char} (h : Advances 0 text position (word ++ rest)) :
    slice text position (position + word.length) = word := by
  rw [slice, h.drop_eq, Nat.add_sub_cancel_left, List.take_left]

end Advances

theorem scanPayload_cons {c : Char} {rest : List Char} (hquote : c ≠ '"') (hbackslash : c ≠ '\\') :
    scanPayload (c :: rest) = (scanPayload rest).map fun (payload, after) =>
      (c :: payload, after) := by
  rw [scanPayload]
  · exact hquote
  · exact fun hc _ => hbackslash hc
  · exact fun _ _ hc _ => hbackslash hc

theorem eq_append_of_scanPayload {text payload after : List Char}
    (h : scanPayload text = some (payload, after)) : text = payload ++ '"' :: after := by
  fun_induction scanPayload text generalizing payload after with
  | case1 | case3 => cases h
  | case2 rest =>
      cases h
      rfl
  | case4 c rest ih | case5 c rest _ _ _ ih =>
      obtain ⟨⟨payload', after'⟩, hrest, heq⟩ := Option.map_eq_some_iff.1 h
      cases heq
      rw [ih hrest]
      rfl

theorem advances_scanFrom {unclosed : Option SyntaxError} {nesting position : Nat}
    {text : List Char} {scan : Scan} (h : scanFrom unclosed nesting position text = .ok scan) :
    Advances position text scan.ending.stop scan.rest := by
  generalize hresult : Except.ok scan = result at h
  replace h := scansTo_of_scanFrom h
  induction h generalizing scan with
  | missing | unterminated => cases hresult
  | exhausted =>
      cases hresult
      exact Advances.refl _ _
  | closed =>
      cases hresult
      exact advances_cons _ _ _
  | spacing _ _ ih => exact (ih hresult).cons _
  | token _ _ ih =>
      obtain ⟨inner, rfl, rfl⟩ := map_eq_ok_iff.1 hresult.symm
      have hlater := ih rfl
      exact (advances_append _ _ _).trans hlater

/-- Words are spelled in the text as their tokens say. -/
def Carries (text : List Char) (tokens : List Token) : Prop :=
  ∀ token ∈ tokens, token.kind = .word → slice text token.start token.stop = token.value.toList

theorem Carries.suffix {text : List Char} {tokens rest : List Token} (h : Carries text tokens)
    (hsuffix : rest <:+ tokens) : Carries text rest :=
  fun token hmem => h token (hsuffix.mem hmem)

theorem Carries.tail {text : List Char} {token : Token} {rest : List Token}
    (h : Carries text (token :: rest)) : Carries text rest :=
  h.suffix (List.suffix_cons token rest)

theorem exists_of_opensDirective {before : Option Char} {text written : List Char}
    (h : opensDirective? before text = some written) :
    ∃ after, text = '@' :: (written ++ after) := by
  unfold opensDirective? at h
  split at h
  · split at h
    · unfold writtenName? at h
      split at h
      · rename_i first second third rest
        split at h
        · cases h
          refine ⟨rest.dropWhile isWordChar, ?_⟩
          simp only [List.cons_append, List.takeWhile_append_dropWhile]
        · cases h
      · cases h
    · cases h
  · cases h

theorem opening_of_opensTag {before : Option Char} {text : List Char}
    (h : opensTag before text = true) : tagOpening <+: text := by
  rw [opensTag, Bool.and_eq_true] at h
  exact List.isPrefixOf_iff_prefix.1 h.2

theorem advances_readTag {position : Nat} {text : List Char} {found : Found}
    (hopening : tagOpening <+: text)
    (h : readTag position text = .ok found) : Advances position text found.stop found.rest := by
  obtain ⟨rest, rfl⟩ := hopening
  unfold readTag at h
  simp only [List.drop_left] at h
  split at h
  · cases h
  · rename_i payload after hpayload
    split at h
    · cases h
    · cases h
      rw [eq_append_of_scanPayload hpayload]
      refine ⟨tagOpening ++ payload ++ ['"'], by simp, ?_⟩
      simp only [List.length_append, List.length_singleton]
      omega

theorem drop_written (written after : List Char) :
    ('@' :: (written ++ after)).drop (1 + written.length) = after := by
  rw [Nat.add_comm, List.drop_succ_cons, List.drop_left]

theorem Advances.behind_paren {text written inner : List Char} {position : Nat}
    (h : Advances 0 text position ('@' :: (written ++ '(' :: inner))) :
    Advances 0 text (position + 1 + written.length + 1) inner :=
  h.trans (((advances_append (position + 1) written _).cons '@').trans (advances_cons _ '(' inner))

theorem advances_readDirective {text : List Char} {position : Nat} {written after : List Char}
    {found : Found}
    (h : readDirective text position written ('@' :: (written ++ after)) = .ok found) :
    Advances position ('@' :: (written ++ after)) found.stop found.rest := by
  have hname :
      Advances position ('@' :: (written ++ after)) (position + 1 + written.length) after :=
    (advances_append (position + 1) written after).cons '@'
  unfold readDirective at h
  simp only [drop_written] at h
  split at h
  · cases h
  · split at h
    · rename_i inner
      split at h
      · cases h
      · rename_i scan hscan
        obtain ⟨arguments, hread, rfl⟩ := map_eq_ok_iff.1 h
        exact hname.trans ((advances_scanFrom hscan).cons '(')
    · cases h
      exact hname

theorem readFrom_cons (text : List Char) (before : Option Char) (position : Nat) (c : Char)
    (after : List Char) : readFrom text before position (c :: after) =
      if opensTag before (c :: after) then
        (readTag position (c :: after)).bind fun found =>
          (readFrom text (some found.last) found.stop found.rest).map (found.directive :: ·)
      else
        match opensDirective? before (c :: after) with
        | none => readFrom text (some c) (position + 1) after
        | some written =>
          (readDirective text position written (c :: after)).bind fun found =>
            (readFrom text (some found.last) found.stop found.rest).map (found.directive :: ·) := by
  rw [readFrom]
  split
  · split <;> rename_i hread <;> simp only [hread] <;> rfl
  · cases opensDirective? before (c :: after) with
    | none => rfl
    | some written =>
      dsimp only
      split <;> rename_i hread <;> simp only [hread] <;> rfl

/-- What is read of the tag or the directive that begins at a place. -/
inductive Begins (text : List Char) (before : Option Char) (position : Nat) :
    List Char → Except SyntaxError Found → Prop
  | tag {rest : List Char} (opens : opensTag before rest = true) :
      Begins text before position rest (readTag position rest)
  | directive {written after : List Char}
      (untagged : opensTag before ('@' :: (written ++ after)) = false)
      (opens : opensDirective? before ('@' :: (written ++ after)) = some written) :
      Begins text before position ('@' :: (written ++ after))
        (readDirective text position written ('@' :: (written ++ after)))

/-- The steps of reading an annotation, and what it comes to. -/
inductive ReadsTo (text : List Char) :
    Option Char → Nat → List Char → Except SyntaxError (List Directive) → Prop
  | nil {before : Option Char} {position : Nat} : ReadsTo text before position [] (.ok [])
  | skip {before : Option Char} {position : Nat} {c : Char} {after : List Char}
      {result : Except SyntaxError (List Directive)}
      (untagged : opensTag before (c :: after) = false)
      (plain : opensDirective? before (c :: after) = none)
      (later : ReadsTo text (some c) (position + 1) after result) :
      ReadsTo text before position (c :: after) result
  | fault {before : Option Char} {position : Nat} {rest : List Char} {error : SyntaxError}
      (begins : Begins text before position rest (.error error)) :
      ReadsTo text before position rest (.error error)
  | found {before : Option Char} {position : Nat} {rest : List Char} {found : Found}
      {result : Except SyntaxError (List Directive)}
      (begins : Begins text before position rest (.ok found))
      (later : ReadsTo text (some found.last) found.stop found.rest result) :
      ReadsTo text before position rest (result.map (found.directive :: ·))

section Steps

variable {text rest : List Char} {before : Option Char} {position : Nat}

theorem Begins.readFrom_eq {result : Except SyntaxError Found}
    (h : Begins text before position rest result) :
    readFrom text before position rest = result.bind fun found =>
      (readFrom text (some found.last) found.stop found.rest).map (found.directive :: ·) := by
  cases h with
  | tag opens =>
      cases rest with
      | nil => exact absurd (opening_of_opensTag opens).length_le (by decide)
      | cons c after => rw [readFrom_cons, if_pos opens]
  | directive untagged opens => rw [readFrom_cons, untagged, if_neg Bool.false_ne_true, opens]

theorem Begins.advances {found : Found} (h : Begins text before position rest (.ok found)) :
    Advances position rest found.stop found.rest := by
  generalize hread : Except.ok found = result at h
  cases h with
  | tag opens => exact advances_readTag (opening_of_opensTag opens) hread.symm
  | directive _ _ => exact advances_readDirective hread.symm

theorem readsTo_readFrom (text : List Char) (before : Option Char) (position : Nat)
    (rest : List Char) :
    ReadsTo text before position rest (readFrom text before position rest) := by
  fun_induction readFrom text before position rest with
  | case1 => exact .nil
  | case2 before position c after hopens error hread => exact .fault (hread ▸ .tag hopens)
  | case3 before position c after hopens found hread hlt ih => exact .found (hread ▸ .tag hopens) ih
  | case4 before position c after hopens hnone ih =>
      exact .skip (Bool.eq_false_iff.2 hopens) hnone ih
  | case5 before position c after hopens written hwritten error hread =>
      obtain ⟨left, hleft⟩ := exists_of_opensDirective hwritten
      rw [hleft] at hopens hwritten hread ⊢
      exact .fault (hread ▸ .directive (Bool.eq_false_iff.2 hopens) hwritten)
  | case6 before position c after hopens written hwritten found hread hlt ih =>
      obtain ⟨left, hleft⟩ := exists_of_opensDirective hwritten
      rw [hleft] at hopens hwritten hread ⊢
      exact .found (hread ▸ .directive (Bool.eq_false_iff.2 hopens) hwritten) ih

theorem readsTo_of_readFrom {result : Except SyntaxError (List Directive)}
    (h : readFrom text before position rest = result) :
    ReadsTo text before position rest result := by
  subst h
  exact readsTo_readFrom text before position rest

end Steps

end SchemaViews.Directive
