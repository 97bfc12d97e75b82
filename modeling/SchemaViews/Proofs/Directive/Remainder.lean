import SchemaViews.Directive.Argument
import SchemaViews.Proofs.Results

/-!
# What is left of the tokens

Every reader takes tokens from the front and leaves the others as they are, so what holds of
all tokens of a list holds of those that are left. An argument begins with its key and
stands where the key stands.
-/

namespace SchemaViews.Directive

open SchemaViews.Text

def Within (bound : Nat) (tokens : List Token) : Prop :=
  ∀ token ∈ tokens, token.stop ≤ bound

theorem Within.tail {bound : Nat} {token : Token} {rest : List Token}
    (h : Within bound (token :: rest)) : Within bound rest :=
  fun later hmem => h later (List.mem_cons_of_mem token hmem)

theorem Within.head {bound : Nat} {token : Token} {rest : List Token}
    (h : Within bound (token :: rest)) : token.stop ≤ bound :=
  h token List.mem_cons_self

theorem Within.suffix {bound : Nat} {tokens rest : List Token} (h : Within bound tokens)
    (hsuffix : rest <:+ tokens) : Within bound rest :=
  fun token hmem => h token (hsuffix.mem hmem)

theorem Within.runStop {bound : Nat} {first : Token} {rest : List Token}
    (h : Within bound (first :: rest)) : runStop first rest ≤ bound := by
  rw [Directive.runStop]
  cases hlast : (rest.takeWhile Token.isWord).getLast? with
  | none => exact h.head
  | some last => exact h.tail last ((List.takeWhile_sublist _).mem (List.mem_of_getLast? hlast))

theorem readArguments_cons (text : List Char) (ending : Ending) (token : Token)
    (rest : List Token) : readArguments text ending (token :: rest) =
      if token.kind = .comma then readArguments text ending rest
      else (readArgument text ending token rest).bind fun (argument, left) =>
        match left with
        | [] => .ok [argument]
        | next :: later =>
          if next.kind = .comma then (readArguments text ending later).map (argument :: ·)
          else .error (.atToken (.missingComma next.kind) text next) := by
  rw [readArguments]
  split
  · rfl
  · split <;> rename_i hread <;> simp only [hread] <;> rfl

/-- A reading that stops with one of the tokens and leaves only tokens behind. -/
structure Reading.Leaves {α : Type} (reading : Reading α) (tokens : List Token) : Prop where
  suffix : reading.rest <:+ tokens
  stop : ∃ token ∈ tokens, reading.stop = token.stop

section Leaves

variable {α : Type} {reading : Reading α} {tokens rest : List Token}

theorem Reading.Leaves.weaken (h : reading.Leaves rest) (hsuffix : rest <:+ tokens) :
    reading.Leaves tokens := by
  obtain ⟨token, hmem, hstop⟩ := h.stop
  exact ⟨h.suffix.trans hsuffix, token, hsuffix.mem hmem, hstop⟩

theorem Reading.Leaves.stop_le {bound : Nat} (h : reading.Leaves tokens)
    (hwithin : Within bound tokens) : reading.stop ≤ bound := by
  obtain ⟨token, hmem, hstop⟩ := h.stop
  rw [hstop]
  exact hwithin token hmem

end Leaves

section Suffix

variable {text : List Char} {ending : Ending} {tokens : List Token}

theorem suffix_afterRun (rest : List Token) : afterRun rest <:+ rest :=
  List.dropWhile_suffix Token.isWord

theorem leaves_readItems {reading : Reading (List String)}
    (hread : readItems text ending tokens = .ok reading) : reading.Leaves tokens := by
  fun_induction readItems text ending tokens generalizing reading with
  | case1 | case5 | case6 | case7 | case8 => cases hread
  | case2 token rest _ =>
      cases hread
      exact ⟨List.suffix_cons token rest, token, List.mem_cons_self, rfl⟩
  | case3 token rest _ ih => exact (ih hread).weaken (List.suffix_cons token rest)
  | case4 token rest _ _ ih =>
      obtain ⟨inner, hinner, rfl⟩ := map_eq_ok_iff.1 hread
      have hleaves :=
        (ih hinner).weaken ((suffix_afterRun rest).trans (List.suffix_cons token rest))
      exact ⟨hleaves.suffix, hleaves.stop⟩

theorem leaves_readList {reading : Reading (List String)}
    (hread : readList text ending tokens = .ok reading) : reading.Leaves tokens := by
  cases tokens with
  | nil => cases hread
  | cons token rest =>
      rw [readList] at hread
      split at hread
      · cases hread
        exact ⟨List.suffix_cons token rest, token, List.mem_cons_self, rfl⟩
      · exact (leaves_readItems hread).weaken (List.suffix_cons token rest)
      · cases hread

theorem suffix_readValue {reading : Reading (Value × String)}
    (hread : readValue text ending tokens = .ok reading) : reading.rest <:+ tokens := by
  cases tokens with
  | nil => cases hread
  | cons token rest =>
      have hlist {f : Reading (List String) → Reading (Value × String)} (hf : ∀ inner,
          (f inner).rest = inner.rest)
          (hmap : (readList text ending (token :: rest)).map f = .ok reading) :
          reading.rest <:+ token :: rest := by
        obtain ⟨inner, hinner, rfl⟩ := map_eq_ok_iff.1 hmap
        rw [hf]
        exact (leaves_readList hinner).suffix
      rw [readValue] at hread
      split at hread
      · cases hread
        exact List.suffix_cons token rest
      · cases hread
        exact (suffix_afterRun rest).trans (List.suffix_cons token rest)
      · exact hlist (fun _ => rfl) hread
      · exact hlist (fun _ => rfl) hread
      · cases hread

theorem suffix_readQualifier {qualifier : Option (List String)} {left : List Token}
    (hread : readQualifier text ending tokens = .ok (qualifier, left)) : left <:+ tokens := by
  cases tokens with
  | nil =>
      cases hread
      exact List.suffix_rfl
  | cons token rest =>
      rw [readQualifier] at hread
      split at hread
      · obtain ⟨inner, hinner, hmade⟩ := map_eq_ok_iff.1 hread
        cases hmade
        exact (leaves_readList hinner).suffix.trans (List.suffix_cons token rest)
      · cases hread
        exact List.suffix_rfl

theorem readArgument_eq_ok {token : Token} {rest left : List Token} {argument : Argument}
    (hread : readArgument text ending token rest = .ok (argument, left)) :
    token.kind = .word ∧ argument.key = token.value ∧ argument.position = token.start ∧
    left <:+ rest := by
  unfold readArgument at hread
  split at hread
  · cases hread
  · rename_i hkind
    have hword : token.kind = .word := Classical.not_not.1 hkind
    split at hread
    · cases hread
      exact ⟨hword, rfl, rfl, List.suffix_rfl⟩
    · split at hread
      · cases hread
      · rename_i next after _ _
        obtain ⟨reading, hvalue, hmap⟩ := bind_eq_ok_iff.1 hread
        obtain ⟨found, hqualifier, hmade⟩ := map_eq_ok_iff.1 hmap
        cases hmade
        refine ⟨hword, rfl, rfl, ?_⟩
        exact ((suffix_readQualifier hqualifier).trans (suffix_readValue hvalue)).trans
          (List.suffix_cons next after)
      · cases hread
        exact ⟨hword, rfl, rfl, List.suffix_rfl⟩

end Suffix

end SchemaViews.Directive
