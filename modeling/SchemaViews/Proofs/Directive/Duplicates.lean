import SchemaViews.Proofs.Directive.Positions
import SchemaViews.Proofs.Repetitions

/-!
# Keys given more than once

What a directive makes of a key that is given twice. The arguments that count, the look-up by a key
and the keys to warn about are found in ways of their own, and they agree. The arguments of a
directive that is read stand one behind the other, so none of them can be taken for another one.
-/

namespace SchemaViews.Directive

open SchemaViews.Text

/-! ### What the keys of a directive say -/

section Keys

variable {directive : Directive} {key : String} {argument : Argument}

theorem get?_eq_some_iff : directive.get? key = some argument ↔ argument ∈ directive.options ∧
      argument.key = key := by
  rw [get?, find?_reverse]
  constructor
  · intro hfound
    exact ⟨List.mem_of_find?_eq_some hfound, by simpa using List.find?_some hfound⟩
  · rintro ⟨hmem, rfl⟩
    exact find?_eq_some_of_nodup (nodup_keys_keepLast Argument.key directive.arguments) hmem

theorem get?_eq_none_iff : directive.get? key = none ↔ key ∉ directive.arguments.map (·.key) := by
  rw [get?, List.find?_eq_none]
  simp

theorem mem_duplicateKeys : key ∈ directive.duplicateKeys ↔
      2 ≤ (directive.arguments.map (·.key)).count key := by
  rw [duplicateKeys, List.mem_filter, List.mem_eraseDups, decide_eq_true_iff]
  exact ⟨fun h => h.2, fun h => ⟨List.count_pos_iff.1 (Nat.zero_lt_of_lt h), h⟩⟩

theorem pairwise_duplicateKeys (directive : Directive) :
    directive.duplicateKeys.Pairwise fun first second =>
      (directive.arguments.map (·.key)).idxOf first <
        (directive.arguments.map (·.key)).idxOf second :=
  (pairwise_eraseDups _).filter _

theorem duplicateKeys_eq_nil_iff :
    directive.duplicateKeys = [] ↔ (directive.arguments.map (·.key)).Nodup := by
  rw [List.eq_nil_iff_forall_not_mem, List.nodup_iff_count_le_one]
  refine forall_congr' fun key => ?_
  rw [mem_duplicateKeys, Nat.not_le, Nat.lt_succ_iff]

/-- Where no argument can be taken for another one, those are kept that are found by their key. -/
theorem options_eq_filter (h : directive.arguments.Nodup) :
    directive.options = directive.arguments.filter
      fun argument => directive.get? argument.key = some argument := by
  have hlast (place : Fin directive.arguments.length) :
      directive.get? (directive.arguments.get place).key = some (directive.arguments.get place) ↔
        IsLast Argument.key directive.arguments place := by
    rw [get?_eq_some_iff, and_iff_left rfl, options, keepLast_eq, List.mem_map]
    constructor
    · rintro ⟨last, hlast, heq⟩
      rw [← h.injective_get heq]
      exact of_decide_eq_true (List.mem_filter.1 hlast).2
    · intro hlast
      exact ⟨place, List.mem_filter.2 ⟨List.mem_finRange place, decide_eq_true hlast⟩, rfl⟩
  conv_rhs => rw [← List.map_get_finRange directive.arguments, List.filter_map]
  rw [options, keepLast_eq]
  refine congrArg _ (List.filter_congr fun place _ => ?_)
  exact decide_eq_decide.2 (hlast place).symm

end Keys

/-! ### Arguments one behind the other -/

/-- Each argument stands behind the one before it. -/
def InOrder (arguments : List Argument) : Prop :=
  arguments.Pairwise fun first second => first.position < second.position

theorem InOrder.nodup {arguments : List Argument} (h : InOrder arguments) : arguments.Nodup :=
  h.imp fun hlt heq => Nat.ne_of_lt hlt (congrArg Argument.position heq)

theorem InOrder.shift {arguments : List Argument} (h : InOrder arguments) (offset : Nat) :
    InOrder (arguments.map (·.shift offset)) :=
  List.pairwise_map.2 (h.imp fun hlt => Nat.add_lt_add_left hlt offset)

variable {text : List Char}

theorem positions_readArguments {ending : Ending} {tokens : List Token} {arguments : List Argument}
    (hread : readArguments text ending tokens = .ok arguments) :
    (arguments.map (·.position)).Sublist (tokens.map (·.start)) := by
  fun_induction readArguments text ending tokens generalizing arguments with
  | case1 =>
      cases hread
      exact List.Sublist.slnil
  | case2 token rest hcomma ih => exact (ih hread).cons token.start
  | case3 | case6 => cases hread
  | case4 token rest hcomma argument hfirst =>
      cases hread
      obtain ⟨-, -, hposition, -⟩ := readArgument_eq_ok hfirst
      rw [List.map_cons, List.map_cons, hposition]
      exact (List.nil_sublist _).cons_cons token.start
  | case5 token rest hcomma argument next later hfirst hnext hlt ih =>
      obtain ⟨-, -, hposition, hleft⟩ := readArgument_eq_ok hfirst
      have hlater : later.Sublist rest := (List.sublist_cons_self next later).trans hleft.sublist
      obtain ⟨others, hrest, rfl⟩ := map_eq_ok_iff.1 hread
      rw [List.map_cons, List.map_cons, hposition]
      exact ((ih hrest).trans (hlater.map _)).cons_cons token.start

theorem Tiles.inOrder {start stop : Nat} {tokens : List Token} (h : Tiles text start tokens stop)
    {ending : Ending} {arguments : List Argument}
    (hread : readArguments text ending tokens = .ok arguments) :
    InOrder arguments := by
  have htokens : tokens.Pairwise fun first second => first.start < second.start :=
    h.pairwise.imp_of_mem fun hfirst _ hle => Nat.lt_of_lt_of_le (h.bounds _ hfirst).2.1 hle
  exact List.pairwise_map.1 ((List.pairwise_map.2 htokens).sublist (positions_readArguments hread))

theorem inOrder_readAll {arguments : List Argument} (hread : readAll text = .ok arguments) :
    InOrder arguments := by
  rw [readAll, tokenize_whole] at hread
  obtain ⟨scan, hscan, harguments⟩ := bind_eq_ok_iff.1 hread
  exact (tiles_scanFrom (Advances.refl 0 text) hscan).1.inOrder harguments

theorem inOrder_readTag {position : Nat} {rest : List Char} {found : Found}
    (hread : readTag position rest = .ok found) : InOrder found.directive.arguments := by
  unfold readTag at hread
  simp only at hread
  split at hread
  · cases hread
  · split at hread
    · cases hread
    · rename_i arguments harguments
      cases hread
      exact (inOrder_readAll harguments).shift _

theorem inOrder_readDirective {written after : List Char} {position : Nat} {found : Found}
    (hplace : Advances 0 text position ('@' :: (written ++ after)))
    (hread : readDirective text position written ('@' :: (written ++ after)) = .ok found) :
    InOrder found.directive.arguments := by
  unfold readDirective at hread
  simp only [drop_written] at hread
  split at hread
  · cases hread
  · split at hread
    · split at hread
      · cases hread
      · rename_i scan hscan
        have htiles := (tiles_scanFrom hplace.behind_paren hscan).1
        obtain ⟨arguments, harguments, rfl⟩ := map_eq_ok_iff.1 hread
        exact htiles.inOrder harguments
    · cases hread
      exact List.Pairwise.nil

theorem Begins.inOrder {before : Option Char} {position : Nat} {rest : List Char} {found : Found}
    (hplace : Advances 0 text position rest) (h : Begins text before position rest (.ok found)) :
    InOrder found.directive.arguments := by
  generalize hread : Except.ok found = result at h
  cases h with
  | tag opens => exact inOrder_readTag hread.symm
  | directive _ _ => exact inOrder_readDirective hplace hread.symm

theorem inOrder_readFrom {before : Option Char} {position : Nat} {rest : List Char}
    {directives : List Directive} (hplace : Advances 0 text position rest)
    (hread : readFrom text before position rest = .ok directives) :
    ∀ directive ∈ directives, InOrder directive.arguments := by
  generalize hresult : Except.ok directives = result at hread
  replace hread := readsTo_of_readFrom hread
  induction hread generalizing directives with
  | nil =>
      cases hresult
      exact List.forall_mem_nil _
  | skip _ _ _ ih => exact ih (hplace.trans (advances_cons _ _ _)) hresult
  | fault => cases hresult
  | found begins _ ih =>
      obtain ⟨others, rfl, rfl⟩ := map_eq_ok_iff.1 hresult.symm
      exact List.forall_mem_cons.2 ⟨begins.inOrder hplace, ih (hplace.trans begins.advances) rfl⟩

theorem inOrder_ofAnnotation {source : Option String} {directives : List Directive}
    (hread : ofAnnotation text source = .ok directives) :
    ∀ directive ∈ directives, InOrder directive.arguments := by
  have hfrom : readFrom text none 0 text = .ok directives := mapError_eq_ok_iff.1 hread
  exact inOrder_readFrom (Advances.refl 0 text) hfrom

/-- The last argument of each key counts, whichever way it is looked for. The options of a directive
that is read are the arguments behind which their key does not occur again, in the order of the
text, and so they have each given key once. As no argument stands where another one does, these are
the arguments that their own key finds. A key finds the option that has it, and finds none if there
is none. The duplicate keys are those given at least twice, by their first occurrence, and there are
none exactly if every argument is an option. -/
theorem last_of_each_key_counts {source : Option String} {directives : List Directive}
    (hread : ofAnnotation text source = .ok directives) {directive : Directive}
    (hmem : directive ∈ directives) :
    (directive.options = ((List.finRange directive.arguments.length).filter
          (IsLast Argument.key directive.arguments)).map directive.arguments.get ∧
        InOrder directive.arguments ∧
        directive.options = directive.arguments.filter
          (fun argument => directive.get? argument.key = some argument) ∧
        (directive.options.map (·.key)).Nodup ∧
        ∀ key, key ∈ directive.options.map (·.key) ↔ key ∈ directive.arguments.map (·.key)) ∧
      (∀ key, (∀ argument, directive.get? key = some argument ↔ argument ∈ directive.options ∧
        argument.key = key) ∧ (directive.get? key = none ↔ key ∉ directive.options.map (·.key)) ∧
        (directive.has key = false ↔ key ∉ directive.options.map (·.key))) ∧
      ((∀ key, key ∈ directive.duplicateKeys ↔ 2 ≤ (directive.arguments.map (·.key)).count key) ∧
        directive.duplicateKeys.Nodup ∧
        directive.duplicateKeys.Pairwise fun first second =>
          (directive.arguments.map (·.key)).idxOf first <
            (directive.arguments.map (·.key)).idxOf second) ∧
      (directive.arguments.length = directive.options.length ↔ directive.duplicateKeys = []) := by
  have hordered : InOrder directive.arguments := inOrder_ofAnnotation hread directive hmem
  have hkeys (key : String) : key ∈ directive.options.map (·.key) ↔
      key ∈ directive.arguments.map (·.key) :=
    mem_keys_keepLast
  have hnone (key : String) : directive.get? key = none ↔ key ∉ directive.options.map (·.key) := by
    rw [hkeys, get?_eq_none_iff]
  refine ⟨⟨keepLast_eq Argument.key directive.arguments, hordered, options_eq_filter hordered.nodup,
    nodup_keys_keepLast Argument.key directive.arguments, hkeys⟩,
    fun key => ⟨fun argument => get?_eq_some_iff, hnone key, ?_⟩,
    ⟨fun key => mem_duplicateKeys, (nodup_eraseDups _).filter _,
      pairwise_duplicateKeys directive⟩, ?_⟩
  · rw [← hnone, has, Option.isSome_eq_false_iff, Option.isNone_iff_eq_none]
  · exact length_keepLast_eq_iff.trans duplicateKeys_eq_nil_iff.symm

theorem last_of_each_key_counts_repeated :
    ∃ first second,
      ofAnnotation "@GqlField(ro, name:a, type:T, ro:[V], name:b) gql:\"x,x,x\"".toList none =
        .ok [first, second] ∧
      (first.duplicateKeys = ["ro", "name"] ∧ first.options.map (·.position) = [22, 30, 38] ∧
        ∀ argument, first.get? "ro" = some argument ↔ argument ∈ first.options ∧
          argument.key = "ro") ∧
      second.duplicateKeys = ["x"] ∧ second.options.map (·.position) = [55] ∧
        second.arguments.length ≠ second.options.length := by
  have hread :
      ofAnnotation "@GqlField(ro, name:a, type:T, ro:[V], name:b) gql:\"x,x,x\"".toList none =
        .ok [⟨.field,
          [{ key := "ro", position := 10 }, ⟨"name", some (.text "a"), none, 14, some "a"⟩,
            ⟨"type", some (.text "T"), none, 22, some "T"⟩,
            ⟨"ro", some (.list ["V"]), none, 30, some "[V]"⟩,
            ⟨"name", some (.text "b"), none, 38, some "b"⟩], 0, false⟩,
          ⟨.field, [{ key := "x", position := 51 }, { key := "x", position := 53 },
            { key := "x", position := 55 }], 46, true⟩] := by
    decide +kernel
  obtain ⟨-, hfirst, -, -⟩ := last_of_each_key_counts hread (List.mem_cons_self ..)
  obtain ⟨-, -, -, hsecond⟩ :=
    last_of_each_key_counts hread (List.mem_cons_of_mem _ (List.mem_singleton_self _))
  have hduplicates :
      duplicateKeys ⟨.field, [{ key := "x", position := 51 }, { key := "x", position := 53 },
      { key := "x", position := 55 }], 46, true⟩ = ["x"] := by decide +kernel
  refine ⟨_, _, hread, ⟨by decide +kernel, by decide +kernel, (hfirst "ro").1⟩,
    hduplicates, by decide +kernel, fun hlength => ?_⟩
  rw [hsecond.1 hlength] at hduplicates
  cases hduplicates

end SchemaViews.Directive
