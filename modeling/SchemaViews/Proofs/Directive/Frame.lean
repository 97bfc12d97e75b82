import SchemaViews.Proofs.Directive.Remainder
import SchemaViews.Proofs.Directive.Scan

/-!
# Arguments in a larger text

What is read from tokens hangs on the text inside their spans only. Text before it moves the
arguments and the faults, and text behind it changes no argument.
-/

namespace SchemaViews.Directive

open SchemaViews.Text

def Reading.shift {α : Type} (reading : Reading α) (offset : Nat) : Reading α :=
  { reading with stop := reading.stop + offset, rest := reading.rest.map (·.shift offset) }

theorem slice_behind (front text : List Char) (start stop : Nat) :
    slice (front ++ text) (start + front.length) (stop + front.length) = slice text start stop := by
  calc
    slice (front ++ text) (start + front.length) (stop + front.length) =
        ((front ++ text).drop (front.length + start)).take (stop - start) := by
      rw [slice, Nat.add_sub_add_right, Nat.add_comm start]
    _ = (text.drop start).take (stop - start) := by rw [← List.drop_drop, List.drop_left]

theorem slice_frame (before after : List Char) {text : List Char} {start stop : Nat}
    (h : stop ≤ text.length) :
    slice (before ++ text ++ after) (start + before.length) (stop + before.length) =
      slice text start stop := by
  have hinside : stop - start ≤ (text.drop start).length := by
    rw [List.length_drop]
    omega
  calc
    slice (before ++ text ++ after) (start + before.length) (stop + before.length) =
        slice (text ++ after) start stop := by rw [List.append_assoc, slice_behind]
    _ = (text.drop start).take (stop - start) := by
      rw [slice, List.drop_append, List.take_append_of_le_length hinside]

@[simp]
theorem kind_shift (token : Token) (offset : Nat) : (token.shift offset).kind = token.kind := rfl

theorem takeWhile_isWord_shift (rest : List Token) (offset : Nat) :
    (rest.map (·.shift offset)).takeWhile Token.isWord =
      (rest.takeWhile Token.isWord).map (·.shift offset) := by
  rw [List.takeWhile_map]
  rfl

theorem afterRun_shift (rest : List Token) (offset : Nat) :
    afterRun (rest.map (·.shift offset)) = (afterRun rest).map (·.shift offset) := by
  rw [afterRun, List.dropWhile_map]
  rfl

theorem runStop_shift (first : Token) (rest : List Token) (offset : Nat) :
    runStop (first.shift offset) (rest.map (·.shift offset)) = runStop first rest + offset := by
  rw [runStop, runStop, takeWhile_isWord_shift, List.getLast?_map]
  cases (rest.takeWhile Token.isWord).getLast? <;> rfl

/-- Both readings succeed, the second with what the first gives moved, or both fail with
faults that belong together. -/
inductive Tracks {α : Type} (fault : SyntaxError → SyntaxError → Prop) (move : α → α) :
    Except SyntaxError α → Except SyntaxError α → Prop where
  | ok (value : α) : Tracks fault move (.ok value) (.ok (move value))
  | error {first second : SyntaxError} (h : fault first second) :
      Tracks fault move (.error first) (.error second)

namespace Tracks

variable {α β : Type} {fault : SyntaxError → SyntaxError → Prop} {move : α → α} {moveNext : β → β}
  {first second : Except SyntaxError α}

theorem map (h : Tracks fault move first second) {f g : α → β}
    (hvalue : ∀ value, first = .ok value → g (move value) = moveNext (f value)) :
    Tracks fault moveNext (first.map f) (second.map g) := by
  cases h with
  | ok value =>
      change Tracks fault moveNext (.ok (f value)) (.ok (g (move value)))
      rw [hvalue value rfl]
      exact .ok (f value)
  | error hfault => exact .error hfault

theorem bind (h : Tracks fault move first second) {f g : α → Except SyntaxError β}
    (hvalue : ∀ value, first = .ok value → Tracks fault moveNext (f value) (g (move value))) :
    Tracks fault moveNext (first.bind f) (second.bind g) := by
  cases h with
  | ok value => exact hvalue value rfl
  | error hfault => exact .error hfault

theorem eq_ok {value : α} (h : Tracks fault move (.ok value) second) :
    second = .ok (move value) := by
  cases h
  rfl

theorem eq_error {error : SyntaxError} (h : Tracks fault move (.error error) second) :
    ∃ moved, second = .error moved ∧ fault error moved := by
  cases h with
  | error hfault => exact ⟨_, rfl, hfault⟩

theorem toOption_eq (h : Tracks fault move first second) :
    second.toOption = first.toOption.map move := by
  cases h <;> rfl

theorem eq_shift {offset : Nat}
    (h : Tracks (fun error moved => moved = error.shift offset) move first second) :
    second = (first.map move).mapError (·.shift offset) := by
  cases h with
  | ok value => rfl
  | error hfault =>
      rw [hfault]
      rfl

end Tracks

/-- A text as a part of a longer one, further on by `offset`: its slices are found there, and its
faults belong to faults of the longer text. -/
structure Framed (fault : SyntaxError → SyntaxError → Prop) (text full : List Char) (offset : Nat)
    (ending ending' : Ending) : Prop where
  slice_eq : ∀ start stop, stop ≤ text.length →
    slice full (start + offset) (stop + offset) = slice text start stop
  fault_token :
    ∀ cause token, fault (.atToken cause text token) (.atToken cause full (token.shift offset))
  fault_ending : ∀ cause : EndingKind → SyntaxCause,
    fault (.atEnding (cause ending.kind) text ending) (.atEnding (cause ending'.kind) full ending')

theorem framed_between (before text after : List Char) (ending ending' : Ending) :
    Framed (fun _ _ => True) text (before ++ text ++ after) before.length ending ending' where
  slice_eq _ _ h := slice_frame before after h
  fault_token _ _ := trivial
  fault_ending _ := trivial

theorem snippet_behind (front text : List Char) (start stop : Nat) :
    snippet (front ++ text) (start + front.length) (stop + front.length) =
      snippet text start stop := by
  rw [snippet, snippet, slice_behind, Nat.add_right_comm start front.length 20, slice_behind]

/-- Behind another text even the faults are the same, further on. -/
theorem framed_behind (front text : List Char) (ending : Ending) :
    Framed (fun error moved => moved = error.shift front.length) text
      (front ++ text) front.length ending (ending.shift front.length) where
  slice_eq start stop _ := slice_behind front text start stop
  fault_token cause token := by
    simp only [SyntaxError.atToken, SyntaxError.shift, Token.shift, snippet_behind, Int.natCast_add]
  fault_ending cause := by
    simp only [SyntaxError.atEnding, SyntaxError.shift, Ending.shift, snippet_behind,
      Int.natCast_add]

namespace Framed

variable {fault : SyntaxError → SyntaxError → Prop} {text full : List Char} {offset : Nat}
    {ending ending' : Ending} {tokens : List Token}

theorem runText_eq (hframe : Framed fault text full offset ending ending') {first : Token}
    {rest : List Token} (h : Within text.length (first :: rest)) :
    runText full (first.shift offset) (rest.map (·.shift offset)) = runText text first rest := by
  rw [runText, runText, runStop_shift]
  exact congrArg String.ofList (hframe.slice_eq _ _ h.runStop)

theorem readItems (hframe : Framed fault text full offset ending ending')
    (h : Within text.length tokens) :
    Tracks fault (·.shift offset) (readItems text ending tokens)
      (readItems full ending' (tokens.map (·.shift offset))) := by
  fun_induction Directive.readItems text ending tokens with
  | case1 =>
      rw [List.map_nil, Directive.readItems]
      exact .error (hframe.fault_ending fun _ => .unterminatedList)
  | case2 token rest hkind =>
      rw [List.map_cons, Directive.readItems, kind_shift, hkind]
      exact .ok _
  | case3 token rest hkind ih =>
      rw [List.map_cons, Directive.readItems, kind_shift, hkind]
      exact ih h.tail
  | case4 token rest hkind hle ih =>
      rw [List.map_cons, Directive.readItems, kind_shift, hkind]
      simp only [afterRun_shift, hframe.runText_eq h]
      exact (ih (h.tail.suffix (suffix_afterRun rest))).map fun _ _ => rfl
  | case5 token rest hkind | case6 token rest hkind | case7 token rest hkind
  | case8 token rest hkind =>
      rw [List.map_cons, Directive.readItems, kind_shift, hkind]
      exact .error (hframe.fault_token _ token)

theorem readList (hframe : Framed fault text full offset ending ending')
    (h : Within text.length tokens) : Tracks fault (·.shift offset) (readList text ending tokens)
      (readList full ending' (tokens.map (·.shift offset))) := by
  cases tokens with
  | nil => exact .error (hframe.fault_ending .missingListAtEnd)
  | cons token rest =>
      rw [List.map_cons, Directive.readList, Directive.readList, kind_shift]
      split
      · exact .ok _
      · exact hframe.readItems h.tail
      · exact .error (hframe.fault_token _ token)

theorem readValue (hframe : Framed fault text full offset ending ending')
    (h : Within text.length tokens) : Tracks fault (·.shift offset) (readValue text ending tokens)
      (readValue full ending' (tokens.map (·.shift offset))) := by
  cases tokens with
  | nil => exact .error (hframe.fault_ending fun _ => .missingValue)
  | cons token rest =>
      have hlist : Tracks fault (·.shift offset)
          ((Directive.readList text ending (token :: rest)).map fun reading => ({ reading with
            value := (.list reading.value, String.ofList (slice text token.start reading.stop)) } :
            Reading (Value × String)))
          ((Directive.readList full ending' ((token :: rest).map (·.shift offset))).map
            fun reading => { reading with
              value := (.list reading.value,
                String.ofList (slice full (token.start + offset) reading.stop)) }) :=
        (hframe.readList h).map fun reading hread => by
          simp only [Reading.shift,
            hframe.slice_eq token.start _ ((leaves_readList hread).stop_le h)]
      rw [List.map_cons, Directive.readValue, Directive.readValue, kind_shift]
      split
      · simp only [Token.shift, hframe.slice_eq token.start _ h.head]
        exact .ok _
      · simp only [hframe.runText_eq h, runStop_shift, afterRun_shift]
        exact .ok _
      · exact hlist
      · exact hlist
      · exact .error (hframe.fault_token _ token)

theorem readQualifier (hframe : Framed fault text full offset ending ending')
    (h : Within text.length tokens) :
    Tracks fault (fun found => (found.1, found.2.map (·.shift offset)))
      (readQualifier text ending tokens)
      (readQualifier full ending' (tokens.map (·.shift offset))) := by
  cases tokens with
  | nil => exact .ok (none, [])
  | cons token rest =>
      rw [List.map_cons, Directive.readQualifier, Directive.readQualifier, kind_shift]
      split
      · exact (hframe.readList h.tail).map fun _ _ => rfl
      · exact .ok (none, token :: rest)

theorem readArgument (hframe : Framed fault text full offset ending ending') {token : Token}
    {rest : List Token} (h : Within text.length (token :: rest)) :
    Tracks fault (fun read => (read.1.shift offset, read.2.map (·.shift offset)))
      (readArgument text ending token rest)
      (readArgument full ending' (token.shift offset) (rest.map (·.shift offset))) := by
  have hposition : (token.shift offset).start = offset + token.start :=
    Nat.add_comm token.start offset
  unfold Directive.readArgument
  rw [kind_shift, hposition]
  split
  · exact .error (hframe.fault_token _ token)
  · cases rest with
    | nil => exact .ok (_, [])
    | cons next later =>
        simp only [List.map_cons, kind_shift]
        split
        · exact .error (hframe.fault_token _ next)
        · refine (hframe.readValue h.tail.tail).bind fun reading hread => ?_
          exact (hframe.readQualifier (h.tail.tail.suffix (suffix_readValue hread))).map
            fun _ _ => rfl
        · exact .ok (_, next :: later)

/-- Tokens of a part of a text read as they would read from that part alone, except that the
arguments stand further on. -/
theorem readArguments (hframe : Framed fault text full offset ending ending')
    (h : Within text.length tokens) :
    Tracks fault (List.map (·.shift offset)) (readArguments text ending tokens)
      (readArguments full ending' (tokens.map (·.shift offset))) := by
  fun_induction Directive.readArguments text ending tokens with
  | case1 =>
      rw [List.map_nil, Directive.readArguments]
      exact .ok []
  | case2 token rest hcomma ih =>
      rw [List.map_cons, readArguments_cons, kind_shift, if_pos hcomma]
      exact ih h.tail
  | case3 token rest hcomma error hread =>
      have hargument := hframe.readArgument h
      rw [hread] at hargument
      obtain ⟨moved, hmoved, hfault⟩ := hargument.eq_error
      rw [List.map_cons, readArguments_cons, kind_shift, if_neg hcomma, hmoved]
      exact .error hfault
  | case4 token rest hcomma argument hread =>
      have hargument := hframe.readArgument h
      rw [hread] at hargument
      rw [List.map_cons, readArguments_cons, kind_shift, if_neg hcomma, hargument.eq_ok]
      exact .ok [argument]
  | case5 token rest hcomma argument next later hread hnext hlt ih =>
      have hargument := hframe.readArgument h
      rw [hread] at hargument
      rw [List.map_cons, readArguments_cons, kind_shift, if_neg hcomma, hargument.eq_ok]
      have hmoved : (next.shift offset).kind = .comma := hnext
      simp only [Except.bind, List.map_cons, if_pos hmoved]
      exact (ih (h.tail.suffix (readArgument_eq_ok hread).2.2.2).tail).map fun _ _ => rfl
  | case6 token rest hcomma argument next later hread hnext =>
      have hargument := hframe.readArgument h
      rw [hread] at hargument
      rw [List.map_cons, readArguments_cons, kind_shift, if_neg hcomma, hargument.eq_ok]
      have hmoved : ¬(next.shift offset).kind = .comma := hnext
      simp only [Except.bind, List.map_cons, if_neg hmoved]
      exact .error (hframe.fault_token _ next)

end Framed

/-- Neither the text before nor the text behind a list changes what it is read as. -/
theorem readArguments_frame (before after : List Char) {text : List Char} (ending ending' : Ending)
    {tokens : List Token} (h : Within text.length tokens) :
    (readArguments (before ++ text ++ after) ending'
      (tokens.map (·.shift before.length))).toOption =
        (readArguments text ending tokens).toOption.map (List.map (·.shift before.length)) :=
  ((framed_between before text after ending ending').readArguments h).toOption_eq

theorem readArguments_behind (front : List Char) {text : List Char} (ending : Ending)
    {tokens : List Token} (h : Within text.length tokens) :
    readArguments (front ++ text) (ending.shift front.length) (tokens.map (·.shift front.length)) =
      ((readArguments text ending tokens).map (List.map (·.shift front.length))).mapError
        (·.shift front.length) :=
  ((framed_behind front text ending).readArguments h).eq_shift

end SchemaViews.Directive
