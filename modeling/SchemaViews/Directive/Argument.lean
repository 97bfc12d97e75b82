import SchemaViews.Directive.Token
import SchemaViews.Text.Split

/-!
# Arguments

Reads the arguments of a directive from tokens. An argument is a flag, or a key with a text or a
list, and a value may be qualified by a list of names.
-/

namespace SchemaViews.Directive

open SchemaViews.Text

inductive Value where
  | text (content : String)
  | list (items : List String)
  deriving DecidableEq, Repr

/-- A flag, or a key with a value; a value may be qualified by a list of names. `raw`
is the source of the value. -/
structure Argument where
  key : String
  value : Option Value := none
  qualifier : Option (List String) := none
  position : Nat := 0
  raw : Option String := none
  deriving DecidableEq, Repr

def Argument.isFlag (argument : Argument) : Bool :=
  argument.value.isNone

def Argument.isList (argument : Argument) : Bool :=
  match argument.value with
  | some (.list _) => true
  | _ => false

/-- The source of a list without its delimiters. -/
def undelimited (raw : List Char) : List Char :=
  let opened := raw.head? == some '[' || raw.head? == some '\''
  let closed := raw.getLast? == some ']' || raw.getLast? == some '\''
  strip (if opened && closed then raw.tail.dropLast else raw)

/-- The value as one string; a list gives its source without the delimiters. -/
def Argument.text? (argument : Argument) : Option String :=
  match argument.value with
  | none => none
  | some (.text content) => some content
  | some (.list _) => some (String.ofList (undelimited (argument.raw.getD "").toList))

/-- The value as a list of names. -/
def Argument.items (argument : Argument) : List String :=
  match argument.value with
  | none => []
  | some (.text content) => [content]
  | some (.list items) => items

def Argument.shift (argument : Argument) (offset : Nat) : Argument :=
  { argument with position := offset + argument.position }

/-- The text of a token, or the next characters where a token has none. -/
def snippet (text : List Char) (start stop : Nat) : List Char :=
  let exact := slice text start stop
  if exact.isEmpty then slice text start (start + 20) else exact

def SyntaxError.atToken (cause : SyntaxCause) (text : List Char) (token : Token) : SyntaxError :=
  ⟨cause, snippet text token.start token.stop, token.start, none⟩

def SyntaxError.atEnding (cause : SyntaxCause) (text : List Char) (ending : Ending) : SyntaxError :=
  ⟨cause, snippet text ending.start ending.stop, ending.start, none⟩

def Token.isWord (token : Token) : Bool :=
  token.kind == .word

def runStop (first : Token) (rest : List Token) : Nat :=
  (((rest.takeWhile Token.isWord).getLast?).getD first).stop

def runText (text : List Char) (first : Token) (rest : List Token) : String :=
  String.ofList (slice text first.start (runStop first rest))

def afterRun (rest : List Token) : List Token :=
  rest.dropWhile Token.isWord

theorem length_afterRun_le (rest : List Token) : (afterRun rest).length ≤ rest.length :=
  (List.dropWhile_sublist Token.isWord).length_le

structure Reading (α : Type) where
  value : α
  stop : Nat
  rest : List Token
  deriving DecidableEq, Repr

def readItems (text : List Char) (ending : Ending) (tokens : List Token) :
    Except SyntaxError (Reading (List String)) :=
  match tokens with
  | [] => .error (.atEnding .unterminatedList text ending)
  | token :: rest =>
    match token.kind with
    | .closeBracket => .ok ⟨[], token.stop, rest⟩
    | .comma => readItems text ending rest
    | .word =>
      have := length_afterRun_le rest
      (readItems text ending (afterRun rest)).map fun reading =>
        { reading with value := runText text token rest :: reading.value }
    | .string => .error (.atToken (.strayInList .string) text token)
    | .quotedList => .error (.atToken (.strayInList .quotedList) text token)
    | .openBracket => .error (.atToken (.strayInList .openBracket) text token)
    | .colon => .error (.atToken (.strayInList .colon) text token)
  termination_by tokens.length

def readList (text : List Char) (ending : Ending) :
    List Token → Except SyntaxError (Reading (List String))
  | [] => .error (.atEnding (.missingListAtEnd ending.kind) text ending)
  | token :: rest =>
    match token.kind with
    | .quotedList => .ok ⟨splitNames token.value.toList, token.stop, rest⟩
    | .openBracket => readItems text ending rest
    | kind => .error (.atToken (.missingList kind) text token)

def readValue (text : List Char) (ending : Ending) :
    List Token → Except SyntaxError (Reading (Value × String))
  | [] => .error (.atEnding .missingValue text ending)
  | token :: rest =>
    match token.kind with
    | .string =>
      .ok ⟨(.text token.value, String.ofList (slice text token.start token.stop)), token.stop, rest⟩
    | .word =>
      let source := runText text token rest
      .ok ⟨(.text source, source), runStop token rest, afterRun rest⟩
    | .openBracket | .quotedList =>
      (readList text ending (token :: rest)).map fun reading =>
        { reading with value := (.list reading.value,
          String.ofList (slice text token.start reading.stop)) }
    | _ => .error (.atToken .missingValue text token)

def readQualifier (text : List Char) (ending : Ending) :
    List Token → Except SyntaxError (Option (List String) × List Token)
  | [] => .ok (none, [])
  | token :: rest =>
    if token.kind = .colon then
      (readList text ending rest).map fun reading => (some reading.value, reading.rest)
    else .ok (none, token :: rest)

def readArgument (text : List Char) (ending : Ending) (token : Token) (rest : List Token) :
    Except SyntaxError (Argument × List Token) :=
  if token.kind ≠ .word then .error (.atToken (.missingKey token.kind) text token)
  else
    match rest with
    | [] => .ok ({ key := token.value, position := token.start }, [])
    | next :: after =>
      match next.kind with
      | .word => .error (.atToken .textAfterFlag text next)
      | .colon =>
        (readValue text ending after).bind fun reading =>
          (readQualifier text ending reading.rest).map fun (qualifier, left) =>
            (⟨token.value, some reading.value.1, qualifier, token.start, some reading.value.2⟩,
              left)
      | _ => .ok ({ key := token.value, position := token.start }, next :: after)

theorem length_readItems_le {text : List Char} {ending : Ending} {tokens : List Token}
    {reading : Reading (List String)} (h : readItems text ending tokens = .ok reading) :
    reading.rest.length ≤ tokens.length := by
  fun_induction readItems text ending tokens generalizing reading with
  | case1 => simp at h
  | case2 token rest _ =>
    cases h
    simp
  | case3 token rest _ ih =>
    have := ih h
    simp only [List.length_cons]
    omega
  | case4 token rest _ _ ih =>
    have hrun := length_afterRun_le rest
    cases hafter : readItems text ending (afterRun rest) with
    | error error => simp [hafter, Except.map] at h
    | ok inner =>
      simp only [hafter, Except.map, Except.ok.injEq] at h
      have := ih hafter
      simp only [← h, List.length_cons]
      omega
  | case5 => simp at h
  | case6 => simp at h
  | case7 => simp at h
  | case8 => simp at h

theorem length_readList_le {text : List Char} {ending : Ending} {tokens : List Token}
    {reading : Reading (List String)} (h : readList text ending tokens = .ok reading) :
    reading.rest.length ≤ tokens.length := by
  cases tokens with
  | nil => simp [readList] at h
  | cons token rest =>
    simp only [readList] at h
    split at h
    · cases h
      simp
    · have := length_readItems_le h
      simp only [List.length_cons]
      omega
    · simp at h

theorem length_readValue_le {text : List Char} {ending : Ending} {tokens : List Token}
    {reading : Reading (Value × String)} (h : readValue text ending tokens = .ok reading) :
    reading.rest.length ≤ tokens.length := by
  have hlist : ∀ {token : Token} {rest : List Token},
      ((readList text ending (token :: rest)).map fun inner =>
        ({ inner with value := (.list inner.value,
          String.ofList (slice text token.start inner.stop)) } :
          Reading (Value × String))) = .ok reading →
      reading.rest.length ≤ (token :: rest).length := by
    intro token rest hmap
    cases hread : readList text ending (token :: rest) with
    | error error => simp [hread, Except.map] at hmap
    | ok inner =>
      simp only [hread, Except.map, Except.ok.injEq] at hmap
      simpa [← hmap] using length_readList_le hread
  cases tokens with
  | nil => simp [readValue] at h
  | cons token rest =>
    simp only [readValue] at h
    split at h
    · cases h
      simp
    · cases h
      have := length_afterRun_le rest
      simp only [List.length_cons]
      omega
    · exact hlist h
    · exact hlist h
    · simp at h

theorem length_readQualifier_le {text : List Char} {ending : Ending} {tokens left : List Token}
    {qualifier : Option (List String)}
    (h : readQualifier text ending tokens = .ok (qualifier, left)) :
    left.length ≤ tokens.length := by
  cases tokens with
  | nil =>
    simp only [readQualifier, Except.ok.injEq, Prod.mk.injEq] at h
    simp [← h.2]
  | cons token rest =>
    simp only [readQualifier] at h
    split at h
    · cases hread : readList text ending rest with
      | error error => simp [hread, Except.map] at h
      | ok reading =>
        simp only [hread, Except.map, Except.ok.injEq, Prod.mk.injEq] at h
        have := length_readList_le hread
        simp only [← h.2, List.length_cons]
        omega
    · simp only [Except.ok.injEq, Prod.mk.injEq] at h
      simp [← h.2]

theorem length_readArgument_le {text : List Char} {ending : Ending} {token : Token}
    {rest left : List Token} {argument : Argument}
    (h : readArgument text ending token rest = .ok (argument, left)) :
    left.length ≤ rest.length := by
  simp only [readArgument] at h
  split at h
  · simp at h
  · split at h
    · simp only [Except.ok.injEq, Prod.mk.injEq] at h
      simp [← h.2]
    · split at h
      · simp at h
      · rename_i after _ _
        cases hvalue : readValue text ending after with
        | error error => simp [hvalue, Except.bind] at h
        | ok reading =>
          cases hqualifier : readQualifier text ending reading.rest with
          | error error => simp [hvalue, hqualifier, Except.bind, Except.map] at h
          | ok found =>
            simp only [hvalue, hqualifier, Except.bind, Except.map, Except.ok.injEq,
              Prod.mk.injEq] at h
            have hfirst := length_readValue_le hvalue
            have hsecond := length_readQualifier_le hqualifier
            simp only [← h.2, List.length_cons]
            omega
      · simp only [Except.ok.injEq, Prod.mk.injEq] at h
        simp [← h.2]

/-- The arguments between commas; empty parts are skipped. -/
def readArguments (text : List Char) (ending : Ending) (tokens : List Token) :
    Except SyntaxError (List Argument) :=
  match tokens with
  | [] => .ok []
  | token :: rest =>
    if token.kind = .comma then readArguments text ending rest
    else
      match h : readArgument text ending token rest with
      | .error error => .error error
      | .ok (argument, []) => .ok [argument]
      | .ok (argument, next :: later) =>
        if next.kind = .comma then
          have := length_readArgument_le h
          (readArguments text ending later).map (argument :: ·)
        else .error (.atToken (.missingComma next.kind) text next)
  termination_by tokens.length
  decreasing_by
    · simp
    · simp only [List.length_cons] at *
      omega

end SchemaViews.Directive
