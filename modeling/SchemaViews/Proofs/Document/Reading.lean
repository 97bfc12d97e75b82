import SchemaViews.Document.Literal
import SchemaViews.Proofs.Document.Types

/-!
# Reading the definitions of a schema

The tokens of descriptions, directives and members, and that the reader gets them back in front of
whatever may come next. A member ends where no punctuation goes on with it, a definition where no
other definition could be part of it.
-/

namespace SchemaViews.Document

def written (text : Option String) : Option (List Char) :=
  match text with
  | some content => if content.isEmpty then none else some content.toList
  | none => none

def literalToken (content : List Char) : Lexeme :=
  if content.contains '\n' || content.getLast? == some '"' then .string content
    else .blockString content

def descriptionTokens (text : Option String) : List Lexeme :=
  ((written text).map literalToken).toList

/-- The use of a directive with at most one argument, whose value is a single token. -/
def usage (label : String) (argument : Option (String × Lexeme)) : List Lexeme :=
  .punctuator '@' :: .name label ::
    match argument with
    | none => []
    | some (key, leaf) => [.punctuator '(', .name key, .punctuator ':', leaf, .punctuator ')']

def deprecationTokens : Option String → List Lexeme
  | none => []
  | some reason =>
    usage "deprecated" (if reason.isEmpty then none else some ("reason", .string reason.toList))

def deprecationUse : Option String → List Applied
  | none => []
  | some reason =>
    [⟨"deprecated", if reason.isEmpty then [] else [("reason", .string reason.toList)]⟩]

def resolverTokens (forced : Bool) : List Lexeme :=
  if forced then usage "goField" (some ("forceResolver", .name "true")) else []

def resolverUse (forced : Bool) : List Applied :=
  if forced then [⟨"goField", [("forceResolver", .bool true)]⟩] else []

def braced {α : Type} (tokens : α → List Lexeme) (entries : List α) : List Lexeme :=
  if entries.isEmpty then [] else .punctuator '\x7b' ::
    (entries.flatMap tokens ++ [.punctuator '\x7d'])

/-- No punctuation comes next that could go on with a member. -/
def EndsMember (rest : List Lexeme) : Prop :=
  ∀ c, rest.head? = some (.punctuator c) → c = '\x7d'

/-- Neither punctuation nor a list of interfaces comes next, so that a definition may end here. -/
def EndsDefinition (rest : List Lexeme) : Prop :=
  (∀ c, rest.head? ≠ some (.punctuator c)) ∧ rest.head? ≠ some (.name "implements")

theorem EndsMember.head?_ne {rest : List Lexeme} (h : EndsMember rest) {c : Char}
    (hc : c ≠ '\x7d') : rest.head? ≠ some (.punctuator c) :=
  fun hhead => hc (h c hhead)

namespace Reader

section Sequences

variable {α β : Type} {close : Lexeme} {item : Reader α} {Ends : List Lexeme → Prop}
    {tokens : β → List Lexeme} {meaning : β → α} {entries : List β}

theorem ends_flatMap (hends : ∀ entry ∈ entries, ∀ rest, Ends (tokens entry ++ rest))
    {rest : List Lexeme} (hrest : Ends rest) : Ends (entries.flatMap tokens ++ rest) := by
  cases entries with
  | nil => exact hrest
  | cons entry later =>
      rw [List.flatMap_cons, List.append_assoc]
      exact hends entry List.mem_cons_self _

/-- A sequence is read back if each of its entries is, in front of the next one and in
front of the closing token. -/
theorem untilClose_flatMap (hitem : ∀ entry ∈ entries, ∀ rest, Ends rest →
      item (tokens entry ++ rest) = some (meaning entry, rest))
    (hends : ∀ entry ∈ entries, ∀ rest, Ends (tokens entry ++ rest))
    (hopen : ∀ entry ∈ entries, ∀ rest, (tokens entry ++ rest).head? ≠ some close)
    {rest : List Lexeme} (hclose : Ends (close :: rest)) {fuel : Nat}
    (hfuel : entries.length < fuel) :
    untilClose close item fuel (entries.flatMap tokens ++ close :: rest) =
      some (entries.map meaning, rest) := by
  induction entries generalizing fuel with
  | nil =>
      obtain ⟨fuel, rfl⟩ := Nat.exists_eq_add_of_lt hfuel
      rw [untilClose, bind_apply, List.flatMap_nil, List.nil_append, accept_cons_self]
      rfl
  | cons entry entries ih =>
      obtain ⟨fuel, rfl⟩ := Nat.exists_eq_add_of_lt (Nat.zero_lt_of_lt hfuel)
      rw [Nat.zero_add] at hfuel ⊢
      have hnext :=
        ends_flatMap (fun entry hmem => hends entry (List.mem_cons_of_mem _ hmem)) hclose
      have hrest := ih (fun entry hmem => hitem entry (List.mem_cons_of_mem _ hmem))
        (fun entry hmem => hends entry (List.mem_cons_of_mem _ hmem))
        (fun entry hmem => hopen entry (List.mem_cons_of_mem _ hmem)) (Nat.lt_of_succ_lt_succ hfuel)
      rw [List.flatMap_cons, List.append_assoc, untilClose, bind_apply,
        accept_of_ne (hopen entry (by simp) _)]
      simp only [Option.bind_some, Bool.false_eq_true, if_false, bind_apply,
        hitem entry (by simp) _ hnext, hrest]
      rfl

theorem optionalMany_flatMap {opening : Lexeme} (hne : entries ≠ [])
    (hitem : ∀ entry ∈ entries, ∀ rest, Ends rest →
      item (tokens entry ++ rest) = some (meaning entry, rest))
    (hends : ∀ entry ∈ entries, ∀ rest, Ends (tokens entry ++ rest))
    (hopen : ∀ entry ∈ entries, ∀ rest, (tokens entry ++ rest).head? ≠ some close)
    {rest : List Lexeme} (hclose : Ends (close :: rest)) {fuel : Nat}
    (hfuel : entries.length < fuel) :
    optionalMany opening close item fuel (opening :: (entries.flatMap tokens ++ close :: rest)) =
      some (entries.map meaning, rest) := by
  obtain ⟨entry, later, rfl⟩ := List.exists_cons_of_ne_nil hne
  have hnext := ends_flatMap (fun entry hmem => hends entry (List.mem_cons_of_mem _ hmem)) hclose
  have hlater := untilClose_flatMap (fun entry hmem => hitem entry (List.mem_cons_of_mem _ hmem))
    (fun entry hmem => hends entry (List.mem_cons_of_mem _ hmem))
    (fun entry hmem => hopen entry (List.mem_cons_of_mem _ hmem)) hclose (Nat.lt_of_succ_lt hfuel)
  rw [optionalMany, bind_apply, accept_cons_self, List.flatMap_cons, List.append_assoc]
  simp only [Option.bind_some, if_true, manyUntil, bind_apply, hitem entry (by simp) _ hnext,
    hlater]
  rfl

theorem optionalMany_of_ne {opening : Lexeme} {fuel : Nat} {rest : List Lexeme}
    (h : rest.head? ≠ some opening) :
    optionalMany opening close item fuel rest = some ([], rest) := by
  rw [optionalMany, bind_apply, accept_of_ne h]
  rfl

end Sequences

theorem description_tokens (text : Option String) (label : String) (rest : List Lexeme) :
    description (descriptionTokens text ++ .name label :: rest) =
      some (written text, .name label :: rest) := by
  rw [descriptionTokens]
  cases written text with
  | none => rfl
  | some content =>
      simp only [Option.map_some, Option.toList_some, List.singleton_append, literalToken]
      split <;> rfl

theorem value_string (constant : Bool) (fuel levels : Nat) (content : List Char)
    (rest : List Lexeme) :
    value constant fuel levels (.string content :: rest) = some (.string content, rest) := by
  cases levels <;> rfl

theorem value_true (constant : Bool) (fuel levels : Nat) (rest : List Lexeme) :
    value constant fuel levels (.name "true" :: rest) = some (.bool true, rest) := by
  cases levels <;> rfl

section Directives

variable {given : Reader (List (String × Value))} {fuel levels count : Nat} {rest : List Lexeme}

theorem directivesOf_of_ne (h : rest.head? ≠ some (mark '@')) :
    directivesOf given (fuel + 1) rest = some ([], rest) := by
  rw [directivesOf, bind_apply, accept_of_ne h]
  rfl

theorem directivesOf_usage {label : String} {tokens : List Lexeme}
    {arguments : List (String × Value)} (hgiven : given tokens = some (arguments, rest)) :
    directivesOf given (fuel + 1) (.punctuator '@' :: .name label :: tokens) =
      (directivesOf given fuel rest).map fun (later, left) =>
        (⟨label, arguments⟩ :: later, left) := by
  rw [directivesOf, bind_apply]
  change (accept (mark '@') (mark '@' :: .name label :: tokens)).bind _ = _
  rw [accept_cons_self]
  simp only [Option.bind_some, if_true, bind_apply, name_cons, hgiven]
  cases directivesOf given fuel rest <;> rfl

theorem arguments_single (key : String) {leaf : Lexeme} {content : Value}
    (hleaf : ∀ rest, value true (fuel + 1) levels (leaf :: rest) = some (content, rest))
    (rest : List Lexeme) : arguments true (fuel + 1) levels
        ([.punctuator '(', .name key, .punctuator ':', leaf, .punctuator ')'] ++ rest) =
      some ([(key, content)], rest) := by
  change arguments true (fuel + 1) levels
    (mark '(' :: .name key :: mark ':' :: leaf :: mark ')' :: rest) = _
  rw [arguments, optionalMany, bind_apply, accept_cons_self]
  simp only [Option.bind_some, if_true, manyUntil, labelled, untilClose, bind_apply, name_cons,
    expect_cons_self, hleaf, pure_apply, accept_cons_self]

theorem directivesOf_usage_bare {fuel : Nat} (label : String)
    (hrest : rest.head? ≠ some (.punctuator '(')) :
    directivesOf (arguments true fuel levels) (count + 1) (usage label none ++ rest) =
      (directivesOf (arguments true fuel levels) count rest).map
        fun (later, left) => (⟨label, []⟩ :: later, left) :=
  directivesOf_usage (optionalMany_of_ne hrest)

theorem head?_resolverTokens_ne (forced : Bool) (hrest : EndsMember rest) :
    (resolverTokens forced ++ rest).head? ≠ some (.punctuator '(') := by
  cases forced with
  | false => exact hrest.head?_ne (by decide)
  | true => simp [resolverTokens, usage]

/-- A directive with one argument, whose value is a single token. -/
theorem directivesOf_usage_single (label key : String) {leaf : Lexeme} {content : Value}
    (hleaf : ∀ rest, value true (fuel + 1) levels (leaf :: rest) = some (content, rest))
    (rest : List Lexeme) :
    directivesOf (arguments true (fuel + 1) levels) (count + 1)
      (usage label (some (key, leaf)) ++ rest) =
        (directivesOf (arguments true (fuel + 1) levels) count rest).map
          fun (later, left) => (⟨label, [(key, content)]⟩ :: later, left) :=
  directivesOf_usage (arguments_single key hleaf rest)

theorem directivesOf_resolverTokens (forced : Bool) (hrest : EndsMember rest) :
    directivesOf (arguments true (fuel + 1) levels) (count + 2) (resolverTokens forced ++ rest) =
      some (resolverUse forced, rest) := by
  have hend {count : Nat} : directivesOf (arguments true (fuel + 1) levels) (count + 1) rest =
      some ([], rest) :=
    directivesOf_of_ne (hrest.head?_ne (by decide))
  cases forced with
  | false => exact hend
  | true =>
      rw [resolverTokens, if_pos rfl,
        directivesOf_usage_single _ _ (value_true true (fuel + 1) levels), hend]
      rfl

theorem constantDirectives_tokens (deprecated : Option String) (forced : Bool)
    (hrest : EndsMember rest) (hfuel : 2 < fuel) :
    constantDirectives fuel levels
      (deprecationTokens deprecated ++ (resolverTokens forced ++ rest)) =
        some (deprecationUse deprecated ++ resolverUse forced, rest) := by
  obtain ⟨fuel, rfl⟩ : ∃ count, fuel = count + 3 := ⟨fuel - 3, by omega⟩
  rw [constantDirectives, directives]
  cases deprecated with
  | none => exact directivesOf_resolverTokens forced hrest
  | some reason =>
      by_cases hempty : reason.isEmpty = true
      · rw [deprecationTokens, deprecationUse, if_pos hempty, if_pos hempty,
          directivesOf_usage_bare _ (head?_resolverTokens_ne forced hrest),
          directivesOf_resolverTokens forced hrest]
        rfl
      · rw [deprecationTokens, deprecationUse, if_neg hempty, if_neg hempty,
          directivesOf_usage_single _ _ (value_string true (fuel + 3) levels reason.toList),
          directivesOf_resolverTokens forced hrest]
        rfl

theorem head?_directives_ne (deprecated : Option String) (forced : Bool) (hrest : EndsMember rest)
    {c : Char} (hat : c ≠ '@') (hc : c ≠ '\x7d') :
    (deprecationTokens deprecated ++ (resolverTokens forced ++ rest)).head? ≠
      some (.punctuator c) := by
  have husage (label : String) (argument : Option (String × Lexeme)) (rest : List Lexeme) :
      (usage label argument ++ rest).head? ≠ some (.punctuator c) := by
    change some (Lexeme.punctuator '@') ≠ some (.punctuator c)
    exact fun h => hat (by cases h; rfl)
  cases deprecated with
  | some reason => exact husage _ _ _
  | none =>
      cases forced with
      | true => exact husage "goField" (some ("forceResolver", .name "true")) rest
      | false => exact hrest.head?_ne hc

end Directives

section Members

variable {fuel levels : Nat} {rest : List Lexeme} {type : TypeRef} {chars : List Char}

theorem fieldDefinition_tokens (text : Option String) (label : String) (deprecated : Option String)
    (forced : Bool) (htype : type.Written chars) (hlevels : type.nesting ≤ levels)
    (hrest : EndsMember rest) (hfuel : 2 < fuel) :
    fieldDefinition fuel levels (descriptionTokens text ++ .name label :: .punctuator ':' ::
        (type.tokens ++ (deprecationTokens deprecated ++ (resolverTokens forced ++ rest)))) =
      some (⟨written text, label, [], type, deprecationUse deprecated ++ resolverUse forced⟩,
        rest) := by
  have hmark := head?_directives_ne deprecated forced hrest (c := '!') (by decide) (by decide)
  have hparameters (tokens : List Lexeme) : inputValues '(' ')' fuel levels (mark ':' :: tokens) =
      some ([], mark ':' :: tokens) := optionalMany_of_ne (by simp [mark])
  change fieldDefinition fuel levels (_ ++ .name label :: mark ':' :: _) = _
  rw [fieldDefinition]
  simp only [bind_apply, description_tokens, Option.bind_some, name_cons, hparameters,
    expect_cons_self, (typeRef_tokens htype hlevels).2 _ hmark,
    constantDirectives_tokens deprecated forced hrest hfuel, pure_apply]

theorem inputValue_tokens (text : Option String) (label : String) (deprecated : Option String)
    (forced : Bool) (htype : type.Written chars) (hlevels : type.nesting ≤ levels)
    (hrest : EndsMember rest) (hfuel : 2 < fuel) :
    inputValue fuel levels (descriptionTokens text ++ .name label :: .punctuator ':' ::
        (type.tokens ++ (deprecationTokens deprecated ++ (resolverTokens forced ++ rest)))) =
      some (⟨written text, label, type, none, deprecationUse deprecated ++ resolverUse forced⟩,
        rest) := by
  have hmark := head?_directives_ne deprecated forced hrest (c := '!') (by decide) (by decide)
  have hdefault :
      default? fuel levels (deprecationTokens deprecated ++ (resolverTokens forced ++ rest)) =
        some (none, deprecationTokens deprecated ++ (resolverTokens forced ++ rest)) := by
    have hequals := head?_directives_ne deprecated forced hrest (c := '=') (by decide) (by decide)
    rw [default?, bind_apply]
    change (accept (.punctuator '=') _).bind _ = _
    rw [accept_of_ne hequals]
    rfl
  change inputValue fuel levels (_ ++ .name label :: mark ':' :: _) = _
  rw [inputValue]
  simp only [bind_apply, description_tokens, Option.bind_some, name_cons, expect_cons_self,
    (typeRef_tokens htype hlevels).2 _ hmark, hdefault,
    constantDirectives_tokens deprecated forced hrest hfuel, pure_apply]

theorem enumValue_tokens (text : Option String) {label : String} (deprecated : Option String)
    (hlabel : label ∉ reservedNames) (hrest : EndsMember rest) (hfuel : 2 < fuel) :
    enumValue fuel levels (descriptionTokens text ++ .name label ::
      (deprecationTokens deprecated ++ rest)) =
        some (⟨written text, label, deprecationUse deprecated⟩, rest) := by
  have hdirectives : constantDirectives fuel levels (deprecationTokens deprecated ++ rest) =
      some (deprecationUse deprecated ++ [], rest) :=
        constantDirectives_tokens deprecated false hrest hfuel
  rw [List.append_nil] at hdirectives
  rw [enumValue]
  simp only [bind_apply, description_tokens, Option.bind_some, name_cons, List.contains_iff_mem,
    hlabel, if_false, hdirectives, pure_apply]

end Members

section Definitions

variable {fuel levels : Nat} {rest : List Lexeme} {α β : Type} {item : Reader α}
    {tokens : β → List Lexeme} {meaning : β → α} {entries : List β}

theorem optionalMany_braced (hitem : ∀ entry ∈ entries, ∀ rest, EndsMember rest →
      item (tokens entry ++ rest) = some (meaning entry, rest))
    (hends : ∀ entry ∈ entries, ∀ rest c, (tokens entry ++ rest).head? ≠ some (.punctuator c))
    (hrest : EndsDefinition rest) (hfuel : entries.length < fuel) :
    optionalMany (mark '\x7b') (mark '\x7d') item fuel (braced tokens entries ++ rest) =
      some (entries.map meaning, rest) := by
  by_cases hempty : entries = []
  · subst hempty
    exact optionalMany_of_ne (hrest.1 _)
  · rw [braced, if_neg (by simpa using hempty), List.cons_append, List.append_assoc]
    refine optionalMany_flatMap hempty hitem (fun entry hmem rest c hhead => ?_)
      (fun entry hmem rest => ?_) ?_ hfuel
    · exact absurd hhead (hends entry hmem rest c)
    · exact hends entry hmem rest _
    · exact fun c hhead => by cases hhead; rfl

theorem head?_braced_ne (tokens : β → List Lexeme) (entries : List β)
    (hrest : EndsDefinition rest) : (braced tokens entries ++ rest).head? ≠ some (mark '@') ∧
      (braced tokens entries ++ rest).head? ≠ some (.name "implements") := by
  rw [braced]
  split
  · exact ⟨hrest.1 _, hrest.2⟩
  · exact ⟨by simp [mark], by simp⟩

variable {label : String} {lax : Bool}

theorem constantDirectives_of_ne (h : rest.head? ≠ some (mark '@')) (hfuel : 0 < fuel) :
    constantDirectives fuel levels rest = some ([], rest) := by
  obtain ⟨fuel, rfl⟩ : ∃ count, fuel = count + 1 := ⟨fuel - 1, by omega⟩
  exact directivesOf_of_ne h

theorem typeSystem_scalar (hrest : EndsDefinition rest) (hfuel : 0 < fuel) :
    typeSystem false "scalar" fuel levels (.name label :: rest) =
      some (.scalar label [], rest) := by
  simp only [typeSystem, bind_apply, name_cons, Option.bind_some,
    constantDirectives_of_ne (hrest.1 '@') hfuel, pure_apply]

theorem typeSystem_object {tokens : β → List Lexeme} {meaning : β → FieldDefinition}
    (hitem : ∀ entry ∈ entries, ∀ rest, EndsMember rest →
      fieldDefinition fuel levels (tokens entry ++ rest) = some (meaning entry, rest))
    (hends : ∀ entry ∈ entries, ∀ rest c, (tokens entry ++ rest).head? ≠ some (.punctuator c))
    (hrest : EndsDefinition rest) (hfuel : entries.length < fuel) :
    typeSystem false "type" fuel levels (.name label :: (braced tokens entries ++ rest)) =
      some (.object label [] [] (entries.map meaning), rest) := by
  obtain ⟨hat, himplements⟩ := head?_braced_ne tokens entries hrest
  have hinterfaces : interfaces fuel (braced tokens entries ++ rest) =
      some ([], braced tokens entries ++ rest) := by
    rw [interfaces, bind_apply, keyword, accept_of_ne himplements]
    rfl
  simp only [typeSystem, bind_apply, name_cons, Option.bind_some, hinterfaces,
    constantDirectives_of_ne hat (Nat.zero_lt_of_lt hfuel), fieldDefinitions,
    optionalMany_braced hitem hends hrest hfuel, pure_apply]

theorem typeSystem_enum {tokens : β → List Lexeme} {meaning : β → EnumValueDefinition}
    (hitem : ∀ entry ∈ entries, ∀ rest, EndsMember rest →
      enumValue fuel levels (tokens entry ++ rest) = some (meaning entry, rest))
    (hends : ∀ entry ∈ entries, ∀ rest c, (tokens entry ++ rest).head? ≠ some (.punctuator c))
    (hrest : EndsDefinition rest) (hfuel : entries.length < fuel) :
    typeSystem false "enum" fuel levels (.name label :: (braced tokens entries ++ rest)) =
      some (.enum label [] (entries.map meaning), rest) := by
  obtain ⟨hat, -⟩ := head?_braced_ne tokens entries hrest
  simp only [typeSystem, bind_apply, name_cons, Option.bind_some,
    constantDirectives_of_ne hat (Nat.zero_lt_of_lt hfuel),
    optionalMany_braced hitem hends hrest hfuel, pure_apply]

theorem typeSystem_input {tokens : β → List Lexeme} {meaning : β → InputValue}
    (hitem : ∀ entry ∈ entries, ∀ rest, EndsMember rest →
      inputValue fuel levels (tokens entry ++ rest) = some (meaning entry, rest))
    (hends : ∀ entry ∈ entries, ∀ rest c, (tokens entry ++ rest).head? ≠ some (.punctuator c))
    (hrest : EndsDefinition rest) (hfuel : entries.length < fuel) :
    typeSystem false "input" fuel levels (.name label :: (braced tokens entries ++ rest)) =
      some (.input label [] (entries.map meaning), rest) := by
  obtain ⟨hat, -⟩ := head?_braced_ne tokens entries hrest
  simp only [typeSystem, bind_apply, name_cons, Option.bind_some, inputValues,
    constantDirectives_of_ne hat (Nat.zero_lt_of_lt hfuel),
    optionalMany_braced hitem hends hrest hfuel, pure_apply]

def definitionWords : List String :=
  ["scalar", "type", "input", "enum"]

theorem definition_tokens (text : Option String) {word : String} (hword : word ∈ definitionWords)
    {later left : List Lexeme} {found : TypeSystem}
    (hfound : typeSystem false word fuel levels later = some (found, left)) :
    definition lax fuel levels (descriptionTokens text ++ .name word :: later) =
      some (.typeSystem (written text) found, left) := by
  have hkinds : ∀ word ∈ definitionWords, (word == "directive") = false ∧
      operationKinds.contains word = false ∧
      (word == "fragment") = false ∧ (word == "extend") = false := by decide
  obtain ⟨hdirective, hoperation, hfragment, hextend⟩ := hkinds word hword
  have hsees : sees (mark '\x7b') (.name word :: later) = some (false, .name word :: later) := by
    simp [sees, mark]
  simp only [definition, bind_apply, description_tokens, Option.bind_some, hsees,
    Bool.false_eq_true, if_false,
    name_cons, hdirective, hoperation, hfragment, hextend, hfound, pure_apply]

/-- A document is read back if each of its definitions is, in front of
the next one and at the end. -/
theorem definitions_flatMap {meaning : β → Definition} (hne : entries ≠ [])
    (hitem : ∀ entry ∈ entries, ∀ rest, EndsDefinition rest →
      definition lax fuel levels (tokens entry ++ rest) = some (meaning entry, rest))
    (hends : ∀ entry ∈ entries, ∀ rest, EndsDefinition (tokens entry ++ rest))
    (htokens : ∀ entry ∈ entries, tokens entry ≠ []) {count : Nat}
    (hcount : entries.length ≤ count) :
    definitions lax fuel levels count (entries.flatMap tokens) =
      some (entries.map meaning, []) := by
  induction entries generalizing count with
  | nil => exact absurd rfl hne
  | cons entry later ih =>
      obtain ⟨count, rfl⟩ : ∃ fewer, count = fewer + 1 :=
        ⟨count - 1, by simp only [List.length_cons] at hcount; omega⟩
      have hend : EndsDefinition [] := ⟨fun _ h => (by cases h), fun h => (by cases h)⟩
      have hnext := ends_flatMap (fun entry hmem => hends entry (List.mem_cons_of_mem _ hmem)) hend
      rw [List.append_nil] at hnext
      rw [List.flatMap_cons, definitions, bind_apply, hitem entry List.mem_cons_self _ hnext]
      simp only [Option.bind_some, bind_apply, get_apply]
      by_cases hempty : later = []
      · subst hempty
        rfl
      · have hmore : (later.flatMap tokens).isEmpty = false := by
          obtain ⟨second, others, rfl⟩ := List.exists_cons_of_ne_nil hempty
          have hsecond := htokens second (by simp)
          simp [hsecond]
        have hlater := ih hempty (fun entry hmem => hitem entry (List.mem_cons_of_mem _ hmem))
          (fun entry hmem => hends entry (List.mem_cons_of_mem _ hmem))
          (fun entry hmem => htokens entry (List.mem_cons_of_mem _ hmem))
            (Nat.le_of_succ_le_succ hcount)
        simp only [Option.bind_some, hmore, Bool.false_eq_true, if_false, bind_apply, hlater,
          pure_apply, List.map_cons]

end Definitions

end Reader

end SchemaViews.Document
