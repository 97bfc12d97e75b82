import SchemaViews.CommandLine.Run
import SchemaViews.Proofs.Results

/-!
# What a run writes

A run of the program leaves every file as it was, unless it is a `generate` that gets as far as
writing. Such a run writes one file, with the text that the pipeline returns, or with nothing
if that text has no encoding.
-/

namespace SchemaViews

namespace FileTree

variable (tree : FileTree) {location other : Location} {content : String}

theorem content?_write : (tree.write location content).content? location = some content := by
  have hbefore : (tree.files.filter (·.1 != location)).find? (·.1 == location) = none := by
    simp [List.find?_eq_none]
  calc
    (tree.write location content).content? location =
        ((tree.files.filter (·.1 != location) ++ [(location, content)]).find?
          (·.1 == location)).map (·.2) := rfl
    _ = (some (location, content)).map (·.2) := by
      rw [List.find?_append, hbefore, Option.none_or, List.find?_cons_of_pos (by simp)]

theorem content?_write_of_ne (hother : other ≠ location) :
    (tree.write location content).content? other = tree.content? other := by
  have hkept : (tree.files.filter (·.1 != location)).find? (·.1 == other) =
      tree.files.find? (·.1 == other) := by
    rw [List.find?_filter]
    refine congrArg (List.find? · tree.files) (funext fun file => ?_)
    by_cases hfile : file.1 = other
    · simp [hfile, hother]
    · simp [hfile]
  calc
    (tree.write location content).content? other =
        ((tree.files.filter (·.1 != location) ++ [(location, content)]).find?
          (·.1 == other)).map (·.2) := rfl
    _ = ((tree.files.find? (·.1 == other)).or none).map (·.2) := by
      rw [List.find?_append, hkept, List.find?_cons_of_neg (by simpa using hother.symm),
        List.find?_nil]
    _ = tree.content? other := by rw [Option.or_none, content?]

/-- A file has this text now, and the others are as they were. -/
def Rewrites (before after : FileTree) (location : Location) (content : String) : Prop :=
  after.content? location = some content ∧ ∀ other, other ≠ location →
    after.content? other = before.content? other

theorem rewrites_write : tree.Rewrites (tree.write location content) location content :=
  ⟨tree.content?_write, fun _ hother => tree.content?_write_of_ne hother⟩

end FileTree

namespace CommandLine

/-! ### What is asked for -/

/-- The arguments call a command, and the rest of them is for this command. -/
def Calls (command : Command) (arguments rest : List String) : Prop :=
  readArguments [.version, .help] false arguments = some ([], command.word :: rest)

def CallsWith (command : Command) (given : List Given) (arguments : List String) : Prop :=
  ∃ rest others, Calls command arguments rest ∧ readArguments command.options true rest =
    some (given, others)

def ReadsSettings (files : FileTree) (config : Option String) (base : Settings) : Prop :=
  match config with
  | none => base = {}
  | some path => Settings.ofFile path (files.read? path) = .ok base

/-- The settings that count are those of the file, but for the three that options are about. -/
structure Overridden (given : List Given) (base settings : Settings) : Prop where
  header : settings.header = (valueOf? .header given).or base.header
  implicitBindings :
    settings.implicitBindings = (base.implicitBindings && !isGiven .explicitOnly given)
  maxWorkers_kept : valueOf? .workers given = none → settings.maxWorkers = base.maxWorkers
  maxWorkers_given : ∀ text, valueOf? .workers given = some text →
    ∃ count : Nat, 1 ≤ count ∧ Text.integer? text.toList = some (count : Int) ∧
    settings.maxWorkers = some count
  others_kept : settings = { base with
    header := settings.header, implicitBindings := settings.implicitBindings,
    maxWorkers := settings.maxWorkers }

/-- Everything that a `generate` reads from the files and makes of it, if nothing is wrong. -/
structure Generation (files : FileTree) (parse : Document.Parser) (given : List Given) where
  source : String
  output : String
  base : Settings
  settings : Settings
  declarations : List Declaration
  result : Output
  source_given : valueOf? .source given = some source
  output_given : valueOf? .output given = some output
  base_read : ReadsSettings files (valueOf? .config given) base
  settings_overridden : Overridden given base settings
  declarations_loaded : Declaration.ofSources (files.sources source) = .ok declarations
  result_run : Pipeline.run settings [] [] declarations parse.ofCodePoints = .ok result

/-- What is left of writing a text: nothing was touched, the file was emptied because the text has
no encoding, or the text was written. -/
inductive Leaves (files : FileTree) (target : Location) (text : String) (outcome : Outcome) : Prop
  | untouched (status : outcome.status = 1) (files_eq : outcome.files = files)
  | emptied (status : outcome.status = 1) (not_encodable : Text.isEncodable text.toList = false)
      (files_eq : outcome.files = files.write target "")
  | written (status : outcome.status = 0) (encodable : Text.isEncodable text.toList = true)
      (files_eq : outcome.files = files.write target text)

variable {files : FileTree} {input : Input} {overrides : Overrides} {given : List Given}
    {base settings : Settings} {arguments rest : List String} {command : Command} {output : String}
    {parse : Document.Parser}

theorem Input.reads_of_settings (h : input.settings files = .ok base) :
    ReadsSettings files input.config base := by
  obtain ⟨source, config, verbose⟩ := input
  cases config with
  | none => exact (Except.ok.inj h).symm
  | some path => exact mapError_eq_ok_iff.1 h

theorem Overrides.overridden (hoverrides : Request.overrides? given = some overrides)
    (h : overrides.apply? base = some settings) : Overridden given base settings := by
  unfold Request.overrides? at hoverrides
  simp only at hoverrides
  split at hoverrides
  · next hworkers =>
      cases hoverrides
      cases h
      exact ⟨rfl, rfl, fun _ => rfl, fun text htext => (nomatch hworkers.symm.trans htext), rfl⟩
  · next text hworkers =>
      obtain ⟨count, hcount, rfl⟩ := Option.map_eq_some_iff.1 hoverrides
      unfold Overrides.apply? at h
      simp only at h
      split at h
      · cases h
      · next hpositive =>
          cases h
          have hnat : ((count.toNat : Nat) : Int) = count := Int.toNat_of_nonneg (by omega)
          refine ⟨rfl, rfl, fun hnone => (nomatch hnone.symm.trans hworkers),
            fun text' htext => ?_, rfl⟩
          rw [hworkers, Option.some.injEq] at htext
          subst htext
          exact ⟨count.toNat, by omega, hnat.symm ▸ hcount, rfl⟩

theorem exists_base_of_effectiveSettings
    (h : effectiveSettings files input overrides = .ok settings) :
    ∃ base, input.settings files = .ok base ∧ overrides.apply? base = some settings := by
  unfold effectiveSettings at h
  split at h
  · cases h
  · next base hbase =>
      split at h
      · next changed hchanged =>
          cases h
          exact ⟨base, hbase, hchanged⟩
      · cases h

/-! ### What the commands leave -/

/-- A command meets trouble and leaves the files, or it goes on with settings and declarations. -/
theorem withDeclarations_cases (files : FileTree) (input : Input) (read : Except Trouble Settings)
    (use : Settings → List String → List Declaration → Outcome) :
    (∃ lines trouble, withDeclarations files input read use = .ofTrouble files lines trouble) ∨
      ∃ settings declarations, read = .ok settings ∧ input.declarations files = .ok declarations ∧
        withDeclarations files input read use =
          use settings (input.listing files) declarations := by
  unfold withDeclarations
  cases read with
  | error trouble => exact Or.inl ⟨_, trouble, rfl⟩
  | ok settings =>
      cases input.declarations files with
      | error trouble => exact Or.inl ⟨_, trouble, rfl⟩
      | ok declarations => exact Or.inr ⟨settings, declarations, rfl, rfl, rfl⟩

theorem files_ofTrouble (lines : List String) (trouble : Trouble) :
    (Outcome.ofTrouble files lines trouble).files = files := by
  cases trouble <;> rfl

theorem status_ofTrouble (lines : List String) (trouble : Trouble) :
    (Outcome.ofTrouble files lines trouble).status = 1 := by
  cases trouble <;> rfl

theorem files_withDeclarations {read : Except Trouble Settings}
    {use : Settings → List String → List Declaration → Outcome}
    (huse : ∀ settings lines declarations, (use settings lines declarations).files = files) :
    (withDeclarations files input read use).files = files := by
  rcases withDeclarations_cases files input read use with
    ⟨lines, trouble, h⟩ | ⟨settings, declarations, -, -, h⟩
  · rw [h, files_ofTrouble]
  · rw [h, huse]

theorem files_printing (status : Nat) (before lines : List String) :
    (Outcome.printing files status before lines).files = files := by
  unfold Outcome.printing
  dsimp only
  split <;> rfl

theorem files_check (files : FileTree) (input : Input) : (check files input).files = files := by
  refine files_withDeclarations fun settings lines declarations => ?_
  cases Pipeline.check settings declarations with
  | error failure => exact files_ofTrouble _ _
  | ok issues => exact files_printing _ _ _

theorem files_views (files : FileTree) (input : Input) : (views files input).files = files := by
  refine files_withDeclarations fun settings lines declarations => ?_
  cases Pipeline.resolve settings declarations with
  | error failure => exact files_ofTrouble _ _
  | ok schema => exact files_printing _ _ _

theorem withInput_cases (files : FileTree) (input : Input) (outcome : Outcome) :
    withInput files input outcome = outcome ∨ withInput files input outcome = .misused files := by
  unfold withInput
  split
  · exact Or.inl rfl
  · exact Or.inr rfl

theorem files_withInput {outcome : Outcome} (h : outcome.files = files) :
    (withInput files input outcome).files = files := by
  rcases withInput_cases files input outcome with hran | hmisused
  · rw [hran, h]
  · rw [hmisused]
    rfl

theorem leaves_writeSchema (files : FileTree) (target : Location) (verbose : Bool)
    (before : List String) (result : Output) :
    Leaves files target result.text (writeSchema files target verbose before result) := by
  unfold writeSchema
  dsimp only
  cases files.folderFault? target.parent with
  | some fault => exact .untouched rfl rfl
  | none =>
      dsimp only
      cases files.isFolder target with
      | true => exact .untouched rfl rfl
      | false =>
          cases hencodable : Text.isEncodable result.text.toList with
          | false => exact .emptied rfl hencodable rfl
          | true => exact .written rfl hencodable rfl

/-- A `generate` fails and leaves the files, or it gets a text from the pipeline
and goes on to write that. -/
theorem generate_cases (files : FileTree) (input : Input) (output : String) (overrides : Overrides)
    (parse : Document.Parser) :
    ((generate files input output overrides parse).status = 1 ∧
        (generate files input output overrides parse).files = files) ∨
      ∃ settings declarations result, effectiveSettings files input overrides = .ok settings ∧
        input.declarations files = .ok declarations ∧
        Pipeline.run settings [] [] declarations parse.ofCodePoints = .ok result ∧
        Leaves files (files.target output) result.text
          (generate files input output overrides parse) := by
  unfold generate
  rcases withDeclarations_cases files input (effectiveSettings files input overrides) _ with
    ⟨lines, trouble, h⟩ | ⟨settings, declarations, hsettings, hdeclarations, h⟩
  · rw [h, files_ofTrouble, status_ofTrouble]
    exact .inl ⟨rfl, rfl⟩
  · rw [h]
    cases hrun : Pipeline.run settings [] [] declarations parse.ofCodePoints with
    | error failure => exact .inl ⟨status_ofTrouble _ _, files_ofTrouble _ _⟩
    | ok result =>
        exact .inr ⟨settings, declarations, result, hsettings, hdeclarations, hrun,
          leaves_writeSchema ..⟩

theorem Request.files_run_of_ne_generate {request : Request}
    (h : ∀ input output overrides, request ≠ .generate input output overrides) :
    (request.run files parse).files = files := by
  cases request with
  | version => rfl
  | help command => cases command <;> rfl
  | check input => exact files_withInput (files_check files input)
  | views input => exact files_withInput (files_views files input)
  | generate input output overrides => exact absurd rfl (h input output overrides)

/-! ### What the program leaves -/

theorem ofArguments?_of_calls (h : Calls command arguments rest) :
    Request.ofArguments? arguments = Request.ofCommand? command rest := by
  have hword : Command.ofWord? command.word = some command := by cases command <;> decide
  unfold Request.ofArguments?
  rw [h]
  simp only [hword, Option.bind_some]

theorem ne_generate_of_ofCommand? {request : Request} (hother : command ≠ .generate)
    (h : Request.ofCommand? command rest = some request) (input : Input) (output : String)
    (overrides : Overrides) : request ≠ .generate input output overrides := by
  rintro rfl
  unfold Request.ofCommand? at h
  split at h
  · cases h
  · split at h
    · cases h
    · split at h
      · obtain ⟨input, -, h⟩ := Option.bind_eq_some_iff.1 h
        cases command with
        | generate => exact hother rfl
        | check => cases h
        | views => cases h
      · cases h

theorem files_run_of_ne_generate (hother : command ≠ .generate) (h : Calls command arguments rest) :
    (run files arguments parse).files = files := by
  unfold run
  rw [ofArguments?_of_calls h]
  cases hrequest : Request.ofCommand? command rest with
  | none => rfl
  | some request =>
      exact Request.files_run_of_ne_generate (ne_generate_of_ofCommand? hother hrequest)

theorem CallsWith.unique {other : List Given} (hgiven : CallsWith command given arguments)
    (hother : CallsWith command other arguments) : given = other := by
  obtain ⟨rest, others, hcalls, hgiven⟩ := hgiven
  obtain ⟨rest', others', hcalls', hother⟩ := hother
  rw [Calls] at hcalls hcalls'
  rw [hcalls', Option.some.injEq, Prod.mk.injEq, List.cons.injEq] at hcalls
  rw [← hcalls.2.2, hother, Option.some.injEq, Prod.mk.injEq] at hgiven
  exact hgiven.1.symm

/-- What is asked for is a `generate` only if the arguments call it with options that make sense. -/
theorem exists_callsWith (hrequest : Request.ofArguments? arguments =
      some (.generate input output overrides)) :
    ∃ given, CallsWith .generate given arguments ∧ Request.input? given = some input ∧
      valueOf? .output given = some output ∧ Request.overrides? given = some overrides := by
  unfold Request.ofArguments? at hrequest
  split at hrequest
  · cases hrequest
  · split at hrequest <;> cases hrequest
  · next word rest hread =>
      obtain ⟨command, hcommand, hrequest⟩ := Option.bind_eq_some_iff.1 hrequest
      obtain rfl : command = .generate := Decidable.byContradiction fun hother =>
        ne_generate_of_ofCommand? hother hrequest input output overrides rfl
      unfold Command.ofWord? at hcommand
      have hfound := List.find?_some hcommand
      have hcalls : Calls .generate arguments rest := by
        rw [Calls, hread, eq_of_beq hfound]
      unfold Request.ofCommand? at hrequest
      split at hrequest
      · cases hrequest
      · next given others hgiven =>
          split at hrequest
          · cases hrequest
          · split at hrequest
            · obtain ⟨input', hinput, hrequest⟩ := Option.bind_eq_some_iff.1 hrequest
              obtain ⟨output', houtput, hrequest⟩ := Option.bind_eq_some_iff.1 hrequest
              obtain ⟨overrides', hoverrides, hrequest⟩ := Option.bind_eq_some_iff.1 hrequest
              cases hrequest
              exact ⟨given, ⟨rest, others, hcalls, hgiven⟩, hinput, houtput, hoverrides⟩
            · cases hrequest
  · cases hrequest

/-- A call of `generate` without help makes no sense, or it asks for a `generate`. -/
theorem ofArguments?_of_callsWith (h : CallsWith .generate given arguments)
    (hhelp : isGiven .help given = false) : Request.ofArguments? arguments = none ∨
      ∃ input output overrides, Request.ofArguments? arguments =
        some (.generate input output overrides) := by
  obtain ⟨rest, others, hcalls, hgiven⟩ := h
  rw [ofArguments?_of_calls hcalls, Request.ofCommand?, hgiven]
  simp only [hhelp, Bool.false_eq_true, if_false]
  split
  · rw [Request.ofOptions?]
    cases Request.input? given with
    | none => exact .inl rfl
    | some input =>
        cases valueOf? .output given with
        | none => exact .inl rfl
        | some output =>
            cases Request.overrides? given with
            | none => exact .inl rfl
            | some overrides => exact .inr ⟨input, output, overrides, rfl⟩
  · exact .inl rfl

/-- A `generate` fails and leaves the files, or it has read all that it needs, and goes on to write
the text of the pipeline to its output. -/
theorem exists_generation (hrequest : Request.ofArguments? arguments =
      some (.generate input output overrides)) :
    ((run files arguments parse).status ≠ 0 ∧ (run files arguments parse).files = files) ∨
      ∃ given, CallsWith .generate given arguments ∧ ∃ generation : Generation files parse given,
        Leaves files (files.target generation.output) generation.result.text
          (run files arguments parse) := by
  obtain ⟨given, hcalls, hinput, houtput, hoverrides⟩ := exists_callsWith hrequest
  obtain ⟨source, hsource, rfl⟩ := Option.map_eq_some_iff.1 hinput
  rw [run, hrequest]
  dsimp only [Request.run]
  rcases withInput_cases files _ (generate files _ output overrides parse) with hran | hmisused
  · rw [hran]
    rcases generate_cases files _ output overrides parse with
      ⟨hstatus, hfiles⟩ |
      ⟨settings, declarations, result, hsettings, hdeclarations, hresult, hleaves⟩
    · rw [hstatus]
      exact .inl ⟨Nat.one_ne_zero, hfiles⟩
    · obtain ⟨base, hbase, hsettings⟩ := exists_base_of_effectiveSettings hsettings
      exact .inr ⟨given, hcalls, {
        source := source
        output := output
        base := base
        settings := settings
        declarations := declarations
        result := result
        source_given := hsource
        output_given := houtput
        base_read := Input.reads_of_settings hbase
        settings_overridden := Overrides.overridden hoverrides hsettings
        declarations_loaded := mapError_eq_ok_iff.1 hdeclarations
        result_run := hresult }, hleaves⟩
  · rw [hmisused]
    exact .inl ⟨nofun, rfl⟩

theorem files_run_of_status_ne_zero (hstatus : (run files arguments parse).status ≠ 0) :
    (run files arguments parse).files = files ∨
      ∃ given, CallsWith .generate given arguments ∧ ∃ generation : Generation files parse given,
        Text.isEncodable generation.result.text.toList = false ∧
          files.Rewrites (run files arguments parse).files (files.target generation.output) "" := by
  cases hrequest : Request.ofArguments? arguments with
  | none =>
      rw [run, hrequest]
      exact .inl rfl
  | some request =>
      cases request with
      | generate input output overrides =>
          rcases exists_generation hrequest with ⟨-, hfiles⟩ | ⟨given, hcalls, generation, hleaves⟩
          · exact .inl hfiles
          · cases hleaves with
            | untouched _ hfiles => exact .inl hfiles
            | emptied _ hlost hfiles =>
                exact .inr ⟨given, hcalls, generation, hlost, hfiles ▸ files.rewrites_write⟩
            | written hzero => exact absurd hzero hstatus
      | _ =>
          rw [run, hrequest]
          exact .inl (Request.files_run_of_ne_generate nofun)

theorem files_run_of_status_eq_zero (hcalls : CallsWith .generate given arguments)
    (hhelp : isGiven .help given = false) (hstatus : (run files arguments parse).status = 0) :
    ∃ generation : Generation files parse given,
      Text.isEncodable generation.result.text.toList = true ∧
      files.Rewrites (run files arguments parse).files
        (files.target generation.output) generation.result.text := by
  rcases ofArguments?_of_callsWith hcalls hhelp with hnone | ⟨input, output, overrides, hrequest⟩
  · rw [run, hnone] at hstatus
    cases hstatus
  · rcases exists_generation hrequest with ⟨hfailed, -⟩ | ⟨other, hother, generation, hleaves⟩
    · exact absurd hstatus hfailed
    · obtain rfl := hcalls.unique hother
      cases hleaves with
      | untouched hone | emptied hone =>
          rw [hone] at hstatus
          cases hstatus
      | written _ hkept hfiles => exact ⟨generation, hkept, hfiles ▸ files.rewrites_write⟩

/-- Commands other than `generate` leave the files. So does every run that fails, but for a
`generate` whose text has no encoding: that empties its output. A `generate` that succeeds leaves at
its output the text that the pipeline returns for the declarations of the source under the settings
that count, and everything else as it was. -/
theorem run_writes_all_or_nothing (files : FileTree) (arguments : List String)
    (parse : Document.Parser) :
    (∀ command rest, command ≠ .generate → Calls command arguments rest →
        (run files arguments parse).files = files) ∧
      ((run files arguments parse).status ≠ 0 → (run files arguments parse).files = files ∨
        ∃ given, CallsWith .generate given arguments ∧ ∃ generation : Generation files parse given,
          Text.isEncodable generation.result.text.toList = false ∧
            files.Rewrites (run files arguments parse).files (files.target generation.output) "") ∧
      (∀ given, CallsWith .generate given arguments → isGiven .help given = false →
        (run files arguments parse).status = 0 →
        ∃ generation : Generation files parse given,
          Text.isEncodable generation.result.text.toList = true ∧
          files.Rewrites (run files arguments parse).files
            (files.target generation.output) generation.result.text) :=
  ⟨fun _ _ => files_run_of_ne_generate, files_run_of_status_ne_zero,
    fun _ => files_run_of_status_eq_zero⟩

def userTree : FileTree :=
  ⟨["", "work"], [(["", "work", "user.go"], "type User struct \x7b\n\tName string\n\x7d\n")], []⟩

def userArguments : List String :=
  ["generate", "-s", "user.go", "-o", "schema.graphql", "--header", "Users"]

/-- The output would stand below a file. -/
def blockedArguments : List String :=
  ["generate", "-s", "user.go", "-o", "user.go/schema.graphql"]

def surrogateTree : FileTree :=
  { userTree with
    files := (["", "work", "config.json"], "\x7b\"header\": \"\\ud800\"\x7d") ::
      (["", "work", "schema.graphql"], "type User") :: userTree.files }

def surrogateArguments : List String :=
  ["generate", "-s", "user.go", "-o", "schema.graphql", "-c", "config.json"]

theorem run_writes_all_or_nothing_user :
    (run userTree ["check", "-s", "user.go"]).files = userTree ∧
      ((run userTree blockedArguments).status = 1 ∧
        (run userTree blockedArguments).files = userTree) ∧
      ((run surrogateTree surrogateArguments).status ≠ 0 ∧
        ∃ given, CallsWith .generate given surrogateArguments ∧
          ∃ generation : Generation surrogateTree Document.read? given,
            Text.isEncodable generation.result.text.toList = false) ∧
      (run userTree userArguments).status = 0 ∧
      ∃ generation : Generation userTree Document.read?
          [⟨.source, "user.go"⟩, ⟨.output, "schema.graphql"⟩, ⟨.header, "Users"⟩],
        (run userTree userArguments).files.content? (userTree.target generation.output) =
          some generation.result.text := by
  obtain ⟨hcheck, -, -⟩ :=
    run_writes_all_or_nothing userTree ["check", "-s", "user.go"] Document.read?
  obtain ⟨-, hfailed, -⟩ :=
    run_writes_all_or_nothing surrogateTree surrogateArguments Document.read?
  obtain ⟨-, -, hgenerate⟩ := run_writes_all_or_nothing userTree userArguments Document.read?
  have hchecks : Calls .check ["check", "-s", "user.go"] ["-s", "user.go"] := by
    unfold Calls
    decide +kernel
  have hblocked : (run userTree blockedArguments).status = 1 ∧
      (run userTree blockedArguments).files = userTree := by
    decide +kernel
  have hemptied : (run surrogateTree surrogateArguments).status ≠ 0 ∧
      (run surrogateTree surrogateArguments).files ≠ surrogateTree := by decide +kernel
  obtain ⟨given, hgiven, lost, hlost, -⟩ := (hfailed hemptied.1).resolve_left hemptied.2
  have hcalls :
      CallsWith .generate [⟨.source, "user.go"⟩, ⟨.output, "schema.graphql"⟩,
        ⟨.header, "Users"⟩] userArguments := by
    refine ⟨userArguments.tail, [], ?_, by decide +kernel⟩
    unfold Calls
    decide +kernel
  have hstatus : (run userTree userArguments).status = 0 := by decide +kernel
  obtain ⟨generation, -, hcontent, -⟩ := hgenerate _ hcalls rfl hstatus
  exact ⟨hcheck .check _ nofun hchecks, hblocked, ⟨hemptied.1, given, hgiven, lost, hlost⟩,
    hstatus, generation, hcontent⟩

/-- A header that is half a pair of surrogates: the run fails, and what
stood at the output is lost. -/
theorem failed_run_empties_output :
    let outcome := run surrogateTree surrogateArguments
    outcome.status = 1 ∧ surrogateTree.content? ["", "work", "schema.graphql"] = some "type User" ∧
      outcome.files.content? ["", "work", "schema.graphql"] = some "" := by
  decide +kernel

end CommandLine

end SchemaViews
