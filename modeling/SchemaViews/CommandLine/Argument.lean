import SchemaViews.Text.Split

/-!
# Arguments of the command line

An option is given by its long name, with its value after an equals sign or as the next
argument, or by its letter. Letters may share a dash, and what follows the letter of an
option with a value is that value.
-/

namespace SchemaViews.CommandLine

open SchemaViews.Text

inductive OptionName where
  | source
  | output
  | config
  | header
  | explicitOnly
  | workers
  | verbose
  | version
  | help
  deriving DecidableEq, Repr

namespace OptionName

def long : OptionName → String
  | .source => "--source"
  | .output => "--output"
  | .config => "--config"
  | .header => "--header"
  | .explicitOnly => "--explicit-only"
  | .workers => "--workers"
  | .verbose => "--verbose"
  | .version => "--version"
  | .help => "--help"

def letter? : OptionName → Option Char
  | .source => some 's'
  | .output => some 'o'
  | .config => some 'c'
  | .verbose => some 'v'
  | _ => none

def takesValue : OptionName → Bool
  | .explicitOnly | .verbose | .version | .help => false
  | _ => true

end OptionName

/-- An option with its value, which is empty for an option that takes none. -/
structure Given where
  name : OptionName
  value : String
  deriving DecidableEq, Repr

/-- What one argument gives: options, the last of which may have to take the
next argument as its value. -/
structure Reading where
  given : List Given
  waiting : Option OptionName
  deriving DecidableEq, Repr

def readLetters (allowed : List OptionName) : List Char → Option Reading
  | [] => some ⟨[], none⟩
  | letter :: rest =>
    match allowed.find? fun name => name.letter? == some letter with
    | none => none
    | some name =>
      if name.takesValue then
        if rest.isEmpty then some ⟨[], some name⟩ else some ⟨[⟨name, String.ofList rest⟩], none⟩
      else (readLetters allowed rest).map fun reading =>
        { reading with given := ⟨name, ""⟩ :: reading.given }

/-- Reads an argument that starts with a dash. A value for an option that takes none is refused. -/
def readOption (allowed : List OptionName) (argument : List Char) : Option Reading :=
  let word := argument.takeWhile (· != '=')
  let value := argument.dropWhile (· != '=')
  match allowed.find? fun name => name.long.toList == word with
  | some name =>
    if value.isEmpty then some (if name.takesValue then ⟨[], some name⟩ else ⟨[⟨name, ""⟩], none⟩)
    else if name.takesValue then some ⟨[⟨name, String.ofList value.tail⟩], none⟩
    else none
  | none => if ['-', '-'].isPrefixOf argument then none else readLetters allowed argument.tail

def isOption (argument : String) : Bool :=
  startsWith argument "-" && argument != "-"

/-- The options among some arguments, and the other arguments. Two dashes end the options. Options
after another argument count only if they may be `mixed` with such arguments. -/
def readArguments (allowed : List OptionName) (mixed : Bool) :
    List String → Option (List Given × List String)
  | [] => some ([], [])
  | argument :: rest =>
    if argument == "--" then some ([], rest)
    else if isOption argument then
      match readOption allowed argument.toList with
      | none => none
      | some ⟨given, none⟩ =>
        (readArguments allowed mixed rest).map fun (options, others) => (given ++ options, others)
      | some ⟨given, some name⟩ =>
        match rest with
        | [] => none
        | value :: after =>
          (readArguments allowed mixed after).map fun (options, others) =>
            (given ++ ⟨name, value⟩ :: options, others)
    else if mixed then
      (readArguments allowed mixed rest).map fun (options, others) => (options, argument :: others)
    else some ([], argument :: rest)

def valueOf? (name : OptionName) (given : List Given) : Option String :=
  (given.reverse.find? (·.name == name)).map (·.value)

def isGiven (name : OptionName) (given : List Given) : Bool :=
  given.any (·.name == name)

end SchemaViews.CommandLine
