import SchemaViews.CommandLine.Argument
import SchemaViews.Text.Numeral

/-!
# Requests

What the arguments of a command line ask for.
-/

namespace SchemaViews.CommandLine

open SchemaViews.Text

inductive Command where
  | generate
  | check
  | views
  deriving DecidableEq, Repr

namespace Command

def word : Command → String
  | .generate => "generate"
  | .check => "check"
  | .views => "views"

def all : List Command :=
  [.check, .generate, .views]

def ofWord? (word : String) : Option Command :=
  all.find? fun command => command.word == word

def options : Command → List OptionName
  | .generate => [.source, .output, .config, .header, .explicitOnly, .workers, .verbose, .help]
  | .check => [.source, .config, .verbose, .help]
  | .views => [.source, .config, .help]

end Command

/-- What every command reads, and whether it tells what it does. -/
structure Input where
  source : String
  config : Option String
  verbose : Bool
  deriving DecidableEq, Repr

/-- Settings given on the command line, which count more than those of a file. -/
structure Overrides where
  header : Option String
  explicitOnly : Bool
  workers : Option Int
  deriving DecidableEq, Repr

inductive Request where
  | version
  | help (command : Option Command)
  | generate (input : Input) (output : String) (overrides : Overrides)
  | check (input : Input)
  | views (input : Input)
  deriving DecidableEq, Repr

namespace Request

def input? (given : List Given) : Option Input :=
  (valueOf? .source given).map fun source =>
    ⟨source, valueOf? .config given, isGiven .verbose given⟩

def overrides? (given : List Given) : Option Overrides :=
  let header := valueOf? .header given
  let explicitOnly := isGiven .explicitOnly given
  match valueOf? .workers given with
  | none => some ⟨header, explicitOnly, none⟩
  | some text => (integer? text.toList).map fun count => ⟨header, explicitOnly, some count⟩

def ofOptions? (command : Command) (given : List Given) : Option Request := do
  let input ← input? given
  match command with
  | .generate => some (.generate input (← valueOf? .output given) (← overrides? given))
  | .check => some (.check input)
  | .views => some (.views input)

/-- What a command is to do with its arguments. Help is given whatever else is asked,
if all options are known. -/
def ofCommand? (command : Command) (arguments : List String) : Option Request :=
  match readArguments command.options true arguments with
  | none => none
  | some (given, others) =>
    if isGiven .help given then some (.help (some command))
    else if others.isEmpty then ofOptions? command given
    else none

def ofArguments? (arguments : List String) : Option Request :=
  match readArguments [.version, .help] false arguments with
  | none => none
  | some (first :: _, _) => some (if first.name = .version then .version else .help none)
  | some ([], word :: rest) => (Command.ofWord? word).bind fun command => ofCommand? command rest
  | some ([], []) => none

end Request

end SchemaViews.CommandLine
