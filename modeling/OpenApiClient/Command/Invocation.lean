/-!
# Invocations

What the arguments of the command line mean. Arguments belong to levels: those before the first
command, and those of every command. An option takes the argument behind it as its value, or what
is attached to it. A value is looked at when the next option is met or when its level ends, so of
several faults the one that is noticed first decides.

* `parseArguments`: the options of each level, or why the arguments are refused.
-/
namespace OpenApiClient.Command

/-- A place in the tree of commands. -/
inductive Level where
  | root
  | list
  | operations
  | generate
deriving DecidableEq, Repr

/-- What can be said behind dashes. -/
inductive OptionName where
  | help
  | version
  | color
  | theme
  | input
  | output
  | extension
  | modelsFile
  | errorHelper
  | portVariable
  | baseUrl
  | verbose
  | quiet
deriving DecidableEq, Repr

/-- Why arguments lead to no run. -/
inductive Refusal where
  | helpShown
  | versionShown
  | helpForLack
  | commandMissing
  | argumentMissing
  | unknownCommand
  | invalidValue
  | conflict
  | unknownArgument
  | needlessValue
deriving DecidableEq, Repr

/-- The exit code of a run that is refused. -/
def Refusal.exitCode : Refusal → Nat
  | helpShown => 0
  | versionShown => 0
  | _ => 2

/-! ## Commands and options -/

namespace Level

/-- The commands below a level. -/
def commands : Level → List (String × Level)
  | root => [("list", list), ("generate", generate)]
  | list => [("operations", operations)]
  | operations => []
  | generate => []

/-- The options of a level besides those that every level has. -/
def own : Level → List OptionName
  | root => [.version]
  | list => []
  | operations => [.input]
  | generate => [.input, .output, .extension, .modelsFile, .errorHelper, .portVariable, .baseUrl,
      .verbose, .quiet]

def options (level : Level) : List OptionName := [.help, .color, .theme] ++ level.own

/-- The options without which a level cannot be run. -/
def required : Level → List OptionName
  | operations => [.input]
  | generate => [.input, .output]
  | _ => []

end Level

namespace OptionName

def long : OptionName → String
  | help => "help"
  | version => "version"
  | color => "color"
  | theme => "theme"
  | input => "input"
  | output => "output"
  | extension => "extension"
  | modelsFile => "models-file"
  | errorHelper => "error-helper"
  | portVariable => "port-env"
  | baseUrl => "base-url"
  | verbose => "verbose"
  | quiet => "quiet"

def short? : OptionName → Option Char
  | help => some 'h'
  | version => some 'V'
  | input => some 'i'
  | output => some 'o'
  | verbose => some 'v'
  | quiet => some 'q'
  | _ => none

def takesValue : OptionName → Bool
  | help => false
  | version => false
  | verbose => false
  | quiet => false
  | _ => true

/-- Whether an option may have a value. -/
def accepts (option : OptionName) (value : String) : Bool :=
  match option with
  | color => ["always", "auto", "never"].contains value
  | theme => ["dark", "light", "auto"].contains value
  | input => value ≠ ""
  | output => value ≠ ""
  | _ => true

end OptionName

/-- The option of a level with the given name. -/
def Level.long? (level : Level) (name : String) : Option OptionName :=
  level.options.find? (·.long = name)

def Level.short? (level : Level) (letter : Char) : Option OptionName :=
  level.options.find? (·.short? = some letter)

/-! ## One level -/

/-- What has been read of a level. -/
structure Given where
  values : List (OptionName × String) := []
  /-- An option whose value has not been looked at, `none` if it is yet to come. -/
  pending : Option (OptionName × Option String) := none

namespace Given

/-- Takes an option with its value. -/
def add (given : Given) (option : OptionName) (value : String) : Except Refusal Given :=
  if given.values.any (·.1 = option) then .error .conflict
  else if option.accepts value then
    .ok { given with values := given.values ++ [(option, value)] }
  else .error .invalidValue

/-- Looks at the value that is pending. -/
def settle (given : Given) : Except Refusal Given :=
  match given.pending with
  | none => .ok given
  | some (_, none) => .error .invalidValue
  | some (option, some value) => add { given with pending := none } option value

/-- Whether the next argument is the value of an option. -/
def awaitsValue (given : Given) : Bool :=
  match given.pending with
  | some (_, none) => true
  | _ => false

/-- Takes the value that an option is waiting for. -/
def receive (given : Given) (value : String) : Given :=
  { given with pending := given.pending.map fun (option, _) => (option, some value) }

/-- Meets an option with what is attached to it. -/
def meet (given : Given) (option : OptionName) (attached : Option String) :
    Except Refusal Given := do
  let settled ← given.settle
  if option = .help then .error .helpShown
  else if option = .version then .error .versionShown
  else if option.takesValue then
    match attached with
    | some value => settled.add option value
    | none => pure { settled with pending := some (option, none) }
  else settled.add option "true"

end Given

/-- Splits a long option at the first equality sign. -/
def splitValue (text : List Char) : List Char × Option (List Char) :=
  match text.dropWhile (· ≠ '=') with
  | [] => (text, none)
  | _ :: value => (text.takeWhile (· ≠ '='), some value)

/-- A long option behind its dashes. -/
def meetLong (level : Level) (given : Given) (text : List Char) : Except Refusal Given :=
  let (name, attached) := splitValue text
  match level.long? (String.ofList name) with
  | none => .error .unknownArgument
  | some option =>
    if attached.isSome && !option.takesValue then .error .needlessValue
    else given.meet option (attached.map String.ofList)

/-- What is attached to the letter of an option, perhaps behind an equality sign. -/
def attachedValue : List Char → Option String
  | [] => none
  | '=' :: value => some (String.ofList value)
  | value => some (String.ofList value)

/-- Letters behind a dash; what follows the letter of an option with a value is its value. -/
def meetShort (level : Level) : Given → List Char → Except Refusal Given
  | given, [] => .ok given
  | given, letter :: rest =>
    match level.short? letter with
    | none => .error .unknownArgument
    | some option =>
      if option.takesValue then given.meet option (attachedValue rest)
      else do meetShort level (← given.meet option none) rest

/-- Ends a level that no command follows. -/
def endLevel (level : Level) (given : Given) : Except Refusal Given := do
  let given ← given.settle
  if level.commands ≠ [] then
    .error (if given.values = [] then .helpForLack else .commandMissing)
  else if level.required.all fun option => given.values.any (·.1 = option) then pure given
  else .error .argumentMissing

/-! ## All levels -/

/-- The word that asks for help on commands. -/
def helpCommand : String := "help"

/-- The levels below a level, those of the word for help being without commands. -/
def helpFor : Option Level → List String → Refusal
  | _, [] => .helpShown
  | none, _ :: _ => .unknownCommand
  | some level, name :: rest =>
    match level.commands.lookup name with
    | some level => helpFor (some level) rest
    | none =>
      if name = helpCommand ∧ level.commands ≠ [] then helpFor none rest else .unknownCommand

/-- An argument that is no option and no value. -/
def strayArgument (level : Level) (afterDashes : Bool) (argument : String) : Refusal :=
  let isCommand := argument = helpCommand || (level.commands.lookup argument).isSome
  if level.commands = [] || (afterDashes && isCommand) then .unknownArgument
  else .unknownCommand

/-- A level with the values that are given at it. -/
abbrev LevelValues := Level × List (OptionName × String)

/-- The values of a level and of those below it. -/
def parseLevel : Level → Given → List String → Except Refusal (List LevelValues)
  | level, given, [] => do
    let given ← endLevel level given
    pure [(level, given.values)]
  | level, given, argument :: rest =>
    match if given.awaitsValue then none else level.commands.lookup argument with
    | some below => do
      let values ← parseLevel below {} rest
      let given ← given.settle
      pure ((level, given.values) :: values)
    | none =>
      if !given.awaitsValue && argument = helpCommand && level.commands ≠ [] then
        .error (helpFor (some level) rest)
      else
        match argument.toList with
        | ['-', '-'] =>
          match rest with
          | [] => do
            let given ← endLevel level given
            pure [(level, given.values)]
          | stray :: _ => .error (strayArgument level true stray)
        | '-' :: '-' :: text => do parseLevel level (← meetLong level given text) rest
        | '-' :: letter :: text => do
          parseLevel level (← meetShort level given (letter :: text)) rest
        | _ =>
          if given.awaitsValue then parseLevel level (given.receive argument) rest
          else .error (strayArgument level false argument)

/-- The values at each level, from the outermost to the command that is run. -/
def parseArguments (arguments : List String) : Except Refusal (List LevelValues) :=
  parseLevel .root {} arguments

/-- The value of an option, where the innermost level that gives it decides. -/
def valueOf? (levels : List LevelValues) (option : OptionName) : Option String :=
  levels.reverse.findSome? fun (_, values) => values.lookup option

/-- The command that is run. -/
def commandOf (levels : List LevelValues) : Level := (levels.getLast?.map (·.1)).getD .root

end OpenApiClient.Command
