import ClauseSql.Environment
import ClauseSql.Settings

/-!
# The command line

`filterql` has three commands.  Settings can be given before and after the command, and through the
environment; what is given after the command counts most, the environment least.

## What is here

* `Command` and `Invocation` — what a command line asks for.
* `UsageError` — why a command line is refused or asks for no command.
* `Choices` — the options given at one level of a command line: before the command, or after it.
* `Invocation.parse` — the reading of a command line.  The value of an option is checked when the
  next option begins or the level ends, so that an unknown option comes before a bad value.
-/

set_option autoImplicit false

namespace ClauseSql

/-! ## What is asked for -/

/-- A command. -/
inductive Command where
  /-- Compile a filter on a table, to a statement or only to the options of its query. -/
  | compile (table filter : String) (optionsOnly : Bool)
  /-- Compile an update of a table. -/
  | update (table payload : String)
  /-- List the operators. -/
  | operators
deriving DecidableEq, Repr

/-- A command with the settings given beside it. -/
structure Invocation where
  overrides : Overrides
  command : Command
deriving DecidableEq, Repr

/-- Why there is no command to run. -/
inductive UsageError where
  | help
  | version
  | nothingGiven
  | noCommand
  | unknownCommand
  | unknownArgument
  | repeatedArgument
  | missingArgument
  | missingValue
  | unexpectedValue
  | badValue
deriving DecidableEq, Repr

/-- The wording of a refusal. -/
def UsageError.message : UsageError → String
  | .help | .nothingGiven =>
    "usage: filterql [options] compile|update|operators [options]"
  | .version => "filterql"
  | .noCommand => "a command is required"
  | .unknownCommand => "unknown command"
  | .unknownArgument => "unexpected argument"
  | .repeatedArgument => "an argument is given twice"
  | .missingArgument => "a required argument is missing"
  | .missingValue => "an argument needs a value"
  | .unexpectedValue => "an argument takes no value"
  | .badValue => "a value is not valid"

/-! ## Options -/

/-- The options. -/
inductive OptionName where
  | config
  | catalog
  | maxBytes
  | maxDepth
  | table
  | filter
  | payload
  | optionsOnly
  | help
  | version
deriving DecidableEq, Repr

namespace OptionName

/-- The long name of an option. -/
def long : OptionName → String
  | .config => "config"
  | .catalog => "catalog"
  | .maxBytes => "max-filter-bytes"
  | .maxDepth => "max-inclusion-depth"
  | .table => "table"
  | .filter => "filter"
  | .payload => "payload"
  | .optionsOnly => "options"
  | .help => "help"
  | .version => "version"

/-- The letter of an option that has one. -/
def short? : OptionName → Option Char
  | .config => some 'c'
  | .table => some 't'
  | .filter => some 'f'
  | .payload => some 'p'
  | .help => some 'h'
  | .version => some 'V'
  | .catalog | .maxBytes | .maxDepth | .optionsOnly => none

/-- The variable that can give the value of a setting. -/
def environmentName? : OptionName → Option String
  | .config => some "FILTERQL_CONFIG"
  | .catalog => some "FILTERQL_CATALOG"
  | .maxBytes => some "FILTERQL_MAX_FILTER_BYTES"
  | .maxDepth => some "FILTERQL_MAX_INCLUSION_DEPTH"
  | .table | .filter | .payload | .optionsOnly | .help | .version => none

/-- Whether an option takes a value. -/
def takesValue : OptionName → Bool
  | .optionsOnly | .help | .version => false
  | .config | .catalog | .maxBytes | .maxDepth | .table | .filter | .payload => true

/-- The settings, which can be given at every level. -/
def settings : List OptionName := [.config, .catalog, .maxBytes, .maxDepth]

end OptionName

/-- A level of a command line. -/
inductive Level where
  /-- Before the command. -/
  | outer
  /-- After the command. -/
  | compile
  | update
  | operators
deriving DecidableEq, Repr

namespace Level

/-- The options of a level. -/
def options : Level → List OptionName
  | .outer => OptionName.settings ++ [.help, .version]
  | .compile => OptionName.settings ++ [.table, .filter, .optionsOnly, .help]
  | .update => OptionName.settings ++ [.table, .payload, .help]
  | .operators => OptionName.settings ++ [.help]

/-- The option of a level that has a long name. -/
def long? (level : Level) (name : String) : Option OptionName :=
  level.options.find? fun option => option.long == name

/-- The option of a level that has a letter. -/
def short? (level : Level) (letter : Char) : Option OptionName :=
  level.options.find? fun option => option.short? == some letter

/-- The level after the name of a command. -/
def ofCommand? (name : String) : Option Level :=
  match name with
  | "compile" => some .compile
  | "update" => some .update
  | "operators" => some .operators
  | _ => none

end Level

/-! ## Values -/

/-- The options given at one level. -/
structure Choices where
  config : Option String := none
  catalog : Option String := none
  maxBytes : Option Nat := none
  maxDepth : Option Nat := none
  table : Option String := none
  filter : Option String := none
  payload : Option String := none
  optionsOnly : Bool := false
deriving DecidableEq, Repr

/-- The number that decimal digits, after a plus sign or none, stand for. -/
def wordOfText? (text : String) : Option Nat :=
  let digits := match text.toList with
    | '+' :: rest => rest
    | s => s
  if digits.isEmpty || !digits.all Char.isDigit then none
  else
    let value := digits.foldl (fun value c => 10 * value + (c.toNat - '0'.toNat)) 0
    if value < Nat.pow 2 64 then some value else none

namespace Choices

/-- Whether an option was given. -/
def has (choices : Choices) : OptionName → Bool
  | .config => choices.config.isSome
  | .catalog => choices.catalog.isSome
  | .maxBytes => choices.maxBytes.isSome
  | .maxDepth => choices.maxDepth.isSome
  | .table => choices.table.isSome
  | .filter => choices.filter.isSome
  | .payload => choices.payload.isSome
  | .optionsOnly => choices.optionsOnly
  | .help | .version => false

/-- Whether no option was given. -/
def isEmpty (choices : Choices) : Bool := choices == {}

/-- The value of an option that is a path.  No path is empty. -/
def toPath (text : String) : Except UsageError String :=
  if text.isEmpty then .error .missingValue else .ok text

/-- The value of an option that is a number. -/
def toWord (text : String) : Except UsageError Nat :=
  match wordOfText? text with
  | some value => .ok value
  | none => .error .badValue

/-- The choices with one more option that takes a value. -/
def set (choices : Choices) (option : OptionName) (text : String) : Except UsageError Choices :=
  if choices.has option then .error .repeatedArgument
  else
    match option with
    | .config => (toPath text).map fun path => { choices with config := some path }
    | .catalog => (toPath text).map fun path => { choices with catalog := some path }
    | .maxBytes => (toWord text).map fun value => { choices with maxBytes := some value }
    | .maxDepth => (toWord text).map fun value => { choices with maxDepth := some value }
    | .table => .ok { choices with table := some text }
    | .filter => .ok { choices with filter := some text }
    | .payload => .ok { choices with payload := some text }
    | .optionsOnly | .help | .version => .ok choices

/-- The choices with one more option that takes no value. -/
def setFlag (choices : Choices) (option : OptionName) : Except UsageError Choices :=
  match option with
  | .help => .error .help
  | .version => .error .version
  | option =>
    if choices.has option then .error .repeatedArgument
    else .ok { choices with optionsOnly := true }

/-- The choices with a setting that the environment gives, unless it was given. -/
def provide (environment : Environment) (choices : Choices) (option : OptionName) :
    Except UsageError Choices :=
  match choices.has option, option.environmentName?.bind environment.get? with
  | false, some text => choices.set option text
  | _, _ => .ok choices

/-- The choices with all the settings that the environment gives. -/
def provideAll (environment : Environment) (choices : Choices) : Except UsageError Choices :=
  OptionName.settings.foldlM (provide environment) choices

end Choices

/-! ## Levels -/

/-- An option whose value is not checked yet; none was given if there is no text. -/
structure Pending where
  option : OptionName
  text : Option String
deriving DecidableEq, Repr

/-- What was read of a level: the options that were checked, and the last one. -/
structure Progress where
  choices : Choices := {}
  pending : Option Pending := none
deriving DecidableEq, Repr

namespace Progress

/-- The choices once the last option is checked. -/
def settle (progress : Progress) : Except UsageError Choices :=
  match progress.pending with
  | none => .ok progress.choices
  | some ⟨_, none⟩ => .error .missingValue
  | some ⟨option, some text⟩ => progress.choices.set option text

/-- Whether the next argument is the value of the last option. -/
def wantsValue (progress : Progress) : Bool := progress.pending.any fun last => last.text.isNone

/-- An option with the value that is attached to it, or none. -/
def takeOption (progress : Progress) (option : OptionName) (attached : Option String) :
    Except UsageError Progress := do
  let choices ← progress.settle
  match option.takesValue, attached with
  | true, some text =>
    let choices ← choices.set option text
    return ⟨choices, none⟩
  | true, none => return ⟨choices, some ⟨option, none⟩⟩
  | false, _ =>
    let choices ← choices.setFlag option
    return ⟨choices, none⟩

/-- An argument that begins with two hyphens, without them. -/
def takeLong (level : Level) (progress : Progress) (body : List Char) :
    Except UsageError Progress :=
  let name := String.ofList (body.takeWhile (· != '='))
  let attached : Option String :=
    match body.dropWhile (· != '=') with
    | [] => none
    | _ :: value => some (String.ofList value)
  match level.long? name with
  | none => .error .unknownArgument
  | some option =>
    if !option.takesValue && attached.isSome then .error .unexpectedValue
    else progress.takeOption option attached

/-- The letters of an argument that begins with one hyphen, without it.  An option that takes a
value takes the rest of the argument. -/
def takeShort (level : Level) (progress : Progress) : List Char → Except UsageError Progress
  | [] => .ok progress
  | letter :: rest =>
    match level.short? letter with
    | none => .error .unknownArgument
    | some option =>
      if option.takesValue then
        match rest with
        | [] => progress.takeOption option none
        | '=' :: value => progress.takeOption option (some (String.ofList value))
        | value => progress.takeOption option (some (String.ofList value))
      else
        match progress.takeOption option none with
        | .error error => .error error
        | .ok progress => takeShort level progress rest

/-- A value for the last option. -/
def takeValue (progress : Progress) (text : String) : Progress :=
  { progress with pending := progress.pending.map fun last => { last with text := some text } }

end Progress

/-- What follows a level. -/
inductive LevelEnd where
  /-- The arguments are over. -/
  | over
  /-- A command, and the arguments after its name. -/
  | command (level : Level) (arguments : List String)
  /-- The word `help`, and the arguments after it. -/
  | help (arguments : List String)
deriving DecidableEq, Repr

/-- What a misplaced argument is.  After the arguments were marked as positional, the name of a
command is no command. -/
def misplaced (level : Level) (positional : Bool) (argument : String) : UsageError :=
  if level = .outer ∧
      !(positional && (argument == "help" || (Level.ofCommand? argument).isSome)) then
    .unknownCommand
  else .unknownArgument

/-- Reads the arguments of a level. -/
def readLevel (level : Level) (progress : Progress) :
    List String → Except UsageError (Progress × LevelEnd)
  | [] => .ok (progress, .over)
  | argument :: rest =>
    let command? := if level = .outer ∧ !progress.wantsValue then Level.ofCommand? argument else none
    match command? with
    | some command => .ok (progress, .command command rest)
    | none =>
      if level = .outer ∧ !progress.wantsValue ∧ argument = "help" then
        .ok (progress, .help rest)
      else
        match argument.toList with
        | ['-', '-'] =>
          match rest with
          | [] => .ok (progress, .over)
          | first :: _ => .error (misplaced level true first)
        | '-' :: '-' :: body =>
          match progress.takeLong level body with
          | .error error => .error error
          | .ok progress => readLevel level progress rest
        | '-' :: letter :: letters =>
          match progress.takeShort level (letter :: letters) with
          | .error error => .error error
          | .ok progress => readLevel level progress rest
        | _ =>
          if progress.wantsValue then readLevel level (progress.takeValue argument) rest
          else .error (misplaced level false argument)

/-- Reads the arguments after a command, to the choices made there.  What the environment gives has
to be in order, but is not among them. -/
def readCommand (environment : Environment) (level : Level) (arguments : List String) :
    Except UsageError (Choices × Command) := do
  let (progress, _) ← readLevel level {} arguments
  let choices ← progress.settle
  let _ ← choices.provideAll environment
  match level, choices.table, choices.payload with
  | .compile, some table, _ =>
    return (choices, .compile table (choices.filter.getD "\x7b\x7d") choices.optionsOnly)
  | .update, some table, some payload => return (choices, .update table payload)
  | .operators, _, _ => return (choices, .operators)
  | _, _, _ => throw .missingArgument

/-- The answer to a request for help on a command. -/
def helpOn : List String → UsageError
  | [] => .help
  | [name] =>
    if name = "help" ∨ (Level.ofCommand? name).isSome then .help else .unknownCommand
  | _ => .unknownCommand

/-- Settings given after the command, then those given before it, then those of the environment. -/
def Overrides.ofChoices (environment : Environment) (outer inner : Choices) :
    Except UsageError Overrides := do
  let outermost ← outer.provideAll environment
  return {
    file := (inner.config.or outer.config).or outermost.config
    catalog := (inner.catalog.or outer.catalog).or outermost.catalog
    maxBytes := (inner.maxBytes.or outer.maxBytes).or outermost.maxBytes
    maxDepth := (inner.maxDepth.or outer.maxDepth).or outermost.maxDepth }

/-- The command that arguments ask for, in an environment. -/
def Invocation.parse (environment : Environment) (arguments : List String) :
    Except UsageError Invocation := do
  match ← readLevel .outer {} arguments with
  | (_, .help arguments) => throw (helpOn arguments)
  | (progress, .over) =>
    let choices ← progress.settle
    let choices ← choices.provideAll environment
    throw (if choices.isEmpty then .nothingGiven else .noCommand)
  | (progress, .command level arguments) =>
    let (inner, command) ← readCommand environment level arguments
    let outer ← progress.settle
    let overrides ← Overrides.ofChoices environment outer inner
    return ⟨overrides, command⟩

end ClauseSql
