import MockApi.Console.Arguments
import MockApi.Number.Numeral
import MockApi.Sample.Fill

/-!
# Commands

* `Invocation`, `Invocation.read` : the options of the program itself, and the words of a command;
* `Command`, `Command.read` : a command with its options;
* `Asked` : what words ask for: help, or something to do.
-/

namespace MockApi

/-- What words ask for. -/
inductive Asked (α : Type) where
  | help
  | action (a : α)
  deriving Repr

/-- The commands of the program. -/
inductive CommandName where
  | serve
  | check
  | dump
  | generators
  deriving DecidableEq, Repr

def CommandName.all : List CommandName := [.serve, .check, .dump, .generators]

def CommandName.text : CommandName → String
  | .serve => "serve"
  | .check => "check"
  | .dump => "dump"
  | .generators => "generators"

def CommandName.ofText? (name : String) : Option CommandName :=
  all.find? fun command => command.text == name

/-- How the server is asked to be started; what is left out is taken from the settings. -/
structure ServeOptions where
  directory? : Option String
  host? : Option String
  portNumber? : Option Int
  casesDisabled : Bool
  deriving DecidableEq, Repr

/-- A command with its options. -/
inductive Command where
  | serve (options : ServeOptions)
  /-- Checks the contracts of a folder. -/
  | check (directory : String)
  /-- Writes a contract to start from to a file. -/
  | dump (path : String)
  /-- Lists the blanks of a category. -/
  | generators (category : String) (asJson : Bool)
  deriving DecidableEq, Repr

def helpOption : OptionSpec := ⟨"help", "--help", none, false⟩

/-! ## The program -/

def programOptions : List OptionSpec := [⟨"config", "--config", some 'c', true⟩, helpOption]

/-- The options of the program itself, and the words of a command. -/
structure Invocation where
  /-- The file with the settings. -/
  config? : Option String
  command : CommandName
  words : List String
  deriving DecidableEq, Repr

/-- Reads the words behind the name of the program. -/
def Invocation.read (words : List String) : Except UsageError (Asked Invocation) := do
  let arguments ← Arguments.read programOptions false words
  if arguments.has "help" then return .help
  match arguments.operands with
  | [] => throw .missingCommand
  | name :: words =>
    match CommandName.ofText? name with
    | some command => return .action { config? := arguments.value? "config", command, words }
    | none => throw (.unknownCommand name)

/-! ## The commands -/

def CommandName.options : CommandName → List OptionSpec
  | .serve =>
    [⟨"scan", "--scan", some 's', true⟩, ⟨"host", "--host", none, true⟩,
      ⟨"number", "--port", some 'p', true⟩, ⟨"no-except", "--no-except", none, false⟩, helpOption]
  | .check => [helpOption]
  | .dump => [helpOption]
  | .generators => [⟨"json", "--json-output", none, false⟩, helpOption]

/-- A value that must be an integer. -/
def integerOption (name : String) : Option String → Except UsageError (Option Int)
  | none => .ok none
  | some text =>
    match readInteger text with
    | .ok n => .ok (some n)
    | .error _ => .error (.malformedValue name)

def soleOperand : List String → Except UsageError String
  | [] => .error .missingOperand
  | [word] => .ok word
  | _ :: word :: _ => .error (.extraOperand word)

def noOperand : List String → Except UsageError Unit
  | [] => .ok ()
  | word :: _ => .error (.extraOperand word)

/-- The command that arguments ask for. -/
def Command.ofArguments (arguments : Arguments) : CommandName → Except UsageError Command
  | .serve => do
    let portNumber? ← integerOption "--port" (arguments.value? "number")
    noOperand arguments.operands
    return .serve {
      directory? := arguments.value? "scan"
      host? := arguments.value? "host"
      portNumber?
      casesDisabled := arguments.has "no-except" }
  | .check => return .check (← soleOperand arguments.operands)
  | .dump => return .dump (← soleOperand arguments.operands)
  | .generators => do
    let category ←
      if arguments.operands.isEmpty then pure everyCategory else soleOperand arguments.operands
    return .generators category (arguments.has "json")

/-- Reads the words behind the name of a command. -/
def Command.read (name : CommandName) (words : List String) : Except UsageError (Asked Command) := do
  let arguments ← Arguments.read name.options true words
  if arguments.has "help" then return .help
  return .action (← ofArguments arguments name)

end MockApi
