import MockApi.Text.CharRange

/-!
# Arguments

* `OptionSpec` : an option that a command knows;
* `Arguments`, `Arguments.read` : the settings and the operands among the words of a command line;
* `UsageError` : why the words cannot be read.
-/

namespace MockApi

/-- An option that a command knows. -/
structure OptionSpec where
  /-- What the option is called in the settings. -/
  key : String
  /-- The option as it is written with two dashes. -/
  long : String
  /-- The letter that stands for the option behind one dash, if there is one. -/
  letter? : Option Char
  takesValue : Bool
  deriving DecidableEq, Repr

/-- Why the words of a command line cannot be read. -/
inductive UsageError where
  | unknownOption (name : String)
  | missingValue (name : String)
  | needlessValue (name : String)
  | missingCommand
  | unknownCommand (name : String)
  | missingOperand
  | extraOperand (word : String)
  | malformedValue (name : String)
  deriving DecidableEq, Repr

/-- The settings and the operands among the words of a command line. -/
structure Arguments where
  /-- Options with their values, in order; the value of an option without one is empty. -/
  settings : List (String × String)
  operands : List String
  deriving DecidableEq, Repr

namespace Arguments

/-- The value of an option: the one that was given last. -/
def value? (arguments : Arguments) (key : String) : Option String :=
  arguments.settings.reverse.lookup key

def has (arguments : Arguments) (key : String) : Bool := (arguments.value? key).isSome

/-- What a word says about options. -/
inductive Reading where
  | setting (key value : String)
  /-- An option whose value is the next word. -/
  | pending (spec : OptionSpec)
  deriving DecidableEq, Repr

/-- Reads a word with two dashes, which is cut at its first equals sign. -/
def readLong (spec : OptionSpec) (value? : Option String) : Except UsageError Reading :=
  match spec.takesValue, value? with
  | true, some value => .ok (.setting spec.key value)
  | true, none => .ok (.pending spec)
  | false, some _ => .error (.needlessValue spec.long)
  | false, none => .ok (.setting spec.key "")

/-- Reads a word with one dash: the letter of an option, and its value if there is more. -/
def readShort (specs : List OptionSpec) (word : List Char) : Except UsageError Reading :=
  let letter? := (word.drop 1).head?
  match specs.find? fun spec => spec.letter?.isSome && spec.letter? == letter? with
  | none => .error (.unknownOption (String.ofList (word.take 2)))
  | some spec =>
    match word.drop 2 with
    | [] => .ok (.pending spec)
    | value => .ok (.setting spec.key (String.ofList value))

def cutAtEquals (word : List Char) : String × Option String :=
  match Text.splitAtFirst ['='] word with
  | some (name, value) => (String.ofList name, some (String.ofList value))
  | none => (String.ofList word, none)

def readOption (specs : List OptionSpec) (word : String) : Except UsageError Reading :=
  let (name, value?) := cutAtEquals word.toList
  match specs.find? fun spec => spec.long == name with
  | some spec => readLong spec value?
  | none =>
    if word.toList.take 2 = ['-', '-'] then .error (.unknownOption name)
    else readShort specs word.toList

/-- Whether a word is an option: it starts with a dash and has more than that. -/
def isOption (word : String) : Bool := word.toList.head? = some '-' && word.toList.length != 1

def withSetting (key value : String) (arguments : Arguments) : Arguments :=
  { arguments with settings := (key, value) :: arguments.settings }

def withOperand (word : String) (arguments : Arguments) : Arguments :=
  { arguments with operands := word :: arguments.operands }

/-- Reads words. Behind two dashes there are only operands; if options and operands are not `mixed`
there are only operands behind the first of them, too. -/
def read (specs : List OptionSpec) (mixed : Bool) : List String → Except UsageError Arguments
  | [] => .ok ⟨[], []⟩
  | word :: rest =>
    if word = "--" then .ok ⟨[], rest⟩
    else if isOption word then
      match readOption specs word with
      | .error e => .error e
      | .ok (.setting key value) => (read specs mixed rest).map (withSetting key value)
      | .ok (.pending spec) =>
        match rest with
        | [] => .error (.missingValue spec.long)
        | value :: rest => (read specs mixed rest).map (withSetting spec.key value)
    else if mixed then (read specs mixed rest).map (withOperand word)
    else .ok ⟨[], word :: rest⟩

end Arguments

end MockApi
