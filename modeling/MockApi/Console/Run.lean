import MockApi.Config
import MockApi.Console.Command
import MockApi.Contract.Starter
import MockApi.Json.Printer
import MockApi.Server.App

/-!
# Running a command

* `Outcome` : all that a run leaves behind: what is printed, the files that are written, the server to
  be started, and the exit code;
* `Program.run` : the outcome for the words of a command line;
* `Failure` : what a run may break off with.

A run does nothing itself. Whoever calls it prints, writes and serves what the outcome says.
-/

namespace MockApi

/-- Something that is printed for a reader. -/
inductive Printed where
  /-- A line, with marks for its colours. -/
  | line (text : String)
  | table (title : String) (columns : List String) (rows : List (List Text))
  deriving DecidableEq, Repr

/-- What a run may break off with. -/
inductive Failure where
  | config (error : ConfigError)
  | document (error : DocumentError)
  | params (error : DuplicateParams)
  | sample (failure : SampleFailure)
  | file (fault : FileFault)
  /-- A path that names no file. -/
  | nameless (path : String)

def namelessMessage (path : String) : String := "PosixPath('" ++ path ++ "') has an empty name"

def FileFault.message : FileFault → String
  | .missing => "No such file or directory"
  | .folder => "Is a directory"
  | .notFolder => "Not a directory"
  | .occupied => "File exists"

def encodingMessage : String := "The file is not UTF-8"

def ConfigError.message : ConfigError → String
  | .file fault => fault.message
  | .encoding => encodingMessage
  | .malformed => "The settings are no document"
  | .longInteger digits => (IntegerFault.tooLong digits).message
  | .notObject => "The settings are no object"
  | .notPairs => "The address is no object"
  | .noPair position length => noPairMessage position length
  | .invalid problems =>
    Text.joinWith "\n" <| problems.map fun p =>
      (Text.join "." p.location).lossy ++ ": " ++
        p.complaint.message Lenient.NumberRule.message

def DocumentError.message : DocumentError → String
  | .file fault => fault.message
  | .encoding => encodingMessage
  | .longInteger digits => (IntegerFault.tooLong digits).message
  | .rejected rejection => rejection.message.lossy

def Failure.message : Failure → String
  | .config error => error.message
  | .document error => error.message
  | .params error => error.message
  | .sample _ => "A sample value cannot be made"
  | .file fault => fault.message
  | .nameless path => namelessMessage path

/-- A server that is to be started. -/
structure Launch where
  host : String
  portNumber : Int
  logLevel : String
  server : Server

/-- All that a run leaves behind. -/
structure Outcome where
  exitCode : Nat
  /-- How much is logged, unless the run ended before that was known. -/
  level? : Option Nat := none
  printed : List Printed := []
  /-- What is written for other programs. -/
  output : String := ""
  created : List (Location × String) := []
  launch? : Option Launch := none
  failure? : Option Failure := none

namespace Outcome

/-- A run that ended well. -/
def success : Outcome := { exitCode := 0 }

/-- A run whose words could not be read. -/
def misused : Outcome := { exitCode := 2 }

/-- A run that broke off. -/
def failed (failure : Failure) : Outcome := { exitCode := 1, failure? := some failure }

end Outcome

/-- What a run needs to know of the world; `σ` is what calls for samples may change. -/
structure World (σ : Type) where
  environment : Environment
  /-- The working folder, as it is shown. -/
  folder : String
  tree : FileTree
  samples : SampleSource σ
  sampleState : σ

variable {σ : Type}

/-- The number of a level of logging; a name that is not known stands for the usual level. -/
def logLevelNumber (name : String) : Nat :=
  let levels := [("CRITICAL", 50), ("FATAL", 50), ("ERROR", 40), ("WARNING", 30), ("WARN", 30),
    ("INFO", 20), ("DEBUG", 10), ("NOTSET", 0)]
  (levels.lookup (Text.upper name).lossy).getD 20

/-! ## Catalogs as tables -/

def Catalog.loadedTable (catalog : Catalog) : Printed :=
  .table "Contracts" ["File", "Route", "Except cases"] <| catalog.loaded.map fun entry =>
    [entry.place.text, entry.contract.request.title, toString entry.contract.cases.length]

def Catalog.skippedTable (catalog : Catalog) : Printed :=
  .table "Skipped" ["File", "Reason"] <| catalog.skipped.map fun (place, omission) =>
    [place.text, omission.message]

/-- The tables of a catalog; there is no second one if nothing is left out. -/
def Catalog.tables (catalog : Catalog) : List Printed :=
  catalog.loadedTable :: if catalog.isComplete then [] else [catalog.skippedTable]

/-! ## The commands -/

/-- A text, or another one if it is missing or empty. -/
def givenOr (given? : Option String) (default : String) : String :=
  match given? with
  | some text => if text.isEmpty then default else text
  | none => default

/-- An integer, or another one if it is missing or zero. -/
def nonzeroOr (given? : Option Int) (default : Int) : Int :=
  match given? with
  | some n => if n = 0 then default else n
  | none => default

/-- A line that stands out in a colour. -/
def boldLine (colour text : String) : Printed :=
  .line ("[bold " ++ colour ++ "]" ++ text ++ "[/bold " ++ colour ++ "]")

/-- Starts a server of the contracts of a folder, if there are any. -/
def runServe (world : World σ) (config : Config) (options : ServeOptions) : Except Failure Outcome := do
  let directory := givenOr options.directory? config.contracts.directory
  let host := givenOr options.host? config.server.host
  let portNumber := nonzeroOr options.portNumber? config.server.portNumber
  let casesAllowed := config.contracts.casesAllowed && !options.casesDisabled
  let catalog ←
    (Catalog.load world.tree casesAllowed (Location.ofText directory)).mapError .document
  let server ← (Server.ofCatalog catalog).mapError .params
  if catalog.loaded.isEmpty then
    let line := "No contracts found! Is " ++ directory ++ " the correct directory?"
    return { exitCode := 2, printed := catalog.tables ++ [boldLine "red" line] }
  let line := "Starting specmock on http://" ++ host ++ ":" ++ toString portNumber
  return {
    exitCode := 0
    printed := catalog.tables ++ [boldLine "green" line]
    launch? := some { host, portNumber, logLevel := config.logging.level, server } }

/-- Checks the contracts of a folder, which must be there. -/
def runCheck (world : World σ) (config : Config) (directory : String) : Except Failure Outcome := do
  let place := Location.ofText directory
  if directory.isEmpty || !world.tree.hasFolder place then return .misused
  let catalog ←
    (Catalog.load world.tree config.contracts.casesAllowed place).mapError .document
  return { exitCode := if catalog.isComplete then 0 else 1, printed := catalog.tables }

/-- A name with the ending of documents, unless it has that ending behind something. -/
def documentName (name : String) : String :=
  if FileTree.isDocumentName name && name != ".json" then name else name ++ ".json"

def dumpTarget (path : String) : Except Failure Location :=
  let place := Location.ofText path
  match place.lastName? with
  | none => .error (.nameless place.text)
  | some name => .ok (place.dropLast ++ [documentName name])

def shownPlace (folder : String) (place : Location) : String :=
  if place.head? = some Location.root then place.text else folder ++ "/" ++ place.text

/-- Writes a contract to start from. -/
def runDump (world : World σ) (path : String) : Except Failure Outcome := do
  let target ← dumpTarget path
  let tree ← (world.tree.makeFolder target.dropLast).mapError .file
  let text := Contract.starter.indented ++ "\n"
  let (place, _) ← (tree.write target (Text.encode text)).mapError .file
  let line := "[green]Contract saved to " ++ shownPlace world.folder place ++ "[/green]"
  return { exitCode := 0, printed := [.line line], created := [(place, text)] }

/-- The length from which on samples are cut. -/
def sampleWidth : Nat := 64

def shortSample (sample : String) : String :=
  if sampleWidth ≤ sample.toList.length then String.ofList (sample.toList.take 60) ++ " ..."
  else sample

/-- Lists the blanks of a category. -/
def runGenerators (world : World σ) (config : Config) (category : String) (asJson : Bool) :
    Except Failure Outcome :=
  match ((listGenerators world.samples category).run world.sampleState).1 with
  | .error failure => .error (.sample failure)
  | .ok rows =>
    if asJson then
      let samples := Value.object (Members.ofPairs (textMembers rows))
      .ok { exitCode := 0, output := samples.indented ++ "\n" }
    else
      let title := "Filler generators (" ++ config.filler.locale ++ ")"
      let rows := rows.map fun (name, sample) => [Contract.blank name, shortSample sample]
      .ok { exitCode := 0, printed := [.table title ["Placeholder", "Sample"] rows] }

def Command.run (world : World σ) (config : Config) : Command → Except Failure Outcome
  | .serve options => runServe world config options
  | .check directory => runCheck world config directory
  | .dump path => runDump world path
  | .generators category asJson => runGenerators world config category asJson

def Command.places (config : Config) : Command → List Location
  | .serve options => [Location.ofText (givenOr options.directory? config.contracts.directory)]
  | .check directory => [Location.ofText directory]
  | .dump path => [Location.ofText path]
  | .generators _ _ => []

/-! ## The program -/

namespace Program

def configPlace (words : List String) : Location :=
  match Invocation.read words with
  | .ok (.action invocation) => Location.ofText (invocation.config?.getD Config.defaultFile)
  | _ => []

def places (config : Config) (words : List String) : List Location :=
  match Invocation.read words with
  | .ok (.action invocation) =>
    match Command.read invocation.command invocation.words with
    | .ok (.action command) => command.places config
    | _ => []
  | _ => []

/-- The outcome for the words of a command, when the settings are known. -/
def runCommand (world : World σ) (config : Config) (name : CommandName) (words : List String) :
    Outcome :=
  match Command.read name words with
  | .error _ => .misused
  | .ok .help => .success
  | .ok (.action command) =>
    match command.run world config with
    | .ok outcome => outcome
    | .error failure => .failed failure

/-- The outcome for the words of a command line. -/
def run (world : World σ) (words : List String) : Outcome :=
  match Invocation.read words with
  | .error _ => .misused
  | .ok .help => .success
  | .ok (.action invocation) =>
    match Config.load world.environment world.tree invocation.config? with
    | .error e => .failed (.config e)
    | .ok config =>
      { runCommand world config invocation.command invocation.words with
        level? := some (logLevelNumber config.logging.level) }

end Program

end MockApi
