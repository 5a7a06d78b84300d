import MockApi.Document.Coercion
import MockApi.Files.Tree
import MockApi.Json.Reader
import MockApi.Json.Shown
import MockApi.Number.DoubleText
import MockApi.Text.LineEnd

/-!
# Settings

* `Config` : what the server and the command line can be told, with a default for everything;
* `Environment` : the variables that override the address to serve at;
* `Config.ofValue` : the settings of a document;
* `Config.load` : the settings in a file; a file that is not there gives the defaults.
-/

namespace MockApi

/-- The address to serve at. -/
structure ServerConfig where
  host : String := "127.0.0.1"
  portNumber : Int := 8080
  deriving DecidableEq, Repr

/-- Where contracts are, and whether they may have cases. -/
structure ContractsConfig where
  directory : String := "./contracts"
  casesAllowed : Bool := true
  deriving DecidableEq, Repr

/-- How sample values are made. -/
structure FillerConfig where
  locale : String := "en_US"
  seed : Option Int := none
  deriving DecidableEq, Repr

/-- How much is logged. -/
structure LoggingConfig where
  level : String := "info"
  deriving DecidableEq, Repr

/-- All settings. -/
structure Config where
  server : ServerConfig := {}
  contracts : ContractsConfig := {}
  filler : FillerConfig := {}
  logging : LoggingConfig := {}
  deriving DecidableEq, Repr

/-- Variables that override the address to serve at; an empty one overrides nothing. -/
structure Environment where
  host : String := ""
  portNumber : String := ""
  deriving DecidableEq, Repr

/-- Why there are no settings. -/
inductive ConfigError where
  /-- There is no file to read. -/
  | file (fault : FileFault)
  /-- The file is not text. -/
  | encoding
  /-- The text is no document. -/
  | malformed
  /-- An integer in the document has more digits than are converted. -/
  | longInteger (digits : Nat)
  /-- The document is no object. -/
  | notObject
  /-- The address is neither an object nor a list of pairs. -/
  | notPairs
  /-- An item of the address is no pair. -/
  | noPair (position length : Nat)
  /-- Some settings are not what they must be. -/
  | invalid (problems : List (Problem Lenient.NumberRule))

def noPairMessage (position length : Nat) : String :=
  "dictionary update sequence element #" ++ toString position ++ " has length " ++
    toString length ++ "; 2 is required"

/-- A check of settings. -/
abbrev Configured (α : Type) := Checked Lenient.NumberRule α

/-! ## Sections -/

def ServerConfig.ofValue (v : Value) : Configured ServerConfig := do
  let default : ServerConfig := {}
  let members ← Checked.record "ServerConfig" v
  let (host, portNumber) ←
    Checked.both (Checked.optional members ["host"] default.host Checked.text)
      (Checked.optional members ["port"] default.portNumber Lenient.integer)
  return { host, portNumber }

def ContractsConfig.ofValue (v : Value) : Configured ContractsConfig := do
  let default : ContractsConfig := {}
  let members ← Checked.record "ContractsConfig" v
  let (directory, casesAllowed) ←
    Checked.both (Checked.optional members ["directory"] default.directory Checked.text)
      (Checked.optional members ["allow_except"] default.casesAllowed Lenient.boolean)
  return { directory, casesAllowed }

def seedOfValue : Value → Configured (Option Int)
  | .null => .ok none
  | v => (Lenient.integer v).map some

def FillerConfig.ofValue (v : Value) : Configured FillerConfig := do
  let default : FillerConfig := {}
  let members ← Checked.record "FillerConfig" v
  let (locale, seed) ←
    Checked.both (Checked.optional members ["locale"] default.locale Checked.text)
      (Checked.optional members ["seed"] default.seed seedOfValue)
  return { locale, seed }

def LoggingConfig.ofValue (v : Value) : Configured LoggingConfig := do
  let default : LoggingConfig := {}
  let members ← Checked.record "LoggingConfig" v
  let level ← Checked.optional members ["level"] default.level Checked.text
  return { level }

def Config.ofMembers (members : Members Value) : Configured Config := do
  let (server, contracts, filler, logging) ←
    Checked.both (Checked.optional members ["server"] {} ServerConfig.ofValue) <|
    Checked.both (Checked.optional members ["contracts"] {} ContractsConfig.ofValue) <|
    Checked.both (Checked.optional members ["filler"] {} FillerConfig.ofValue)
      (Checked.optional members ["logging"] {} LoggingConfig.ofValue)
  return { server, contracts, filler, logging }

/-! ## The address -/

/-- Whether a value says nothing: it is blank, or a container without a part. -/
def Value.saysNothing (v : Value) : Bool :=
  match v with
  | .list items => items.isEmpty
  | .object members => members.isEmpty
  | v => v.isBlank

/-- The pair of two values; the first one is a name. -/
def pairOfValues (position : Nat) (items : List Value) : Except ConfigError (Text × Value) :=
  match items with
  | [key, v] => if key.isContainer then .error .notPairs else .ok (key.plain, v)
  | _ => .error (.noPair position items.length)

def pairOfItem (position : Nat) : Value → Except ConfigError (Text × Value)
  | .list items => pairOfValues position items
  | .text s => pairOfValues position (s.map fun c => .text [c])
  | .object members => pairOfValues position (members.map fun (key, _) => .text key)
  | _ => .error .notPairs

/-- The pairs that the items of a list stand for, counted from a position. -/
def pairsFrom : (position : Nat) → List Value → Except ConfigError (List (Text × Value))
  | _, [] => .ok []
  | i, item :: rest => do
    let pair ← pairOfItem i item
    let pairs ← pairsFrom (i + 1) rest
    return pair :: pairs

/-- The members of an address that is given as an object or as pairs. -/
def addressMembers (v : Value) : Except ConfigError (Members Value) :=
  if v.saysNothing then .ok []
  else
    match v with
    | .object members => .ok members
    | .list items => (pairsFrom 0 items).map Members.ofPairs
    | .text s => (pairsFrom 0 (s.map fun c => .text [c])).map Members.ofPairs
    | _ => .error .notPairs

/-- Members with a text written to a name, unless it is empty. -/
def overrideText (name text : String) (members : Members Value) : Members Value :=
  if text.isEmpty then members else Members.put members name (.text text)

/-- The members of a document, whose address is overridden by the environment. -/
def withAddress (environment : Environment) (members : Members Value) :
    Except ConfigError (Members Value) := do
  let address ← addressMembers ((Members.get? members "server").getD .null)
  let address :=
    overrideText "port" environment.portNumber (overrideText "host" environment.host address)
  return if address.isEmpty then members else Members.put members "server" (.object address)

/-! ## Documents -/

/-- The settings of a document; one that says nothing gives the defaults. -/
def Config.ofValue (environment : Environment) (v : Value) : Except ConfigError Config := do
  let members ←
    match v with
    | .object members => pure members
    | v => if v.saysNothing then pure [] else throw .notObject
  let members ← withAddress environment members
  (ofMembers members).mapError .invalid

/-- The document that a text denotes; a blank text denotes null. -/
def documentOfText (text : String) : Except ConfigError Value :=
  if Text.isAllBlank text then .ok .null
  else
    match Json.readIn .settings text with
    | .ok v => .ok v
    | .error (.longInteger digits) => .error (.longInteger digits)
    | .error _ => .error .malformed

def documentOfBytes (bytes : List Nat) : Except ConfigError Value :=
  match Text.ofBytes? bytes with
  | some text => documentOfText text
  | none => .error .encoding

def Config.defaultFile : String := "specmock.yaml"

/-- The settings in a file, or the defaults if it is not there. -/
def Config.load (environment : Environment) (tree : FileTree) (path : Option String) :
    Except ConfigError Config :=
  let place := Location.ofText (path.getD defaultFile)
  if tree.has place then
    match tree.read place with
    | .ok bytes => (documentOfBytes bytes).bind (ofValue environment)
    | .error fault => .error (.file fault)
  else ofValue environment .null

end MockApi
