import MockApi.Console.Run
import MockApi.Server.Wire
import Std.Time.DateTime.Timestamp

/-!
# The program

What the command line does to the world: files are read into a tree before a run, and the outcome of
the run is carried out. A server answers the requests that come in on the standard input.
-/

namespace MockApi

def snapshotFile (tree : FileTree) (place : Location) : IO FileTree := do
  let path := (← IO.currentDir) / Location.text place
  return tree.putFile (FileTree.plainPlace place) ((← IO.FS.readBinFile path).toList.map UInt8.toNat)

/-- Adds what there is at a location to a tree. Of the files only documents are read. -/
partial def snapshotBelow (tree : FileTree) (place : Location) : IO FileTree := do
  let path := (← IO.currentDir) / Location.text place
  if ← path.isDir then
    let mut tree := tree.putFolder (FileTree.plainPlace place)
    for entry in ← path.readDir do
      tree ← snapshotBelow tree (place ++ [entry.fileName])
    return tree
  else if !(← path.pathExists) then return tree
  else if FileTree.isDocumentName place.text then snapshotFile tree place
  else return tree.putFile (FileTree.plainPlace place) []

/-- Adds the folders on the way to a location to a tree. -/
def snapshotWay (tree : FileTree) (place : Location) : IO FileTree := do
  let mut tree := tree
  for length in List.range place.length do
    let way := place.take length
    if ← ((← IO.currentDir) / Location.text way).isDir then
      tree := tree.putFolder (FileTree.plainPlace way)
  return tree

def snapshotConfig (tree : FileTree) (place : Location) : IO FileTree := do
  let tree ← snapshotWay tree place
  let path := (← IO.currentDir) / Location.text place
  if ← path.isDir then return tree.putFolder (FileTree.plainPlace place)
  else if ← path.pathExists then snapshotFile tree place
  else return tree

/-- A line without the marks for its colours. -/
def withoutMarks : List Char → List Char
  | [] => []
  | '[' :: rest => withoutMarks ((rest.dropWhile (· ≠ ']')).drop 1)
  | c :: rest => c :: withoutMarks rest
termination_by text => text.length
decreasing_by
  all_goals
    simp only [List.length_cons, List.length_drop]
    have := (List.dropWhile_suffix (fun x : Char => decide (x ≠ ']')) (l := rest)).length_le
    omega

def Printed.print : Printed → IO Unit
  | .line text => IO.println (String.ofList (withoutMarks text.toList))
  | .table title columns rows => do
    IO.println title
    for row in columns :: rows.map (List.map Text.lossy) do
      IO.println (Text.joinWith "  " row)

/-- Writes a file and the folders that lead to it. -/
def writeCreated (place : Location) (text : String) : IO Unit := do
  IO.FS.createDirAll (Location.text place.dropLast)
  IO.FS.writeFile place.text text

def secondsNow : IO Double := do
  let now ← Std.Time.Timestamp.now
  return .ofDecimal false now.toMillisecondsSinceUnixEpoch.toInt.toNat (-3)

/-- The lines of a request up to the empty one. -/
partial def readHead (input : IO.FS.Stream) : IO (List String) := do
  let line ← input.getLine
  let text := Wire.withoutEnd line
  if text.isEmpty then return []
  return text :: (← readHead input)

/-- The bytes of a body. -/
partial def readBytes (input : IO.FS.Stream) (length : Nat) : IO (List Nat) := do
  if length = 0 then return []
  let bytes ← input.read length.toUSize
  if bytes.isEmpty then return []
  return bytes.toList.map UInt8.toNat ++ (← readBytes input (length - bytes.size))

def send (output : IO.FS.Stream) (reply : Reply) : IO Unit := do
  output.write ⟨((Wire.replyBytes reply).map Nat.toUInt8).toArray⟩
  output.flush

/-- Answers requests until there is none left. -/
partial def answerAll {σ : Type} (server : Server) (samples : SampleSource σ) (state : σ)
    (input output : IO.FS.Stream) : IO Unit := do
  match Wire.requestOf? (← readHead input) with
  | none => return
  | some request =>
    let body ← readBytes input (Wire.bodyLength request)
    let chance := Chance.ofDraws [← IO.rand 0 1000000000]
    let handled := server.handle .standard (fillBlanks samples) { request with body } (← secondsNow)
    let (reply, session) := handled.run ⟨state, chance⟩
    match reply with
    | .ok reply => send output reply
    | .error _ => send output Wire.failureReply
    answerAll server samples session.filler input output

/-- Carries out the outcome of a run. -/
def Outcome.perform {σ : Type} (samples : SampleSource σ) (state : σ) (outcome : Outcome) :
    IO UInt32 := do
  for printed in outcome.printed do
    printed.print
  IO.print outcome.output
  for (place, text) in outcome.created do
    writeCreated place text
  match outcome.failure? with
  | some failure => IO.eprintln failure.message
  | none => pure ()
  match outcome.launch? with
  | some launch => answerAll launch.server samples state (← IO.getStdin) (← IO.getStdout)
  | none => pure ()
  return outcome.exitCode.toUInt32

end MockApi

open MockApi in
def main (words : List String) : IO UInt32 := do
  let environment : Environment :=
    { host := (← IO.getEnv "HOST").getD "", portNumber := (← IO.getEnv "PORT").getD "" }
  let mut tree ← snapshotConfig .empty (Program.configPlace words)
  let place := Program.configPlace words
  match Config.load environment tree (some place.text) with
  | .error _ => pure ()
  | .ok config =>
    for place in Program.places config words do
      tree ← snapshotBelow (← snapshotWay tree place) place
  let folder := (← IO.currentDir).toString
  let world : World Unit := { environment, folder, tree, samples := .empty, sampleState := () }
  (Program.run world words).perform world.samples world.sampleState
