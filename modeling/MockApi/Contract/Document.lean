import MockApi.Contract.Rejection
import MockApi.Files.Tree
import MockApi.Json.Reader
import MockApi.Text.LineEnd

/-!
# Contracts in files

* `Contract.ofText` : the contract that the text of a document denotes;
* `Contract.ofFile` : the contract in a file;
* `DocumentError` : why a file gives no contract.

A rejected document is the concern of who wrote it; the other errors are about the file as a whole.
-/

namespace MockApi

/-- Why a file gives no contract. -/
inductive DocumentError where
  /-- There is no file to read. -/
  | file (fault : FileFault)
  /-- The file is not text. -/
  | encoding
  /-- An integer in the document has more digits than are converted. -/
  | longInteger (digits : Nat)
  /-- The document is no contract. -/
  | rejected (rejection : Rejection)
  deriving DecidableEq, Repr

namespace Contract

/-- The contract that the text of a document denotes; `source` is where it comes from. -/
def ofText (source text : String) : Except DocumentError Contract :=
  match Json.read text with
  | .ok v => (ofValue (some source) v).mapError .rejected
  | .error (.longInteger digits) => .error (.longInteger digits)
  | .error e => .error (.rejected ⟨some source, [.ofString ("Invalid JSON: " ++ e.message)]⟩)

def ofBytes (source : String) (bytes : List Nat) : Except DocumentError Contract :=
  match Text.ofBytes? bytes with
  | some text => ofText source text
  | none => .error .encoding

def ofFile (tree : FileTree) (place : Location) : Except DocumentError Contract :=
  match tree.read place with
  | .ok bytes => ofBytes place.text bytes
  | .error fault => .error (.file fault)

end Contract

end MockApi
