import MockApi.Contract.Document

/-!
# Catalogs

A catalog is what a folder of contracts offers, together with what had to be left out of it.

* `Catalog` : the contracts that are served and the files that are not, each in order;
* `Catalog.enter` : a contract added, unless its cases are not allowed or its place is taken;
* `Catalog.load` : the catalog of a folder.

A rejected document is left out and does not keep the others from being loaded.
-/

namespace MockApi

/-- A contract with the file it comes from. -/
structure CatalogEntry where
  place : Location
  contract : Contract

/-- Why a file is left out. -/
inductive Omission where
  /-- The document is rejected. -/
  | rejected (errors : List Text)
  /-- The contract has cases, which are not allowed. -/
  | casesDisabled
  /-- Another file has a contract for the same method and route. -/
  | taken (title : String) (holder : Location)
  deriving DecidableEq, Repr

def Omission.message : Omission → Text
  | .rejected errors => Text.join "\n" errors
  | .casesDisabled => "except cases are disabled"
  | .taken title holder => title ++ " already served by " ++ holder.text

/-- The contracts that are served, and the files that are not. -/
structure Catalog where
  loaded : List CatalogEntry
  skipped : List (Location × Omission)

namespace Catalog

def empty : Catalog := ⟨[], []⟩

def isComplete (catalog : Catalog) : Bool := catalog.skipped.isEmpty

/-- Whether two contracts answer the same method on the same route. -/
def sameTarget (a b : Contract) : Bool :=
  a.request.method == b.request.method && a.request.route == b.request.route

/-- The entry that answers the method of a contract on its route. -/
def holder? (catalog : Catalog) (contract : Contract) : Option CatalogEntry :=
  catalog.loaded.find? fun entry => sameTarget entry.contract contract

def skip (catalog : Catalog) (place : Location) (omission : Omission) : Catalog :=
  { catalog with skipped := catalog.skipped ++ [(place, omission)] }

/-- The catalog with a contract, unless its cases are not allowed or its place is taken. -/
def enter (casesAllowed : Bool) (catalog : Catalog) (place : Location) (contract : Contract) :
    Catalog :=
  if !contract.cases.isEmpty && !casesAllowed then catalog.skip place .casesDisabled
  else
    match catalog.holder? contract with
    | some entry => catalog.skip place (.taken contract.request.title entry.place)
    | none => { catalog with loaded := catalog.loaded ++ [⟨place, contract⟩] }

def add (tree : FileTree) (casesAllowed : Bool) (catalog : Catalog) (place : Location) :
    Except DocumentError Catalog :=
  match Contract.ofFile tree place with
  | .ok contract => .ok (catalog.enter casesAllowed place contract)
  | .error (.rejected rejection) => .ok (catalog.skip place (.rejected rejection.errors))
  | .error e => .error e

/-- The catalog of the documents below a location. -/
def load (tree : FileTree) (casesAllowed : Bool) (top : Location) : Except DocumentError Catalog :=
  (tree.documentsBelow top).foldlM (add tree casesAllowed) empty

end Catalog

end MockApi
