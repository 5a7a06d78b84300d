import MockApi.Files.Location

/-!
# File trees

* `FileTree` : files with their bytes, and folders;
* `FileTree.resolve` : where a location leads;
* `FileTree.read`, `FileTree.write`, `FileTree.makeFolder` : work on a tree, with the faults of
  locations that lead nowhere or to something else;
* `FileTree.documentsBelow` : the documents below a folder, in order.
-/

namespace MockApi

/-- Files with their bytes, and folders. What contains a file or a folder is a folder. -/
structure FileTree where
  files : List (Location × List Nat)
  folders : List Location

/-- Why a location cannot be used. -/
inductive FileFault where
  /-- There is nothing. -/
  | missing
  /-- There is a folder where a file is wanted. -/
  | folder
  /-- There is a file where a folder is wanted. -/
  | notFolder
  /-- There is a file where a folder is to be made. -/
  | occupied
  deriving DecidableEq, Repr

/-- What there is at a location. -/
inductive FileEntry where
  | file (bytes : List Nat)
  | folder
  deriving DecidableEq, Repr

namespace FileTree

def empty : FileTree := ⟨[], []⟩

def isFolder (tree : FileTree) (place : Location) : Bool :=
  place.isEmpty || tree.folders.any (fun other => place.isPrefixOf other) ||
    tree.files.any fun file => place.isPrefixOf file.1 && place != file.1

/-- What there is at a location that is free of names for the folder above. -/
def entry? (tree : FileTree) (place : Location) : Option FileEntry :=
  match tree.files.lookup place with
  | some bytes => some (.file bytes)
  | none => if tree.isFolder place then some .folder else none

/-- The folder above a place; above the working folder nothing is known. -/
def up (place : Location) : Location :=
  match place.getLast? with
  | none => [Location.above]
  | some name =>
    if name = Location.above then place ++ [Location.above]
    else if name = Location.root then place
    else place.dropLast

/-- The place of a location, if all that is left behind on the way are folders. -/
def plainPlace (place : Location) : Location :=
  place.foldl (fun here name => if name = Location.above then up here else here ++ [name]) []

/-- Follows names from a place. What is left behind on the way must be a folder. -/
def resolveFrom (tree : FileTree) (here : Location) : List String → Except FileFault Location
  | [] => .ok here
  | name :: rest =>
    match tree.entry? here with
    | none => .error .missing
    | some (.file _) => .error .notFolder
    | some .folder => resolveFrom tree (if name = Location.above then up here else here ++ [name]) rest

def resolve (tree : FileTree) (place : Location) : Except FileFault Location :=
  tree.resolveFrom [] place

def find (tree : FileTree) (place : Location) : Except FileFault FileEntry := do
  let place ← tree.resolve place
  match tree.entry? place with
  | some entry => return entry
  | none => throw .missing

def has (tree : FileTree) (place : Location) : Bool :=
  match tree.find place with
  | .ok _ => true
  | .error _ => false

def hasFolder (tree : FileTree) (place : Location) : Bool :=
  match tree.find place with
  | .ok .folder => true
  | _ => false

def read (tree : FileTree) (place : Location) : Except FileFault (List Nat) := do
  match ← tree.find place with
  | .file bytes => return bytes
  | .folder => throw .folder

/-! ## Changes -/

/-- The tree with a file, in place of another one at the same place. -/
def putFile (tree : FileTree) (place : Location) (bytes : List Nat) : FileTree :=
  { tree with files := tree.files.filter (fun file => file.1 != place) ++ [(place, bytes)] }

def putFolder (tree : FileTree) (place : Location) : FileTree :=
  { tree with folders := tree.folders ++ [place] }

/-- Follows names from a place and makes the folders that are missing on the way. -/
def makeFolderFrom (tree : FileTree) (here : Location) : List String → Except FileFault FileTree
  | [] => .ok tree
  | name :: rest =>
    if name = Location.above then makeFolderFrom tree (up here) rest
    else
      let place := here ++ [name]
      match tree.entry? place with
      | some (.file _) => .error (if rest.isEmpty then .occupied else .notFolder)
      | some .folder => makeFolderFrom tree place rest
      | none => makeFolderFrom (tree.putFolder place) place rest

/-- The tree with a folder and all the folders that lead to it. -/
def makeFolder (tree : FileTree) (place : Location) : Except FileFault FileTree :=
  tree.makeFolderFrom [] place

/-- The tree with a file in an existing folder, and the place of the file. -/
def write (tree : FileTree) (place : Location) (bytes : List Nat) :
    Except FileFault (Location × FileTree) := do
  let target ← tree.resolve place
  match tree.entry? target with
  | some .folder => throw .folder
  | _ => return (target, tree.putFile target bytes)

/-! ## Documents -/

def isDocumentName (name : String) : Bool := ".json".toList.isSuffixOf name.toList

/-- The way on from a place to a file below it. -/
def wayBelow? (place file : Location) : Option Location :=
  if place.isPrefixOf file then some (file.drop place.length) else none

/-- The documents below a location, in order. There is none below what is no folder. -/
def documentsBelow (tree : FileTree) (top : Location) : List Location :=
  match tree.resolve top with
  | .error _ => []
  | .ok place =>
    Location.sort <| tree.files.filterMap fun (file, _) => do
      let way ← wayBelow? place file
      let name ← way.getLast?
      if isDocumentName name then some (top ++ way) else none

end FileTree

end MockApi
