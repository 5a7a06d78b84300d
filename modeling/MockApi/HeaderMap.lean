import MockApi.Json.Value
import MockApi.Text.Casing

/-!
# Header maps

* `HeaderMap` : values of headers, whose names are in lower case and pairwise distinct;
* `HeaderMap.ofPairs` : the map of given pairs, unless two names differ only in case;
* `HeaderMap.get?` : a look-up by a name in any case;
* `HeaderMap.merged` : the members of the map with others written on top of them.
-/

namespace MockApi

/-- Two names of headers that differ only in case: the second one, as written and in lower case. -/
structure DuplicateHeader where
  name : Text
  folded : Text
  deriving DecidableEq, Repr

def DuplicateHeader.message (e : DuplicateHeader) : String :=
  "Duplicated headers not allowed: " ++ Text.lossy e.name ++ "/" ++ Text.lossy e.folded

/-- Values of headers by their names in lower case. -/
structure HeaderMap where
  members : Members Value
  nodup : (Members.keys members).Nodup

namespace HeaderMap

def empty : HeaderMap := ⟨[], List.nodup_nil⟩

def add (headers : HeaderMap) (name : Text) (v : Value) : Except DuplicateHeader HeaderMap :=
  let folded := Text.lower name
  if Members.has headers.members folded then .error ⟨name, folded⟩
  else .ok ⟨Members.put headers.members folded v, Members.nodup_keys_put _ _ _ headers.nodup⟩

/-- The map of the pairs, which are added in order. -/
def ofPairs (pairs : List (Text × Value)) : Except DuplicateHeader HeaderMap :=
  pairs.foldlM (fun headers (name, v) => headers.add name v) empty

/-- The value of a header, whose name may be written in any case. -/
def get? (headers : HeaderMap) (name : Text) : Option Value :=
  Members.get? headers.members (Text.lower name)

def has (headers : HeaderMap) (name : Text) : Bool := (headers.get? name).isSome

def size (headers : HeaderMap) : Nat := headers.members.length

/-- The headers with others written on top of them, whose names are taken in lower case. -/
def merged (headers : HeaderMap) (newer : Members Value) : Members Value :=
  Members.merge headers.members (newer.map fun (name, v) => (Text.lower name, v))

end HeaderMap

end MockApi
