import MockApi.Contract.Validation

/-!
# Rejected documents

* `Rejection` : why a document is no contract, in words, and where it comes from;
* `Contract.ofValue` : the contract of a document, or its rejection.
-/

namespace MockApi

/-- Why a document is rejected. -/
structure Rejection where
  /-- Where the document comes from. -/
  source : Option String
  /-- What is wrong with it. -/
  errors : List Text
  deriving DecidableEq, Repr

/-- The text of a rejection: a single error behind its source, or a list of errors. -/
def Rejection.message (r : Rejection) : Text :=
  let lead : Text :=
    match r.source with
    | some s => if s.isEmpty then [] else s ++ ": "
    | none => []
  match r.errors with
  | [e] => lead ++ e
  | es =>
    lead ++ .ofString (toString es.length ++ " validation errors\n") ++
      Text.join "\n" (es.map fun e => "  - " ++ e)

namespace Contract

/-- The text of a problem, behind its place if it has one. -/
def problemText (p : Problem Rule) : Text :=
  let place := Text.join "." p.location
  let message : Text := complaintMessage p.complaint
  if place.isEmpty then message else place ++ ": " ++ message

/-- The contract that a document denotes; `source` is where it comes from. -/
def ofValue (source : Option String) (v : Value) : Except Rejection Contract :=
  match v with
  | .object members =>
    (ofMembers members).mapError fun problems => ⟨source, problems.map problemText⟩
  | v => .error ⟨source, [.ofString ("Contract must be an object, got " ++ v.kindName)]⟩

end Contract

end MockApi
