import MockApi.Contract.Basic
import MockApi.Document.Check
import MockApi.Repeat

/-!
# The rules of contracts

* `Rule` : the rules that a document may break, and their wording.
-/

namespace MockApi.Contract

/-- A rule that a document breaks. -/
inductive Rule where
  | blankRoute
  | unknownMethod (shown : String)
  | queryKind (kindName : String)
  | payloadKind
  | headersKind (kindName : String)
  | duplicateHeader (duplicate : DuplicateHeader)
  | unreadableCode (shown : String)
  | unsupportedCode (code : Int)
  | compositeHeader (name : Text)
  | castsKind
  | castPath (text : Text)
  | unknownCast
  | repetitionKind
  | repeatsNoList
  | repetition (fault : Repeat.Fault)
  | castsNoContainer
  | castsNothing (path : String)
  | castIndex (fault : IntegerFault)
  | casesKind
  | predicatesKind (kindName : String)
  | predicateKind (position : Nat) (kindName : String)
  | predicate (objection : Predicate.Objection)

def Rule.message : Rule → String
  | .blankRoute => "Request route must be a non-empty string"
  | .unknownMethod shown => "Unsupported request HTTP method: " ++ shown
  | .queryKind kindName => "Request query must be object, got " ++ kindName
  | .payloadKind => "Request payload must be an object or a string"
  | .headersKind kindName => "Headers must be an object, got " ++ kindName
  | .duplicateHeader duplicate => duplicate.message
  | .unreadableCode shown => "Response HTTP status code invalid: " ++ shown
  | .unsupportedCode code => "Unsupported response HTTP status: " ++ toString code
  | .compositeHeader name => "Response header " ++ Text.quoted name ++ " must be a scalar value"
  | .castsKind => "Cast must be a key-value object"
  | .castPath text => Path.invalidMessage (Text.quoted text)
  | .unknownCast => "Input should be 'number', 'boolean' or 'string'"
  | .repetitionKind => "Repeat must be a string"
  | .repeatsNoList => "Cannot use meta repeat on a non-array data"
  | .repetition fault => fault.message
  | .castsNoContainer => "Casting works only with response data objects"
  | .castsNothing path => "Nothing to cast on " ++ path
  | .castIndex fault => fault.message
  | .casesKind => "Except must be an object of named cases"
  | .predicatesKind kindName => "Field \"validate\" must be string[], got " ++ kindName
  | .predicateKind position kindName =>
    "Field \"validate\" must be string on position " ++ toString position ++ ", got " ++ kindName ++
      " instead"
  | .predicate objection => objection.message

def complaintMessage (complaint : Complaint Rule) : String := complaint.message Rule.message

end MockApi.Contract
