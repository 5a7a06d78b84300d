import MockApi.Json.Reader
import MockApi.Response.Context
import MockApi.Text.Percent

/-!
# Reading a call

* `HttpRequest` : a call as it comes in;
* `collectQuery` : the values of a query, as a list where a name is repeated;
* `readBody` : the body, decoded as its content type says;
* `HttpRequest.incoming` : what the call brings along for a contract.
-/

namespace MockApi

/-- A call as it comes in. -/
structure HttpRequest where
  method : String
  /-- The path, with nothing percent-encoded. -/
  path : String
  /-- The query, as it is written in the address. -/
  query : String
  headers : List (String × String)
  /-- The bytes of the body. -/
  body : List Nat
  deriving DecidableEq, Repr

/-- The bytes of a text as characters, one for each byte. -/
def bytewise (text : String) : String :=
  String.ofList ((Text.encode text).map Char.ofNat)

def addQuery (query : Members Value) (name value : Text) : Members Value :=
  match Members.get? query name with
  | none => Members.put query name (.text value)
  | some (.list items) => Members.put query name (.list (items ++ [.text value]))
  | some v => Members.put query name (.list [v, .text value])

/-- The values of a query: a text for a name that occurs once, and a list for a name that is
repeated. -/
def collectQuery (pairs : List (String × String)) : Members Value :=
  pairs.foldl (fun query (name, value) => addQuery query name value) []

/-- Headers by their names in lower case; of a repeated name the first value counts. -/
def collectHeaders : List (String × String) → List (String × String)
  | [] => []
  | (name, value) :: rest =>
    let name := Text.lowerString name
    (name, value) :: (collectHeaders rest).filter fun header => header.1 != name

def textMembers (pairs : List (String × String)) : Members Value :=
  pairs.map fun (name, value) => (.ofString name, .text value)

/-- A form as an object; of a repeated name the last value counts. -/
def formValue (text : String) : Value :=
  .object (Members.ofPairs (textMembers (Text.formPairs text)))

/-- The start of the content types of JSON documents. -/
def jsonType : String := "application/json"

def formType : String := "application/x-www-form-urlencoded"

/-- A JSON document as its value, and other text as it is. An integer that is too long to be
converted is an error. -/
def jsonValue (text : String) : Except IntegerFault Value :=
  match Json.read text with
  | .ok v => .ok v
  | .error (.longInteger digits) => .error (.tooLong digits)
  | .error (.malformed ..) => .ok (.text text)

/-- The body of a call, decoded as its content type says. A call without a body has null. -/
def readBody (contentType : String) (bytes : List Nat) : Except IntegerFault Value :=
  if bytes.isEmpty then .ok .null
  else
    let text := Text.decodeLossy bytes
    if jsonType.toList.isPrefixOf contentType.toList then jsonValue text
    else if formType.toList.isPrefixOf contentType.toList then .ok (formValue text)
    else .ok (.text text)

/-- What a call brings along, with the values that the parameters of its route have. -/
def HttpRequest.incoming (request : HttpRequest) (params : Members Value) :
    Except IntegerFault IncomingRequest := do
  let headers := collectHeaders request.headers
  let body ← readBody ((headers.lookup "content-type").getD "") request.body
  return {
    params
    query := collectQuery (Text.formPairs (bytewise request.query))
    headers := textMembers headers
    body }

end MockApi
