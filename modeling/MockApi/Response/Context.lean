import MockApi.Contract.Basic
import MockApi.Document.Check
import MockApi.Number.DoubleText
import MockApi.Predicate.Evaluation

/-!
# The context of a response

* `IncomingRequest`, `IncomingRequest.ofValue` : what a call brings along;
* `Context` : the call together with what its contract supposes where the call leaves something out;
* `Context.build` : the context of a call;
* `Context.value`, `Context.scope` : the context for placeholders and for predicates.
-/

namespace MockApi

/-- What a call brings along. -/
structure IncomingRequest where
  params : Members Value
  query : Members Value
  headers : Members Value
  /-- The body as decoded JSON or a decoded form, or as text; null if there is none. -/
  body : Value

def IncomingRequest.empty : IncomingRequest := ⟨[], [], [], .null⟩

def membersOfValue : Value → Checked Empty (Members Value)
  | .object members => .ok members
  | _ => Checked.complain .notObject

def IncomingRequest.ofValue (v : Value) : Checked Empty IncomingRequest := do
  let members ← Checked.record "IncomingRequest" v
  let (params, query, headers, body) ←
    Checked.both (Checked.optional members ["params"] [] membersOfValue) <|
    Checked.both (Checked.optional members ["query"] [] membersOfValue) <|
    Checked.both (Checked.optional members ["headers"] [] membersOfValue)
      (Checked.optional members ["body"] .null .ok)
  return { params, query, headers, body }

/-- What placeholders and predicates of a response may refer to. -/
structure Context where
  route : Members Value
  query : Members Value
  /-- The headers, with their names in lower case. -/
  headers : Members Value
  payload : Payload
  /-- Milliseconds since the epoch, as text. -/
  time : String

/-- The body of a call on top of the one a contract supposes: members replace members, a text
replaces everything, and what is neither leaves the default alone. -/
def Payload.merge (default : Payload) : Value → Payload
  | .object members =>
    match default with
    | .object base => .object (Members.merge base members)
    | _ => .object (Members.merge [] members)
  | .text s => .text s
  | _ => default

/-- A moment in milliseconds, rounded to an integer. -/
def millisecondsText (now : Double) : String := (now.mul (.nearest false 1000 1)).wholeText

/-- The context of a call at a moment, which is given in seconds since the epoch. The headers that the
contract supposes are made a header map once more. -/
def Context.build (request : RequestSpec) (incoming : IncomingRequest) (now : Double) :
    Except DuplicateHeader Context := do
  let supposed ← HeaderMap.ofPairs request.headers.members
  return {
    route := incoming.params
    query := Members.merge (Members.mapValues QueryDefault.value request.query) incoming.query
    headers := supposed.merged incoming.headers
    payload := request.payload.merge incoming.body
    time := millisecondsText now }

/-- The context for placeholders. -/
def Context.value (context : Context) : Value :=
  .object [
    ("route", .object context.route),
    ("query", .object context.query),
    ("headers", .object context.headers),
    ("payload", context.payload.value),
    ("time", .text context.time)]

/-- The context for predicates, which do not see the time. -/
def Context.scope (context : Context) (runtime : Predicate.Runtime) :
    Except DuplicateHeader Predicate.Scope := do
  let headers ← HeaderMap.ofPairs context.headers
  return .ofRequest runtime (.object context.route) (.object context.query) headers
    context.payload.value

end MockApi
