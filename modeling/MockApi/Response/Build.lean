import MockApi.Override
import MockApi.Response.Context
import MockApi.Response.Finish
import MockApi.Template.Content
import MockApi.Template.Filler
import MockApi.Template.Placeholder

/-!
# Building a response

* `Generation` : a computation that fills texts and picks numbers;
* `GeneratedResponse` : a response;
* `Contract.respond` : the response of a contract to a call.

Nothing of one call is kept for the next but the state of the filler and of chance.
-/

namespace MockApi

/-- What changes while responses are generated. -/
structure Session (σ : Type) where
  filler : σ
  chance : Chance

/-- A computation that fills texts and picks numbers. -/
abbrev Generation (σ ε : Type) := ExceptT (GenerationError ε) (StateM (Session σ))

/-- A response. -/
structure GeneratedResponse where
  code : Nat
  headers : List (String × String)
  content : Value
  /-- The name of the case that fired. -/
  flow : Option String

variable {σ ε : Type}

/-- A result as a computation that changes nothing. -/
def settle {α β : Type} (error : α → GenerationError ε) (result : Except α β) : Generation σ ε β :=
  fun s => (result.mapError error, s)

/-- A text with its sample values filled in. -/
def fillText (filler : Filler σ ε) (text : Text) : Generation σ ε Text :=
  fun s =>
    let (result, state) := (filler text).run s.filler
    (result.mapError .filler, { s with filler := state })

/-- A leaf of a template: it is rendered, its sample values are filled in, and then its
placeholders. -/
def expandLeaf (filler : Filler σ ε) (context : Value) (lowered : Bool) (leaf : Value) :
    Generation σ ε Text := do
  let text ← settle .integer leaf.render
  let text ← fillText filler text
  settle .integer (Placeholder.interpret context lowered text)

def headerText : Value → Text
  | .null => []
  | v => v.plain

def renderHeaders (filler : Filler σ ε) (response : ResponseSpec) (context : Value) :
    Generation σ ε (Members Text) := do
  let members ← Template.fillMembers (expandLeaf filler context true) response.headers
  return Members.mapValues headerText members

/-- The name of the header that tells which case fired. -/
def assertionHeader : String := "X-Assertion"

/-- Headers with the name of a case among them, in place of any other header of that name. -/
def withAssertion (name : String) (headers : Members Text) : Members Text :=
  Members.put
    (headers.filter fun (key, _) => Text.lower key != Text.lower assertionHeader)
    assertionHeader name

/-- Headers as strings, unless half a pair stands alone in one of them. -/
def wholeHeaders (headers : Members Text) : Checked Empty (List (String × String)) :=
  Checked.within "headers" <|
    Checked.each
      (fun (name, text) =>
        Checked.within name (Checked.both (Checked.wholeText name) (Checked.wholeText text)))
      headers

def finishData (response : ResponseSpec) (data : Value) : Generation σ ε Value :=
  match response.metadata with
  | none => return data
  | some m => fun s =>
    match m.finish data s.chance with
    | .ok (data, chance) => (.ok data, { s with chance })
    | .error e => (.error e, s)

def renderContent (filler : Filler σ ε) (response : ResponseSpec) (context : Value) :
    Generation σ ε Value := do
  let data ← Template.fill (expandLeaf filler context false) response.data
  finishData response data

/-- The response of a contract to a call at a moment, in seconds since the epoch. -/
def Contract.respond (contract : Contract) (runtime : Predicate.Runtime) (filler : Filler σ ε)
    (incoming : IncomingRequest) (now : Double) : Generation σ ε GeneratedResponse := do
  let context ← settle .duplicateHeader (Context.build contract.request incoming now)
  let scope ← settle .duplicateHeader (context.scope runtime)
  let case? ← settle (fun _ => .unsupported) (selectCase scope contract.cases)
  let response := (case?.map ExceptCase.response).getD contract.response
  let headers ← renderHeaders filler response context.value
  let headers := case?.elim headers fun c => withAssertion c.name headers
  let content ← renderContent filler response context.value
  let headers ← settle .headers (wholeHeaders headers)
  return { code := response.code, headers, content, flow := case?.map ExceptCase.name }

end MockApi
