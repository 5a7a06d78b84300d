import MockApi.Json.Printer
import MockApi.Text.Casing
import MockApi.Text.Utf8

/-!
# Replies

* `Reply` : what is sent back for a call;
* `Reply.json` : a reply with a JSON body;
* `ReplyError` : why there is no such reply.

Names and values of headers are sent with one byte for each character, so they are limited to the
first 256 characters of Unicode.
-/

namespace MockApi

/-- What is sent back for a call. -/
structure Reply where
  status : Nat
  /-- The headers in the order in which they are sent, with names in lower case. -/
  headers : List (String × String)
  body : String
  deriving DecidableEq, Repr

/-- Why a reply cannot be sent. -/
inductive ReplyError where
  /-- A header has a character that no byte stands for. -/
  | headerText
  /-- The data have a double that no JSON numeral stands for. -/
  | notFinite
  /-- Half a pair stands alone in the data. -/
  | brokenText
  deriving DecidableEq, Repr

/-- Whether each character of a text is sent as one byte. -/
def isBytewise (text : String) : Bool := text.toList.all fun c => c.toNat < 0x100

mutual

def Value.isFinite : Value → Bool
  | .float x => x.isFinite
  | .list items => Value.allFinite items
  | .object members => Value.membersFinite members
  | _ => true

def Value.allFinite : List Value → Bool
  | [] => true
  | v :: rest => v.isFinite && Value.allFinite rest

def Value.membersFinite : List (Text × Value) → Bool
  | [] => true
  | (_, v) :: rest => v.isFinite && Value.membersFinite rest

end

/-- Whether the length of the body is told for a status. -/
def hasLength (status : Nat) : Bool := !(status < 200 || status == 204 || status == 304)

def lengthHeader : String := "content-length"

def typeHeader : String := "content-type"

/-- Headers with another one behind them, unless one of that name is there. -/
def withHeader (name value : String) (headers : List (String × String)) : List (String × String) :=
  if (headers.map Prod.fst).contains name then headers else headers ++ [(name, value)]

def lengthText (text : String) : String := toString (Text.encode text).length

/-- The headers of a reply with a JSON body: the given ones with their names in lower case, the length
if it is told, and the type. -/
def jsonHeaders (status : Nat) (given : List (String × String)) (body : String) :
    List (String × String) :=
  let folded := given.map fun (name, value) => (Text.lowerString name, value)
  let measured := if hasLength status then withHeader lengthHeader (lengthText body) folded else folded
  withHeader typeHeader "application/json" measured

def Reply.json (status : Nat) (headers : List (String × String)) (content : Value) :
    Except ReplyError Reply :=
  if !content.isFinite then .error .notFinite
  else
    match content.compact.string? with
    | none => .error .brokenText
    | some body =>
      let headers := jsonHeaders status headers body
      if headers.all fun (name, value) => isBytewise name && isBytewise value then
        .ok { status, headers, body }
      else .error .headerText

/-- A reply that tells in a few words why there is no other one. -/
def Reply.detail (status : Nat) (headers : List (String × String)) (reason : String) : Reply :=
  let body := (Value.object [("detail", .text reason)]).compact.lossy
  { status, headers := jsonHeaders status headers body, body }

/-- A reply that tells that there is something at another address. -/
def Reply.redirect (address : String) : Reply :=
  { status := 307, headers := [(lengthHeader, "0"), ("location", address)], body := "" }

end MockApi
