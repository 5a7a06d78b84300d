import MockApi.Server.App

/-!
# Calls and replies on the wire

* `Wire.requestOf?` : the call of the lines of a request, up to its body;
* `Wire.bodyLength` : the number of bytes of the body that follows;
* `Wire.replyBytes` : a reply as it is sent.
-/

namespace MockApi.Wire

def withoutEnd (line : String) : String :=
  String.ofList (line.toList.reverse.dropWhile fun c => c = '\n' || c = '\r').reverse

/-- The method, the path and the query of the first line of a request. -/
def target? (line : String) : Option (String × String × String) :=
  match Text.split ' ' line with
  | [method, address, _] =>
    let path := address.toList.takeWhile (· ≠ '?')
    let query := (address.toList.dropWhile (· ≠ '?')).drop 1
    some (method, Text.percentDecode path, String.ofList query)
  | _ => none

def header? (line : String) : Option (String × String) :=
  match Text.splitAtFirst [':'] line.toList with
  | some (name, value) => some (String.ofList name, (Text.strip (.ofChars value)).lossy)
  | none => none

/-- The call of the lines of a request, without a body. -/
def requestOf? : List String → Option HttpRequest
  | [] => none
  | line :: lines =>
    (target? line).map fun (method, path, query) =>
      { method, path, query, headers := lines.filterMap header?, body := [] }

/-- The number of bytes of the body that a call announces. -/
def bodyLength (request : HttpRequest) : Nat :=
  match (collectHeaders request.headers).lookup lengthHeader with
  | none => 0
  | some text =>
    match readInteger text with
    | .ok n => n.toNat
    | .error _ => 0

/-- The line of a header, with one byte for each character. -/
def headerBytes (header : String × String) : List Nat :=
  (header.1 ++ ": " ++ header.2 ++ "\r\n").toList.map Char.toNat

def replyBytes (reply : Reply) : List Nat :=
  Text.encode ("HTTP/1.1 " ++ toString reply.status ++ " \r\n") ++
    reply.headers.flatMap headerBytes ++ Text.encode ("\r\n" ++ reply.body)

def failureReply : Reply :=
  { status := 500, headers := [(lengthHeader, "0")], body := "" }

end MockApi.Wire
