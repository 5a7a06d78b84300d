import MockApi.Catalog
import MockApi.Response.Build
import MockApi.Server.Incoming
import MockApi.Server.Reply
import MockApi.Server.Route

/-!
# The server

* `Server.ofCatalog` : a server of the contracts of a catalog;
* `Server.dispatch` : what a call leads to;
* `Server.handle` : the reply to a call.

Contracts are mounted in the order of the catalog, and the first one that fits a call answers it. The
check of the server's health comes last.
-/

namespace MockApi

/-- What answers the calls of a mount. -/
inductive Endpoint where
  | contract (c : Contract)
  /-- The check of the server's health. -/
  | health

/-- A path with what answers the calls of a method to it. -/
structure Mount where
  pattern : RoutePattern
  /-- The method, as calls name it. -/
  method : String
  endpoint : Endpoint

/-- A server. -/
structure Server where
  catalog : Catalog
  mounts : List Mount

/-- Why a call is not answered. -/
inductive ServeError (ε : Type) where
  | body (fault : IntegerFault)
  | generation (error : GenerationError ε)
  | reply (error : ReplyError)

def notFiniteMessage : String := "Out of range float values are not JSON compliant"

def Contract.mount (contract : Contract) : Except DuplicateParams Mount :=
  (RoutePattern.compile (mountPath contract.request.route)).map fun pattern =>
    { pattern, method := contract.request.method.upperName, endpoint := .contract contract }

def healthPath : String := "/health"

def healthMount : Mount :=
  { pattern := RoutePattern.ofPath healthPath, method := "GET", endpoint := .health }

namespace Server

def ofCatalog (catalog : Catalog) : Except DuplicateParams Server := do
  let mounts ← catalog.loaded.mapM fun entry => entry.contract.mount
  return { catalog, mounts := mounts ++ [healthMount] }

def contractCount (server : Server) : Nat := server.catalog.loaded.length

/-! ## Finding the endpoint -/

/-- What a call leads to. -/
inductive Target where
  /-- An endpoint, with the values of the parameters of its path. -/
  | endpoint (endpoint : Endpoint) (params : List (String × String))
  /-- A path that is served for another method. -/
  | otherMethod (allowed : String)
  /-- A path that differs from one that is served by slashes at its end. -/
  | elsewhere (path : String)
  | nothing

/-- The first mount for the path and the method of a call. -/
def fit? (request : HttpRequest) (mounts : List Mount) : Option Target :=
  mounts.findSome? fun mount =>
    match mount.pattern.match? request.path with
    | some params =>
      if mount.method = request.method then some (.endpoint mount.endpoint params) else none
    | none => none

/-- The first mount for the path of a call. -/
def otherMethod? (path : String) (mounts : List Mount) : Option Target :=
  (mounts.find? fun mount => (mount.pattern.match? path).isSome).map fun mount =>
    .otherMethod mount.method

/-- The path with one slash more at its end, or without those that it has. -/
def turnedPath (path : String) : String :=
  if path.toList.getLast? = some '/' then
    String.ofList (path.toList.reverse.dropWhile (· = '/')).reverse
  else path ++ "/"

/-- A path that differs by slashes at its end and is served, if there is one. -/
def elsewhere? (path : String) (mounts : List Mount) : Option Target :=
  if path = "/" then none
  else if mounts.any fun mount => (mount.pattern.match? (turnedPath path)).isSome then
    some (.elsewhere (turnedPath path))
  else none

/-- What a call leads to. -/
def dispatch (server : Server) (request : HttpRequest) : Target :=
  ((fit? request server.mounts).or
    ((otherMethod? request.path server.mounts).or (elsewhere? request.path server.mounts))).getD
    .nothing

/-! ## Replies -/

/-- The characters of addresses that are sent as they are, besides the unreserved ones. -/
def addressMarks : List Char := ":/%#?=@[]!$&'()*+,;".toList

/-- The host that a call names, or the one that is supposed. -/
def hostOf (request : HttpRequest) : String :=
  ((collectHeaders request.headers).lookup "host").getD "test"

/-- The address of another path on the server, with the query of the call. -/
def addressOf (request : HttpRequest) (path : String) : String :=
  let query := if request.query.isEmpty then "" else "?" ++ request.query
  Text.percentEncode addressMarks ("http://" ++ hostOf request ++ path ++ query)

def healthContent (server : Server) : Value :=
  .object [("status", .text "ok"), ("contracts", .int server.contractCount)]

variable {σ ε : Type}

def respond (contract : Contract) (runtime : Predicate.Runtime) (filler : Filler σ ε)
    (request : HttpRequest) (params : List (String × String)) (now : Double) :
    ExceptT (ServeError ε) (StateM (Session σ)) Reply := do
  match request.incoming (textMembers params) with
  | .error fault => throw (.body fault)
  | .ok incoming =>
    let response ← ExceptT.adapt .generation (contract.respond runtime filler incoming now)
    match Reply.json response.code response.headers response.content with
    | .ok reply => return reply
    | .error e => throw (.reply e)

/-- The reply to a call at a moment, which is given in seconds since the epoch. -/
def handle (server : Server) (runtime : Predicate.Runtime) (filler : Filler σ ε)
    (request : HttpRequest) (now : Double) : ExceptT (ServeError ε) (StateM (Session σ)) Reply :=
  match server.dispatch request with
  | .endpoint (.contract contract) params => respond contract runtime filler request params now
  | .endpoint .health _ =>
    match Reply.json 200 [] server.healthContent with
    | .ok reply => return reply
    | .error e => throw (.reply e)
  | .otherMethod allowed => return .detail 405 [("allow", allowed)] "Method Not Allowed"
  | .elsewhere path => return .redirect (addressOf request path)
  | .nothing => return .detail 404 [] "Not Found"

end Server

end MockApi
