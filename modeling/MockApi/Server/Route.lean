import MockApi.Text.CharRange

/-!
# Routes

* `mountPath` : the path that a route is served at, with its parameters in braces;
* `RoutePattern`, `RoutePattern.ofPath` : a path cut into characters and parameters;
* `RoutePattern.match?` : the values of the parameters in a path;
* `DuplicateParams` : why a path cannot be served.
-/

namespace MockApi

def isParamStart (c : Char) : Bool := c.isAlpha || c = '_'

def isParamChar (c : Char) : Bool := c.isAlphanum || c = '_'

/-- The name of a parameter at the start of the characters, which is empty if there is none. -/
def paramName (text : List Char) : List Char :=
  match text with
  | c :: _ => if isParamStart c then text.takeWhile isParamChar else []
  | [] => []

/-- Puts the names behind colons in braces; the first `skip` characters belong to a name already
passed. -/
def bracedFrom : (skip : Nat) → List Char → List Char
  | _, [] => []
  | skip + 1, _ :: rest => bracedFrom skip rest
  | 0, c :: rest =>
    let name := if c = ':' then paramName rest else []
    if name.isEmpty then c :: bracedFrom 0 rest
    else '{' :: name ++ '}' :: bracedFrom name.length rest

/-- The path that a route is served at: it starts with a slash, and its parameters are in braces. -/
def mountPath (route : String) : String :=
  let chars := route.toList
  String.ofList (bracedFrom 0 (if chars.head? = some '/' then chars else '/' :: chars))

/-! ## Patterns -/

/-- A part of a path. -/
inductive RoutePiece where
  | literal (c : Char)
  | param (name : List Char)
  deriving DecidableEq, Repr

/-- A path cut into characters and parameters. -/
abbrev RoutePattern := List RoutePiece

namespace RoutePattern

/-- The name of the parameter in braces that starts here, which is empty if none does. -/
def paramAt (text : List Char) : List Char :=
  match text with
  | '{' :: rest =>
    let name := paramName rest
    if (rest.drop name.length).head? = some '}' then name else []
  | _ => []

/-- Cuts a path, of which the first `skip` characters belong to a parameter already cut. -/
def cutFrom : (skip : Nat) → List Char → RoutePattern
  | _, [] => []
  | skip + 1, _ :: rest => cutFrom skip rest
  | 0, c :: rest =>
    let name := paramAt (c :: rest)
    if name.isEmpty then .literal c :: cutFrom 0 rest
    else .param name :: cutFrom (name.length + 1) rest

def ofPath (path : String) : RoutePattern := cutFrom 0 path.toList

def params (pattern : RoutePattern) : List String :=
  pattern.filterMap fun piece =>
    match piece with
    | .literal _ => none
    | .param name => some (String.ofList name)

/-- Tries a continuation behind the first characters of a text, of which there are at most `most`;
as many as possible are taken. -/
def longest {α : Type} (next : List Char → Option α) (text : List Char) :
    (most : Nat) → Option (List Char × α)
  | 0 => none
  | n + 1 =>
    match next (text.drop (n + 1)) with
    | some a => some (text.take (n + 1), a)
    | none => longest next text n

/-- The values of the parameters of a pattern in the characters of a path. A value is not empty and
has no slash, and earlier parameters are as long as possible. A line feed may end the path. -/
def matchChars? : RoutePattern → List Char → Option (List (String × String))
  | [], text => if text = [] ∨ text = ['\n'] then some [] else none
  | .literal c :: pieces, text =>
    match text with
    | [] => none
    | d :: rest => if c = d then matchChars? pieces rest else none
  | .param name :: pieces, text =>
    (longest (matchChars? pieces) text (text.takeWhile (· ≠ '/')).length).map fun (value, values) =>
      (String.ofList name, String.ofList value) :: values

def match? (pattern : RoutePattern) (path : String) : Option (List (String × String)) :=
  pattern.matchChars? path.toList

end RoutePattern

/-! ## Repeated parameters -/

/-- A path that cannot be served, because parameters of the same name occur in it. -/
structure DuplicateParams where
  path : String
  /-- The names that occur more than once. -/
  names : List String
  deriving DecidableEq, Repr

def DuplicateParams.message (e : DuplicateParams) : String :=
  "Duplicated param name" ++ (if e.names.length = 1 then "" else "s") ++ " " ++
    Text.joinWith ", " e.names ++ " at path " ++ e.path

/-- Puts a name in its place among others, unless it is there. -/
def insertName (name : String) : List String → List String
  | [] => [name]
  | other :: rest =>
    if name = other then other :: rest
    else if name < other then name :: other :: rest
    else other :: insertName name rest

/-- The names that occur more than once, in order and each once. -/
def repeatedNames : List String → List String
  | [] => []
  | name :: rest =>
    if rest.contains name then insertName name (repeatedNames rest) else repeatedNames rest

/-- The pattern of a path, unless parameters of the same name occur in it. -/
def RoutePattern.compile (path : String) : Except DuplicateParams RoutePattern :=
  let pattern := ofPath path
  match repeatedNames pattern.params with
  | [] => .ok pattern
  | names => .error ⟨path, names⟩

end MockApi
