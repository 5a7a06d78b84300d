import MockApi.Contract.Rule
import MockApi.Path.Read

/-!
# From documents to contracts

* `Contract.ofValue` : the contract that a document denotes, or its problems;
* `ExceptCase.ofValue`, `ResponseSpec.ofValue`, `Metadata.ofValue`, `RequestSpec.ofValue` : its
  parts.

What holds of a response as a whole is checked only when its members are all right.
-/

namespace MockApi

open Contract (Rule)

/-- What a part of a contract denotes, or its problems. -/
abbrev Judged (α : Type) := Checked Rule α

/-! ## Requests -/

/-- A route, which is not blank. -/
def routeOfValue : Value → Judged String
  | .text s => if Text.isAllBlank s then Checked.breaks .blankRoute else Checked.wholeText s
  | _ => Checked.breaks .blankRoute

/-- A method, whose name may be written in any case. -/
def HttpMethod.ofValue (v : Value) : Judged HttpMethod :=
  match v with
  | .text s =>
    match HttpMethod.ofName? (Text.lower s).lossy with
    | some m => .ok m
    | none => Checked.breaks (.unknownMethod s.lossy)
  | v => Checked.breaks (.unknownMethod v.plain.lossy)

/-- The items of a list, each of which is a text; problems are placed under their positions. -/
def textsFrom : (position : Nat) → List Value → Judged (List String)
  | _, [] => .ok []
  | i, v :: rest =>
    (Checked.both (Checked.within (toString i) (Checked.text v)) (textsFrom (i + 1) rest)).map
      fun (s, ss) => s :: ss

def textsOfValue : Value → Judged (List String)
  | .list items => textsFrom 0 items
  | _ => Checked.complain .notList

/-- A query value. What is neither a text nor a list of texts breaks both of the two forms. -/
def QueryDefault.ofValue (v : Value) : Judged QueryDefault :=
  match Checked.text v, textsOfValue v with
  | .ok s, _ => .ok (.one s)
  | _, .ok ss => .ok (.many ss)
  | asOne, asMany =>
    (Checked.both (Checked.within "str" asOne) (Checked.within "list[str]" asMany)).map
      fun (s, _) => .one s

def queryOfValue : Value → Judged (Members QueryDefault)
  | .null => .ok []
  | .object members =>
    Checked.each (fun (name, v) => Checked.entry name (QueryDefault.ofValue v)) members
  | v => Checked.breaks (.queryKind v.kindName)

/-- The body of a request. What is neither an object nor a text breaks both of the two forms. -/
def Payload.ofValue : Value → Judged Payload
  | .null => .ok .none
  | .text s =>
    match Checked.wholeText s with
    | .ok _ => .ok (.text s)
    | broken =>
      (Checked.both (Checked.within "dict[str,any]" (Checked.complain .notObject))
        (Checked.within "str" broken)).map fun (p, _) => p
  | .object members =>
    match Checked.entries members with
    | .ok members => .ok (.object members)
    | broken =>
      (Checked.both (Checked.within "dict[str,any]" broken)
        (Checked.within "str" (Checked.complain .notText))).map fun (_, p) => p
  | _ => Checked.breaks .payloadKind

/-- Headers, no two names of which differ only in case. -/
def foldedHeaders : Value → Judged HeaderMap
  | .null => .ok .empty
  | .object members => Checked.ofExcept .duplicateHeader (HeaderMap.ofPairs members)
  | v => Checked.breaks (.headersKind v.kindName)

/-- The headers of a request, whose names are strings. -/
def headersOfValue (v : Value) : Judged HeaderMap := do
  let headers ← foldedHeaders v
  let _ ← Checked.entries headers.members
  return headers

def RequestSpec.ofValue (v : Value) : Judged RequestSpec := do
  let members ← Checked.record "RequestSpec" v
  let (route, method, query, payload, headers) ←
    Checked.both (Checked.required members ["route"] routeOfValue) <|
    Checked.both (Checked.required members ["method"] HttpMethod.ofValue) <|
    Checked.both (Checked.optional members ["query"] [] queryOfValue) <|
    Checked.both (Checked.optional members ["payload"] .none Payload.ofValue)
      (Checked.optional members ["headers"] .empty headersOfValue)
  return { route, method, query, payload, headers }

/-! ## Responses -/

def minCode : Int := 100

def maxCode : Int := 599

/-- A status code, as a number or as a text. -/
def codeOfValue (v : Value) : Judged Nat :=
  let unreadable : Judged Nat := Checked.breaks (.unreadableCode v.plain.lossy)
  match v with
  | .bool _ => unreadable
  | v =>
    match readInteger v.plain with
    | .error _ => unreadable
    | .ok n => if n < minCode ∨ maxCode < n then Checked.breaks (.unsupportedCode n) else .ok n.toNat

/-- Templates of headers: no two names differ only in case, and no value is a container. -/
def headerTemplatesOfValue (v : Value) : Judged (Members Value) := do
  let _ ← foldedHeaders v
  let members := v.membersOf
  match members.find? fun (_, v) => v.isContainer with
  | some (name, _) => Checked.breaks (.compositeHeader name)
  | none => Checked.entries members

def pathOfText (text : Text) : Judged Path :=
  match Path.parse? text with
  | some path => .ok path
  | none => Checked.breaks (.castPath text)

def CastKind.ofValue (v : Value) : Judged CastKind :=
  match v with
  | .text s =>
    match CastKind.ofName? s.lossy with
    | some kind => .ok kind
    | none => Checked.breaks .unknownCast
  | _ => Checked.breaks .unknownCast

/-- The casts of a response. The kinds are looked at when all paths are all right. -/
def castsOfValue : Value → Judged (List (Path × CastKind))
  | .null => .ok []
  | .object members => do
    let paths ← members.mapM fun (text, v) => (pathOfText text).map fun path => (text, path, v)
    Checked.each
      (fun (text, path, v) =>
        (Checked.entry text (CastKind.ofValue v)).map fun (_, kind) => (path, kind))
      paths
  | _ => Checked.breaks .castsKind

def repetitionOfValue : Value → Judged (Option String)
  | .null => .ok none
  | .text s => (Checked.wholeText s).map some
  | _ => Checked.breaks .repetitionKind

def Metadata.ofValue (v : Value) : Judged Metadata := do
  let members ← Checked.record "ResponseMetadata" v
  let (casts, repetition) ←
    Checked.both (Checked.optional members ["cast"] [] castsOfValue)
      (Checked.optional members ["repeat"] none repetitionOfValue)
  return { casts, repetition }

/-- Metadata that may be left out. -/
def metadataOfValue : Value → Judged (Option Metadata)
  | .null => .ok none
  | v => (Metadata.ofValue v).map some

/-- Whether a formula can be applied to data. -/
def checkRepetition (data : Value) (formula : String) : Judged Unit :=
  match data with
  | .list items => (Checked.ofExcept .repetition (Repeat.parse formula items.length)).map fun _ => ()
  | _ => Checked.breaks .repeatsNoList

/-- Whether the paths of casts lead to something in data. -/
def checkCasts (data : Value) : List (Path × CastKind) → Judged Unit
  | [] => .ok ()
  | (path, _) :: rest => do
    let found ← Checked.ofExcept .castIndex (path.resolves data)
    if found then checkCasts data rest else Checked.breaks (.castsNothing path.text.lossy)

/-- Whether metadata fit the data: first the formula, then the casts. -/
def checkMetadata (data : Value) (metadata : Metadata) : Judged Unit := do
  match metadata.repetition with
  | some formula => checkRepetition data formula
  | none => .ok ()
  if metadata.casts.isEmpty then return ()
  else if data.isContainer then checkCasts data metadata.casts
  else Checked.breaks .castsNoContainer

def ResponseSpec.ofValue (v : Value) : Judged ResponseSpec := do
  let members ← Checked.record "ResponseSpec" v
  let (code, headers, data, metadata) ←
    Checked.both (Checked.required members ["code"] codeOfValue) <|
    Checked.both (Checked.optional members ["headers"] [] headerTemplatesOfValue) <|
    Checked.both (Checked.optional members ["data"] .null .ok)
      (Checked.optional members ["$data", "meta"] none metadataOfValue)
  match metadata with
  | some m => checkMetadata data m
  | none => .ok ()
  return { code, headers, data, metadata }

/-! ## Cases -/

/-- The predicates of a case from a position on; the first that is none is a problem. -/
def predicatesFrom : (position : Nat) → List Value → Judged (List Predicate)
  | _, [] => .ok []
  | i, .text source :: rest => do
    let p ← Checked.ofExcept .predicate (Predicate.ofSource source)
    let ps ← predicatesFrom (i + 1) rest
    return p :: ps
  | i, v :: _ => Checked.breaks (.predicateKind i v.kindName)

/-- The predicates of a case, at least one. -/
def predicatesOfValue : Value → Judged (List Predicate)
  | .list [] => Checked.complain .noItem
  | .list items => predicatesFrom 0 items
  | v => Checked.breaks (.predicatesKind v.kindName)

def ExceptCase.ofValue (v : Value) : Judged ExceptCase := do
  let members ← Checked.record "ExceptCase" v
  let (name, predicates, response) ←
    Checked.both (Checked.required members ["name"] Checked.text) <|
    Checked.both (Checked.required members ["validate", "predicates"] predicatesOfValue)
      (Checked.required members ["response"] ResponseSpec.ofValue)
  return { name, predicates, response }

/-- The document of a case together with the name under which it stands. -/
def namedCase (name : Text) : Value → Value
  | .object members => .object (Members.put members "name" (.text name))
  | v => v

/-- The cases of a contract from a position on. A problem is placed under the name of its case, or
with `byName` not set under its position. -/
def casesFrom (byName : Bool) : (position : Nat) → Members Value → Judged (List ExceptCase)
  | _, [] => .ok []
  | i, (name, v) :: rest =>
    (Checked.both
      (Checked.within (if byName then name else .ofString (toString i))
        (ExceptCase.ofValue (namedCase name v)))
      (casesFrom byName (i + 1) rest)).map fun (c, cs) => c :: cs

def casesOfValue (byName : Bool) : Value → Judged (List ExceptCase)
  | .null => .ok []
  | .object members => casesFrom byName 0 members
  | _ => Checked.breaks .casesKind

def casesName : String := "except"

/-- The cases of a contract, under one of their two names; only the first one names its cases. -/
def casesOfMembers (members : Members Value) : Judged (List ExceptCase) :=
  Checked.optional members [casesName, "except_cases"] []
    (casesOfValue (Members.has members casesName))

/-- The contract that the members of a document denote. -/
def Contract.ofMembers (members : Members Value) : Judged Contract := do
  let (request, response, cases) ←
    Checked.both (Checked.required members ["request"] RequestSpec.ofValue) <|
    Checked.both (Checked.required members ["response"] ResponseSpec.ofValue)
      (casesOfMembers members)
  return { request, response, cases }

end MockApi
