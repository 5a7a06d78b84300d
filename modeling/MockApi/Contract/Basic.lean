import MockApi.Cast
import MockApi.HeaderMap
import MockApi.Path.Basic
import MockApi.Predicate.Validation

/-!
# Contracts

A contract says which requests it answers and with which response: by default with one, and with
another one in each of some exceptional cases.

* `Contract` : its request, its default response and its cases;
* `RequestSpec`, `HttpMethod` : the request, with what is supposed where a call leaves it out;
* `ResponseSpec`, `Metadata` : a response, as templates for its headers and its data, and how the
  generated data are repeated and cast;
* `ExceptCase` : a case, which has predicates and a response.
-/

namespace MockApi

/-- The methods that a route can be served for. -/
inductive HttpMethod where
  | head
  | get
  | post
  | put
  | patch
  | delete
  deriving DecidableEq, Repr

namespace HttpMethod

def all : List HttpMethod := [.head, .get, .post, .put, .patch, .delete]

/-- The name of a method in contracts. -/
def lowerName : HttpMethod → String
  | .head => "head"
  | .get => "get"
  | .post => "post"
  | .put => "put"
  | .patch => "patch"
  | .delete => "delete"

/-- The name of a method in requests. -/
def upperName : HttpMethod → String
  | .head => "HEAD"
  | .get => "GET"
  | .post => "POST"
  | .put => "PUT"
  | .patch => "PATCH"
  | .delete => "DELETE"

def ofName? (name : String) : Option HttpMethod := all.find? fun m => m.lowerName == name

end HttpMethod

/-- A query value: one text, or one for each time the name occurs. -/
inductive QueryDefault where
  | one (text : String)
  | many (texts : List String)
  deriving DecidableEq, Repr

def QueryDefault.value : QueryDefault → Value
  | .one text => .text text
  | .many texts => .list (texts.map fun (text : String) => .text text)

/-- The body of a request: none, a text, or the members of an object. -/
inductive Payload where
  | none
  | text (s : Text)
  | object (members : Members Value)

def Payload.value : Payload → Value
  | .none => .null
  | .text s => .text s
  | .object members => .object members

/-- The request side of a contract. -/
structure RequestSpec where
  route : String
  method : HttpMethod
  query : Members QueryDefault
  payload : Payload
  headers : HeaderMap

/-- The method and the route of a request. -/
def RequestSpec.title (request : RequestSpec) : String :=
  request.method.upperName ++ " " ++ request.route

/-- How generated data are finished: repeated first, and then cast at some paths. -/
structure Metadata where
  casts : List (Path × CastKind)
  repetition : Option String

/-- A response. -/
structure ResponseSpec where
  code : Nat
  /-- Templates of the headers, whose names keep the case in which they are written. -/
  headers : Members Value
  /-- The template of the data. -/
  data : Value
  metadata : Option Metadata

/-- A case in which another response is given: when one of its predicates fails. -/
structure ExceptCase where
  name : String
  predicates : List Predicate
  response : ResponseSpec

/-- A contract. -/
structure Contract where
  request : RequestSpec
  response : ResponseSpec
  cases : List ExceptCase

end MockApi
