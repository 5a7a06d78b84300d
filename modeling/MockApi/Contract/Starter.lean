import MockApi.Contract.Rejection

/-!
# A contract to start from

* `Contract.starter` : the document of a small contract that uses most of what contracts can do.
-/

namespace MockApi.Contract

/-- A name in braces, which stands for a value of the request. -/
def hole (name : String) : String := "\x7b" ++ name ++ "\x7d"

/-- A name in double braces, which stands for a sample value. -/
def blank (name : String) : String := hole (hole name)

def starterRequest : Value :=
  .object [
    ("route", .text "/users/:username"),
    ("method", .text "get"),
    ("query", .object [("per_page", .text "10")]),
    ("headers", .object [("X-Client", .text "specmock")])]

def starterResponse : Value :=
  .object [
    ("code", .int 200),
    ("headers",
      .object [("X-Powered-By", .text "specmock"), ("X-Client-Echo", .text (hole "headers.x-client"))]),
    ("data",
      .list [
        .object [
          ("username", .text (hole "route.username")),
          ("email", .text (blank "internet.email")),
          ("id", .text (blank "random.number")),
          ("active", .text "true")]]),
    ("$data",
      .object [
        ("cast", .object [("*.id", .text "number"), ("*.active", .text "boolean")]),
        ("repeat", .text "..5")])]

def starterCase : Value :=
  .object [
    ("validate", .list [.text "route.username == lower(route.username)"]),
    ("response",
      .object [
        ("code", .int 400),
        ("data", .object [("error", .text "invalid username")])])]

/-- The document of a small contract. -/
def starter : Value :=
  .object [
    ("request", starterRequest),
    ("response", starterResponse),
    ("except", .object [("Username must be lowercase", starterCase)])]

end MockApi.Contract
