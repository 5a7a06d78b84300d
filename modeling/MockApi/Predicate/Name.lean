/-!
# Names in predicates

* `Root` : the parts of a request that a predicate can name;
* `Helper` : the functions it can call.
-/

namespace MockApi.Predicate

/-- The parts of a request that a predicate can name. -/
inductive Root where
  | route
  | query
  | headers
  | payload
  deriving DecidableEq, Repr

def Root.ofName? : String → Option Root
  | "route" => some .route
  | "query" => some .query
  | "headers" => some .headers
  | "payload" => some .payload
  | _ => none

/-- The functions that a predicate can call. -/
inductive Helper where
  | size
  | lower
  | upper
  | trim
  | number
  | string
  | present
  | startsWith
  | endsWith
  | decodeBase64
  deriving DecidableEq, Repr

def Helper.ofName? : String → Option Helper
  | "size" => some .size
  | "len" => some .size
  | "lower" => some .lower
  | "upper" => some .upper
  | "trim" => some .trim
  | "number" => some .number
  | "string" => some .string
  | "exists" => some .present
  | "startswith" => some .startsWith
  | "endswith" => some .endsWith
  | "b64decode" => some .decodeBase64
  | _ => none

end MockApi.Predicate
