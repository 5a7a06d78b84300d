import MockApi.Contract.Basic
import MockApi.Predicate.Evaluation

/-!
# Which response a request gets

* `Predicate.fails` : whether a predicate fails; one that has no value fails too;
* `ExceptCase.fires` : whether some predicate of a case fails;
* `selectCase` : the first case that fires;
* `Unsupported` : what is no failure of a predicate but leaves the request without a response.
-/

namespace MockApi

open Predicate (Scope Verdict)

/-- A predicate has a part that predicates may not use. -/
structure Unsupported where
  deriving DecidableEq, Repr

/-- Whether a predicate fails; one that has no value does. -/
def Predicate.fails (scope : Scope) (p : Predicate) : Except Unsupported Bool :=
  match p.verdict scope with
  | .ok verdict => .ok (verdict == .fail)
  | .error (.fault _) => .ok true
  | .error .unsupported => .error {}

def ExceptCase.fires (scope : Scope) (c : ExceptCase) : Except Unsupported Bool :=
  c.predicates.anyM (Predicate.fails scope)

/-- The first case that fires. -/
def selectCase (scope : Scope) (cases : List ExceptCase) : Except Unsupported (Option ExceptCase) :=
  cases.findM? (ExceptCase.fires scope)

end MockApi
