import MockApi.Predicate.Function
import MockApi.Predicate.Validation

/-!
# Evaluating predicates

* `Scope` : what the roots stand for, and the runtime;
* `eval` : the datum that an expression stands for;
* `Predicate.evaluate`, `Predicate.verdict` : the value of a predicate and what it means;
* `Verdict` : a predicate abstains with null, passes with true, and else fails.
-/

namespace MockApi

namespace Predicate

/-- What the roots stand for, in a runtime. -/
structure Scope where
  runtime : Runtime
  route : Datum
  query : Datum
  headers : Datum
  payload : Datum

/-- The scope of a request, each part of which is an object of its own. -/
def Scope.ofRequest (runtime : Runtime) (route query : Value) (headers : HeaderMap)
    (payload : Value) : Scope where
  runtime := runtime
  route := .ofValue runtime (.root .route) route
  query := .ofValue runtime (.root .query) query
  headers := .ofHeaders runtime (.root .headers) headers
  payload := .ofValue runtime (.root .payload) payload

def Scope.ofRoot (scope : Scope) : Root → Datum
  | .route => scope.route
  | .query => scope.query
  | .headers => scope.headers
  | .payload => scope.payload

/-- The datum of a name, which is null unless it names a root. -/
def Scope.get (scope : Scope) (name : String) : Datum :=
  match Root.ofName? name with
  | some root => scope.ofRoot root
  | none => .null

/-- The datum that a path leads to, whose first segment is a root; it is the first one on the way
that has no parts. -/
def Scope.follow (scope : Scope) (root : String) (names : List String) :
    Except IntegerFault Datum :=
  let d := scope.get root
  if d.isContainer then d.follow (names.map .ofString) else .ok d

/-- Why an expression has no datum. -/
inductive EvalError where
  | fault (fault : Fault)
  /-- The expression has a part that predicates may not use. -/
  | unsupported
  deriving DecidableEq, Repr

/-- The name and the attributes of a chain of attributes that starts with a name. -/
def Expr.dotted? : Expr → Option (String × List String)
  | .name id => some (id, [])
  | .attribute base attr => base.dotted?.map fun (root, names) => (root, names ++ [attr])
  | _ => none

def Constant.datum? (runtime : Runtime) : Constant → Option Datum
  | .null => some .null
  | .bool b => some (.bool b)
  | .int n => some (.int n (runtime.literalIdentity (.int n)))
  | .float x => some (.float x (runtime.literalIdentity (.float x)))
  | .text s => some (.text s (runtime.literalIdentity (.text s)))
  | .foreign _ => none

/-- A result as part of an evaluation; nothing is supported that has none. -/
def lift {α : Type} : Option (Except Fault α) → Except EvalError α
  | none => .error .unsupported
  | some (.error fault) => .error (.fault fault)
  | some (.ok a) => .ok a

def Expr.helper? : Expr → Option Helper
  | .name id => Helper.ofName? id
  | _ => none

/-- Whether a connective needs to look at no more operands behind one. -/
def Connective.decides (op : Connective) (d : Datum) : Bool :=
  match op with
  | .and => !d.isTrue
  | .or => d.isTrue

mutual

/-- The datum that an expression stands for. -/
def eval (scope : Scope) : Expr → Except EvalError Datum
  | .constant c => lift ((c.datum? scope.runtime).map .ok)
  | .name id => .ok (scope.get id)
  | .attribute base name =>
    match base.dotted? with
    | some (root, names) =>
      lift (some ((scope.follow root (names ++ [name])).mapError fun _ => .value))
    | none => do
      let d ← eval scope base
      return d.member (.ofString name)
  | .subscript base key => do
    let d ← eval scope base
    let k ← eval scope key
    return d.lookup k
  | .list items => do
    let ds ← evalAll scope items
    return .list ds .own
  | .tuple items => do
    let ds ← evalAll scope items
    return .list ds .own
  | .logic op operands => evalLogic scope op .null operands
  | .unary op operand => do
    let d ← eval scope operand
    let result ← lift (op.compute? d)
    return scope.runtime.finish (.unary op) [d] result
  | .binary op left right => do
    let a ← eval scope left
    let b ← eval scope right
    let result ← lift (op.compute? a b)
    return scope.runtime.finish (.binary op) [a, b] result
  | .compare first rest => do
    let a ← eval scope first
    evalChain scope a rest
  | .choice test yes no => do
    let d ← eval scope test
    if d.isTrue then eval scope yes else eval scope no
  | .call function arguments _ =>
    match function.helper? with
    | none => .error .unsupported
    | some helper => do
      let ds ← evalAll scope arguments
      let result ← lift (some (helper.apply ds))
      return scope.runtime.finish (.call helper) ds result
  | .starred _ => .error .unsupported
  | .foreign _ => .error .unsupported

def evalAll (scope : Scope) : List Expr → Except EvalError (List Datum)
  | [] => .ok []
  | e :: rest => do
    let d ← eval scope e
    let ds ← evalAll scope rest
    return d :: ds

/-- The first operand that decides a connective, or else the last one; `last` is the one before. -/
def evalLogic (scope : Scope) (op : Connective) (last : Datum) :
    List Expr → Except EvalError Datum
  | [] => .ok last
  | e :: rest => do
    let d ← eval scope e
    if op.decides d then return d else evalLogic scope op d rest

/-- Whether each comparison of a chain holds; the first that does not ends it. -/
def evalChain (scope : Scope) (left : Datum) :
    List (Relation × Expr) → Except EvalError Datum
  | [] => .ok (.bool true)
  | (r, e) :: rest => do
    let right ← eval scope e
    let holds ← lift (some (r.holds left right))
    if holds then evalChain scope right rest else return .bool false

end

/-- What the value of a predicate means. -/
inductive Verdict where
  | abstain
  | pass
  | fail
  deriving DecidableEq, Repr

def Verdict.ofDatum : Datum → Verdict
  | .null => .abstain
  | .bool true => .pass
  | _ => .fail

def Verdict.name : Verdict → String
  | .abstain => "abstain"
  | .pass => "pass"
  | .fail => "fail"

def evaluate (p : Predicate) (scope : Scope) : Except EvalError Datum := eval scope p.expr

def verdict (p : Predicate) (scope : Scope) : Except EvalError Verdict :=
  (p.evaluate scope).map .ofDatum

end Predicate

end MockApi
