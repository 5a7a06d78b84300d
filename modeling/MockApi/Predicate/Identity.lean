import MockApi.Json.Value
import MockApi.Predicate.Expr
import MockApi.Predicate.Name

/-!
# Which object a datum is

Predicates can ask whether two data are one and the same object. What a request brings along are
objects that stand at places; an evaluation makes new ones, and the runtime keeps some numbers and
texts that it hands out again and again.

* `Place` : a place in what the roots stand for;
* `Identity` : which object a datum is;
* `Runtime` : which objects a runtime keeps, and which results are operands handed back;
* `Runtime.standard` : a runtime that keeps small integers and texts of one character.
-/

namespace MockApi.Predicate

/-- A place in what the roots stand for. -/
inductive Place where
  | root (r : Root)
  | item (place : Place) (i : Nat)
  | member (place : Place) (name : Text)
  deriving DecidableEq, Repr

/-- Which object a datum is. -/
inductive Identity where
  /-- A new one, which no other datum is. -/
  | own
  | kept (n : Nat)
  | placed (place : Place)
  deriving DecidableEq, Repr, Inhabited

def Identity.same (i j : Identity) : Bool := i != .own && i == j

/-- An operation whose result may be a number or a text. -/
inductive Operation where
  | unary (op : UnaryOp)
  | binary (op : BinaryOp)
  | call (helper : Helper)
  deriving DecidableEq, Repr

/-- Where the number or the text that an operation results in comes from. -/
inductive Origin where
  | new
  | kept (n : Nat)
  /-- It is the operand at a position, handed back, or the item of that operand at the end of a way. -/
  | operand (i : Nat) (way : List Nat)
  deriving DecidableEq, Repr

/-- What a runtime does with numbers and texts. These have no parts that could change, so it is free
to keep some of them and to hand an operand back. Null, true and false exist once in any runtime. -/
structure Runtime where
  /-- The object of a number or a text that a request brings along at a place, if it is one that is
  kept. -/
  given : Place → Value → Option Nat
  /-- The object of a literal, if it is one that is kept. -/
  literal : Constant → Option Nat
  /-- Where the result of an operation on operands comes from. -/
  made : Operation → List Value → Value → Origin

namespace Runtime

def identityAt (runtime : Runtime) (place : Place) (v : Value) : Identity :=
  (runtime.given place v).elim (.placed place) .kept

/-- The identity of a literal. Each literal is an object of its own, unless it is kept. -/
def literalIdentity (runtime : Runtime) (c : Constant) : Identity :=
  (runtime.literal c).elim .own .kept

/-- The object of a small integer or of a text of at most one character. -/
def smallObject? : Value → Option Nat
  | .int n => if -5 ≤ n ∧ n ≤ 256 then some (n + 5).toNat else none
  | .text [] => some 262
  | .text [c] => if c.toNat < 256 then some (263 + c.toNat) else none
  | _ => none

/-- The way to the text of a list of one, which may be a list of one itself. -/
def onlyText? : Value → Option (List Nat)
  | .text _ => some []
  | .list [v] => (onlyText? v).map (0 :: ·)
  | _ => none

/-- Where results come from. A text that is trimmed of nothing or put together with nothing is handed
back, and so is the text of a list of one that is written; the other functions make even a text of one
character anew. -/
def standardOrigin (op : Operation) (operands : List Value) (result : Value) : Origin :=
  let made : Origin := (smallObject? result).elim .new .kept
  match op, operands, result with
  | .call .trim, [.text s], .text t => if t = s then .operand 0 [] else made
  | .binary .add, [.text _, .text []], _ => .operand 0 []
  | .binary .add, [.text [], .text _], _ => .operand 1 []
  | .call .string, [v], .text (_ :: _) => (onlyText? v).elim .new (.operand 0)
  | .call _, _, .text (_ :: _) => .new
  | _, _, _ => made

/-- A runtime that keeps the integers from -5 to 256, the texts of at most one character below 256,
and the numbers that documents have words for. -/
def standard : Runtime where
  given
    | _, .float (.infinite negative) => some (if negative then 519 else 520)
    | _, .float .nan => some 521
    | _, v => smallObject? v
  literal
    | .int n => smallObject? (.int n)
    | .text s => smallObject? (.text s)
    | _ => none
  made := standardOrigin

end Runtime

end MockApi.Predicate
