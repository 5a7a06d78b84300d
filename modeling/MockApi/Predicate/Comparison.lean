import MockApi.Predicate.Datum
import MockApi.Predicate.Expr

/-!
# Comparing data

* `Fault` : why a predicate has no value;
* `Datum.same` : identity of objects;
* `Datum.alike` : equality, where numbers are compared across their kinds and the order of members
  does not count;
* `Datum.order` : order of numbers, texts and lists;
* `Datum.contains` : membership;
* `Relation.holds` : the comparisons of predicates.
-/

namespace MockApi

/-- Whether two numbers are both there and equal. -/
def quantitiesAlike (a b : Option Quantity) : Bool :=
  match a, b with
  | some a, some b => a.compare b == some .eq
  | _, _ => false

namespace Predicate

/-- Why a predicate has no value. -/
inductive Fault where
  /-- The size of something that has none. -/
  | size (kindName : String)
  /-- A function of texts was given something else. -/
  | notText (function kindName : String)
  /-- A product or a remainder of what are no numbers. -/
  | notNumbers
  /-- An operation that the kinds of its operands do not have. -/
  | kind
  /-- A text that denotes no number, also where an index is meant, or a number without a text. -/
  | value
  | divisionByZero
  | overflow
  /-- A text in base 64 that ends too early. -/
  | padding
  deriving DecidableEq, Repr

def Fault.ofFailure : Quantity.Failure → Fault
  | .divisionByZero => .divisionByZero
  | .overflow => .overflow

/-- The wording of a fault, where it has one of its own. -/
def Fault.message? : Fault → Option String
  | .size kindName => some ("size() of " ++ kindName)
  | .notText function kindName =>
    some (function ++ "() expects a string, got " ++ kindName)
  | .notNumbers => some "Multiplication and modulo only allowed on numbers"
  | _ => none

/-! ## Identity and equality -/

/-- Whether two data are one and the same object. -/
def Datum.same : Datum → Datum → Bool
  | .null, e => e.isNull
  | .bool a, .bool b => a == b
  | d, e => d.identity.same e.identity

def Datum.members? : Datum → Option (List (Text × Datum))
  | .object members _ => some members
  | .headers members _ => some members
  | _ => none

mutual

/-- Whether two data are equal. Parts of them also count as equal if they are one object, as a NaN
may be, which is not equal to itself. -/
def Datum.alike : Datum → Datum → Bool
  | .null, e => e.isNull
  | .text s _, .text t _ => s == t
  | .list ds _, .list es _ => alikeItems ds es
  | .object ms _, e => e.members?.any fun ns => ms.length == ns.length && alikeMembers ms ns
  | .headers ms _, e => e.members?.any fun ns => ms.length == ns.length && alikeMembers ms ns
  | d, e => quantitiesAlike d.quantity? e.quantity?

def Datum.alikeItems : List Datum → List Datum → Bool
  | [], [] => true
  | d :: ds, e :: es => (d.same e || d.alike e) && alikeItems ds es
  | _, _ => false

/-- Whether each of the members is equal to the one of the same name among `ns`. -/
def Datum.alikeMembers : List (Text × Datum) → List (Text × Datum) → Bool
  | [], _ => true
  | (name, d) :: ms, ns =>
    ((Members.get? ns name).any fun e => d.same e || d.alike e) && alikeMembers ms ns

end

/-! ## Order -/

/-- The comparisons by order. -/
inductive OrderRelation where
  | lt
  | le
  | gt
  | ge
  deriving DecidableEq, Repr

def OrderRelation.accepts : OrderRelation → Ordering → Bool
  | .lt, o => o == .lt
  | .le, o => o != .gt
  | .gt, o => o == .gt
  | .ge, o => o != .lt

/-- The order of two texts, by their first different characters. -/
def textOrder : Text → Text → Ordering
  | [], [] => .eq
  | [], _ :: _ => .lt
  | _ :: _, [] => .gt
  | c :: s, d :: t =>
    if c.toNat < d.toNat then .lt else if d.toNat < c.toNat then .gt else textOrder s t

/-- Whether an order relation holds between two numbers that are both there. -/
def orderQuantities (r : OrderRelation) (a b : Option Quantity) : Except Fault Bool :=
  match a, b with
  | some a, some b => .ok ((a.compare b).any r.accepts)
  | _, _ => .error .kind

mutual

def Datum.order (r : OrderRelation) : Datum → Datum → Except Fault Bool
  | .text s _, .text t _ => .ok (r.accepts (textOrder s t))
  | .list ds _, .list es _ => Datum.orderItems r ds es
  | .list .., _ => .error .kind
  | d, e => orderQuantities r d.quantity? e.quantity?

/-- Whether an order relation holds between two lists: their first different items decide, and else
their lengths. -/
def Datum.orderItems (r : OrderRelation) : List Datum → List Datum → Except Fault Bool
  | [], [] => .ok (r.accepts .eq)
  | [], _ :: _ => .ok (r.accepts .lt)
  | _ :: _, [] => .ok (r.accepts .gt)
  | d :: ds, e :: es =>
    if d.same e || d.alike e then Datum.orderItems r ds es else Datum.order r d e

end

/-! ## Membership -/

/-- Whether a datum is among the parts of another: an item of a list, a piece of a text, a name of
an object or of a header. Lists, objects and headers are no names. -/
def Datum.contains (whole part : Datum) : Except Fault Bool :=
  match whole with
  | .list items _ => .ok (items.any fun d => d.same part || d.alike part)
  | .text s _ =>
    match part with
    | .text t _ => .ok (Text.splitAtFirst t s).isSome
    | _ => .error .kind
  | .object members _ =>
    match part with
    | .text name _ => .ok (Members.has members name)
    | part => if part.isContainer then .error .kind else .ok false
  | .headers members _ =>
    match part with
    | .text name _ => .ok (Members.has members (Text.lower name))
    | _ => .ok false
  | _ => .error .kind

def Relation.holds (r : Relation) (a b : Datum) : Except Fault Bool :=
  match r with
  | .eq => .ok (a.alike b)
  | .ne => .ok (!a.alike b)
  | .lt => a.order .lt b
  | .le => a.order .le b
  | .gt => a.order .gt b
  | .ge => a.order .ge b
  | .elem => b.contains a
  | .notElem => (b.contains a).map (! ·)
  | .same => .ok (a.same b)
  | .notSame => .ok (!a.same b)

end Predicate

end MockApi
