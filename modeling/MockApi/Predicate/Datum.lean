import MockApi.HeaderMap
import MockApi.Json.Shown
import MockApi.Number.Numeral
import MockApi.Number.Quantity
import MockApi.Path.Basic
import MockApi.Predicate.Identity
import MockApi.Template.Render

/-!
# What predicates compute with

* `Datum` : a value, a list of data, or the headers of a request, each with its identity;
* `Datum.value` : the value of a datum, whichever objects it is made of;
* `Datum.ofValue`, `Datum.ofHeaders` : the datum of a value, or of headers, that stands at a place;
* `Datum.isTrue` : the data that count as true in a condition;
* `Datum.member`, `Datum.lookup`, `Datum.itemAt` : a part of a datum;
* `Datum.child`, `Datum.follow` : the part that a path leads to, blank ones included;
* `Datum.shown`, `Datum.written` : a datum in messages and inside of text.
-/

namespace MockApi.Predicate

/-- What predicates compute with. Null, true and false exist once; any other datum says which object
it is, and so do its parts. -/
inductive Datum where
  | null
  | bool (b : Bool)
  | int (n : Int) (identity : Identity)
  | float (x : Double) (identity : Identity)
  | text (s : Text) (identity : Identity)
  | list (items : List Datum) (identity : Identity)
  | object (members : List (Text × Datum)) (identity : Identity)
  /-- The headers of a request, with their names in lower case. -/
  | headers (members : List (Text × Datum)) (identity : Identity)
  deriving Inhabited

namespace Datum

/-! ## Data and values -/

mutual

/-- The value of a datum, whichever objects it is made of. -/
def value : Datum → Value
  | .null => .null
  | .bool b => .bool b
  | .int n _ => .int n
  | .float x _ => .float x
  | .text s _ => .text s
  | .list items _ => .list (values items)
  | .object members _ => .object (memberValues members)
  | .headers members _ => .object (memberValues members)

def values : List Datum → List Value
  | [] => []
  | d :: rest => value d :: values rest

def memberValues : List (Text × Datum) → List (Text × Value)
  | [] => []
  | (name, d) :: rest => (name, value d) :: memberValues rest

end

mutual

/-- The datum of a value that stands at a place. Its parts stand at the places below. -/
def ofValue (runtime : Runtime) (place : Place) : Value → Datum
  | .null => .null
  | .bool b => .bool b
  | .int n => .int n (runtime.identityAt place (.int n))
  | .float x => .float x (runtime.identityAt place (.float x))
  | .text s => .text s (runtime.identityAt place (.text s))
  | .list items => .list (ofItems runtime place 0 items) (.placed place)
  | .object members => .object (ofMembers runtime place members) (.placed place)

def ofItems (runtime : Runtime) (place : Place) (i : Nat) : List Value → List Datum
  | [] => []
  | v :: rest => ofValue runtime (.item place i) v :: ofItems runtime place (i + 1) rest

def ofMembers (runtime : Runtime) (place : Place) : List (Text × Value) → List (Text × Datum)
  | [] => []
  | (name, v) :: rest =>
    (name, ofValue runtime (.member place name) v) :: ofMembers runtime place rest

end

def ofHeaders (runtime : Runtime) (place : Place) (map : HeaderMap) : Datum :=
  .headers (ofMembers runtime place map.members) (.placed place)

/-- Which object a datum is; for what exists once its value says so. -/
def identity : Datum → Identity
  | .null => .own
  | .bool _ => .own
  | .int _ identity => identity
  | .float _ identity => identity
  | .text _ identity => identity
  | .list _ identity => identity
  | .object _ identity => identity
  | .headers _ identity => identity

/-- The datum as another object, if it is a number or a text. -/
def withIdentity (identity : Identity) : Datum → Datum
  | .int n _ => .int n identity
  | .float x _ => .float x identity
  | .text s _ => .text s identity
  | d => d

/-- The name of the kind of a datum, as messages give it. -/
def kindName : Datum → String
  | .null => "NoneType"
  | .bool _ => "bool"
  | .int .. => "int"
  | .float .. => "float"
  | .text .. => "str"
  | .list .. => "list"
  | .object .. => "dict"
  | .headers .. => "HeaderMap"

/-- The number that a datum is; truth values count as zero and one. -/
def quantity? : Datum → Option Quantity
  | .bool b => some (.int (if b then 1 else 0))
  | .int n _ => some (.int n)
  | .float x _ => some (.float x)
  | _ => none

/-- The datum of a number that an operation has made. -/
def ofQuantity : Quantity → Datum
  | .int n => .int n .own
  | .float x => .float x .own

/-- Whether a datum counts as true in a condition. -/
def isTrue : Datum → Bool
  | .null => false
  | .bool b => b
  | .int n _ => n != 0
  | .float x _ => !x.isZero
  | .text s _ => !s.isEmpty
  | .list items _ => !items.isEmpty
  | .object members _ => !members.isEmpty
  | .headers members _ => !members.isEmpty

def isNull : Datum → Bool
  | .null => true
  | _ => false

/-! ## Parts -/

/-- The member of a name, or null; lists have none. A header may be named in any case. -/
def member (name : Text) : Datum → Datum
  | .object members _ => (Members.get? members name).getD .null
  | .headers members _ => (Members.get? members (Text.lower name)).getD .null
  | _ => .null

/-- The item at an index, which counts from the end if it is negative, or null. -/
def item (n : Int) (items : List Datum) : Datum :=
  let i := if n < 0 then n + items.length else n
  if i < 0 then .null else (items[i.toNat]?).getD .null

/-- The part of a datum at a key, or null. -/
def lookup (base key : Datum) : Datum :=
  match base, key with
  | .list items _, .int n _ => item n items
  | base, .text name _ => member name base
  | _, _ => .null

@[simp] theorem lookup_text (base : Datum) (name : Text) (identity : Identity) :
    base.lookup (.text name identity) = base.member name := by
  cases base <;> rfl

/-- The item of a list, of an item of it, and so on, to which indices lead. -/
def itemAt : List Nat → Datum → Option Datum
  | [], d => some d
  | i :: way, .list items _ => (items[i]?).bind (itemAt way)
  | _ :: _, _ => none

def isContainer : Datum → Bool
  | .list .. => true
  | .object .. => true
  | .headers .. => true
  | _ => false

/-- The part that one segment of a path leads to: a member, or an item of a list. -/
def child (segment : Text) : Datum → Except IntegerFault Datum
  | .list items _ => do
    match ← Path.indexOf? segment with
    | some i => return (items[i]?).getD .null
    | none => return .null
  | d => .ok (member segment d)

/-- The part that the segments of a path lead to; it is the first one on the way that has no parts.
A wildcard collects from each item of a list what is there, in a new list. -/
def follow : List Text → Datum → Except IntegerFault Datum
  | [], d => .ok d
  | segment :: rest, d =>
    let down : Except IntegerFault Datum := do
      let found ← child segment d
      if found.isContainer then follow rest found else return found
    match d with
    | .list items _ =>
      if segment = Path.wildcard then do
        let found ← items.mapM (follow rest)
        return .list (found.filter fun d => !d.isNull) .own
      else down
    | _ => down

/-! ## Text -/

def shownHeaders (members : List (Text × Datum)) : String :=
  "HeaderMap(" ++ (Value.object (memberValues members)).shown ++ ")"

mutual

/-- The datum as messages show it. -/
def shown : Datum → String
  | .list items _ => shownList (shownItems items)
  | .headers members _ => shownHeaders members
  | d => d.value.shown

def shownItems : List Datum → List String
  | [] => []
  | d :: rest => shown d :: shownItems rest

end

/-- The datum as messages show it, where a text stands without quotes. -/
def plain : Datum → Text
  | .text s _ => s
  | d => d.shown

mutual

/-- The datum the way it stands inside of text. -/
def written : Datum → Text
  | .list items _ => Text.join "," (writtenItems items)
  | .headers members _ => shownHeaders members
  | d => d.value.written

def writtenItems : List Datum → List Text
  | [] => []
  | d :: rest => written d :: writtenItems rest

end

/-- Whether a datum holds no integer with more digits than are written. -/
def hasText (d : Datum) : Bool := d.value.isWritable

end Datum

end MockApi.Predicate
