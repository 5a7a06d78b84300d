import MockApi.Json.Members
import MockApi.Number.Double

/-!
# Values

* `Value` : a JSON value, whose objects keep the order of their members;
* `Value.induction` : proofs by induction on a value;
* `Value.kindName` : the name of its kind in messages;
* `Value.isBlank` : the values a lookup treats like a missing one;
* `Value.isContainer` : lists and objects.
-/

namespace MockApi

/-- A JSON value. Numbers written with a point or an exponent are doubles, the others integers of
any size. -/
inductive Value where
  | null
  | bool (b : Bool)
  | int (n : Int)
  | float (x : Double)
  | text (s : Text)
  | list (items : List Value)
  | object (members : List (Text × Value))
  deriving Repr, Inhabited

namespace Value

/-- Proofs by induction: a container may use the statement for each of its parts. -/
theorem induction {P : Value → Prop} (null : P .null) (bool : ∀ b, P (.bool b))
    (int : ∀ n, P (.int n)) (float : ∀ x, P (.float x)) (text : ∀ s, P (.text s))
    (list : ∀ items, (∀ v ∈ items, P v) → P (.list items))
    (object : ∀ members : Members Value, (∀ m ∈ members, P m.2) → P (.object members))
    (v : Value) : P v :=
  Value.rec (motive_1 := P) (motive_2 := fun items => ∀ v ∈ items, P v)
    (motive_3 := fun members => ∀ m ∈ members, P m.2) (motive_4 := fun m => P m.2)
    null bool int float text list object
    (fun _ h => nomatch h)
    (fun _ _ hv hitems _ h => by
      rcases List.mem_cons.1 h with rfl | h
      · exact hv
      · exact hitems _ h)
    (fun _ h => nomatch h)
    (fun _ _ hm hmembers _ h => by
      rcases List.mem_cons.1 h with rfl | h
      · exact hm
      · exact hmembers _ h)
    (fun _ _ hv => hv) v

/-- The name of the kind of a value, as messages give it. -/
def kindName : Value → String
  | .null => "NoneType"
  | .bool _ => "bool"
  | .int _ => "int"
  | .float _ => "float"
  | .text _ => "str"
  | .list _ => "list"
  | .object _ => "dict"

/-- The values a lookup treats like a missing one: null, false, a zero and the empty text. Empty
containers are not among them. -/
def isBlank : Value → Bool
  | .null => true
  | .bool b => !b
  | .int n => n == 0
  | .float x => x.isZero
  | .text s => s.isEmpty
  | .list _ => false
  | .object _ => false

def isNull : Value → Bool
  | .null => true
  | _ => false

/-- Whether the value is a list or an object. -/
def isContainer : Value → Bool
  | .list _ => true
  | .object _ => true
  | _ => false

/-- The members of an object, and none for any other value. -/
def membersOf : Value → Members Value
  | .object members => members
  | _ => []

@[simp] theorem isNull_iff (v : Value) : v.isNull = true ↔ v = .null := by
  cases v <;> simp [isNull]

theorem isBlank_of_isContainer {v : Value} (h : v.isContainer = true) : v.isBlank = false := by
  cases v <;> simp_all [isContainer, isBlank]

end Value

end MockApi
