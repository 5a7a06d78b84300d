import MockApi.Json.Printer
import MockApi.Number.Numeral

/-!
# Values inside text

* `Value.written` : a value the way it stands inside generated text: nothing for null, the bare text
  of a text, an integral number without a fraction, a list with commas, an object as JSON;
* `Value.isWritable` : the values without an integer of too many digits;
* `Value.render` : the value inside text, unless an integer in it has too many digits.
-/

namespace MockApi

/-- A double inside text; an integral one is written like an integer. -/
def Double.render (x : Double) : String :=
  match x.toInt? with
  | some n => toString n
  | none => x.text

namespace Value

mutual

/-- The value the way it stands inside text, where all integers can be written. -/
def written : Value → Text
  | .null => []
  | .bool b => if b then "true" else "false"
  | .int n => toString n
  | .float x => x.render
  | .text s => s
  | .list items => Text.join "," (writtenItems items)
  | .object members => (Value.object members).compact

def writtenItems : List Value → List Text
  | [] => []
  | v :: rest => written v :: writtenItems rest

end

theorem writtenItems_eq_map (items : List Value) : writtenItems items = items.map written := by
  induction items with
  | nil => rfl
  | cons v rest ih => simp [writtenItems, ih]

mutual

/-- Whether a value holds no integer with more digits than are written. -/
def isWritable : Value → Bool
  | .int n => n.natAbs < Nat.pow 10 maxIntegerDigits
  | .list items => areWritable items
  | .object members => membersAreWritable members
  | _ => true

def areWritable : List Value → Bool
  | [] => true
  | v :: rest => isWritable v && areWritable rest

def membersAreWritable : List (Text × Value) → Bool
  | [] => true
  | (_, v) :: rest => isWritable v && membersAreWritable rest

end

/-- The value the way it stands inside text. -/
def render (v : Value) : Except IntegerFault Text :=
  if v.isWritable then .ok v.written else .error .unwritten

theorem render_of_isWritable {v : Value} (h : v.isWritable = true) : v.render = .ok v.written :=
  if_pos h

theorem render_of_not_isWritable {v : Value} (h : v.isWritable = false) :
    v.render = .error .unwritten := by simp [render, h]

theorem eq_written_of_render {v : Value} {text : Text} (h : v.render = .ok text) :
    text = v.written := by
  unfold render at h
  split at h
  · exact (Except.ok.inj h).symm
  · cases h

end Value

end MockApi
