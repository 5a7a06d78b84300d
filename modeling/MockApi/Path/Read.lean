import MockApi.Path.Basic

/-!
# Looking up a path

* `Path.get` : the value that a path leads to, and null where there is none;
* `Path.resolves` : whether a path leads all the way to values that are there.

A lookup stops at the first value that is no container and answers it, and below a wildcard it
drops what is missing. `resolves` follows every segment.
-/

namespace MockApi.Path

/-- The value that one segment leads to: a member of an object or an item of a list. -/
def child (segment : Text) : Value → Except IntegerFault Value
  | .object members => .ok ((Members.get? members segment).getD .null)
  | .list items => do
    match ← indexOf? segment with
    | some i => return (items[i]?).getD .null
    | none => return .null
  | _ => .ok .null

/-- The value that the segments lead to. Unless blank values are kept they count as missing. -/
def follow (keepBlank : Bool) : List Text → Value → Except IntegerFault Value
  | [], v => .ok v
  | segment :: rest, v =>
    let down : Except IntegerFault Value := do
      let found ← child segment v
      if found.isNull || (!keepBlank && found.isBlank) then return .null
      else if found.isContainer then follow keepBlank rest found
      else return found
    match v with
    | .list items =>
      if segment = wildcard then do
        let found ← items.mapM (follow keepBlank rest)
        return .list (found.filter fun v => !v.isNull)
      else down
    | _ => down

theorem follow_wildcard (keepBlank : Bool) (rest : List Text) (items : List Value) :
    follow keepBlank (wildcard :: rest) (.list items) =
      (items.mapM (follow keepBlank rest)).map fun found =>
        .list (found.filter fun v => !v.isNull) := by
  simp only [follow, if_pos]
  cases items.mapM (follow keepBlank rest) <;> rfl

theorem follow_child {segment : Text} {v : Value} (h : ∀ items, v = .list items → segment ≠ wildcard)
    (keepBlank : Bool) (rest : List Text) :
    follow keepBlank (segment :: rest) v =
      (child segment v).bind fun found =>
        if found.isNull || (!keepBlank && found.isBlank) then .ok .null
        else if found.isContainer then follow keepBlank rest found
        else .ok found := by
  cases v with
  | list items =>
    simp only [follow, if_neg (h items rfl)]
    rfl
  | _ => rfl

/-- The value that the path leads to, or null. Unless blank values are kept they count as
missing. -/
def get (path : Path) (keepBlank : Bool) (v : Value) : Except IntegerFault Value :=
  follow keepBlank path.segments v

/-- Whether every segment leads to a value that is there, for each item where it is a wildcard. -/
def reaches : List Text → Value → Except IntegerFault Bool
  | [], v => .ok (!v.isNull)
  | segment :: rest, v =>
    if segment = wildcard then
      match v with
      | .list items => items.allM (reaches rest)
      | _ => .ok false
    else
      match v with
      | .object members =>
        match Members.get? members segment with
        | some v => reaches rest v
        | none => .ok false
      | .list items => do
        match ← indexOf? segment with
        | some i =>
          match items[i]? with
          | some v => reaches rest v
          | none => return false
        | none => return false
      | _ => .ok false

/-- Whether the path leads to values that are there. -/
def resolves (path : Path) (v : Value) : Except IntegerFault Bool := reaches path.segments v

end MockApi.Path
