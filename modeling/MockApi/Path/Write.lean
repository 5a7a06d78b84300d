import MockApi.Path.Basic

/-!
# Writing through a path

* `Path.Obstacle` : a place where a path cannot be followed;
* `Path.WriteError` : why a write stopped;
* `Path.Written` : the document after a write, with the error if it stopped;
* `Path.write` : the document with the values a path addresses changed by a function.

A wildcard writes item after item, so a write that stops leaves the earlier items changed.
-/

namespace MockApi.Path

/-- A segment that cannot be followed. -/
inductive Hindrance where
  /-- An object has no such member, and more segments would follow. -/
  | missingKey
  /-- A value of the kind `kindName` has nothing to be found by the segment. -/
  | unaddressable (kindName : String)
  deriving DecidableEq, Repr

/-- A place where a path cannot be followed. -/
structure Obstacle where
  /-- The way to the last value reached, with an index for every wildcard. -/
  trail : List Text
  segment : Text
  hindrance : Hindrance
  /-- The path that was to be followed. -/
  path : List Text
  deriving DecidableEq, Repr

def Obstacle.message (o : Obstacle) : String :=
  let whole := " in path " ++ Text.quoted (dotted o.path)
  match o.hindrance with
  | .missingKey => "Missing key " ++ Text.quoted o.segment ++ whole
  | .unaddressable kindName =>
    "Cannot address " ++ Text.quoted o.segment ++ " on " ++ kindName ++ whole

/-- Why a write stopped; `ε` are the errors of the function that changes a value. -/
inductive WriteError (ε : Type) where
  | obstacle (obstacle : Obstacle)
  | index (fault : IntegerFault)
  | change (error : ε)
  deriving DecidableEq, Repr

/-- A document after a write. -/
structure Written (ε : Type) where
  /-- The document as the write left it. -/
  document : Value
  /-- Why the write stopped, if it did. -/
  error? : Option (WriteError ε)

variable {ε : Type}

/-- The document with a part of it put back into its place. -/
def Written.map (place : Value → Value) (w : Written ε) : Written ε :=
  { w with document := place w.document }

/-- Writes to one item after the other, from an index on, until one of the writes stops. -/
def writeItems (step : Nat → Value → Written ε) :
    Nat → List Value → List Value × Option (WriteError ε)
  | _, [] => ([], none)
  | i, v :: rest =>
    let w := step i v
    match w.error? with
    | some e => (w.document :: rest, some e)
    | none =>
      let (rest, error?) := writeItems step (i + 1) rest
      (w.document :: rest, error?)

/-- A value with what a function makes of it in its place. -/
def change (f : Value → Except ε Value) (v : Value) : Written ε :=
  match f v with
  | .ok new => ⟨new, none⟩
  | .error e => ⟨v, some (.change e)⟩

/-- Stops at a segment that cannot be followed. -/
def obstruct (path trail : List Text) (segment : Text) (hindrance : Hindrance) (v : Value) :
    Written ε :=
  ⟨v, some (.obstacle ⟨trail, segment, hindrance, path⟩)⟩

/-- Writes to what the remaining segments of `path` address below the end of `trail`. -/
def writeFrom (f : Value → Except ε Value) (path : List Text) :
    (segments trail : List Text) → Value → Written ε
  | [], _, v => change f v
  | segment :: rest, trail, v =>
    match v with
    | .object members =>
      match Members.get? members segment with
      | some old =>
        (writeFrom f path rest (trail ++ [segment]) old).map fun new =>
          .object (Members.put members segment new)
      | none =>
        if rest.isEmpty then
          match f .null with
          | .ok new => ⟨.object (Members.put members segment new), none⟩
          | .error e => ⟨v, some (.change e)⟩
        else obstruct path trail segment .missingKey v
    | .list items =>
      if segment = wildcard then
        let (items, error?) :=
          writeItems (fun i v => writeFrom f path rest (trail ++ [indexText i]) v) 0 items
        ⟨.list items, error?⟩
      else
        match indexOf? segment with
        | .error fault => ⟨v, some (.index fault)⟩
        | .ok none => obstruct path trail segment (.unaddressable v.kindName) v
        | .ok (some i) =>
          match items[i]? with
          | none => obstruct path trail segment (.unaddressable v.kindName) v
          | some old =>
            (writeFrom f path rest (trail ++ [segment]) old).map fun new =>
              .list (items.set i new)
    | _ => obstruct path trail segment (.unaddressable v.kindName) v

/-- The document with each value that the path addresses changed by `f`. A last segment that an
object lacks is added to it, with what `f` makes of null. -/
def write (path : Path) (f : Value → Except ε Value) (v : Value) : Written ε :=
  writeFrom f path.segments path.segments [] v

end MockApi.Path
