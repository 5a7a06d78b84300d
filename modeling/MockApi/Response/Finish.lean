import MockApi.Contract.Basic
import MockApi.Document.Check
import MockApi.Path.Write
import MockApi.Repeat

/-!
# Finishing generated data

* `castAt` : data cast at a path; where the path cannot be followed a diagnostic is left;
* `Metadata.finish` : data repeated, and then cast at each of the paths.
-/

namespace MockApi

/-- Why a response cannot be generated; `ε` are the errors of the function that fills templates. -/
inductive GenerationError (ε : Type) where
  /-- Two names of headers of the context differ only in case. -/
  | duplicateHeader (duplicate : DuplicateHeader)
  /-- A predicate has a part that predicates may not use. -/
  | unsupported
  | filler (error : ε)
  /-- An index or an integer has too many digits. -/
  | integer (fault : IntegerFault)
  | repetition (fault : Repeat.Fault)
  /-- The segments that lead to the place of a diagnostic are no path. -/
  | place (segments : List Text)
  | obstacle (obstacle : Path.Obstacle)
  /-- A generated header is no string. -/
  | headers (problems : List (Problem Empty))
  deriving Repr

/-- The diagnostic for a path that cannot be followed. -/
def castDiagnostic (path : Path) (kind : CastKind) : Value :=
  .text ("<cannot cast " ++ path.text ++ " as " ++ kind.name ++ ">")

/-- A change that cannot fail. -/
def always (f : Value → Value) (v : Value) : Except Empty Value := .ok (f v)

/-- The document that a write leaves, unless it stopped. -/
def Path.Written.result {ε : Type} (w : Path.Written Empty) : Except (GenerationError ε) Value :=
  match w.error? with
  | none => .ok w.document
  | some (.obstacle o) => .error (.obstacle o)
  | some (.index fault) => .error (.integer fault)
  | some (.change e) => nomatch e

/-- Data with a diagnostic at a place where a path could not be followed. -/
def leaveDiagnostic {ε : Type} (trail : List Text) (diagnostic document : Value) :
    Except (GenerationError ε) Value :=
  if trail = [] then .ok diagnostic
  else
    match Path.ofSegments? trail with
    | some place => (place.write (always fun _ => diagnostic) document).result
    | none => .error (.place trail)

/-- Data cast at a path. Where the path cannot be followed a diagnostic takes the place of the last
value that was reached. -/
def castAt {ε : Type} (path : Path) (kind : CastKind) (data : Value) :
    Except (GenerationError ε) Value :=
  let w := path.write (always kind.apply) data
  match w.error? with
  | some (.obstacle o) => leaveDiagnostic o.trail (castDiagnostic path kind) w.document
  | _ => w.result

/-- Data cast at each of the paths, one after the other. -/
def castAll {ε : Type} (casts : List (Path × CastKind)) (data : Value) :
    Except (GenerationError ε) Value :=
  casts.foldlM (fun data (path, kind) => castAt path kind data) data

/-- Data repeated, if they are a list and a formula says so. -/
def repeatData {ε : Type} (repetition : Option String) (data : Value) (chance : Chance) :
    Except (GenerationError ε) (Value × Chance) :=
  match repetition, data with
  | some formula, .list items =>
    if formula.isEmpty then .ok (data, chance)
    else
      match Repeat.expand items formula chance with
      | .ok (items, chance) => .ok (.list items, chance)
      | .error fault => .error (.repetition fault)
  | _, _ => .ok (data, chance)

/-- Generated data, finished: repeated first, and then cast. -/
def Metadata.finish {ε : Type} (m : Metadata) (data : Value) (chance : Chance) :
    Except (GenerationError ε) (Value × Chance) := do
  let (data, chance) ← repeatData m.repetition data chance
  let data ← castAll m.casts data
  return (data, chance)

end MockApi
