import MockApi.Predicate.Comparison
import MockApi.Predicate.Name
import MockApi.Text.Base64
import MockApi.Text.Casing
import MockApi.Text.Utf8

/-!
# What operators and functions of predicates compute

* `BinaryOp.compute?`, `UnaryOp.compute?` : the operators;
* `Helper.apply` : the functions;
* `Runtime.finish` : the result of an operation as the object that the runtime gives out for it.

What an operation makes is a new object, unless it answers an operand itself.
-/

namespace MockApi.Predicate

/-- The datum of a number that an operation may not have. -/
def ofResult (r : Except Quantity.Failure Quantity) : Except Fault Datum :=
  match r with
  | .ok q => .ok (.ofQuantity q)
  | .error e => .error (.ofFailure e)

/-- An operation on two numbers that are both there. -/
def onNumbers (missing : Fault) (f : Quantity → Quantity → Except Quantity.Failure Quantity)
    (a b : Datum) : Except Fault Datum :=
  match a.quantity?, b.quantity? with
  | some p, some q => ofResult (f p q)
  | _, _ => .error missing

/-- The sum of numbers, or two texts or lists one after the other. -/
def plus (a b : Datum) : Except Fault Datum :=
  match a, b with
  | .text s _, .text t _ => .ok (.text (s ++ t) .own)
  | .list ds _, .list es _ => .ok (.list (ds ++ es) .own)
  | a, b => onNumbers .kind Quantity.add a b

/-- What a binary operator makes of its operands, if it is one that predicates use. -/
def BinaryOp.compute? (op : BinaryOp) (a b : Datum) : Option (Except Fault Datum) :=
  match op with
  | .add => some (plus a b)
  | .sub => some (onNumbers .kind Quantity.sub a b)
  | .mul => some (onNumbers .notNumbers Quantity.mul a b)
  | .div => some (onNumbers .kind Quantity.div a b)
  | .mod => some (onNumbers .notNumbers Quantity.mod a b)
  | .foreign _ => none

def negated (d : Datum) : Except Fault Datum :=
  match d.quantity? with
  | some q => .ok (.ofQuantity q.neg)
  | none => .error .kind

/-- The number that a datum is. -/
def unchanged (d : Datum) : Except Fault Datum :=
  match d, d.quantity? with
  | .bool _, some q => .ok (.ofQuantity q)
  | d, some _ => .ok d
  | _, none => .error .kind

/-- What a sign makes of its operand, if it is one that predicates use. -/
def UnaryOp.compute? (op : UnaryOp) (d : Datum) : Option (Except Fault Datum) :=
  match op with
  | .not => some (.ok (.bool (!d.isTrue)))
  | .neg => some (negated d)
  | .pos => some (unchanged d)
  | .foreign _ => none

/-! ## Functions -/

/-- The size of a text, a list, an object or headers; null has none of it. -/
def sizeOf : Datum → Except Fault Datum
  | .null => .ok (.int 0 .own)
  | .text s _ => .ok (.int s.length .own)
  | .list items _ => .ok (.int items.length .own)
  | .object members _ => .ok (.int members.length .own)
  | .headers members _ => .ok (.int members.length .own)
  | d => .error (.size d.kindName)

/-- A function of texts, which leaves null alone. -/
def onText (function : String) (f : Text → Text) : Datum → Except Fault Datum
  | .null => .ok .null
  | .text s _ => .ok (.text (f s) .own)
  | d => .error (.notText function d.kindName)

/-- The number that a number is or that a text denotes: an integer, or else a double. -/
def numberOf : Datum → Except Fault Datum
  | .int n identity => .ok (.int n identity)
  | .float x identity => .ok (.float x identity)
  | .text s _ =>
    match readInteger s with
    | .ok n => .ok (.int n .own)
    | .error _ =>
      match readDouble? s with
      | some x => .ok (.ofQuantity (.float x))
      | none => .error .value
  | _ => .error .value

/-- A text that a datum has, unless that would hold an integer with too many digits. -/
def textOf (d : Datum) (text : Text) : Except Fault Text :=
  if d.hasText then .ok text else .error .value

/-- A datum as it stands inside of text; a text is the same text. -/
def stringOf : Datum → Except Fault Datum
  | .text s identity => .ok (.text s identity)
  | d => (textOf d d.written).map fun text => .text text .own

def beginsWith (piece text : Text) : Bool := (Text.after? piece text).isSome

/-- Whether a datum is a text and a test of it with the text of another datum holds. -/
def testText (test : Text → Text → Bool) (d piece : Datum) : Except Fault Datum :=
  match d with
  | .text s _ => do
    let piece ← textOf piece piece.plain
    return .bool (test piece s)
  | _ => .ok (.bool false)

/-- The text whose bytes the text of a datum stands for in base 64. -/
def textOfBase64 (d : Datum) : Except Fault Datum := do
  let text ← textOf d d.plain
  if text.all fun c => c.toNat < 0x80 then
    match Text.Base64.decode text with
    | some bytes => return .text (Text.decodeLossy bytes) .own
    | none => throw .padding
  else throw .value

def Helper.apply : Helper → List Datum → Except Fault Datum
  | .size, [d] => sizeOf d
  | .lower, [d] => onText "lower" Text.lower d
  | .upper, [d] => onText "upper" Text.upper d
  | .trim, [d] => onText "trim" Text.strip d
  | .number, [d] => numberOf d
  | .string, [d] => stringOf d
  | .present, [d] => .ok (.bool (!d.isNull))
  | .startsWith, [d, piece] => testText beginsWith d piece
  | .endsWith, [d, piece] =>
    testText (fun piece text => beginsWith piece.reverse text.reverse) d piece
  | .decodeBase64, [d] => textOfBase64 d
  | _, _ => .error .kind

/-! ## Objects -/

/-- The result of an operation as an object: a number or a text that is made may be one that the
runtime keeps, or an operand handed back. -/
def Runtime.finish (runtime : Runtime) (op : Operation) (operands : List Datum) (result : Datum) :
    Datum :=
  if result.identity = .own then
    match runtime.made op (Datum.values operands) result.value with
    | .new => result
    | .kept n => result.withIdentity (.kept n)
    | .operand i way =>
      result.withIdentity (((operands[i]?).bind (Datum.itemAt way)).elim .own Datum.identity)
  else result

end MockApi.Predicate
