import MockApi.Proofs.Loading
import MockApi.Proofs.Soundness

/-!
# The language of predicates is closed

What the check of predicates lets through is what the evaluation has a case for, at every place of an
expression and not only where an evaluation happens to come by.

* `Expr.operands`, `Occurs part e` : the expressions an evaluation of `e` may look at;
* `Expr.Covered` : an expression of a kind that the evaluation knows, with operators, functions and
  names that stand for something;
* `check_of_occurs`, `covered_of_check` : the check holds at every place, and what it lets through is
  covered;
* `ofSource_supported` : the predicate of a source has a value or a fault, in every scope.
-/

namespace MockApi.Predicate

variable {e part : Expr}

/-- The expressions that an evaluation may look at next. The function of a call is not among them, as
it is only looked up by its name. -/
def Expr.operands : Expr → List Expr
  | .constant _ => []
  | .name _ => []
  | .attribute base _ => [base]
  | .subscript base key => [base, key]
  | .list items => items
  | .tuple items => items
  | .logic _ operands => operands
  | .unary _ operand => [operand]
  | .binary _ left right => [left, right]
  | .compare first rest => first :: rest.map Prod.snd
  | .choice test yes no => [test, yes, no]
  | .call _ arguments _ => arguments
  | .starred inner => [inner]
  | .foreign _ => []

/-- An expression that stands at some place of another one. -/
inductive Occurs (part : Expr) : Expr → Prop
  | here : Occurs part part
  | inside {operand e : Expr} : operand ∈ e.operands → Occurs part operand → Occurs part e

/-- The evaluation has a case for the expression: a literal is a datum, a name is a root, an operator
computes something for all operands, and a function is known. -/
def Expr.Covered : Expr → Prop
  | .constant c => ∀ runtime, ∃ d, c.datum? runtime = some d
  | .name id => ∃ root, Root.ofName? id = some root
  | .unary op _ => ∀ d, ∃ result, op.compute? d = some result
  | .binary op _ _ => ∀ a b, ∃ result, op.compute? a b = some result
  | .call function _ _ => ∃ helper, function.helper? = some helper
  | .starred _ => False
  | .foreign _ => False
  | _ => True

/-! ## The check at every place -/

theorem check_of_mem {es : List Expr} (h : checkAll es = .ok ()) : ∀ e ∈ es, check e = .ok () := by
  induction es with
  | nil => exact nofun
  | cons first es ih =>
    obtain ⟨hfirst, hrest⟩ := ok_of_check_then h
    intro e he
    obtain rfl | he := List.mem_cons.1 he
    · exact hfirst
    · exact ih hrest e he

theorem check_of_mem_related {rest : List (Relation × Expr)} (h : checkRelated rest = .ok ()) :
    ∀ e ∈ rest.map Prod.snd, check e = .ok () := by
  induction rest with
  | nil => exact nofun
  | cons first rest ih =>
    obtain ⟨hfirst, hrest⟩ := ok_of_check_then h
    intro e he
    obtain rfl | he := List.mem_cons.1 he
    · exact hfirst
    · exact ih hrest e he

theorem ok_of_check_call {function : Expr} {arguments : List Expr} {named : Bool}
    (h : check (.call function arguments named) = .ok ()) :
    (∃ helper, function.helper? = some helper) ∧ checkAll arguments = .ok () := by
  obtain ⟨id, hcalled, h⟩ := ok_of_bind h
  obtain ⟨-, harguments⟩ := ok_of_check_then h
  exact ⟨helper?_of_calledName hcalled, harguments⟩

theorem check_of_mem_operands (h : check e = .ok ()) :
    ∀ operand ∈ e.operands, check operand = .ok () := by
  cases e with
  | constant c => exact List.forall_mem_nil _
  | name id => exact List.forall_mem_nil _
  | «attribute» base name =>
    obtain ⟨-, hbase⟩ := ok_of_check_then h
    simpa [Expr.operands] using hbase
  | subscript base key =>
    obtain ⟨hbase, hkey⟩ := ok_of_check_then h
    simpa [Expr.operands] using ⟨hbase, hkey⟩
  | list items => exact check_of_mem h
  | tuple items => exact check_of_mem h
  | logic op operands => exact check_of_mem h
  | unary op operand =>
    obtain ⟨-, hoperand⟩ := ok_of_check_then h
    simpa [Expr.operands] using hoperand
  | binary op left right =>
    obtain ⟨-, h⟩ := ok_of_check_then h
    obtain ⟨hleft, hright⟩ := ok_of_check_then h
    simpa [Expr.operands] using ⟨hleft, hright⟩
  | compare first rest =>
    obtain ⟨hfirst, hrest⟩ := ok_of_check_then h
    exact List.forall_mem_cons.2 ⟨hfirst, check_of_mem_related hrest⟩
  | choice test yes no =>
    obtain ⟨htest, h⟩ := ok_of_check_then h
    obtain ⟨hyes, hno⟩ := ok_of_check_then h
    simpa [Expr.operands] using ⟨htest, hyes, hno⟩
  | call function arguments named => exact check_of_mem (ok_of_check_call h).2
  | starred inner => cases h
  | foreign kind => cases h

/-- The check holds at every place of an expression. -/
theorem check_of_occurs (hpart : Occurs part e) (h : check e = .ok ()) : check part = .ok () := by
  induction hpart with
  | here => exact h
  | inside hmem _ ih => exact ih (check_of_mem_operands h _ hmem)

/-! ## What the check lets through -/

theorem exists_root_of_checkName {id : String} (h : checkName id = .ok ()) :
    ∃ root, Root.ofName? id = some root := by
  unfold checkName at h
  split at h
  · cases h
  · unfold require at h
    split at h
    · next hroot => exact Option.isSome_iff_exists.1 hroot
    · cases h

/-- What the check lets through has a case in the evaluation. -/
theorem covered_of_check (h : check e = .ok ()) : e.Covered := by
  cases e with
  | constant c =>
    cases c with
    | foreign shown => cases h
    | _ => exact fun _ => ⟨_, rfl⟩
  | name id => exact exists_root_of_checkName h
  | unary op operand =>
    obtain ⟨hop, -⟩ := ok_of_check_then h
    intro d
    cases op with
    | foreign name => cases hop
    | _ => exact ⟨_, rfl⟩
  | binary op left right =>
    obtain ⟨hop, -⟩ := ok_of_check_then h
    intro a b
    cases op with
    | foreign name => cases hop
    | _ => exact ⟨_, rfl⟩
  | call function arguments named => exact (ok_of_check_call h).1
  | starred inner => cases h
  | foreign kind => cases h
  | _ => trivial

/-! ## Sources -/

theorem parts_of_ofExpr {source : String} {p : Predicate} (h : ofExpr source e = .ok p) :
    p.source = source ∧ p.expr = e := by
  unfold ofExpr at h
  split at h
  · cases h
    exact ⟨rfl, rfl⟩
  · cases h

/-- The predicate of a source holds the source and the expression that was read from it. -/
theorem parts_of_ofSource {source : Text} {p : Predicate} (h : ofSource source = .ok p) :
    Text.ofString p.source = source ∧
      parse (Text.lossy (Text.strip source)) = some p.expr := by
  simp only [ofSource] at h
  split at h
  · cases h
  · split at h
    · cases h
    · next hhalves =>
      split at h
      · cases h
      · split at h
        · cases h
        · next expr hparse =>
          obtain ⟨hsource, hexpr⟩ := parts_of_ofExpr h
          have hwhole := Text.whole_of_strip (Text.whole_of_halves? hhalves)
          rw [hsource, hexpr, Text.ofString_lossy hwhole]
          exact ⟨rfl, hparse⟩

/-- **The language of predicates is closed.** The predicate of an accepted source is the expression read
from it, and has a value or a fault in every scope. It is never refused as unsupported, and neither is
any expression that stands somewhere in it: each of them is covered by a case of the evaluation. -/
theorem ofSource_supported {source : Text} {p : Predicate} (h : ofSource source = .ok p)
    (scope : Scope) :
    parse (Text.lossy (Text.strip source)) = some p.expr ∧
      ((∃ d, p.evaluate scope = .ok d) ∨ ∃ fault, p.evaluate scope = .error (.fault fault)) ∧
      ∀ part, Occurs part p.expr → part.Covered ∧ Supported (eval scope part) := by
  have hsupported : Supported (p.evaluate scope) := eval_supported p.expr p.allowed
  refine ⟨(parts_of_ofSource h).2, ?_, fun part hpart => ?_⟩
  · cases heval : p.evaluate scope with
    | ok d => exact .inl ⟨d, rfl⟩
    | error e =>
      cases e with
      | fault fault => exact .inr ⟨fault, rfl⟩
      | unsupported => exact absurd heval hsupported
  · have hcheck := check_of_occurs hpart p.allowed
    exact ⟨covered_of_check hcheck, eval_supported part hcheck⟩

/-- A source with a subscript in a branch, a list in a call and a chain of comparisons. -/
theorem ofSource_supported_nested :
    let source : Text := "payload['a'].b if len([route.x]) < 2 < -query.n else not headers"
    let scope : Scope := .ofRequest .standard .null (.object []) .empty (.text "body")
    ∃ p, ofSource source = .ok p ∧ parse (Text.lossy (Text.strip source)) = some p.expr ∧
      ((∃ d, p.evaluate scope = .ok d) ∨ ∃ fault, p.evaluate scope = .error (.fault fault)) ∧
      ∀ part, Occurs part p.expr → part.Covered ∧ Supported (eval scope part) := by
  intro source scope
  have haccepted : (ofSource source).isOk = true := by decide +kernel
  obtain ⟨p, hp⟩ : ∃ p, ofSource source = .ok p := by
    cases hsource : ofSource source with
    | ok p => exact ⟨p, rfl⟩
    | error objection =>
      rw [hsource] at haccepted
      cases haccepted
  exact ⟨p, hp, ofSource_supported hp scope⟩

end MockApi.Predicate
