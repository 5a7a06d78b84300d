import MockApi.Override

/-!
# Predicates are supported

An expression that passed the check of predicates uses nothing that the evaluation refuses, so a case
is always selected or not.

* `Supported r` : a result that is not a refusal; `supported_bind` is its one step;
* `eval_supported` : checked expressions are supported, in every scope;
* `exists_selectCase` : the selection of a case goes well.
-/

namespace MockApi.Predicate

variable {α β : Type} {scope : Scope}

/-- The result is not that the expression has a part that predicates may not use. -/
def Supported (r : Except EvalError α) : Prop := r ≠ .error .unsupported

theorem supported_ok (a : α) : Supported (.ok a) := nofun

theorem supported_bind {r : Except EvalError α} {f : α → Except EvalError β} (hr : Supported r)
    (hf : ∀ a, Supported (f a)) : Supported (r >>= f) := by
  cases r with
  | ok a => exact hf a
  | error e =>
    intro h
    cases h
    exact hr rfl

theorem supported_lift (r : Except Fault α) : Supported (lift (some r)) := by
  cases r <;> exact nofun

/-! ## What is checked -/

theorem ok_of_check_then {first second : Except Objection Unit}
    (h : (do first; second) = .ok ()) : first = .ok () ∧ second = .ok () := by
  cases first with
  | ok u => exact ⟨rfl, h⟩
  | error objection => cases h

theorem supported_datum {c : Constant} (h : checkConstant c = .ok ()) (runtime : Runtime) :
    Supported (lift ((c.datum? runtime).map .ok)) := by
  cases c with
  | foreign shown => cases h
  | _ => exact nofun

theorem supported_unary {op : UnaryOp} (h : checkUnaryOp op = .ok ()) (d : Datum) :
    Supported (lift (op.compute? d)) := by
  cases op with
  | foreign name => cases h
  | _ => exact supported_lift _

theorem supported_binary {op : BinaryOp} (h : checkBinaryOp op = .ok ()) (a b : Datum) :
    Supported (lift (op.compute? a b)) := by
  cases op with
  | foreign name => cases h
  | _ => exact supported_lift _

theorem helper?_of_calledName {function : Expr} {id : String} (h : calledName function = .ok id) :
    ∃ helper, function.helper? = some helper := by
  cases function with
  | name id' =>
    rw [calledName] at h
    split at h
    · next hhelper => exact Option.isSome_iff_exists.1 hhelper
    · cases h
  | _ => cases h

/-! ## Checked expressions -/

mutual

/-- **A checked expression is supported**, whatever the roots stand for. -/
theorem eval_supported : ∀ e, check e = .ok () → Supported (eval scope e)
  | .constant c, h => supported_datum h _
  | .name id, _ => supported_ok _
  | .attribute base name, h => by
    obtain ⟨-, hbase⟩ := ok_of_check_then h
    rw [eval]
    split
    · exact supported_lift _
    · exact supported_bind (eval_supported base hbase) fun d => supported_ok _
  | .subscript base key, h => by
    obtain ⟨hbase, hkey⟩ := ok_of_check_then h
    exact supported_bind (eval_supported base hbase) fun d =>
      supported_bind (eval_supported key hkey) fun k => supported_ok _
  | .list items, h => supported_bind (evalAll_supported items h) fun ds => supported_ok _
  | .tuple items, h => supported_bind (evalAll_supported items h) fun ds => supported_ok _
  | .logic op operands, h => evalLogic_supported op .null operands h
  | .unary op operand, h => by
    obtain ⟨hop, hoperand⟩ := ok_of_check_then h
    exact supported_bind (eval_supported operand hoperand) fun d =>
      supported_bind (supported_unary hop d) fun result => supported_ok _
  | .binary op left right, h => by
    obtain ⟨hop, h⟩ := ok_of_check_then h
    obtain ⟨hleft, hright⟩ := ok_of_check_then h
    exact supported_bind (eval_supported left hleft) fun a =>
      supported_bind (eval_supported right hright) fun b =>
        supported_bind (supported_binary hop a b) fun result => supported_ok _
  | .compare first rest, h => by
    obtain ⟨hfirst, hrest⟩ := ok_of_check_then h
    exact supported_bind (eval_supported first hfirst) fun a => evalChain_supported a rest hrest
  | .choice test yes no, h => by
    obtain ⟨htest, h⟩ := ok_of_check_then h
    obtain ⟨hyes, hno⟩ := ok_of_check_then h
    refine supported_bind (eval_supported test htest) fun d => ?_
    split
    · exact eval_supported yes hyes
    · exact eval_supported no hno
  | .call function arguments named, h => by
    rw [check] at h
    cases hcalled : calledName function with
    | error objection =>
      rw [hcalled] at h
      cases h
    | ok id =>
      rw [hcalled] at h
      obtain ⟨-, harguments⟩ := ok_of_check_then h
      obtain ⟨helper, hhelper⟩ := helper?_of_calledName hcalled
      rw [eval, hhelper]
      exact supported_bind (evalAll_supported arguments harguments) fun ds =>
        supported_bind (supported_lift _) fun result => supported_ok _

theorem evalAll_supported : ∀ es, checkAll es = .ok () → Supported (evalAll scope es)
  | [], _ => supported_ok _
  | e :: es, h => by
    obtain ⟨he, hes⟩ := ok_of_check_then h
    exact supported_bind (eval_supported e he) fun d =>
      supported_bind (evalAll_supported es hes) fun ds => supported_ok _

theorem evalLogic_supported (op : Connective) (last : Datum) :
    ∀ es, checkAll es = .ok () → Supported (evalLogic scope op last es)
  | [], _ => supported_ok _
  | e :: es, h => by
    obtain ⟨he, hes⟩ := ok_of_check_then h
    refine supported_bind (eval_supported e he) fun d => ?_
    split
    · exact supported_ok _
    · exact evalLogic_supported op d es hes

theorem evalChain_supported (left : Datum) :
    ∀ rest, checkRelated rest = .ok () → Supported (evalChain scope left rest)
  | [], _ => supported_ok _
  | (r, e) :: rest, h => by
    obtain ⟨he, hrest⟩ := ok_of_check_then h
    refine supported_bind (eval_supported e he) fun right => ?_
    refine supported_bind (supported_lift _) fun holds => ?_
    split
    · exact evalChain_supported right rest hrest
    · exact supported_ok _

end

end MockApi.Predicate

namespace MockApi

open Predicate (Scope)

/-! ## Selecting a case -/

theorem Predicate.exists_fails (scope : Scope) (p : Predicate) : ∃ b, p.fails scope = .ok b := by
  have h := @Predicate.eval_supported scope p.expr p.allowed
  simp only [Predicate.fails, Predicate.verdict, Predicate.evaluate]
  cases heval : Predicate.eval scope p.expr with
  | ok d => exact ⟨_, rfl⟩
  | error e =>
    cases e with
    | fault fault => exact ⟨true, rfl⟩
    | unsupported => exact absurd heval h

theorem ExceptCase.exists_fires (scope : Scope) (c : ExceptCase) : ∃ b, c.fires scope = .ok b := by
  rw [ExceptCase.fires]
  induction c.predicates with
  | nil => exact ⟨false, rfl⟩
  | cons p ps ih =>
    obtain ⟨b, hb⟩ := p.exists_fails scope
    rw [List.anyM, hb]
    cases b with
    | true => exact ⟨true, rfl⟩
    | false => exact ih

/-- **A case is selected or not**, in every scope: no predicate is refused. -/
theorem exists_selectCase (scope : Scope) (cases : List ExceptCase) :
    ∃ case?, selectCase scope cases = .ok case? ∧ ∀ c ∈ case?, c ∈ cases := by
  rw [selectCase]
  induction cases with
  | nil => exact ⟨none, rfl, nofun⟩
  | cons c cs ih =>
    obtain ⟨b, hb⟩ := c.exists_fires scope
    rw [List.findM?, hb]
    cases b with
    | true => exact ⟨some c, rfl, by simp⟩
    | false =>
      obtain ⟨case?, hselect, hmem⟩ := ih
      exact ⟨case?, hselect, fun c hc => List.mem_cons_of_mem _ (hmem c hc)⟩

end MockApi
