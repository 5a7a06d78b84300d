import MockApi.Proofs.Naming

/-!
# Chains of comparisons

A chain of comparisons asks for all of them, one after the other, so it is a conjunction in which each
operand between two others is written twice.

* `links first rest` : the comparisons of a chain, each on its own;
* `conjunction first rest` : their conjunction;
* `evalChain_eq_evalLogic` : the walk along a chain is the walk through its links;
* `evalChain_stops` : a chain that has failed does not look at the operands behind;
* `eval_compare_eq_conjunction` : a chain and its conjunction are evaluated alike;
* `eval_name_same` : what a request brings along is one object, however often it is looked up.
-/

namespace MockApi.Predicate

variable {scope : Scope} {first e : Expr} {rest held : List (Relation × Expr)} {r : Relation}
  {left right d : Datum}

/-- The comparisons of a chain, each on its own. -/
def links : Expr → List (Relation × Expr) → List Expr
  | _, [] => []
  | first, (r, e) :: rest => .compare first [(r, e)] :: links e rest

def conjunction (first : Expr) (rest : List (Relation × Expr)) : Expr :=
  .logic .and (links first rest)

/-! ## The check -/

theorem check_link (hfirst : check first = .ok ()) (he : check e = .ok ()) :
    check (.compare first [(r, e)]) = .ok () := by
  rw [check, checkRelated, checkRelated, hfirst, he]
  rfl

/-- What predicates may use in a chain they may use in its links. -/
theorem checkAll_links (hfirst : check first = .ok ()) (hrest : checkRelated rest = .ok ()) :
    checkAll (links first rest) = .ok () := by
  induction rest generalizing first with
  | nil => rfl
  | cons x rest ih =>
    obtain ⟨r, e⟩ := x
    obtain ⟨he, hrest⟩ := ok_of_check_then hrest
    rw [links, checkAll, check_link hfirst he, ih he hrest]
    rfl

/-! ## The evaluation -/

/-- A step along a chain, to an operand that has a value. -/
theorem evalChain_step (he : eval scope e = .ok right) :
    evalChain scope left ((r, e) :: rest) = (do
      let holds ← lift (some (r.holds left right))
      if holds then evalChain scope right rest else return .bool false) := by
  rw [evalChain, he]
  rfl

/-- A comparison on its own is a chain of one step. -/
theorem eval_link (hfirst : eval scope first = .ok left) :
    eval scope (.compare first [(r, e)]) = evalChain scope left [(r, e)] := by
  rw [eval, hfirst]
  rfl

/-- The walk along a chain, from the value of its first operand on, is the walk through its links. They
evaluate an operand between two others once more. It has the same value again; where that is an object
that was looked up or that is kept, it is the same one, and where it is a new one, no other operand is
either of the two. -/
theorem evalChain_eq_evalLogic (hfirst : eval scope first = .ok left) :
    evalChain scope left rest = evalLogic scope .and (.bool true) (links first rest) := by
  induction rest generalizing first left with
  | nil => rfl
  | cons x rest ih =>
    obtain ⟨r, e⟩ := x
    rw [links, evalLogic, eval_link hfirst]
    cases hright : eval scope e with
    | error fault =>
      rw [evalChain, evalChain, hright]
      rfl
    | ok right =>
      rw [evalChain_step hright, evalChain_step hright]
      cases lift (some (r.holds left right)) with
      | error fault => rfl
      | ok holds =>
        cases holds with
        | false => rfl
        | true => exact ih hright

theorem eval_compare_eq (hrest : rest ≠ []) :
    eval scope (.compare first rest) = eval scope (conjunction first rest) := by
  obtain ⟨x, rest, rfl⟩ := List.exists_cons_of_ne_nil hrest
  cases hfirst : eval scope first with
  | ok left =>
    rw [eval, hfirst]
    exact evalChain_eq_evalLogic hfirst
  | error fault =>
    rw [conjunction, eval, eval, links, evalLogic, eval, hfirst]
    rfl

/-- A chain is true or false. -/
theorem exists_bool_of_evalChain (h : evalChain scope left rest = .ok d) : ∃ b, d = .bool b := by
  induction rest generalizing left with
  | nil =>
    cases h
    exact ⟨true, rfl⟩
  | cons x rest ih =>
    obtain ⟨right, -, h⟩ := ok_of_bind h
    obtain ⟨holds, -, h⟩ := ok_of_bind h
    cases holds with
    | false =>
      cases h
      exact ⟨false, rfl⟩
    | true => exact ih h

/-- A chain that is false up to one of its operands is so whatever stands behind. -/
theorem evalChain_stops (h : evalChain scope left (held ++ [(r, e)]) = .ok (.bool false))
    (others : List (Relation × Expr)) :
    evalChain scope left (held ++ (r, e) :: others) = .ok (.bool false) := by
  induction held generalizing left with
  | nil =>
    obtain ⟨right, hright, h⟩ := ok_of_bind h
    obtain ⟨holds, hholds, h⟩ := ok_of_bind h
    rw [List.nil_append, evalChain_step hright, hholds]
    cases holds with
    | false => rfl
    | true => cases h
  | cons x held ih =>
    obtain ⟨r', e'⟩ := x
    obtain ⟨right, hright, h⟩ := ok_of_bind h
    obtain ⟨holds, hholds, h⟩ := ok_of_bind h
    rw [List.cons_append, evalChain_step hright, hholds]
    cases holds with
    | false => rfl
    | true => exact ih h

/-- **A chain of comparisons means their conjunction.** The conjunction of an accepted chain is accepted
too. In every scope the two have the same value, which is true or false, or the same fault. Once the
chain is false up to an operand, both are false with any operands behind it, also such as have no value:
these are not evaluated. -/
theorem eval_compare_eq_conjunction (hcheck : check (.compare first rest) = .ok ()) (hrest : rest ≠ [])
    (scope : Scope) :
    check (conjunction first rest) = .ok () ∧
      ((∃ b, eval scope (.compare first rest) = .ok (.bool b) ∧
          eval scope (conjunction first rest) = .ok (.bool b)) ∨
        ∃ fault, eval scope (.compare first rest) = .error (.fault fault) ∧
          eval scope (conjunction first rest) = .error (.fault fault)) ∧
      ∀ held r e skipped, rest = held ++ (r, e) :: skipped →
        eval scope (.compare first (held ++ [(r, e)])) = .ok (.bool false) → ∀ others,
          eval scope (.compare first (held ++ (r, e) :: others)) = .ok (.bool false) ∧
            eval scope (conjunction first (held ++ (r, e) :: others)) = .ok (.bool false) := by
  obtain ⟨hfirst, hrelated⟩ := ok_of_check_then hcheck
  have halike : eval scope (.compare first rest) = eval scope (conjunction first rest) :=
    eval_compare_eq hrest
  refine ⟨checkAll_links hfirst hrelated, ?_, ?_⟩
  · rw [← halike]
    cases hchain : eval scope (.compare first rest) with
    | ok d =>
      obtain ⟨left, -, hwalk⟩ := ok_of_bind (hchain : (eval scope first >>= _) = _)
      obtain ⟨b, rfl⟩ := exists_bool_of_evalChain hwalk
      exact .inl ⟨b, rfl, rfl⟩
    | error e =>
      cases e with
      | fault fault => exact .inr ⟨fault, rfl, rfl⟩
      | unsupported => exact absurd hchain (eval_supported _ hcheck)
  · rintro held r e - - hfalse others
    have hstops : eval scope (.compare first (held ++ (r, e) :: others)) = .ok (.bool false) := by
      obtain ⟨left, hleft, hwalk⟩ := ok_of_bind (hfalse : (eval scope first >>= _) = _)
      rw [eval, hleft]
      exact evalChain_stops hwalk others
    have hne : held ++ (r, e) :: others ≠ [] := List.append_ne_nil_of_right_ne_nil _ (List.cons_ne_nil _ _)
    exact ⟨hstops, by rw [← eval_compare_eq hne, hstops]⟩

/-- The expression of a predicate is what its tokens are read as. -/
theorem expr_of_tokens {source : Text} {p : Predicate} (h : ofSource source = .ok p) (ts : List Token)
    (hlex : lex (Text.lossy (Text.strip source)).toList = some ts) (hread : parseTokens ts = some e) :
    p.expr = e := by
  obtain ⟨ts', hlex', hread'⟩ := exists_tokens_of_parse (parts_of_ofSource h).2
  obtain rfl := Option.some.inj (hlex.symm.trans hlex')
  exact Option.some.inj (hread'.symm.trans hread)

/-- A chain of three comparisons and its conjunction as sources. The second comparison fails, so that
nothing is divided by zero. -/
theorem eval_compare_eq_conjunction_stopped :
    let query : Value := .object [("a", .text "x"), ("b", .text "y")]
    let scope : Scope := .ofRequest .standard .null query .empty .null
    let one : Expr := .constant (.int 1)
    let zero : Expr := .constant (.int 0)
    let size : Expr := .call (.name "len") [.name "query"] false
    let rest : List (Relation × Expr) := [(.lt, size), (.le, zero), (.eq, .binary .div one zero)]
    ∃ p q, ofSource "1 < len(query) <= 0 == 1 / 0" = .ok p ∧
      ofSource "(1 < len(query)) and (len(query) <= 0) and (0 == 1 / 0)" = .ok q ∧
      p.expr = .compare one rest ∧ q.expr = conjunction one rest ∧
      p.evaluate scope = .ok (.bool false) ∧ q.evaluate scope = .ok (.bool false) ∧
      eval scope (.binary .div one zero) = .error (.fault .divisionByZero) := by
  intro query scope one zero size rest
  obtain ⟨p, hp⟩ := exists_of_isOk
    (show (ofSource "1 < len(query) <= 0 == 1 / 0").isOk = true by decide +kernel)
  obtain ⟨q, hq⟩ := exists_of_isOk
    (show (ofSource "(1 < len(query)) and (len(query) <= 0) and (0 == 1 / 0)").isOk = true by
      decide +kernel)
  have hchain : p.expr = .compare one rest := expr_of_tokens hp
    [.number (.int 1), .mark "<", .name "len", .mark "(", .name "query", .mark ")", .mark "<=",
      .number (.int 0), .mark "==", .number (.int 1), .mark "/", .number (.int 0)]
    (by decide +kernel) rfl
  have hconjunction : q.expr = conjunction one rest := expr_of_tokens hq
    [.mark "(", .number (.int 1), .mark "<", .name "len", .mark "(", .name "query", .mark ")",
      .mark ")", .word "and", .mark "(", .name "len", .mark "(", .name "query", .mark ")", .mark "<=",
      .number (.int 0), .mark ")", .word "and", .mark "(", .number (.int 0), .mark "==",
      .number (.int 1), .mark "/", .number (.int 0), .mark ")"]
    (by decide +kernel) rfl
  have hallowed : check (.compare one rest) = .ok () := by rw [← hchain, p.allowed]
  obtain ⟨-, -, hstops⟩ := eval_compare_eq_conjunction hallowed (List.cons_ne_nil _ _) scope
  obtain ⟨hfalse, hfalse'⟩ := hstops [(.lt, size)] .le zero [(.eq, .binary .div one zero)] rfl rfl
    [(.eq, .binary .div one zero)]
  exact ⟨p, q, hp, hq, hchain, hconjunction, by rw [evaluate, hchain]; exact hfalse,
    by rw [evaluate, hconjunction]; exact hfalse', rfl⟩

/-! ## Objects that are looked up again -/

theorem Runtime.same_identityAt (runtime : Runtime) (place : Place) (v : Value) :
    (runtime.identityAt place v).same (runtime.identityAt place v) = true := by
  unfold identityAt
  cases runtime.given place v <;> simp [Identity.same]

/-- A part of a request is one object with itself. -/
theorem Datum.same_ofValue (runtime : Runtime) (place : Place) (v : Value) :
    (ofValue runtime place v).same (ofValue runtime place v) = true := by
  cases v with
  | null => rfl
  | bool b => exact beq_self_eq_true b
  | list _ => exact beq_self_eq_true (Identity.placed place)
  | object _ => exact beq_self_eq_true (Identity.placed place)
  | int n => exact runtime.same_identityAt place (.int n)
  | float x => exact runtime.same_identityAt place (.float x)
  | text s => exact runtime.same_identityAt place (.text s)

theorem Scope.same_get_ofRequest (runtime : Runtime) (route query payload : Value)
    (headers : HeaderMap) (id : String) :
    ((ofRequest runtime route query headers payload).get id).same
      ((ofRequest runtime route query headers payload).get id) = true := by
  unfold get
  split
  · next root _ =>
    cases root with
    | route => exact Datum.same_ofValue runtime _ route
    | query => exact Datum.same_ofValue runtime _ query
    | headers => exact beq_self_eq_true (Identity.placed (.root .headers))
    | payload => exact Datum.same_ofValue runtime _ payload
  · rfl

/-- **A name stands for one object**, however often it is evaluated. -/
theorem eval_name_same (runtime : Runtime) (route query payload : Value) (headers : HeaderMap)
    (id : String) : eval (.ofRequest runtime route query headers payload)
      (.compare (.name id) [(.same, .name id)]) = .ok (.bool true) := by
  have hsame := Scope.same_get_ofRequest runtime route query payload headers id
  simp only [eval, evalChain, Relation.holds, lift, bind, Except.bind, hsame, if_true]

example : eval (.ofRequest .standard .null .null .empty .null) (.compare (.constant (.int 1))
    [(.same, .constant (.int 1)), (.same, .constant (.int 1))]) = .ok (.bool true) := by rfl

end MockApi.Predicate
