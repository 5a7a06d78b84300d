import MockApi.Proofs.Lookup
import MockApi.Proofs.Naming
import MockApi.Proofs.Normalizing

/-!
# Guards have a value

A guard is a predicate that looks data up, compares them for equality and decides: it has no arithmetic,
no order, no membership and no function but the one that asks whether something is there. No scope makes
it fault, so a case it guards fires only because the guard fails.

* `Expr.isGuard` : the expressions that make a guard;
* `IsName id` : the normal form of an identifier, as the names among tokens are (`isName_of_namedIn`);
* `Faultless r` : a result that is not a fault;
* `eval_faultless` : guards are faultless, in every scope;
* `evaluate_ok_of_isGuard` : a guard has a value.
-/

namespace MockApi

namespace Predicate

variable {α β : Type} {scope : Scope} {e : Expr} {ts : List Token} {text : List Char} {fuel : Nat}

/-! ## Guards -/

def Constant.isNumber : Constant → Bool
  | .bool _ => true
  | .int _ => true
  | .float _ => true
  | _ => false

def Expr.isNumeral : Expr → Bool
  | .constant c => c.isNumber
  | _ => false

/-- A comparison for equality or identity. -/
def Relation.isEquality : Relation → Bool
  | .eq => true
  | .ne => true
  | .same => true
  | .notSame => true
  | _ => false

mutual

/-- Whether an expression is a guard: literals and roots, attributes and keys, lists, connectives,
comparisons for equality or identity, choices, and the question whether something is there. A numeral may
have a sign. -/
def Expr.isGuard : Expr → Bool
  | .constant _ => true
  | .name _ => true
  | .attribute base _ => base.isGuard
  | .subscript base key => base.isGuard && key.isGuard
  | .list items => areGuards items
  | .tuple items => areGuards items
  | .logic _ operands => areGuards operands
  | .unary .not operand => operand.isGuard
  | .unary _ operand => operand.isNumeral
  | .compare first rest => first.isGuard && areEqualities rest
  | .choice test yes no => test.isGuard && yes.isGuard && no.isGuard
  | .call function [argument] _ => function.helper? == some .present && argument.isGuard
  | _ => false

def areGuards : List Expr → Bool
  | [] => true
  | e :: rest => e.isGuard && areGuards rest

def areEqualities : List (Relation × Expr) → Bool
  | [] => true
  | (r, e) :: rest => r.isEquality && e.isGuard && areEqualities rest

end

/-! ## Names among tokens -/

/-- The normal form of an identifier. -/
def IsName (id : String) : Prop :=
  ∃ word, Text.isIdentifier word = true ∧ id = String.ofList (Text.normalForm word)

/-- A name is neither an index nor a numeral that is none. -/
theorem IsName.indexOf? {id : String} (h : IsName id) :
    Path.indexOf? (Text.ofString id) = .ok none := by
  obtain ⟨word, hword, rfl⟩ := h
  rw [Path.indexOf?, Text.ofString, String.toList_ofList, Text.isAllDigits_normalForm hword]
  rfl

/-- A token that is a name is the normal form of an identifier. -/
def Token.Proper (token : Token) : Prop := ∀ id, token = .name id → IsName id

theorem proper_literalToken {letters body : List Char} :
    ∀ token ∈ literalToken letters body, token.Proper := by
  unfold literalToken
  dsimp only
  split
  · split
    · exact forall_mem_map (fun _ _ => trivial) fun _ _ => nofun
    · exact nofun
  · split
    · exact forall_mem_map (fun _ _ => trivial) fun _ _ => nofun
    · exact forall_mem_map (fun _ _ => trivial) fun _ _ => nofun

theorem proper_scanLiteral {letters : List Char} {quote : Char} :
    ∀ x ∈ scanLiteral letters quote text, x.1.Proper := by
  have htoken : ∀ body rest, ∀ x ∈ (literalToken letters body >>= fun token =>
      some (token, (rest : List Char))), x.1.Proper := fun body rest =>
    forall_mem_bind proper_literalToken fun token htoken => forall_mem_some htoken
  unfold scanLiteral
  dsimp only
  split
  · exact forall_mem_bind (fun _ _ => trivial) fun x _ => htoken x.1 x.2
  · exact forall_mem_bind (fun _ _ => trivial) fun x _ => htoken x.1 x.2

theorem proper_scanWord : ∀ x ∈ scanWord text, x.1.Proper := by
  unfold scanWord
  dsimp only
  split
  · next hword =>
    rintro _ ⟨⟩ id hid
    refine ⟨_, hword, ?_⟩
    dsimp only at hid
    unfold Token.ofWord at hid
    split at hid
    · cases hid
    · cases hid
      rfl
  · exact nofun

theorem proper_scanMark : ∀ x ∈ scanMark text, x.1.Proper := by
  intro x hx
  obtain ⟨mark, -, hmark⟩ := List.exists_of_findSome?_eq_some hx
  obtain ⟨rest, -, rfl⟩ := Option.map_eq_some_iff.1 hmark
  exact nofun

theorem proper_scanToken : ∀ x ∈ scanToken text, x.1.Proper := by
  unfold scanToken
  split
  · exact proper_scanLiteral
  · split
    · exact nofun
    · split
      · exact forall_mem_map (fun _ _ => trivial) fun _ _ => nofun
      · split
        · exact proper_scanWord
        · exact proper_scanMark

theorem named_cons {token : Token} (htoken : token.Proper) (hts : Named IsName ts) :
    Named IsName (token :: ts) := by
  intro id hid
  obtain rfl | hid := List.mem_cons.1 hid
  · exact htoken id rfl
  · exact hts id hid

/-- The names among the tokens of a text are normal forms of identifiers. -/
theorem named_lexFrom (depth : Nat) : ∀ ts ∈ lexFrom fuel depth text, Named IsName ts := by
  induction fuel generalizing depth text with
  | zero => exact nofun
  | succ fuel ih =>
    cases text with
    | nil => exact forall_mem_some nofun
    | cons c rest =>
      rw [lexFrom.eq_def]
      dsimp only
      split
      · split
        · exact ih depth
        · split
          · exact forall_mem_some nofun
          · exact nofun
      · split
        · exact ih depth
        · split
          · exact ih depth
          · split
            · split
              · exact ih depth
              · exact nofun
            · refine forall_mem_bind proper_scanToken fun x hx => ?_
              split
              · exact nofun
              · refine forall_mem_bind (ih _) fun ts hts => ?_
                exact forall_mem_some (named_cons hx hts)

theorem isName_of_namedIn {source : Text} {id : String} (h : NamedIn source id) : IsName id := by
  obtain ⟨ts, hlex, hid⟩ := h
  obtain ⟨text, -, hfrom⟩ := Option.bind_eq_some_iff.1 hlex
  exact named_lexFrom 0 ts hfrom id hid

/-! ## Paths of names -/

namespace Datum

theorem exists_child {segment : Text} (h : ∃ i?, Path.indexOf? segment = .ok i?) (d : Datum) :
    ∃ found, child segment d = .ok found := by
  obtain ⟨i?, hi⟩ := h
  cases d with
  | list items =>
    simp only [child, hi]
    cases i? <;> exact ⟨_, rfl⟩
  | _ => exact ⟨_, rfl⟩

/-- A path whose segments can be read is followed in every datum. -/
theorem exists_follow {segments : List Text} (h : ∀ s ∈ segments, ∃ i?, Path.indexOf? s = .ok i?)
    (d : Datum) : ∃ found, follow segments d = .ok found := by
  induction segments generalizing d with
  | nil => exact ⟨d, rfl⟩
  | cons segment rest ih =>
    obtain ⟨hsegment, hrest⟩ := List.forall_mem_cons.1 h
    have hdown : ∃ found, (do
        let found ← child segment d
        if found.isContainer then follow rest found else return found) = .ok found := by
      obtain ⟨found, hfound⟩ := exists_child hsegment d
      rw [hfound]
      cases hcontainer : found.isContainer with
      | true => simpa [bind, Except.bind, hcontainer] using ih hrest found
      | false => simp [bind, Except.bind, hcontainer, pure, Except.pure]
    rw [follow.eq_def]
    dsimp only
    split
    · next items _ =>
      split
      · obtain ⟨found, hfound⟩ := Path.exists_mapM (ih hrest) items
        rw [hfound]
        exact ⟨_, rfl⟩
      · exact hdown
    · exact hdown

end Datum

theorem exists_follow {names : List String} (hnames : ∀ name ∈ names, IsName name) (scope : Scope)
    (root : String) : ∃ d, scope.follow root names = .ok d := by
  unfold Scope.follow
  dsimp only
  split
  · refine Datum.exists_follow ?_ _
    intro segment hsegment
    obtain ⟨name, hname, rfl⟩ := List.mem_map.1 hsegment
    exact ⟨none, (hnames name hname).indexOf?⟩
  · exact ⟨_, rfl⟩

theorem names_of_dotted? {N : String → Prop} {root : String} {names : List String} (hN : e.Uses N)
    (h : e.dotted? = some (root, names)) : ∀ name ∈ names, N name := by
  intro name hname
  obtain ⟨base, hoccurs⟩ := (Expr.occurs_of_dotted? h).2 name hname
  exact hN _ hoccurs name rfl

/-! ## Evaluation -/

def Faultless (r : Except EvalError α) : Prop := ∀ fault, r ≠ .error (.fault fault)

theorem faultless_ok (a : α) : Faultless (.ok a) := nofun

theorem faultless_bind {r : Except EvalError α} {f : α → Except EvalError β} (hr : Faultless r)
    (hf : ∀ a, Faultless (f a)) : Faultless (r >>= f) := by
  cases r with
  | ok a => exact hf a
  | error e =>
    intro fault h
    cases h
    exact hr fault rfl

theorem faultless_constant (c : Constant) : Faultless (eval scope (.constant c)) := by
  cases c <;> exact nofun

/-- A numeral with a sign is a number. -/
theorem faultless_signed {operand : Expr} (h : operand.isNumeral = true) (op : UnaryOp) :
    Faultless (eval scope (.unary op operand)) := by
  cases operand with
  | constant c =>
    cases c with
    | bool | int | float => cases op <;> exact nofun
    | _ => cases h
  | _ => cases h

theorem faultless_holds {r : Relation} (h : r.isEquality = true) (a b : Datum) :
    Faultless (lift (some (r.holds a b))) := by
  cases r with
  | eq | ne | same | notSame => exact faultless_ok _
  | _ => cases h

mutual

/-- **Guards are faultless**, whatever the roots stand for. -/
theorem eval_faultless : ∀ e, e.isGuard = true → e.Uses IsName → Faultless (eval scope e)
  | .constant c, _, _ => faultless_constant c
  | .name id, _, _ => faultless_ok _
  | .attribute base name, h, hnames => by
    rw [Expr.isGuard] at h
    rw [eval]
    split
    · next root names hdotted =>
      have hchain : (Expr.attribute base name).dotted? = some (root, names ++ [name]) := by
        rw [Expr.dotted?, hdotted, Option.map_some]
      obtain ⟨d, hd⟩ := exists_follow (names_of_dotted? hnames hchain) scope root
      rw [hd]
      exact faultless_ok d
    · have hbase := hnames.operand base List.mem_cons_self
      exact faultless_bind (eval_faultless base h hbase) fun d => faultless_ok _
  | .subscript base key, h, hnames => by
    rw [Expr.isGuard, Bool.and_eq_true] at h
    have hbase := eval_faultless base h.1 (hnames.operand base (by simp [Expr.operands]))
    have hkey := eval_faultless key h.2 (hnames.operand key (by simp [Expr.operands]))
    exact faultless_bind hbase fun d => faultless_bind hkey fun k => faultless_ok _
  | .list items, h, hnames =>
    faultless_bind (evalAll_faultless items h hnames.operand) fun ds => faultless_ok _
  | .tuple items, h, hnames =>
    faultless_bind (evalAll_faultless items h hnames.operand) fun ds => faultless_ok _
  | .logic op operands, h, hnames => evalLogic_faultless op .null operands h hnames.operand
  | .unary .not operand, h, hnames =>
    faultless_bind (eval_faultless operand h (hnames.operand operand List.mem_cons_self))
      fun d => faultless_ok _
  | .unary .neg operand, h, _ => faultless_signed h .neg
  | .unary .pos operand, h, _ => faultless_signed h .pos
  | .unary (.foreign sign) operand, h, _ => faultless_signed h (.foreign sign)
  | .compare first rest, h, hnames => by
    rw [Expr.isGuard, Bool.and_eq_true] at h
    have hfirst := eval_faultless first h.1 (hnames.operand first List.mem_cons_self)
    refine faultless_bind hfirst fun a => evalChain_faultless a rest h.2 fun x hx => ?_
    exact hnames.operand x.2 (List.mem_cons_of_mem _ (List.mem_map_of_mem hx))
  | .choice test yes no, h, hnames => by
    rw [Expr.isGuard, Bool.and_eq_true, Bool.and_eq_true] at h
    obtain ⟨⟨htest, hyes⟩, hno⟩ := h
    refine faultless_bind
      (eval_faultless test htest (hnames.operand test (by simp [Expr.operands]))) fun d => ?_
    split
    · exact eval_faultless yes hyes (hnames.operand yes (by simp [Expr.operands]))
    · exact eval_faultless no hno (hnames.operand no (by simp [Expr.operands]))
  | .call function [argument] named, h, hnames => by
    rw [Expr.isGuard, Bool.and_eq_true, beq_iff_eq] at h
    have hargument := eval_faultless argument h.2 (hnames.operand argument List.mem_cons_self)
    rw [eval, h.1]
    dsimp only
    cases hvalue : eval scope argument with
    | ok d =>
      rw [evalAll, evalAll, hvalue]
      exact faultless_ok _
    | error e =>
      rw [evalAll, hvalue]
      rintro fault ⟨⟩
      exact hargument fault hvalue

theorem evalAll_faultless : ∀ es, areGuards es = true → (∀ e ∈ es, e.Uses IsName) →
    Faultless (evalAll scope es)
  | [], _, _ => faultless_ok _
  | e :: es, h, hnames => by
    rw [areGuards, Bool.and_eq_true] at h
    obtain ⟨he, hes⟩ := List.forall_mem_cons.1 hnames
    exact faultless_bind (eval_faultless e h.1 he) fun d =>
      faultless_bind (evalAll_faultless es h.2 hes) fun ds => faultless_ok _

theorem evalLogic_faultless (op : Connective) (last : Datum) : ∀ es, areGuards es = true →
    (∀ e ∈ es, e.Uses IsName) → Faultless (evalLogic scope op last es)
  | [], _, _ => faultless_ok _
  | e :: es, h, hnames => by
    rw [areGuards, Bool.and_eq_true] at h
    obtain ⟨he, hes⟩ := List.forall_mem_cons.1 hnames
    refine faultless_bind (eval_faultless e h.1 he) fun d => ?_
    split
    · exact faultless_ok _
    · exact evalLogic_faultless op d es h.2 hes

theorem evalChain_faultless (left : Datum) : ∀ rest, areEqualities rest = true →
    (∀ x ∈ rest, x.2.Uses IsName) → Faultless (evalChain scope left rest)
  | [], _, _ => faultless_ok _
  | (r, e) :: rest, h, hnames => by
    rw [areEqualities, Bool.and_eq_true, Bool.and_eq_true] at h
    obtain ⟨⟨hr, he⟩, hrest⟩ := h
    obtain ⟨hname, hnames⟩ := List.forall_mem_cons.1 hnames
    refine faultless_bind (eval_faultless e he hname) fun right => ?_
    refine faultless_bind (faultless_holds hr left right) fun holds => ?_
    split
    · exact evalChain_faultless right rest hrest hnames
    · exact faultless_ok _

end

/-- **Guards have a value.** The predicate of a source that is a guard has a value in every scope,
whatever is missing there or is of another kind, and so a verdict; a case it guards fires if and only if
that is to fail. -/
theorem evaluate_ok_of_isGuard {source : Text} {p : Predicate} (h : ofSource source = .ok p)
    (hguard : p.expr.isGuard = true) (scope : Scope) :
    ∃ d, p.evaluate scope = .ok d ∧ p.verdict scope = .ok (.ofDatum d) ∧
      p.fails scope = .ok (Verdict.ofDatum d == .fail) := by
  have hnames : p.expr.Uses IsName := fun part hpart id hid =>
    isName_of_namedIn (uses_of_ofSource h part hpart id hid)
  obtain ⟨d, hd⟩ | ⟨fault, hfault⟩ := (ofSource_supported h scope).2.1
  · have hverdict : p.verdict scope = .ok (.ofDatum d) := by
      rw [verdict, hd]
      rfl
    exact ⟨d, hd, hverdict, by rw [fails, hverdict]⟩
  · exact absurd hfault (eval_faultless p.expr hguard hnames fault)

/-- A guard with look-ups of several kinds, where the payload is a text and headers are missing. -/
theorem evaluate_ok_of_isGuard_missing :
    let source : Text := "payload.items[-1]['n'].a == [route, (1, True)] or not exists(headers[query.k])"
    let scope : Scope :=
      .ofRequest .standard .null (.object [("k", .int 3)]) .empty (.text "body")
    ∃ p, ofSource source = .ok p ∧ p.expr.isGuard = true ∧ ∃ d, p.evaluate scope = .ok d ∧
      p.verdict scope = .ok (.ofDatum d) ∧ p.fails scope = .ok (Verdict.ofDatum d == .fail) := by
  intro source scope
  have haccepted : ((ofSource source).toOption.any fun p => p.expr.isGuard) = true := by
    decide +kernel
  cases hp : ofSource source with
  | ok p =>
    rw [hp] at haccepted
    exact ⟨p, rfl, haccepted, evaluate_ok_of_isGuard hp haccepted scope⟩
  | error objection =>
    rw [hp] at haccepted
    cases haccepted

end Predicate

end MockApi
