import MockApi.Proofs.Language

/-!
# Names in predicates

* `Expr.Uses N e` : every name in an expression, of a root or of an attribute, satisfies `N`;
* `Named N ts` : every name among the tokens does;
* `Parses N fuel` : what the parser reads with so much fuel from such tokens uses such names, and it
  leaves such tokens; `parses` has this for any fuel;
* `NamedIn source id` : a name is among the tokens of a source;
* `uses_of_ofSource` : a predicate uses no names but those in its source.
-/

namespace MockApi.Predicate

variable {N : String → Prop} {e left : Expr} {ts rest : List Token} {fuel level : Nat}

/-! ## Names in an expression -/

/-- The name that an expression has itself, of a root or of an attribute. -/
def Expr.label? : Expr → Option String
  | .name id => some id
  | .attribute _ attr => some attr
  | _ => none

/-- All names at the places of an expression satisfy `N`. -/
def Expr.Uses (N : String → Prop) (e : Expr) : Prop :=
  ∀ part, Occurs part e → ∀ id ∈ part.label?, N id

namespace Expr

theorem uses_of_label (hlabel : ∀ id ∈ e.label?, N id)
    (hoperands : ∀ operand ∈ e.operands, operand.Uses N) : e.Uses N := by
  intro part hpart
  cases hpart with
  | here => exact hlabel
  | inside hmem hpart => exact hoperands _ hmem part hpart

/-- An expression that is no name uses the names in its operands. -/
theorem uses_of_operands (hlabel : e.label? = none)
    (hoperands : ∀ operand ∈ e.operands, operand.Uses N) : e.Uses N :=
  uses_of_label (by simp [hlabel]) hoperands

theorem Uses.operand (h : e.Uses N) : ∀ operand ∈ e.operands, operand.Uses N :=
  fun _ hmem part hpart => h part (.inside hmem hpart)

theorem uses_constant (c : Constant) : (Expr.constant c).Uses N :=
  uses_of_operands rfl (List.forall_mem_nil _)

theorem uses_foreign (kind : String) : (Expr.foreign kind).Uses N :=
  uses_of_operands rfl (List.forall_mem_nil _)

theorem uses_name {id : String} (h : N id) : (Expr.name id).Uses N :=
  uses_of_label (by rintro _ ⟨⟩; exact h) (List.forall_mem_nil _)

theorem uses_attribute {base : Expr} {attr : String} (h : N attr) (hbase : base.Uses N) :
    (Expr.attribute base attr).Uses N :=
  uses_of_label (by rintro _ ⟨⟩; exact h) (by simpa [operands] using hbase)

/-- The name that a chain of attributes starts with occurs in it, and so do the attributes. -/
theorem occurs_of_dotted? {root : String} {names : List String} (h : e.dotted? = some (root, names)) :
    Occurs (.name root) e ∧ ∀ attr ∈ names, ∃ base, Occurs (.attribute base attr) e := by
  induction e using dotted?.induct generalizing names with
  | case1 id =>
    cases h
    exact ⟨.here, nofun⟩
  | case2 base attr ih =>
    rw [dotted?, Option.map_eq_some_iff] at h
    obtain ⟨⟨root', names'⟩, hbase, hsame⟩ := h
    cases hsame
    obtain ⟨hroot, hnames⟩ := ih hbase
    refine ⟨.inside List.mem_cons_self hroot, fun other hother => ?_⟩
    obtain hother | hother := List.mem_append.1 hother
    · obtain ⟨inner, hinner⟩ := hnames other hother
      exact ⟨inner, .inside List.mem_cons_self hinner⟩
    · rw [List.mem_singleton.1 hother]
      exact ⟨base, .here⟩
  | case3 e hname hattribute =>
    rw [dotted?] at h
    · cases h
    · exact hname
    · exact hattribute

end Expr

/-! ## Names among tokens -/

/-- All names among the tokens satisfy `N`. -/
def Named (N : String → Prop) (ts : List Token) : Prop := ∀ id, Token.name id ∈ ts → N id

theorem Named.tail {t : Token} (h : Named N (t :: ts)) : Named N ts :=
  fun id hid => h id (List.mem_cons_of_mem _ hid)

theorem Named.mark (h : Named N ts) (text : String) : ∀ rest ∈ mark? text ts, Named N rest := by
  unfold mark?
  split
  · split
    · rintro _ ⟨⟩
      exact h.tail
    · nofun
  · nofun

theorem Named.word (h : Named N ts) (text : String) : ∀ rest ∈ word? text ts, Named N rest := by
  unfold word?
  split
  · split
    · rintro _ ⟨⟩
      exact h.tail
    · nofun
  · nofun

theorem Named.name (h : Named N ts) : ∀ x ∈ name? ts, N x.1 ∧ Named N x.2 := by
  unfold name?
  split
  · rintro _ ⟨⟩
    exact ⟨h _ List.mem_cons_self, h.tail⟩
  · nofun

/-- Tokens in front of which a mark or a word is left out, if it is there. -/
theorem Named.getD (h : Named N ts) {r : Option (List Token)} (hr : ∀ rest ∈ r, Named N rest) :
    Named N (r.getD ts) := by
  cases r with
  | none => exact h
  | some rest => exact hr rest rfl

theorem Named.takeLiterals (h : Named N ts) : Named N (takeLiterals ts).2 := by
  induction ts with
  | nil => exact h
  | cons t ts ih =>
    cases t with
    | text s => exact ih h.tail
    | bytes bs => exact ih h.tail
    | formatted sources => exact ih h.tail
    | _ => exact h

section Results
variable {α β : Type} {P : α → Prop} {Q : β → Prop}

theorem forall_mem_bind {r : Option α} {f : α → Option β} (hr : ∀ a ∈ r, P a)
    (hf : ∀ a, P a → ∀ b ∈ f a, Q b) : ∀ b ∈ r >>= f, Q b := by
  cases r with
  | none => exact nofun
  | some a => exact hf a (hr a rfl)

theorem forall_mem_map {r : Option α} {f : α → β} (hr : ∀ a ∈ r, P a) (hf : ∀ a, P a → Q (f a)) :
    ∀ b ∈ r.map f, Q b := by
  cases r with
  | none => exact nofun
  | some a =>
    rintro _ ⟨⟩
    exact hf a (hr a rfl)

theorem forall_mem_some {a : α} (h : P a) : ∀ b ∈ some a, P b := by
  rintro _ ⟨⟩
  exact h

end Results

theorem Named.nameWith (h : Named N ts) (text : String) :
    ∀ x ∈ nameWith? text ts, N x.1 ∧ Named N x.2 := by
  refine forall_mem_bind h.name fun x hx => ?_
  exact forall_mem_bind (hx.2.mark text) fun rest hrest => forall_mem_some ⟨hx.1, hrest⟩

theorem Named.sign (h : Named N ts) : ∀ x ∈ sign? ts, Named N x.2 := by
  unfold sign?
  split
  · exact forall_mem_map (fun _ _ => trivial) fun _ _ => h.tail
  · nofun

theorem Named.binaryOp (h : Named N ts) (level : Nat) : ∀ x ∈ binaryOp? level ts, Named N x.2 := by
  unfold binaryOp?
  split
  · exact forall_mem_map (fun _ _ => trivial) fun _ _ => h.tail
  · nofun

theorem Named.relation (h : Named N ts) : ∀ x ∈ relation? ts, Named N x.2 := by
  unfold relation?
  split
  · exact forall_mem_map (fun _ _ => trivial) fun _ _ => h.tail
  · exact forall_mem_some h.tail
  · exact forall_mem_some h.tail.tail
  · exact forall_mem_some h.tail.tail
  · exact forall_mem_some h.tail
  · nofun

theorem uses_joinLiterals {literals : List Token} : ∀ e ∈ joinLiterals literals, e.Uses N := by
  unfold joinLiterals
  split
  · exact forall_mem_some (Expr.uses_constant _)
  · refine forall_mem_map (fun _ _ => trivial) fun texts _ => ?_
    split
    · exact Expr.uses_foreign _
    · exact Expr.uses_constant _

/-! ## What the parser reads -/

/-- An expression that uses such names, and such tokens left. -/
def Fine (N : String → Prop) (x : Expr × List Token) : Prop := x.1.Uses N ∧ Named N x.2

def FineAll (N : String → Prop) (x : List Expr × List Token) : Prop :=
  (∀ e ∈ x.1, e.Uses N) ∧ Named N x.2

/-- An expression in front of others. -/
theorem fineAll_cons {first : Option (Expr × List Token)}
    (more : List Token → Option (List Expr × List Token)) (hfirst : ∀ x ∈ first, Fine N x)
    (hmore : ∀ ts, Named N ts → ∀ xs ∈ more ts, FineAll N xs) :
    ∀ xs ∈ first >>= fun x => more x.2 >>= fun xs => some (x.1 :: xs.1, xs.2), FineAll N xs := by
  refine forall_mem_bind hfirst fun x hx => ?_
  refine forall_mem_bind (hmore x.2 hx.2) fun xs hxs => ?_
  exact forall_mem_some ⟨List.forall_mem_cons.2 ⟨hx.1, hxs.1⟩, hxs.2⟩

/-- With so much fuel, every function of the parser reads from such tokens what uses such names, and it
leaves such tokens. -/
structure Parses (N : String → Prop) (fuel : Nat) : Prop where
  expr {ts : List Token} : Named N ts → ∀ x ∈ parseExpr fuel ts, Fine N x
  parameters {p : Parameters} {ts : List Token} : Named N ts →
    ∀ rest ∈ parseParameters fuel p ts, Named N rest
  named {ts : List Token} : Named N ts → ∀ x ∈ parseNamed fuel ts, Fine N x
  item {ts : List Token} : Named N ts → ∀ x ∈ parseItem fuel ts, Fine N x
  items {closing : String} {ts : List Token} : Named N ts →
    ∀ x ∈ parseItems fuel closing ts, FineAll N x
  or {ts : List Token} : Named N ts → ∀ x ∈ parseOr fuel ts, Fine N x
  ors {ts : List Token} : Named N ts → ∀ x ∈ parseOrs fuel ts, FineAll N x
  and {ts : List Token} : Named N ts → ∀ x ∈ parseAnd fuel ts, Fine N x
  ands {ts : List Token} : Named N ts → ∀ x ∈ parseAnds fuel ts, FineAll N x
  not {ts : List Token} : Named N ts → ∀ x ∈ parseNot fuel ts, Fine N x
  relations {ts : List Token} : Named N ts →
    ∀ x ∈ parseRelations fuel ts, FineAll N (x.1.map Prod.snd, x.2)
  binary {level : Nat} {ts : List Token} : Named N ts →
    ∀ x ∈ parseBinary fuel level ts, Fine N x
  binaries {level : Nat} {left : Expr} {ts : List Token} : left.Uses N → Named N ts →
    ∀ x ∈ parseBinaries fuel level left ts, Fine N x
  factor {ts : List Token} : Named N ts → ∀ x ∈ parseFactor fuel ts, Fine N x
  primary {ts : List Token} : Named N ts → ∀ x ∈ parsePrimary fuel ts, Fine N x
  trailers {e : Expr} {ts : List Token} : e.Uses N → Named N ts →
    ∀ x ∈ parseTrailers fuel e ts, Fine N x
  arguments {a : Arguments} {ts : List Token} : (∀ e ∈ a.items, e.Uses N) → Named N ts →
    ∀ x ∈ parseArguments fuel a ts, FineAll N (x.1.items, x.2)
  keys {ts : List Token} : Named N ts → ∀ x ∈ parseKeys fuel ts, Fine N x
  moreKeys {ts : List Token} : Named N ts → ∀ x ∈ parseMoreKeys fuel ts, FineAll N x
  key {ts : List Token} : Named N ts → ∀ x ∈ parseKey fuel ts, Fine N x
  slice {ts : List Token} : Named N ts → ∀ x ∈ parseSlice fuel ts, Fine N x
  bound {ts : List Token} : Named N ts → ∀ rest ∈ parseBound fuel ts, Named N rest
  atom {ts : List Token} : Named N ts → ∀ x ∈ parseAtom fuel ts, Fine N x
  group {ts : List Token} : Named N ts → ∀ x ∈ parseGroup fuel ts, Fine N x
  yielded {ts : List Token} : Named N ts → ∀ x ∈ parseYielded fuel ts, Fine N x
  list {ts : List Token} : Named N ts → ∀ x ∈ parseList fuel ts, Fine N x
  braces {ts : List Token} : Named N ts → ∀ x ∈ parseBraces fuel ts, Fine N x
  entries {ts : List Token} : Named N ts → ∀ x ∈ parseEntries fuel ts, Fine N x
  moreEntries {ts : List Token} : Named N ts → ∀ x ∈ parseMoreEntries fuel ts, Fine N x
  clauses {ts : List Token} : Named N ts → ∀ rest ∈ parseClauses fuel ts, Named N rest
  targets {ts : List Token} : Named N ts → ∀ rest ∈ parseTargets fuel ts, Named N rest
  conditions {ts : List Token} : Named N ts → ∀ rest ∈ parseConditions fuel ts, Named N rest

namespace Parses

theorem zero : Parses N 0 := by
  constructor <;> intros <;> contradiction

/-! ### One more unit of fuel

What a function of the parser reads is fine if all is that the functions it calls read with one unit
less. -/

section Step
variable (ih : Parses N fuel) (h : Named N ts)
include ih h

/-- The clauses of a comprehension up to its closing mark. -/
theorem comprehension (closing kind : String) :
    ∀ x ∈ parseClauses fuel ts >>= fun rest => mark? closing rest >>= fun rest =>
      some (Expr.foreign kind, rest), Fine N x := by
  refine forall_mem_bind (ih.clauses h) fun rest hrest => ?_
  refine forall_mem_bind (hrest.mark _) fun rest hrest => ?_
  exact forall_mem_some ⟨Expr.uses_foreign _, hrest⟩

theorem expr_succ : ∀ x ∈ parseExpr (fuel + 1) ts, Fine N x := by
  rw [parseExpr]
  split
  · next rest hword =>
    refine forall_mem_bind (ih.parameters (h.word _ _ hword)) fun rest hrest => ?_
    refine forall_mem_bind (ih.expr hrest) fun x hx => ?_
    exact forall_mem_some ⟨Expr.uses_foreign _, hx.2⟩
  · refine forall_mem_bind (ih.or h) ?_
    rintro ⟨yes, rest⟩ ⟨hyes, hrest⟩
    dsimp only
    split
    · exact forall_mem_some ⟨hyes, hrest⟩
    · next rest hword =>
      refine forall_mem_bind (ih.or (hrest.word _ _ hword)) fun test htest => ?_
      refine forall_mem_bind (htest.2.word _) fun rest hrest => ?_
      refine forall_mem_bind (ih.expr hrest) fun no hno => ?_
      exact forall_mem_some
        ⟨Expr.uses_of_operands rfl (by simp [Expr.operands, htest.1, hyes, hno.1]), hno.2⟩

theorem parameters_succ (p : Parameters) :
    ∀ rest ∈ parseParameters (fuel + 1) p ts, Named N rest := by
  unfold parseParameters
  extract_lets next
  have hnext : ∀ p ts, Named N ts → ∀ rest ∈ next p ts, Named N rest := by
    intro p ts h
    unfold next
    split
    · next rest hmark => exact ih.parameters (h.mark _ _ hmark)
    · split
      · nofun
      · exact h.mark _
  split
  · split
    · nofun
    · exact forall_mem_some h.tail
  · split
    · exact hnext _ _ h.tail
    · nofun
  · split
    · nofun
    · split
      · next x rest hname => exact hnext _ _ (h.tail.name _ hname).2
      · split
        · exact hnext _ _ h.tail
        · nofun
  · refine forall_mem_bind h.tail.name fun x hx => ?_
    dsimp only
    split
    · nofun
    · exact (hx.2.getD (hx.2.mark _)).mark _
  · refine forall_mem_bind h.name ?_
    rintro ⟨id, rest⟩ ⟨-, hrest⟩
    dsimp only
    split
    · next rest hmark =>
      exact forall_mem_bind (ih.expr (hrest.mark _ _ hmark)) fun x hx => hnext _ _ hx.2
    · split
      · nofun
      · exact hnext _ _ hrest

theorem named_succ : ∀ x ∈ parseNamed (fuel + 1) ts, Fine N x := by
  rw [parseNamed]
  split
  · next x rest hname =>
    refine forall_mem_bind (ih.expr (h.nameWith _ _ hname).2) fun x hx => ?_
    exact forall_mem_some ⟨Expr.uses_foreign _, hx.2⟩
  · exact ih.expr h

theorem item_succ : ∀ x ∈ parseItem (fuel + 1) ts, Fine N x := by
  rw [parseItem]
  split
  · next rest hmark =>
    refine forall_mem_bind (ih.binary (h.mark _ _ hmark)) fun x hx => ?_
    exact forall_mem_some ⟨Expr.uses_of_operands rfl (by simp [Expr.operands, hx.1]), hx.2⟩
  · exact ih.named h

theorem items_succ (closing : String) : ∀ x ∈ parseItems (fuel + 1) closing ts, FineAll N x := by
  rw [parseItems]
  split
  · next rest hmark => exact forall_mem_some ⟨nofun, h.mark _ _ hmark⟩
  · refine forall_mem_bind (h.mark _) fun rest hrest => ?_
    split
    · next rest' hmark => exact forall_mem_some ⟨nofun, hrest.mark _ _ hmark⟩
    · exact fineAll_cons (parseItems fuel closing) (ih.item hrest) fun _ => ih.items

theorem or_succ : ∀ x ∈ parseOr (fuel + 1) ts, Fine N x := by
  rw [parseOr]
  refine forall_mem_bind (ih.and h) fun x hx => ?_
  refine forall_mem_bind (ih.ors hx.2) fun xs hxs => forall_mem_some ⟨?_, hxs.2⟩
  dsimp only
  split
  · exact hx.1
  · exact Expr.uses_of_operands rfl (List.forall_mem_cons.2 ⟨hx.1, hxs.1⟩)

theorem ors_succ : ∀ x ∈ parseOrs (fuel + 1) ts, FineAll N x := by
  rw [parseOrs]
  split
  · exact forall_mem_some ⟨nofun, h⟩
  · next rest hword =>
    exact fineAll_cons (parseOrs fuel) (ih.and (h.word _ _ hword)) fun _ => ih.ors

theorem and_succ : ∀ x ∈ parseAnd (fuel + 1) ts, Fine N x := by
  rw [parseAnd]
  refine forall_mem_bind (ih.not h) fun x hx => ?_
  refine forall_mem_bind (ih.ands hx.2) fun xs hxs => forall_mem_some ⟨?_, hxs.2⟩
  dsimp only
  split
  · exact hx.1
  · exact Expr.uses_of_operands rfl (List.forall_mem_cons.2 ⟨hx.1, hxs.1⟩)

theorem ands_succ : ∀ x ∈ parseAnds (fuel + 1) ts, FineAll N x := by
  rw [parseAnds]
  split
  · exact forall_mem_some ⟨nofun, h⟩
  · next rest hword =>
    exact fineAll_cons (parseAnds fuel) (ih.not (h.word _ _ hword)) fun _ => ih.ands

theorem not_succ : ∀ x ∈ parseNot (fuel + 1) ts, Fine N x := by
  rw [parseNot]
  split
  · next rest hword =>
    refine forall_mem_bind (ih.not (h.word _ _ hword)) fun x hx => ?_
    exact forall_mem_some ⟨Expr.uses_of_operands rfl (by simp [Expr.operands, hx.1]), hx.2⟩
  · refine forall_mem_bind (ih.binary h) fun x hx => ?_
    refine forall_mem_bind (ih.relations hx.2) fun xs hxs => forall_mem_some ⟨?_, hxs.2⟩
    dsimp only
    split
    · exact hx.1
    · exact Expr.uses_of_operands rfl (List.forall_mem_cons.2 ⟨hx.1, hxs.1⟩)

theorem relations_succ :
    ∀ x ∈ parseRelations (fuel + 1) ts, FineAll N (x.1.map Prod.snd, x.2) := by
  rw [parseRelations]
  split
  · rintro _ ⟨⟩
    exact ⟨nofun, h⟩
  · next r rest hrelation =>
    refine forall_mem_bind (ih.binary (h.relation _ hrelation)) fun x hx => ?_
    refine forall_mem_bind (ih.relations hx.2) fun xs hxs => ?_
    rintro _ ⟨⟩
    exact ⟨List.forall_mem_cons.2 ⟨hx.1, hxs.1⟩, hxs.2⟩

theorem binary_succ (level : Nat) : ∀ x ∈ parseBinary (fuel + 1) level ts, Fine N x := by
  rw [parseBinary]
  split
  · exact ih.factor h
  · exact forall_mem_bind (ih.binary h) fun x hx => ih.binaries hx.1 hx.2

theorem binaries_succ (level : Nat) (hleft : left.Uses N) :
    ∀ x ∈ parseBinaries (fuel + 1) level left ts, Fine N x := by
  rw [parseBinaries]
  split
  · exact forall_mem_some ⟨hleft, h⟩
  · next op rest hop =>
    refine forall_mem_bind (ih.binary (h.binaryOp _ _ hop)) fun x hx => ?_
    exact ih.binaries (Expr.uses_of_operands rfl (by simp [Expr.operands, hleft, hx.1])) hx.2

theorem factor_succ : ∀ x ∈ parseFactor (fuel + 1) ts, Fine N x := by
  rw [parseFactor]
  split
  · next op rest hsign =>
    refine forall_mem_bind (ih.factor (h.sign _ hsign)) fun x hx => ?_
    exact forall_mem_some ⟨Expr.uses_of_operands rfl (by simp [Expr.operands, hx.1]), hx.2⟩
  · extract_lets power
    have hpower : ∀ x, Fine N x → ∀ y ∈ power x, Fine N y := by
      rintro ⟨base, rest⟩ ⟨hbase, hrest⟩
      unfold power
      dsimp only
      split
      · exact forall_mem_some ⟨hbase, hrest⟩
      · next rest hmark =>
        refine forall_mem_bind (ih.factor (hrest.mark _ _ hmark)) fun x hx => ?_
        exact forall_mem_some
          ⟨Expr.uses_of_operands rfl (by simp [Expr.operands, hbase, hx.1]), hx.2⟩
    split
    · next rest hword =>
      refine forall_mem_bind (P := Fine N) ?_ hpower
      exact forall_mem_map (ih.primary (h.word _ _ hword)) fun x hx => ⟨Expr.uses_foreign _, hx.2⟩
    · exact forall_mem_bind (ih.primary h) hpower

theorem primary_succ : ∀ x ∈ parsePrimary (fuel + 1) ts, Fine N x := by
  rw [parsePrimary]
  exact forall_mem_bind (ih.atom h) fun x hx => ih.trailers hx.1 hx.2

theorem trailers_succ (he : e.Uses N) : ∀ x ∈ parseTrailers (fuel + 1) e ts, Fine N x := by
  unfold parseTrailers
  dsimp only
  split
  · refine forall_mem_bind h.tail.name fun x hx => ?_
    exact ih.trailers (Expr.uses_attribute hx.1 he) hx.2
  · refine forall_mem_bind (ih.arguments nofun h.tail) fun x hx => ?_
    exact ih.trailers (Expr.uses_of_operands rfl hx.1) hx.2
  · refine forall_mem_bind (ih.keys h.tail) fun x hx => ?_
    exact ih.trailers (Expr.uses_of_operands rfl (by simp [Expr.operands, he, hx.1])) hx.2
  · exact forall_mem_some ⟨he, h⟩

theorem arguments_succ (a : Arguments) (ha : ∀ e ∈ a.items, e.Uses N) :
    ∀ x ∈ parseArguments (fuel + 1) a ts, FineAll N (x.1.items, x.2) := by
  have hpush : ∀ e : Expr, e.Uses N → ∀ item ∈ (a.push e).items, item.Uses N := by
    intro e he
    simpa [Arguments.push, or_imp, forall_and, he] using ha
  unfold parseArguments
  extract_lets next
  have hnext : ∀ a ts, (∀ e ∈ a.items, e.Uses N) → Named N ts →
      ∀ x ∈ next a ts, FineAll N (x.1.items, x.2) := by
    intro a ts ha h
    unfold next
    split
    · next rest hmark =>
      rintro _ ⟨⟩
      exact ⟨ha, h.mark _ _ hmark⟩
    · exact forall_mem_bind (h.mark _) fun rest hrest => ih.arguments ha hrest
  split
  · rintro _ ⟨⟩
    exact ⟨ha, h.tail⟩
  · exact forall_mem_bind (ih.expr h.tail) fun x hx => hnext _ _ ha hx.2
  · refine forall_mem_bind (ih.expr h.tail) fun x hx => ?_
    dsimp only
    split
    · nofun
    · exact hnext _ _ (hpush _ (Expr.uses_of_operands rfl (by simp [Expr.operands, hx.1]))) hx.2
  · split
    · next x rest hname =>
      exact forall_mem_bind (ih.expr (h.nameWith _ _ hname).2) fun x hx => hnext _ _ ha hx.2
    · refine forall_mem_bind (ih.named h) fun x hx => ?_
      dsimp only
      split
      · nofun
      · split
        · split
          · refine forall_mem_bind (ih.clauses hx.2) fun rest hrest => ?_
            refine forall_mem_bind (hrest.mark _) fun rest hrest => ?_
            rintro _ ⟨⟩
            exact ⟨hpush _ (Expr.uses_foreign _), hrest⟩
          · nofun
        · exact hnext _ _ (hpush _ hx.1) hx.2

theorem keys_succ : ∀ x ∈ parseKeys (fuel + 1) ts, Fine N x := by
  rw [parseKeys]
  refine forall_mem_bind (ih.key h) ?_
  rintro ⟨e, rest⟩ ⟨he, hrest⟩
  dsimp only
  split
  · next rest hmark =>
    refine forall_mem_some ⟨?_, hrest.mark _ _ hmark⟩
    dsimp only
    split
    · exact Expr.uses_of_operands rfl (by simpa [Expr.operands] using he)
    · exact he
  · refine forall_mem_bind (ih.moreKeys hrest) fun xs hxs => ?_
    exact forall_mem_some
      ⟨Expr.uses_of_operands rfl (List.forall_mem_cons.2 ⟨he, hxs.1⟩), hxs.2⟩

theorem moreKeys_succ : ∀ x ∈ parseMoreKeys (fuel + 1) ts, FineAll N x := by
  rw [parseMoreKeys]
  split
  · next rest hmark => exact forall_mem_some ⟨nofun, h.mark _ _ hmark⟩
  · refine forall_mem_bind (h.mark _) fun rest hrest => ?_
    split
    · next rest' hmark => exact forall_mem_some ⟨nofun, hrest.mark _ _ hmark⟩
    · exact fineAll_cons (parseMoreKeys fuel) (ih.key hrest) fun _ => ih.moreKeys

theorem key_succ : ∀ x ∈ parseKey (fuel + 1) ts, Fine N x := by
  unfold parseKey
  dsimp only
  split
  · refine forall_mem_bind (ih.expr h.tail) fun x hx => ?_
    exact forall_mem_some ⟨Expr.uses_of_operands rfl (by simp [Expr.operands, hx.1]), hx.2⟩
  · exact ih.slice h
  · refine forall_mem_bind (ih.named h) fun x hx => ?_
    split
    · exact ih.slice hx.2
    · exact forall_mem_some hx

theorem slice_succ : ∀ x ∈ parseSlice (fuel + 1) ts, Fine N x := by
  rw [parseSlice]
  refine forall_mem_bind (h.mark _) fun rest hrest => ?_
  refine forall_mem_bind (ih.bound hrest) fun rest hrest => ?_
  split
  · exact forall_mem_some ⟨Expr.uses_foreign _, hrest⟩
  · next rest hmark =>
    refine forall_mem_bind (ih.bound (hrest.mark _ _ hmark)) fun rest hrest => ?_
    exact forall_mem_some ⟨Expr.uses_foreign _, hrest⟩

theorem bound_succ : ∀ rest ∈ parseBound (fuel + 1) ts, Named N rest := by
  rw [parseBound]
  split
  · exact forall_mem_some h
  · exact forall_mem_map (ih.expr h) fun x hx => hx.2

theorem atom_succ : ∀ x ∈ parseAtom (fuel + 1) ts, Fine N x := by
  unfold parseAtom
  dsimp only
  split
  · exact forall_mem_some ⟨Expr.uses_constant _, h.tail⟩
  · exact forall_mem_some ⟨Expr.uses_constant _, h.tail⟩
  · exact forall_mem_some ⟨Expr.uses_constant _, h.tail⟩
  · nofun
  · exact forall_mem_some ⟨Expr.uses_name (h _ List.mem_cons_self), h.tail⟩
  · exact forall_mem_some ⟨Expr.uses_constant _, h.tail⟩
  · exact forall_mem_some ⟨Expr.uses_constant _, h.tail⟩
  · exact ih.group h.tail
  · exact ih.list h.tail
  · exact ih.braces h.tail
  · nofun
  · nofun
  · exact forall_mem_map (Q := Fine N) uses_joinLiterals fun e he => ⟨he, h.takeLiterals⟩

theorem group_succ : ∀ x ∈ parseGroup (fuel + 1) ts, Fine N x := by
  unfold parseGroup
  dsimp only
  split
  · exact forall_mem_some ⟨Expr.uses_of_operands rfl (List.forall_mem_nil _), h.tail⟩
  · refine forall_mem_bind (ih.expr h.tail.tail) fun x hx => ?_
    refine forall_mem_bind (hx.2.mark _) fun rest hrest => ?_
    exact forall_mem_some ⟨Expr.uses_foreign _, hrest⟩
  · exact forall_mem_some ⟨Expr.uses_foreign _, h.tail.tail⟩
  · refine forall_mem_bind (ih.yielded h.tail) fun x hx => ?_
    exact forall_mem_some ⟨Expr.uses_foreign _, hx.2⟩
  · refine forall_mem_bind (ih.item h) ?_
    rintro ⟨e, rest⟩ ⟨he, hrest⟩
    dsimp only
    split
    · split
      · nofun
      · exact ih.comprehension hrest _ _
    · split
      · next rest hmark =>
        split
        · nofun
        · exact forall_mem_some ⟨he, hrest.mark _ _ hmark⟩
      · refine forall_mem_bind (ih.items hrest) fun xs hxs => ?_
        exact forall_mem_some
          ⟨Expr.uses_of_operands rfl (List.forall_mem_cons.2 ⟨he, hxs.1⟩), hxs.2⟩

theorem yielded_succ : ∀ x ∈ parseYielded (fuel + 1) ts, Fine N x := by
  unfold parseYielded
  extract_lets more
  have hmore : ∀ x, Fine N x → ∀ y ∈ more x, Fine N y := by
    rintro ⟨e, rest⟩ ⟨he, hrest⟩
    unfold more
    dsimp only
    split
    · next rest hmark => exact forall_mem_some ⟨he, hrest.mark _ _ hmark⟩
    · refine forall_mem_bind (hrest.mark _) fun rest hrest => ?_
      split
      · next rest' hmark => exact forall_mem_some ⟨he, hrest.mark _ _ hmark⟩
      · exact ih.yielded hrest
  split
  · next rest hmark => exact forall_mem_bind (ih.binary (h.mark _ _ hmark)) hmore
  · exact forall_mem_bind (ih.expr h) hmore

theorem list_succ : ∀ x ∈ parseList (fuel + 1) ts, Fine N x := by
  rw [parseList]
  split
  · next rest hmark =>
    exact forall_mem_some ⟨Expr.uses_of_operands rfl (List.forall_mem_nil _), h.mark _ _ hmark⟩
  · refine forall_mem_bind (ih.item h) ?_
    rintro ⟨e, rest⟩ ⟨he, hrest⟩
    dsimp only
    split
    · split
      · nofun
      · exact ih.comprehension hrest _ _
    · refine forall_mem_bind (ih.items hrest) fun xs hxs => ?_
      exact forall_mem_some
        ⟨Expr.uses_of_operands rfl (List.forall_mem_cons.2 ⟨he, hxs.1⟩), hxs.2⟩

theorem braces_succ : ∀ x ∈ parseBraces (fuel + 1) ts, Fine N x := by
  rw [parseBraces]
  split
  · exact ih.entries h
  · refine forall_mem_bind (ih.item h) fun x hx => ?_
    dsimp only
    split
    · split
      · nofun
      · refine forall_mem_bind (hx.2.mark _) fun rest hrest => ?_
        refine forall_mem_bind (ih.expr hrest) fun x hx => ?_
        split
        · exact ih.comprehension hx.2 _ _
        · exact ih.moreEntries hx.2
    · split
      · split
        · nofun
        · exact ih.comprehension hx.2 _ _
      · refine forall_mem_bind (ih.items hx.2) fun xs hxs => ?_
        exact forall_mem_some ⟨Expr.uses_foreign _, hxs.2⟩

theorem entries_succ : ∀ x ∈ parseEntries (fuel + 1) ts, Fine N x := by
  unfold parseEntries
  dsimp only
  split
  · exact forall_mem_some ⟨Expr.uses_foreign _, h.tail⟩
  · exact forall_mem_bind (ih.binary h.tail) fun x hx => ih.moreEntries hx.2
  · refine forall_mem_bind (ih.expr h) fun x hx => ?_
    refine forall_mem_bind (hx.2.mark _) fun rest hrest => ?_
    exact forall_mem_bind (ih.expr hrest) fun x hx => ih.moreEntries hx.2

theorem moreEntries_succ : ∀ x ∈ parseMoreEntries (fuel + 1) ts, Fine N x := by
  rw [parseMoreEntries]
  split
  · next rest hmark => exact forall_mem_some ⟨Expr.uses_foreign _, h.mark _ _ hmark⟩
  · exact forall_mem_bind (h.mark _) fun rest hrest => ih.entries hrest

theorem clauses_succ : ∀ rest ∈ parseClauses (fuel + 1) ts, Named N rest := by
  rw [parseClauses]
  refine forall_mem_bind ((h.getD (h.word _)).word _) fun rest hrest => ?_
  refine forall_mem_bind (ih.targets hrest) fun rest hrest => ?_
  refine forall_mem_bind (ih.or hrest) fun x hx => ?_
  refine forall_mem_bind (ih.conditions hx.2) fun rest hrest => ?_
  split
  · exact ih.clauses hrest
  · exact forall_mem_some hrest

theorem targets_succ : ∀ rest ∈ parseTargets (fuel + 1) ts, Named N rest := by
  rw [parseTargets]
  refine forall_mem_bind (ih.primary (h.getD (h.mark _))) ?_
  rintro ⟨e, rest⟩ ⟨-, hrest⟩
  dsimp only
  split
  · split
    · next rest hword => exact forall_mem_some (hrest.word _ _ hword)
    · refine forall_mem_bind (hrest.mark _) fun rest hrest => ?_
      split
      · next rest' hword => exact forall_mem_some (hrest.word _ _ hword)
      · exact ih.targets hrest
  · nofun

theorem conditions_succ : ∀ rest ∈ parseConditions (fuel + 1) ts, Named N rest := by
  rw [parseConditions]
  split
  · exact forall_mem_some h
  · next rest hword =>
    exact forall_mem_bind (ih.or (h.word _ _ hword)) fun x hx => ih.conditions hx.2

end Step

end Parses

/-- **Reading adds no names.** -/
theorem parses : ∀ fuel, Parses N fuel
  | 0 => .zero
  | fuel + 1 =>
    have ih := parses fuel
    { expr := ih.expr_succ
      parameters := fun h => ih.parameters_succ h _
      named := ih.named_succ
      item := ih.item_succ
      items := fun h => ih.items_succ h _
      or := ih.or_succ
      ors := ih.ors_succ
      and := ih.and_succ
      ands := ih.ands_succ
      not := ih.not_succ
      relations := ih.relations_succ
      binary := fun h => ih.binary_succ h _
      binaries := fun hleft h => ih.binaries_succ h _ hleft
      factor := ih.factor_succ
      primary := ih.primary_succ
      trailers := fun he h => ih.trailers_succ h he
      arguments := fun ha h => ih.arguments_succ h _ ha
      keys := ih.keys_succ
      moreKeys := ih.moreKeys_succ
      key := ih.key_succ
      slice := ih.slice_succ
      bound := ih.bound_succ
      atom := ih.atom_succ
      group := ih.group_succ
      yielded := ih.yielded_succ
      list := ih.list_succ
      braces := ih.braces_succ
      entries := ih.entries_succ
      moreEntries := ih.moreEntries_succ
      clauses := ih.clauses_succ
      targets := ih.targets_succ
      conditions := ih.conditions_succ }

/-! ## Sources -/

theorem uses_parseMore (h : Named N ts) : ∀ es ∈ parseMore fuel ts, ∀ e ∈ es, e.Uses N := by
  induction fuel generalizing ts with
  | zero => exact nofun
  | succ fuel ih =>
    cases ts with
    | nil => exact forall_mem_some nofun
    | cons t ts =>
      rw [parseMore.eq_def]
      refine forall_mem_bind (h.mark _) fun rest hrest => ?_
      split
      · exact forall_mem_some nofun
      · refine forall_mem_bind ((parses fuel).expr hrest) fun x hx => ?_
        refine forall_mem_bind (ih hx.2) fun es hes => ?_
        exact forall_mem_some (List.forall_mem_cons.2 ⟨hx.1, hes⟩)

theorem uses_parseTokens (h : Named N ts) : ∀ e ∈ parseTokens ts, e.Uses N := by
  refine forall_mem_bind ((parses _).expr h) fun x hx => ?_
  refine forall_mem_bind (uses_parseMore hx.2) fun es hes => forall_mem_some ?_
  split
  · exact hx.1
  · exact Expr.uses_of_operands rfl (List.forall_mem_cons.2 ⟨hx.1, hes⟩)

theorem exists_tokens_of_parse {source : String} (h : parse source = some e) :
    ∃ ts, lex source.toList = some ts ∧ parseTokens ts = some e := by
  unfold parse parseSource at h
  simp only [Option.bind_eq_bind, Option.bind_eq_some_iff, Option.ite_none_right_eq_some] at h
  obtain ⟨ts, hlex, read, hread, -, hsame⟩ := h
  cases hsame
  exact ⟨ts, hlex, hread⟩

theorem exists_of_isOk {source : Text} (h : (ofSource source).isOk = true) :
    ∃ p, ofSource source = .ok p := by
  cases hsource : ofSource source with
  | ok p => exact ⟨p, rfl⟩
  | error objection =>
    rw [hsource] at h
    cases h

/-- A name is among the tokens of a source. -/
def NamedIn (source : Text) (id : String) : Prop :=
  ∃ ts, lex (Text.lossy (Text.strip source)).toList = some ts ∧ .name id ∈ ts

/-- A predicate uses no names but those in its source. -/
theorem uses_of_ofSource {source : Text} {p : Predicate} (h : ofSource source = .ok p) :
    p.expr.Uses (NamedIn source) := by
  obtain ⟨ts, hlex, hparse⟩ := exists_tokens_of_parse (parts_of_ofSource h).2
  exact uses_parseTokens (fun id hid => ⟨ts, hlex, hid⟩) _ hparse

end MockApi.Predicate
