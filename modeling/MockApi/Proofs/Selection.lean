import MockApi.Proofs.Generation

/-!
# Which response a call gets

The first case that fires answers a call, with all of its response, and the default response does if
no case fires.

* `Predicate.Fails`, `ExceptCase.Fires` : a predicate without a value, or with one that is neither null
  nor exactly true, and a case with such a predicate;
* `FirstFires scope cases i` : the case at a place is the first one that fires, or the place is behind
  the last case and none fires;
* `selectCase_of_firstFires` : the case at that place is selected;
* `Rearranged` : predicates in another order, repeated, and with others among them that do not fail,
  which change nothing about the place (`FirstFires.rearranged`);
* `ResponseSpec.Renders` : what is generated from one response and nothing else;
* `gives_respond_iff` : a call is answered from the response that is selected;
* `Contract.selects_first_firing` : all of this, for every loaded contract.
-/

namespace MockApi

open Predicate (Scope)
open Template (Gives gives_bind gives_pure fill fillMembers)

/-! ## Cases that fire -/

/-- The predicate has no value, or one that is neither null nor exactly true. -/
def Predicate.Fails (scope : Scope) (p : Predicate) : Prop :=
  ∀ d, p.evaluate scope = .ok d → d ≠ .null ∧ d ≠ .bool true

def ExceptCase.Fires (scope : Scope) (c : ExceptCase) : Prop := ∃ p ∈ c.predicates, p.Fails scope

theorem Predicate.ofDatum_eq_fail_iff (d : Datum) :
    Verdict.ofDatum d = .fail ↔ d ≠ .null ∧ d ≠ .bool true := by
  cases d with
  | bool b => cases b <;> simp [Verdict.ofDatum]
  | _ => simp [Verdict.ofDatum]

theorem Predicate.fails_eq_true_iff (scope : Scope) (p : Predicate) :
    p.fails scope = .ok true ↔ p.Fails scope := by
  have hsupported : Supported (p.evaluate scope) := eval_supported p.expr p.allowed
  unfold Predicate.fails Predicate.verdict Predicate.Fails
  cases heval : p.evaluate scope with
  | ok d => simpa [Except.map] using ofDatum_eq_fail_iff d
  | error e =>
    cases e with
    | fault fault => simp [Except.map]
    | unsupported => exact absurd heval hsupported

theorem Predicate.fails_eq_false_iff (scope : Scope) (p : Predicate) :
    p.fails scope = .ok false ↔ ¬ p.Fails scope := by
  rw [← p.fails_eq_true_iff scope]
  obtain ⟨b, hb⟩ := p.exists_fails scope
  cases b <;> simp [hb]

theorem ExceptCase.fires_eq_true_iff (scope : Scope) (c : ExceptCase) :
    c.fires scope = .ok true ↔ c.Fires scope := by
  unfold ExceptCase.fires ExceptCase.Fires
  induction c.predicates with
  | nil => simp [List.anyM, pure, Except.pure]
  | cons p ps ih =>
    rw [List.anyM, List.exists_mem_cons_iff]
    by_cases hp : p.Fails scope
    · simp [(p.fails_eq_true_iff scope).2 hp, hp, bind, Except.bind, pure, Except.pure]
    · rw [(p.fails_eq_false_iff scope).2 hp]
      simpa [hp, bind, Except.bind] using ih

theorem ExceptCase.fires_eq_false_iff (scope : Scope) (c : ExceptCase) :
    c.fires scope = .ok false ↔ ¬ c.Fires scope := by
  rw [← c.fires_eq_true_iff scope]
  obtain ⟨b, hb⟩ := c.exists_fires scope
  cases b <;> simp [hb]

/-! ## The first case that fires -/

/-- The case at the place is the first one that fires; behind the last place none does. -/
structure FirstFires (scope : Scope) (cases : List ExceptCase) (i : Nat) : Prop where
  le_length : i ≤ cases.length
  not_before : ∀ c ∈ cases.take i, ¬ c.Fires scope
  fires : ∀ c ∈ cases[i]?, c.Fires scope

variable {scope : Scope} {cases cases' : List ExceptCase} {c : ExceptCase} {i : Nat}

namespace FirstFires

theorem here (hc : c.Fires scope) : FirstFires scope (c :: cases) 0 where
  le_length := Nat.zero_le _
  not_before := by simp
  fires := by simpa using hc

theorem there (hc : ¬ c.Fires scope) (h : FirstFires scope cases i) :
    FirstFires scope (c :: cases) (i + 1) where
  le_length := Nat.succ_le_succ h.le_length
  not_before := by simpa using ⟨hc, h.not_before⟩
  fires := by simpa using h.fires

theorem of_succ (h : FirstFires scope (c :: cases) (i + 1)) :
    ¬ c.Fires scope ∧ FirstFires scope cases i := by
  obtain ⟨hle, hbefore, hfires⟩ := h
  rw [List.take_succ_cons, List.forall_mem_cons] at hbefore
  exact ⟨hbefore.1, Nat.le_of_succ_le_succ hle, hbefore.2, by simpa using hfires⟩

/-- Whatever comes behind a case that fires is not looked at. -/
theorem append (h : FirstFires scope cases i) (hi : i < cases.length) (more : List ExceptCase) :
    FirstFires scope (cases ++ more) i where
  le_length := by
    rw [List.length_append]
    omega
  not_before := by
    rw [List.take_append_of_le_length h.le_length]
    exact h.not_before
  fires := by
    rw [List.getElem?_append_left hi]
    exact h.fires

end FirstFires

theorem exists_firstFires (scope : Scope) (cases : List ExceptCase) :
    ∃ i, FirstFires scope cases i := by
  induction cases with
  | nil => exact ⟨0, Nat.zero_le _, by simp, by simp⟩
  | cons c cases ih =>
    by_cases hc : c.Fires scope
    · exact ⟨0, .here hc⟩
    · obtain ⟨i, hi⟩ := ih
      exact ⟨i + 1, .there hc hi⟩

/-- **The first case that fires is selected**, and none if there is no such case. -/
theorem selectCase_of_firstFires (h : FirstFires scope cases i) :
    selectCase scope cases = .ok cases[i]? := by
  unfold selectCase
  induction cases generalizing i with
  | nil => rfl
  | cons c cases ih =>
    rw [List.findM?]
    cases i with
    | zero =>
      rw [(c.fires_eq_true_iff scope).2 (h.fires c rfl)]
      rfl
    | succ i =>
      obtain ⟨hc, hrest⟩ := h.of_succ
      rw [(c.fires_eq_false_iff scope).2 hc]
      exact ih hrest

/-! ## Predicates in another order -/

/-- The predicates in another order, repeated, and with others among them that do not fail. -/
inductive Predicate.Rearranged (scope : Scope) : List Predicate → List Predicate → Prop
  | perm {ps qs : List Predicate} : ps.Perm qs → Rearranged scope ps qs
  | again {p : Predicate} {ps : List Predicate} : p ∈ ps → Rearranged scope ps (p :: ps)
  | harmless {p : Predicate} {ps : List Predicate} : ¬ p.Fails scope → Rearranged scope ps (p :: ps)
  | trans {ps qs rs : List Predicate} :
    Rearranged scope ps qs → Rearranged scope qs rs → Rearranged scope ps rs

/-- The same case but for how its predicates are arranged. -/
structure ExceptCase.Rearranged (scope : Scope) (c c' : ExceptCase) : Prop where
  name : c'.name = c.name
  response : c'.response = c.response
  predicates : Predicate.Rearranged scope c.predicates c'.predicates

theorem Predicate.Rearranged.exists_fails_iff {ps qs : List Predicate}
    (h : Predicate.Rearranged scope ps qs) :
    (∃ p ∈ qs, p.Fails scope) ↔ ∃ p ∈ ps, p.Fails scope := by
  induction h with
  | perm hperm => simp only [hperm.mem_iff]
  | again hp =>
    rw [List.exists_mem_cons_iff]
    exact or_iff_right_of_imp fun hfails => ⟨_, hp, hfails⟩
  | harmless hp =>
    rw [List.exists_mem_cons_iff]
    exact or_iff_right hp
  | trans _ _ ih₁ ih₂ => exact ih₂.trans ih₁

theorem ExceptCase.Rearranged.fires_iff {c c' : ExceptCase} (h : c.Rearranged scope c') :
    c'.Fires scope ↔ c.Fires scope :=
  h.predicates.exists_fails_iff

/-- The place of the first case that fires stays the same. -/
theorem FirstFires.rearranged (h : FirstFires scope cases i)
    (hcases : List.Forall₂ (ExceptCase.Rearranged scope) cases cases') : FirstFires scope cases' i := by
  induction hcases generalizing i with
  | nil => exact h
  | cons hc _ ih =>
    cases i with
    | zero => exact .here (hc.fires_iff.2 (h.fires _ rfl))
    | succ i =>
      obtain ⟨hnot, hrest⟩ := h.of_succ
      exact .there (fun hfires => hnot (hc.fires_iff.1 hfires)) (ih hrest)

/-! ## The response that is selected -/

section Response
variable {σ ε : Type} {filler : Filler σ ε} {contract : Contract} {runtime : Predicate.Runtime}
  {incoming : IncomingRequest} {now : Double} {context : Context} {s s' : Session σ} {generated : GeneratedResponse}

/-- The response of the case at a place, and the default one behind the last case. -/
def Contract.responseAt (contract : Contract) (i : Nat) : ResponseSpec :=
  (contract.cases[i]?.map ExceptCase.response).getD contract.response

/-- The name of the case at a place, if there is one. -/
def Contract.flowAt (contract : Contract) (i : Nat) : Option String :=
  contract.cases[i]?.map ExceptCase.name

/-- The call has the context, in which the first case that fires is the one at the place. -/
structure Contract.Selects (contract : Contract) (runtime : Predicate.Runtime)
    (incoming : IncomingRequest) (now : Double) (context : Context) (i : Nat) : Prop where
  build : Context.build contract.request incoming now = .ok context
  first : ∃ scope, context.scope runtime = .ok scope ∧ FirstFires scope contract.cases i

/-- The response is generated from the code, the templates and the metadata of one response, and
its flow is the given one. -/
structure ResponseSpec.Renders (response : ResponseSpec) (filler : Filler σ ε) (context : Value)
    (flow : Option String) (s : Session σ) (generated : GeneratedResponse) (s' : Session σ) : Prop where
  code_eq : generated.code = response.code
  flow_eq : generated.flow = flow
  parts : ∃ members s₁ data s₂,
    Gives (fillMembers (expandLeaf filler context true) response.headers) s members s₁ ∧
    wholeHeaders (flow.elim (Members.mapValues headerText members)
      fun name => withAssertion name (Members.mapValues headerText members)) = .ok generated.headers ∧
    Gives (fill (expandLeaf filler context false) response.data) s₁ data s₂ ∧
    Gives (finishData response data : Generation σ ε Value) s₂ generated.content s'

/-- Every call of a loaded contract selects a response. -/
theorem Contract.exists_selects {source : Option String} {document : Value}
    (hload : Contract.ofValue source document = .ok contract) (runtime : Predicate.Runtime)
    (incoming : IncomingRequest) (now : Double) :
    ∃ context i, contract.Selects runtime incoming now context i := by
  obtain ⟨context, hbuild, hfolded, -⟩ :=
    Context.exists_build (Contract.fits_of_ofValue hload).headers incoming now
  obtain ⟨scope, hscope⟩ := Context.exists_scope hfolded runtime
  obtain ⟨i, hi⟩ := exists_firstFires scope contract.cases
  exact ⟨context, i, hbuild, scope, hscope, hi⟩

theorem ok_of_toOption {α β : Type} {result : Except α β} {b : β} (h : result.toOption = some b) :
    result = .ok b := by
  cases result with
  | ok a => exact congrArg Except.ok (Option.some.inj h)
  | error e => cases h

theorem gives_renderHeaders_iff {response : ResponseSpec} {context : Value} {headers : Members Text} :
    Gives (renderHeaders filler response context) s headers s' ↔ ∃ members,
      Gives (fillMembers (expandLeaf filler context true) response.headers) s members s' ∧
        Members.mapValues headerText members = headers := by
  unfold renderHeaders
  simp only [gives_bind, gives_pure]
  constructor
  · rintro ⟨members, s₁, hmembers, rfl, rfl⟩
    exact ⟨members, hmembers, rfl⟩
  · rintro ⟨members, hmembers, rfl⟩
    exact ⟨members, s', hmembers, rfl, rfl⟩

/-- **A call is answered from the response that is selected**, and from no other. -/
theorem gives_respond_iff {i : Nat} (h : contract.Selects runtime incoming now context i) :
    Gives (contract.respond runtime filler incoming now) s generated s' ↔
      (contract.responseAt i).Renders filler context.value (contract.flowAt i) s generated s' := by
  obtain ⟨hbuild, scope, hscope, hfirst⟩ := h
  have hflow : ∀ headers : Members Text,
      (contract.cases[i]?.elim headers fun c => withAssertion c.name headers) =
        (contract.flowAt i).elim headers fun name => withAssertion name headers := by
    intro headers
    unfold Contract.flowAt
    cases contract.cases[i]? <;> rfl
  unfold Contract.respond
  simp only [hbuild, hscope, selectCase_of_firstFires hfirst, settle_ok, pure_bind, gives_bind, hflow]
  constructor
  · rintro ⟨headers, s₁, hheaders, content, s₃, hcontent, strings, s₄, hstrings, hgenerated⟩
    obtain ⟨members, hmembers, rfl⟩ := gives_renderHeaders_iff.1 hheaders
    obtain ⟨data, s₂, hdata, hfinish⟩ := gives_bind.1 hcontent
    obtain ⟨hwhole, rfl⟩ := gives_settle_iff.1 hstrings
    obtain ⟨rfl, rfl⟩ := gives_pure.1 hgenerated
    exact ⟨rfl, rfl, members, s₁, data, s₂, hmembers, hwhole, hdata, hfinish⟩
  · rintro ⟨hcode, hname, members, s₁, data, s₂, hmembers, hwhole, hdata, hfinish⟩
    refine ⟨_, s₁, gives_renderHeaders_iff.2 ⟨members, hmembers, rfl⟩,
      generated.content, s', gives_bind.2 ⟨data, s₂, hdata, hfinish⟩,
      generated.headers, s', gives_settle_iff.2 ⟨hwhole, rfl⟩, gives_pure.2 ⟨?_, rfl⟩⟩
    obtain ⟨code, headers, content, flow⟩ := generated
    cases hcode
    cases hname
    rfl

/-- **A call gets the response of the first case that fires**, and the default one if none does.
However the predicates of the cases are arranged and whatever comes behind a case that fires, the case
at the same place is selected; what a call of a loaded contract is answered is generated from the
response at that place and has the name of that case as its flow. -/
theorem Contract.selects_first_firing {source : Option String} {document : Value}
    (hload : Contract.ofValue source document = .ok contract) :
    (∀ scope cases, ∃ i, FirstFires scope cases i ∧ selectCase scope cases = .ok cases[i]? ∧
      (∀ cases', List.Forall₂ (ExceptCase.Rearranged scope) cases cases' →
        selectCase scope cases' = .ok cases'[i]?) ∧
      (i < cases.length → ∀ more, selectCase scope (cases ++ more) = .ok cases[i]?)) ∧
    ∀ runtime (filler : Filler σ ε) incoming now, ∃ context i,
      contract.Selects runtime incoming now context i ∧
      ∀ s generated s', (contract.respond runtime filler incoming now).run s = (.ok generated, s') ↔
        (contract.responseAt i).Renders filler context.value (contract.flowAt i) s generated s' := by
  refine ⟨fun scope cases => ?_, fun runtime filler incoming now => ?_⟩
  · obtain ⟨i, hfirst⟩ := exists_firstFires scope cases
    refine ⟨i, hfirst, selectCase_of_firstFires hfirst, fun cases' hcases => ?_, fun hi more => ?_⟩
    · exact selectCase_of_firstFires (hfirst.rearranged hcases)
    · rw [selectCase_of_firstFires (hfirst.append hi more), List.getElem?_append_left hi]
  · obtain ⟨context, i, hselects⟩ := Contract.exists_selects hload runtime incoming now
    exact ⟨context, i, hselects, fun s generated s' => gives_respond_iff hselects⟩

/-- A case that abstains, one that has no value, and one that would fire too. -/
theorem Contract.selects_first_firing_second :
    let caseOf (source : String) (code : Int) : Value := .object [
      ("validate", .list [.text "query.a", .text (.ofString source)]),
      ("response", .object [("code", .int code), ("data", .text "{query.b}")])]
    let document : Value := .object [
      ("request", .object [("route", .text "/books"), ("method", .text "get")]),
      ("response", .object [("code", .int 200)]),
      ("except", .object [("First", caseOf "route.b" 400), ("Second", caseOf "-query" 401),
        ("Third", caseOf "query" 402)])]
    let filler : Filler Unit Empty := pure
    let incoming : IncomingRequest := ⟨[], [("b", .text "x")], [], .null⟩
    ∃ contract, Contract.ofValue none document = .ok contract ∧ ∃ context i generated s',
      contract.Selects .standard incoming .nan context i ∧
      (contract.responseAt i).Renders filler context.value (contract.flowAt i) ⟨(), .ofDraws []⟩
        generated s' ∧ generated.code = 401 ∧ generated.flow = some "Second" := by
  intro caseOf document filler incoming
  have hrun : (Contract.ofValue none document).toOption.map (fun contract =>
      ((contract.respond .standard filler incoming .nan).run ⟨(), .ofDraws []⟩).1.toOption.map fun generated =>
        (generated.code, generated.flow)) = some (some (401, some "Second")) := by decide +kernel
  obtain ⟨contract, hcontract, hresponse⟩ := Option.map_eq_some_iff.1 hrun
  obtain ⟨generated, hgenerated, htold⟩ := Option.map_eq_some_iff.1 hresponse
  obtain ⟨hcode, hflow⟩ := Prod.mk.inj htold
  have hload := ok_of_toOption hcontract
  obtain ⟨context, i, hselects, hgives⟩ := (Contract.selects_first_firing hload).2 .standard filler incoming .nan
  exact ⟨contract, hload, context, i, generated, _, hselects,
    (hgives _ _ _).1 (Prod.ext (ok_of_toOption hgenerated) rfl), hcode, hflow⟩

end Response

end MockApi
