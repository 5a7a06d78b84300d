import MockApi.Proofs.Lawfulness
import MockApi.Proofs.Selection

/-!
# Names of the headers of a response

A response has the headers of its template, under the names that are written there and in order. Where
a case has fired, one header tells its name, in place of all that the template has under that name.

* `namesAssertion name` : the name is that of the header that tells which case fired, in any case;
* `headerTexts headers` : headers as texts, in which rendered ones are given (`headerTexts_of_whole`);
* `withAssertion_eq` : headers with the name of a case among them;
* `ResponseSpec.Renders.exists_rendered` : the headers of a response are rendered under the names of
  its template;
* `Contract.header_names_of_respond` : the names of the headers of every response.
-/

namespace MockApi

open Template (Gives)

/-! ## Loaded responses -/

/-- All responses of a loaded contract are lawful. -/
theorem Contract.lawful_of_mem_responses {source : Option String} {document : Value}
    {contract : Contract} (hload : Contract.ofValue source document = .ok contract)
    {response : ResponseSpec} (hmem : response ∈ contract.responses) : response.Lawful := by
  obtain ⟨members, -, hmembers⟩ := Contract.ofMembers_of_ofValue hload
  have hlawful := Contract.lawful_of_ofMembers hmembers
  obtain rfl | hmem := List.mem_cons.1 hmem
  · exact hlawful.response
  · obtain ⟨c, hc, rfl⟩ := List.mem_map.1 hmem
    obtain ⟨document, -, hstands⟩ := forall₂_exists_mem hlawful.cases c hc
    exact hstands.response

theorem Contract.responseAt_mem (contract : Contract) (i : Nat) :
    contract.responseAt i ∈ contract.responses := by
  unfold Contract.responseAt Contract.responses
  cases hcase : contract.cases[i]? with
  | none => exact List.mem_cons_self
  | some c => exact List.mem_cons_of_mem _ (List.mem_map_of_mem (List.mem_of_getElem? hcase))

/-! ## Headers as texts -/

def headerTexts (headers : List (String × String)) : Members Text :=
  headers.map fun header => (.ofString header.1, .ofString header.2)

theorem Checked.forall₂_of_each {ρ α β : Type} {f : α → Checked ρ β} {as : List α} {bs : List β}
    (h : Checked.each f as = .ok bs) : List.Forall₂ (fun a b => f a = .ok b) as bs := by
  induction as generalizing bs with
  | nil =>
    cases h
    exact .nil
  | cons a as ih =>
    obtain ⟨⟨b, rest⟩, hboth, rfl⟩ := ok_of_map h
    obtain ⟨hfirst, hrest⟩ := Checked.ok_of_both hboth
    exact .cons hfirst (ih hrest)

/-- Rendered headers lose nothing as strings. -/
theorem headerTexts_of_whole {headers : Members Text} {strings : List (String × String)}
    (h : wholeHeaders headers = .ok strings) : headerTexts strings = headers := by
  have hrel := Checked.forall₂_of_each (Checked.ok_of_within h)
  clear h
  unfold headerTexts
  induction hrel with
  | nil => rfl
  | @cons header string _ _ hheader _ ih =>
    obtain ⟨hname, htext⟩ := Checked.ok_of_both (Checked.ok_of_within hheader)
    rw [List.map_cons, ih, ofString_of_wholeText hname, ofString_of_wholeText htext]

def headerNames (headers : List (String × String)) : List Text := Members.keys (headerTexts headers)

theorem headerTexts_injective {headers others : List (String × String)}
    (h : headerTexts headers = headerTexts others) : headers = others := by
  refine List.map_injective_iff.2 (fun a b hab => ?_) h
  obtain ⟨hname, hvalue⟩ := Prod.mk.inj hab
  exact Prod.ext (Text.ofString_injective hname) (Text.ofString_injective hvalue)

theorem headerTexts_filter (p : Text → Bool) (headers : List (String × String)) :
    headerTexts (headers.filter fun header => p header.1) =
      (headerTexts headers).filter fun header => p header.1 := by
  unfold headerTexts
  rw [List.filter_map]
  rfl

theorem Members.keys_filter {α : Type} (p : Text → Bool) (members : Members α) :
    Members.keys (members.filter fun m => p m.1) = (Members.keys members).filter p :=
  List.filter_map.symm

/-! ## The header of a case -/

/-- The name is that of the header that tells which case fired, in any case. -/
def namesAssertion (name : Text) : Bool := Text.lower name == Text.lower assertionHeader

theorem namesAssertion_assertionHeader : namesAssertion assertionHeader = true := beq_self_eq_true _

/-- The name of a case comes last, and no other header has a name like it. -/
theorem withAssertion_eq (name : String) (headers : Members Text) :
    withAssertion name headers = headers.filter (fun header => !namesAssertion header.1) ++
      headerTexts [(assertionHeader, name)] := by
  refine Members.put_of_not_mem (fun hmem => ?_) (Text.ofString name)
  obtain ⟨header, hheader, hname⟩ := List.mem_map.1 hmem
  have hother : (!namesAssertion header.1) = true := (List.mem_filter.1 hheader).2
  rw [hname, namesAssertion_assertionHeader] at hother
  cases hother

theorem keys_withAssertion (name : String) (headers : Members Text) :
    Members.keys (withAssertion name headers) =
      (Members.keys headers).filter (!namesAssertion ·) ++ [.ofString assertionHeader] := by
  rw [withAssertion_eq, Members.keys, List.map_append, ← Members.keys,
    Members.keys_filter (!namesAssertion ·)]
  simp [headerTexts]

/-- Names that differ by more than case still do so with the header of a case among them. -/
theorem nodup_lower_withAssertion (name : String) {headers : Members Text}
    (h : ((Members.keys headers).map Text.lower).Nodup) :
    ((Members.keys (withAssertion name headers)).map Text.lower).Nodup := by
  rw [keys_withAssertion, List.map_append, List.nodup_append]
  refine ⟨h.sublist (List.filter_sublist.map _), List.pairwise_singleton _ _, ?_⟩
  intro lowered hlowered other hother
  obtain ⟨key, hkey, rfl⟩ := List.mem_map.1 hlowered
  obtain rfl := List.mem_singleton.1 hother
  have hdiffers : (!namesAssertion key) = true := (List.mem_filter.1 hkey).2
  exact fun heq => by simp [namesAssertion, heq] at hdiffers

/-! ## The headers of a response -/

section Rendered
variable {σ ε : Type} {filler : Filler σ ε} {response : ResponseSpec} {context : Value}
  {flow : Option String} {s s' : Session σ} {generated : GeneratedResponse}

theorem Members.keys_of_rel {α β : Type} {R : α → β → Prop} {ms : Members α} {ns : Members β}
    (h : Members.Rel R ms ns) : Members.keys ns = Members.keys ms := by
  induction h with
  | nil => rfl
  | @cons name _ _ ms ns _ _ ih => exact congrArg (name :: ·) ih

/-- **Headers are rendered under the names of their template**, and the name of a case is put among
them. -/
theorem ResponseSpec.Renders.exists_rendered
    (h : response.Renders filler context flow s generated s') :
    ∃ rendered : Members Text, Members.keys rendered = Members.keys response.headers ∧
      headerTexts generated.headers = flow.elim rendered fun name => withAssertion name rendered := by
  obtain ⟨-, -, members, s₁, data, s₂, hmembers, hwhole, -, -⟩ := h
  have hrel := Template.rel_of_gives (fun m _ v s s' => Template.generated_of_gives) hmembers
  refine ⟨Members.mapValues headerText members, ?_, headerTexts_of_whole hwhole⟩
  rw [Members.keys_mapValues, Members.keys_of_rel hrel]

theorem ResponseSpec.Renders.nodup_lower (h : response.Renders filler context flow s generated s')
    (hdistinct : (response.headers.map fun m => Text.lower m.1).Nodup) :
    ((headerNames generated.headers).map Text.lower).Nodup := by
  obtain ⟨rendered, hkeys, htexts⟩ := h.exists_rendered
  have hrendered : ((Members.keys rendered).map Text.lower).Nodup := by
    rw [hkeys, Members.keys, List.map_map]
    exact hdistinct
  rw [headerNames, htexts]
  cases flow with
  | none => exact hrendered
  | some name => exact nodup_lower_withAssertion name hrendered

/-- Of the headers of a case, one has its name, and the others are those of the template. -/
theorem ResponseSpec.Renders.headers_of_case {name : String}
    (h : response.Renders filler context (some name) s generated s') :
    generated.headers.filter (fun header => namesAssertion header.1) = [(assertionHeader, name)] ∧
      headerNames (generated.headers.filter fun header => !namesAssertion header.1) =
        (Members.keys response.headers).filter (!namesAssertion ·) := by
  obtain ⟨rendered, hkeys, htexts⟩ := h.exists_rendered
  rw [Option.elim_some, withAssertion_eq] at htexts
  constructor
  · apply headerTexts_injective
    rw [headerTexts_filter namesAssertion, htexts, List.filter_append, List.filter_filter]
    simp [headerTexts, namesAssertion_assertionHeader]
  · rw [headerNames, headerTexts_filter (!namesAssertion ·), htexts, List.filter_append,
      List.filter_filter, Members.keys, List.map_append, ← Members.keys]
    simp [headerTexts, namesAssertion_assertionHeader, ← hkeys, Members.keys_filter (!namesAssertion ·)]

variable {source : Option String} {document : Value} {contract : Contract}

/-- **A response has the headers of its template.** No two names of its headers differ only in case.
If no case has fired they are the names of the default response. If one has, a single header is named
as the one that tells so, in any case, and it tells the name of the case; the others have the names of
the template of the case but for those. -/
theorem Contract.header_names_of_respond (hload : Contract.ofValue source document = .ok contract)
    (runtime : Predicate.Runtime) (filler : Filler σ ε) (incoming : IncomingRequest) (now : Double) :
    ∃ context i, contract.Selects runtime incoming now context i ∧ ∀ s generated s',
      (contract.respond runtime filler incoming now).run s = (.ok generated, s') →
        ((headerNames generated.headers).map Text.lower).Nodup ∧
        (contract.cases[i]? = none → generated.flow = none ∧
          headerNames generated.headers = Members.keys contract.response.headers) ∧
        ∀ c, contract.cases[i]? = some c → generated.flow = some c.name ∧
          generated.headers.filter (fun header => namesAssertion header.1) =
            [(assertionHeader, c.name)] ∧
          headerNames (generated.headers.filter fun header => !namesAssertion header.1) =
            (Members.keys c.response.headers).filter (!namesAssertion ·) := by
  obtain ⟨context, i, hselects⟩ := Contract.exists_selects hload runtime incoming now
  refine ⟨context, i, hselects, fun s generated s' hrun => ?_⟩
  have hrenders := (gives_respond_iff hselects).1 hrun
  have hlawful := Contract.lawful_of_mem_responses hload (contract.responseAt_mem i)
  refine ⟨hrenders.nodup_lower hlawful.distinct, fun hnone => ?_, fun c hc => ?_⟩
  · have hflow : contract.flowAt i = none := by rw [Contract.flowAt, hnone]; rfl
    have hresponse : contract.responseAt i = contract.response := by
      rw [Contract.responseAt, hnone]
      rfl
    rw [hflow, hresponse] at hrenders
    obtain ⟨rendered, hkeys, htexts⟩ := hrenders.exists_rendered
    exact ⟨hrenders.flow_eq, by rw [headerNames, htexts]; exact hkeys⟩
  · have hflow : contract.flowAt i = some c.name := by rw [Contract.flowAt, hc]; rfl
    have hresponse : contract.responseAt i = c.response := by
      rw [Contract.responseAt, hc]
      rfl
    rw [hflow, hresponse] at hrenders
    exact ⟨hrenders.flow_eq, hrenders.headers_of_case⟩

/-- A case whose template has a header named as the one that tells which case fired. -/
theorem Contract.header_names_of_respond_replaced :
    let document : Value := .object [
      ("request", .object [("route", .text "/books"), ("method", .text "get")]),
      ("response", .object [("code", .int 200), ("headers", .object [("X-Page", .int 1)])]),
      ("except", .object [("Always", .object [("validate", .list [.text "query"]),
        ("response", .object [("code", .int 400), ("headers", .object [
          ("x-ASSERTION", .text "old"), ("X-Id", .text "{query.a}")])])])])]
    let filler : Filler Unit Empty := pure
    let incoming : IncomingRequest := ⟨[], [("a", .text "x")], [], .null⟩
    ∃ contract generated, Contract.ofValue none document = .ok contract ∧
      ((contract.respond .standard filler incoming .nan).run ⟨(), .ofDraws []⟩).1 = .ok generated ∧
      generated.headers = [("X-Id", "x"), ("X-Assertion", "Always")] ∧
      ((headerNames generated.headers).map Text.lower).Nodup ∧ ∃ c ∈ contract.cases,
        generated.flow = some c.name ∧
        generated.headers.filter (fun header => namesAssertion header.1) = [(assertionHeader, c.name)] ∧
        headerNames (generated.headers.filter fun header => !namesAssertion header.1) =
          (Members.keys c.response.headers).filter (!namesAssertion ·) := by
  intro document filler incoming
  have hrun : (Contract.ofValue none document).toOption.map (fun contract =>
      ((contract.respond .standard filler incoming .nan).run ⟨(), .ofDraws []⟩).1.toOption.map fun generated =>
        (generated.headers, generated.flow)) =
      some (some ([("X-Id", "x"), ("X-Assertion", "Always")], some "Always")) := by decide +kernel
  obtain ⟨contract, hcontract, hresponse⟩ := Option.map_eq_some_iff.1 hrun
  obtain ⟨generated, hgenerated, htold⟩ := Option.map_eq_some_iff.1 hresponse
  obtain ⟨hheaders, hflow⟩ := Prod.mk.inj htold
  have hload := ok_of_toOption hcontract
  have hok := ok_of_toOption hgenerated
  obtain ⟨context, i, -, hnames⟩ := Contract.header_names_of_respond hload .standard filler incoming .nan
  obtain ⟨hdistinct, hdefault, hcase⟩ := hnames _ generated _ (Prod.ext hok rfl)
  cases hc : contract.cases[i]? with
  | none => exact absurd (hflow.symm.trans (hdefault hc).1) nofun
  | some c =>
    exact ⟨contract, generated, hload, hok, hheaders, hdistinct, c, List.mem_of_getElem? hc, hcase c hc⟩

end Rendered

end MockApi
