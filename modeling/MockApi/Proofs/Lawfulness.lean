import MockApi.Contract.Starter
import MockApi.Proofs.Language
import MockApi.Proofs.Rejecting

/-!
# Loading is all or nothing

A document is rejected with at least one message, or it gives a contract in which everything holds that
a call relies on, for the default response and for that of every case at once.

* `RequestSpec.Lawful`, `ResponseSpec.Lawful` : what holds of a loaded request and of a response;
* `ExceptCase.StandsFor name document c` : `c` is the case that a document describes under a name;
* `Contract.Lawful members contract` : what holds of the contract of a document with these members;
* `Contract.ofValue_rejected_or_lawful` : one of the two, for every document.
-/

namespace MockApi

/-- The route is not blank, the method is one of six, and the supposed headers have distinct names in
lower case. -/
structure RequestSpec.Lawful (request : RequestSpec) : Prop where
  route : Text.isAllBlank (.ofString request.route) = false
  method : request.method.lowerName ∈ ["head", "get", "post", "put", "patch", "delete"]
  payload : (∃ members, request.payload.value = .object members) ∨
    (∃ s, request.payload.value = .text s) ∨ request.payload.value = .null
  headers : Folded request.headers.members

/-- The response fits, its code is one of a response, and no two names of its headers differ only in
case. -/
structure ResponseSpec.Lawful (response : ResponseSpec) : Prop extends response.Fits where
  code : 100 ≤ response.code ∧ response.code ≤ 599
  distinct : (response.headers.map fun m => Text.lower m.1).Nodup

/-- The case has the name under which it stands, a predicate for each of the sources in its document,
in order and at least one, and a lawful response. -/
structure ExceptCase.StandsFor (name : Text) (document : Value) (c : ExceptCase) : Prop where
  name : Text.ofString c.name = name
  predicates : ∃ key sources,
    Checked.member? document.membersOf ["validate", "predicates"] =
      some (key, .list (sources.map Value.text)) ∧
    sources ≠ [] ∧
    List.Forall₂ (fun source p => Predicate.ofSource source = .ok p ∧ .ofString p.source = source)
      sources c.predicates
  response : c.response.Lawful

/-- The documents of the cases of a contract, with the names under which they stand. -/
def caseDocuments (members : Members Value) : Members Value :=
  ((Checked.member? members [casesName, "except_cases"]).map fun found => found.2.membersOf).getD []

/-- The request and the default response are lawful, and the cases stand for their documents, in
order. -/
structure Contract.Lawful (members : Members Value) (contract : Contract) : Prop where
  request : contract.request.Lawful
  response : contract.response.Lawful
  cases : List.Forall₂ (fun document c => ExceptCase.StandsFor document.1 document.2 c)
    (caseDocuments members) contract.cases

/-! ## Requests -/

theorem ofString_of_wholeText {ρ : Type} {text : Text} {s : String}
    (h : (Checked.wholeText text : Checked ρ String) = .ok s) : Text.ofString s = text := by
  unfold Checked.wholeText at h
  split at h
  · next hstring =>
    cases h
    exact Text.ofString_of_string? hstring
  · cases h

theorem isAllBlank_of_routeOfValue {v : Value} {route : String} (h : routeOfValue v = .ok route) :
    Text.isAllBlank (.ofString route) = false := by
  unfold routeOfValue at h
  split at h
  · split at h
    · cases h
    · next hblank =>
      rw [ofString_of_wholeText h]
      exact Bool.eq_false_iff.2 hblank
  · cases h

theorem HttpMethod.lowerName_mem (method : HttpMethod) :
    method.lowerName ∈ ["head", "get", "post", "put", "patch", "delete"] := by
  cases method <;> decide

theorem Payload.value_cases (payload : Payload) :
    (∃ members, payload.value = .object members) ∨ (∃ s, payload.value = .text s) ∨
      payload.value = .null := by
  cases payload with
  | none => exact .inr (.inr rfl)
  | text s => exact .inr (.inl ⟨s, rfl⟩)
  | object members => exact .inl ⟨members, rfl⟩

theorem RequestSpec.lawful_of_ofValue {v : Value} {request : RequestSpec}
    (h : RequestSpec.ofValue v = .ok request) : request.Lawful := by
  have hfolded := RequestSpec.folded_of_ofValue h
  obtain ⟨members, -, h⟩ := ok_of_bind h
  obtain ⟨⟨route, method, query, payload, headers⟩, hparts, h⟩ := ok_of_bind h
  cases h
  obtain ⟨hroute, -⟩ := Checked.ok_of_both hparts
  obtain ⟨w, hw⟩ := Checked.ok_of_required hroute
  exact ⟨isAllBlank_of_routeOfValue hw, method.lowerName_mem, payload.value_cases, hfolded⟩

/-! ## Responses -/

theorem bounds_of_codeOfValue {v : Value} {code : Nat} (h : codeOfValue v = .ok code) :
    100 ≤ code ∧ code ≤ 599 := by
  unfold codeOfValue at h
  simp only at h
  split at h
  · cases h
  · split at h
    · cases h
    · split at h
      · cases h
      · next n _ hbounds =>
        cases h
        unfold minCode maxCode at hbounds
        omega

theorem distinct_of_headerTemplatesOfValue {v : Value} {headers : Members Value}
    (h : headerTemplatesOfValue v = .ok headers) :
    (headers.map fun m => Text.lower m.1).Nodup := by
  obtain ⟨map, hmap, h⟩ := ok_of_bind h
  have hsame : headers = v.membersOf := by
    simp only at h
    split at h
    · cases h
    · exact (Checked.ok_of_entries h).1
  subst hsame
  cases v with
  | object members =>
    have hkeys := HeaderMap.keys_of_ofPairs (Checked.ok_of_ofExcept hmap)
    have hnodup := map.nodup
    rwa [hkeys] at hnodup
  | _ => exact List.nodup_nil

theorem ResponseSpec.lawful_of_ofValue {v : Value} {response : ResponseSpec}
    (h : ResponseSpec.ofValue v = .ok response) : response.Lawful := by
  have hfits := ResponseSpec.fits_of_ofValue h
  obtain ⟨members, -, h⟩ := ok_of_bind h
  obtain ⟨⟨code, headers, data, metadata⟩, hparts, h⟩ := ok_of_bind h
  obtain ⟨hcode, hparts⟩ := Checked.ok_of_both hparts
  obtain ⟨hheaders, -⟩ := Checked.ok_of_both hparts
  obtain ⟨w, hw⟩ := Checked.ok_of_required hcode
  have hbounds := bounds_of_codeOfValue hw
  have hdistinct : (headers.map fun m => Text.lower m.1).Nodup := by
    obtain rfl | ⟨u, hu⟩ := Checked.ok_of_optional hheaders
    · exact List.nodup_nil
    · exact distinct_of_headerTemplatesOfValue hu
  have hresponse : response = { code, headers, data, metadata } := by
    cases metadata with
    | none =>
      cases h
      rfl
    | some m =>
      obtain ⟨u, -, h⟩ := ok_of_bind h
      cases h
      rfl
  subst hresponse
  exact ⟨hfits, hbounds, hdistinct⟩

/-! ## Cases -/

theorem sources_of_predicatesFrom {i : Nat} {items : List Value} {ps : List Predicate}
    (h : predicatesFrom i items = .ok ps) :
    ∃ sources : List Text, items = sources.map Value.text ∧
      List.Forall₂ (fun source p => Predicate.ofSource source = .ok p ∧ .ofString p.source = source)
        sources ps := by
  induction items generalizing i ps with
  | nil =>
    cases h
    exact ⟨[], rfl, .nil⟩
  | cons v items ih =>
    cases v with
    | text source =>
      obtain ⟨p, hp, h⟩ := ok_of_bind h
      obtain ⟨rest, hrest, h⟩ := ok_of_bind h
      cases h
      obtain ⟨sources, rfl, hsources⟩ := ih hrest
      have hsource := Checked.ok_of_ofExcept hp
      exact ⟨source :: sources, rfl,
        .cons ⟨hsource, (Predicate.parts_of_ofSource hsource).1⟩ hsources⟩
    | _ => cases h

theorem sources_of_predicatesOfValue {v : Value} {ps : List Predicate}
    (h : predicatesOfValue v = .ok ps) :
    ∃ sources : List Text, v = .list (sources.map Value.text) ∧ sources ≠ [] ∧
      List.Forall₂ (fun source p => Predicate.ofSource source = .ok p ∧ .ofString p.source = source)
        sources ps := by
  unfold predicatesOfValue at h
  split at h
  · cases h
  · next items hne =>
    obtain ⟨sources, rfl, hsources⟩ := sources_of_predicatesFrom h
    exact ⟨sources, rfl, fun hnil => hne (by rw [hnil]; rfl), hsources⟩
  · cases h

/-- The name that is written to the document of a case leaves its predicates where they are. -/
theorem member?_put_name (members : Members Value) (v : Value) :
    Checked.member? (Members.put members "name" v) ["validate", "predicates"] =
      Checked.member? members ["validate", "predicates"] := by
  have hvalidate : Text.ofString "name" ≠ Text.ofString "validate" := by decide
  have hpredicates : Text.ofString "name" ≠ Text.ofString "predicates" := by decide
  simp only [Checked.member?, List.findSome?_cons, List.findSome?_nil, Members.get?_put,
    if_neg hvalidate, if_neg hpredicates]

theorem ExceptCase.standsFor_of_ofValue {name : Text} {document : Value} {c : ExceptCase}
    (h : ExceptCase.ofValue (namedCase name document) = .ok c) : c.StandsFor name document := by
  obtain ⟨members, hmembers, h⟩ := ok_of_bind h
  obtain ⟨⟨n, predicates, response⟩, hparts, h⟩ := ok_of_bind h
  cases h
  obtain ⟨hname, hparts⟩ := Checked.ok_of_both hparts
  obtain ⟨hpredicates, hresponse⟩ := Checked.ok_of_both hparts
  cases document with
  | object documentMembers =>
    cases hmembers
    obtain ⟨key, v, hv, hn⟩ := Checked.member?_of_required hname
    obtain ⟨key', w, hw, hps⟩ := Checked.member?_of_required hpredicates
    obtain ⟨u, hu⟩ := Checked.ok_of_required hresponse
    obtain ⟨sources, rfl, hne, hsources⟩ := sources_of_predicatesOfValue hps
    rw [member?_put_name] at hw
    have hvalue : v = .text name := by
      simp only [Checked.member?, List.findSome?_cons, Members.get?_put_self, Option.map_some] at hv
      cases hv
      rfl
    subst hvalue
    exact ⟨ofString_of_wholeText hn, ⟨key', sources, hw, hne, hsources⟩,
      ResponseSpec.lawful_of_ofValue hu⟩
  | _ => cases hmembers

theorem standsFor_of_casesFrom {byName : Bool} {i : Nat} {documents : Members Value}
    {cases : List ExceptCase} (h : casesFrom byName i documents = .ok cases) :
    List.Forall₂ (fun document c => ExceptCase.StandsFor document.1 document.2 c) documents cases := by
  induction documents generalizing i cases with
  | nil =>
    cases h
    exact .nil
  | cons document documents ih =>
    obtain ⟨⟨first, rest⟩, hboth, rfl⟩ := ok_of_map h
    obtain ⟨hfirst, hrest⟩ := Checked.ok_of_both hboth
    exact .cons (ExceptCase.standsFor_of_ofValue (Checked.ok_of_within hfirst)) (ih hrest)

theorem standsFor_of_casesOfMembers {members : Members Value} {cases : List ExceptCase}
    (h : casesOfMembers members = .ok cases) :
    List.Forall₂ (fun document c => ExceptCase.StandsFor document.1 document.2 c)
      (caseDocuments members) cases := by
  unfold casesOfMembers Checked.optional at h
  unfold caseDocuments
  split at h
  · next key v hmember =>
    rw [hmember]
    have hcases := Checked.ok_of_within h
    cases v with
    | null =>
      cases hcases
      exact .nil
    | object documents => exact standsFor_of_casesFrom hcases
    | _ => cases hcases
  · next hnone =>
    rw [hnone]
    cases h
    exact .nil

/-! ## Contracts -/

theorem Contract.lawful_of_ofMembers {members : Members Value} {contract : Contract}
    (h : Contract.ofMembers members = .ok contract) : contract.Lawful members := by
  obtain ⟨⟨request, response, cases⟩, hparts, h⟩ := ok_of_bind h
  cases h
  obtain ⟨hrequest, hparts⟩ := Checked.ok_of_both hparts
  obtain ⟨hresponse, hcases⟩ := Checked.ok_of_both hparts
  obtain ⟨v, hv⟩ := Checked.ok_of_required hrequest
  obtain ⟨w, hw⟩ := Checked.ok_of_required hresponse
  exact ⟨RequestSpec.lawful_of_ofValue hv, ResponseSpec.lawful_of_ofValue hw,
    standsFor_of_casesOfMembers hcases⟩

/-- **Loading is all or nothing.** Every document is rejected with its source and at least one message,
or it is an object and gives a lawful contract. -/
theorem Contract.ofValue_rejected_or_lawful (source : Option String) (v : Value) :
    (∃ r, Contract.ofValue source v = .error r ∧ r.source = source ∧ r.errors ≠ []) ∨
      ∃ members contract, v = .object members ∧ Contract.ofValue source v = .ok contract ∧
        contract.Lawful members := by
  cases hload : Contract.ofValue source v with
  | error r => exact .inl ⟨r, rfl, Contract.errors_ne_nil_of_ofValue hload⟩
  | ok contract =>
    right
    cases v with
    | object members =>
      rw [Contract.ofValue] at hload
      cases hparts : Contract.ofMembers members with
      | error problems =>
        rw [hparts] at hload
        cases hload
      | ok c =>
        rw [hparts] at hload
        cases hload
        exact ⟨members, contract, rfl, rfl, lawful_of_ofMembers hparts⟩
    | _ => cases hload

/-- There are documents that are not rejected. -/
example : (Contract.ofValue none Contract.starter).isOk = true := by decide +kernel

end MockApi
