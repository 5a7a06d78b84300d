import MockApi.Proofs.Labelling
import MockApi.Proofs.Leaves
import MockApi.Proofs.Mounting

/-!
# Responses that are sent

A generated response is sent unless its headers have a character that no byte stands for. Neither the
names in a template nor the name of a case nor what is filled in is checked for that.

* `Text.Bytewise text` : each character of a text is sent as one byte;
* `Reply.Carries generated` : a reply has the code, the headers and the content of a response;
* `Reply.json_eq` : what can be written as JSON is sent if the text of its headers is bytewise;
* `ResponseSpec.HeadersFit` : that text is bytewise, told apart by where it comes from;
* `Server.answers_iff` : a served contract answers a call if and only if it is.
-/

namespace MockApi

open Template (Gives)

/-! ## Text of headers -/

/-- Each character is sent as one byte. -/
def Text.Bytewise (text : Text) : Prop := ∀ c ∈ text, c.toNat < 0x100

theorem isBytewise_iff (s : String) : isBytewise s = true ↔ (Text.ofString s).Bytewise := by
  simp [isBytewise, Text.Bytewise, Text.ofString, Text.ofChars]

theorem Text.ofString_lowerString (s : String) :
    ofString (lowerString s) = lower (ofString s) :=
  ofString_lossy (whole_ofString s).lower

theorem isBytewise_lowerString_iff (s : String) :
    isBytewise (Text.lowerString s) = true ↔ (Text.lower (.ofString s)).Bytewise := by
  rw [isBytewise_iff, Text.ofString_lowerString]

theorem isBytewise_lengthText (text : String) : isBytewise (lengthText text) = true := by
  rw [isBytewise_iff]
  intro c hc
  have hdigit := Path.isAsciiDigit_of_mem_indexText (i := (Text.encode text).length) hc
  rw [Text.isAsciiDigit, Bool.and_eq_true, decide_eq_true_eq, decide_eq_true_eq] at hdigit
  omega

/-! ## Replies -/

/-- A header that is put behind those of a response: the length of the body or its type. -/
def IsAdded (body : String) (header : String × String) : Prop :=
  header = (lengthHeader, lengthText body) ∨ header = (typeHeader, "application/json")

def lowerNames (headers : List (String × String)) : List (String × String) :=
  headers.map fun header => (Text.lowerString header.1, header.2)

/-- The reply has the code of a response, all of its headers in order, and its content as JSON. What
else there is of headers tells the length and the type of the body, under names that are not taken. -/
structure Reply.Carries (reply : Reply) (generated : GeneratedResponse) : Prop where
  status_eq : reply.status = generated.code
  headers_eq : ∃ added, reply.headers = lowerNames generated.headers ++ added ∧
    ∀ header ∈ added, IsAdded reply.body header ∧
      header.1 ∉ (lowerNames generated.headers).map Prod.fst
  body_eq : Text.ofString reply.body = generated.content.compact

theorem IsAdded.bytewise {body : String} {header : String × String} (h : IsAdded body header) :
    isBytewise header.1 = true ∧ isBytewise header.2 = true := by
  obtain rfl | rfl := h
  · exact ⟨(by decide : isBytewise lengthHeader = true), isBytewise_lengthText body⟩
  · exact ⟨by decide, by decide⟩

theorem withHeader_eq (name value : String) (headers : List (String × String)) :
    ∃ added, withHeader name value headers = headers ++ added ∧
      ∀ header ∈ added, header = (name, value) ∧ name ∉ headers.map Prod.fst := by
  unfold withHeader
  split
  · exact ⟨[], (List.append_nil _).symm, nofun⟩
  · next hfree =>
    refine ⟨[(name, value)], rfl, fun header hheader => ⟨List.mem_singleton.1 hheader, ?_⟩⟩
    rwa [List.contains_iff_mem] at hfree

/-- The headers of a reply are those that are given and what is put behind them. -/
theorem jsonHeaders_eq (status : Nat) (given : List (String × String)) (body : String) :
    ∃ added, jsonHeaders status given body = lowerNames given ++ added ∧
      ∀ header ∈ added, IsAdded body header ∧ header.1 ∉ (lowerNames given).map Prod.fst := by
  have hmeasured : ∃ added,
      (if hasLength status then withHeader lengthHeader (lengthText body) (lowerNames given)
        else lowerNames given) = lowerNames given ++ added ∧
      ∀ header ∈ added, IsAdded body header ∧ header.1 ∉ (lowerNames given).map Prod.fst := by
    split
    · obtain ⟨added, hadded, hfree⟩ := withHeader_eq lengthHeader (lengthText body) (lowerNames given)
      refine ⟨added, hadded, fun header hheader => ?_⟩
      obtain ⟨rfl, hname⟩ := hfree header hheader
      exact ⟨.inl rfl, hname⟩
    · exact ⟨[], (List.append_nil _).symm, nofun⟩
  obtain ⟨added, hadded, hmeasured⟩ := hmeasured
  obtain ⟨more, hmore, hfree⟩ :=
    withHeader_eq typeHeader "application/json" (lowerNames given ++ added)
  refine ⟨added ++ more, ?_, fun header hheader => ?_⟩
  · rw [← List.append_assoc, ← hmore, ← hadded]
    rfl
  · obtain hheader | hheader := List.mem_append.1 hheader
    · exact hmeasured header hheader
    · obtain ⟨rfl, hname⟩ := hfree header hheader
      refine ⟨.inr rfl, fun hmem => hname ?_⟩
      rw [List.map_append]
      exact List.mem_append_left _ hmem

/-- **What can be written as JSON is sent if the text of its headers is bytewise.** -/
theorem Reply.json_eq (status : Nat) (headers : List (String × String)) {content : Value}
    (hfinite : content.isFinite = true) (hwhole : content.Whole) :
    ∃ body, Text.ofString body = content.compact ∧
      Reply.json status headers content =
        if (lowerNames headers).all fun header => isBytewise header.1 && isBytewise header.2 then
          .ok ⟨status, jsonHeaders status headers body, body⟩
        else .error .headerText := by
  obtain ⟨body, hbody⟩ := Text.exists_string? hwhole.compact
  refine ⟨body, Text.ofString_of_string? hbody, ?_⟩
  obtain ⟨added, hadded, hmore⟩ := jsonHeaders_eq status headers body
  have hall : (added.all fun header => isBytewise header.1 && isBytewise header.2) = true := by
    simp only [List.all_eq_true, Bool.and_eq_true]
    exact fun header hheader => (hmore header hheader).1.bytewise
  unfold Reply.json
  simp only [hfinite, Bool.not_true, Bool.false_eq_true, if_false, hbody]
  rw [hadded, List.all_append, hall, Bool.and_true]

/-! ## Where the text of headers comes from -/

/-- The names in the template of a response that are sent. If a case has fired, those are left out that
are named as the header that tells so. -/
def ResponseSpec.sentNames (response : ResponseSpec) (flow : Option String) : List Text :=
  flow.elim (Members.keys response.headers) fun _ =>
    (Members.keys response.headers).filter (!namesAssertion ·)

/-- The text of the headers of a response is bytewise: the names that it has from the template, in
lower case, and the values, among which the name of a case is. -/
structure ResponseSpec.HeadersFit (response : ResponseSpec) (flow : Option String)
    (generated : GeneratedResponse) : Prop where
  names : ∀ name ∈ response.sentNames flow, (Text.lower name).Bytewise
  values : ∀ header ∈ generated.headers, isBytewise header.2 = true

theorem forall_mem_headerNames {P : Text → Prop} {headers : List (String × String)} :
    (∀ name ∈ headerNames headers, P name) ↔ ∀ header ∈ headers, P (.ofString header.1) := by
  simp only [headerNames, headerTexts, Members.keys, List.map_map, List.forall_mem_map]
  rfl

namespace ResponseSpec.Renders
variable {σ ε : Type} {filler : Filler σ ε} {response : ResponseSpec} {context : Value}
  {flow : Option String} {s s' : Session σ} {generated : GeneratedResponse}

theorem headerNames_eq (h : response.Renders filler context flow s generated s') :
    headerNames generated.headers =
      response.sentNames flow ++ flow.elim [] fun _ => [.ofString assertionHeader] := by
  obtain ⟨rendered, hkeys, htexts⟩ := h.exists_rendered
  rw [headerNames, htexts, sentNames, ← hkeys]
  cases flow with
  | none => exact (List.append_nil _).symm
  | some name => exact keys_withAssertion name rendered

/-- The headers of a response can be sent if and only if their text is bytewise. -/
theorem headersFit_iff (h : response.Renders filler context flow s generated s') :
    ((lowerNames generated.headers).all fun header => isBytewise header.1 && isBytewise header.2) =
      true ↔ response.HeadersFit flow generated := by
  have hassertion : ∀ name ∈ flow.elim [] (fun _ => [Text.ofString assertionHeader]),
      (Text.lower name).Bytewise := by
    cases flow with
    | none => nofun
    | some case =>
      intro name hname
      obtain rfl := List.mem_singleton.1 hname
      exact (isBytewise_lowerString_iff assertionHeader).1 (by decide +kernel)
  have hnames : (∀ header ∈ generated.headers, (Text.lower (.ofString header.1)).Bytewise) ↔
      ∀ name ∈ response.sentNames flow, (Text.lower name).Bytewise := by
    rw [← forall_mem_headerNames (P := fun name => (Text.lower name).Bytewise), h.headerNames_eq,
      List.forall_mem_append, and_iff_left hassertion]
  simp only [lowerNames, List.all_map, List.all_eq_true, Function.comp_apply, Bool.and_eq_true,
    isBytewise_lowerString_iff]
  constructor
  · intro hfits
    exact ⟨hnames.1 fun header hheader => (hfits header hheader).1,
      fun header hheader => (hfits header hheader).2⟩
  · intro hfits header hheader
    exact ⟨hnames.2 hfits.names header hheader, hfits.values header hheader⟩

theorem castOnly (h : response.Renders filler context flow s generated s') :
    CastOnly response.casts generated.content := by
  obtain ⟨-, -, members, s₁, data, s₂, -, -, hdata, hfinish⟩ := h
  exact castOnly_of_finishData
    (fun way leaf hleaf => wordy_of_generated (Template.generated_of_gives hdata) hleaf) hfinish

/-- A response is sent, or a character in its headers keeps it from being sent. -/
theorem json_eq (h : response.Renders filler context flow s generated s')
    (hwhole : generated.content.Whole) :
    (response.HeadersFit flow generated ∧ ∃ reply : Reply, reply.Carries generated ∧
      Reply.json generated.code generated.headers generated.content = .ok reply) ∨
    ¬ response.HeadersFit flow generated ∧
      Reply.json generated.code generated.headers generated.content = .error .headerText := by
  have hfinite := Value.isFinite_of_leaves fun way leaf hleaf => (h.castOnly way leaf hleaf).1
  obtain ⟨body, hbody, hjson⟩ := Reply.json_eq generated.code generated.headers hfinite hwhole
  by_cases hfits : response.HeadersFit flow generated
  · rw [if_pos (h.headersFit_iff.2 hfits)] at hjson
    exact .inl ⟨hfits, _, ⟨rfl, jsonHeaders_eq _ _ _, hbody⟩, hjson⟩
  · rw [if_neg (mt h.headersFit_iff.1 hfits)] at hjson
    exact .inr ⟨hfits, hjson⟩

end ResponseSpec.Renders

/-! ## Calls -/

section Calls
variable {σ ε : Type} {runtime : Predicate.Runtime} {filler : Filler σ ε} {server : Server}
  {catalog : Catalog} {request : HttpRequest} {contract : Contract} {params : List (String × String)}
  {incoming : IncomingRequest} {now : Double} {s s' : Session σ} {generated : GeneratedResponse}

theorem Server.fit?_of_dispatch {endpoint : Endpoint}
    (h : server.dispatch request = .endpoint endpoint params) :
    Server.fit? request server.mounts = some (.endpoint endpoint params) := by
  unfold Server.dispatch Server.otherMethod? Server.elsewhere? at h
  cases hfit : Server.fit? request server.mounts with
  | some target =>
    rw [hfit] at h
    exact congrArg some h
  | none =>
    cases hother : server.mounts.find? fun mount => (mount.pattern.match? request.path).isSome with
    | some mount =>
      rw [hfit, hother] at h
      cases h
    | none =>
      rw [hfit, hother, Option.map_none, Option.none_or, Option.none_or] at h
      split_ifs at h <;> cases h

theorem Server.exists_mount_of_fit? {endpoint : Endpoint} {mounts : List Mount}
    (h : Server.fit? request mounts = some (.endpoint endpoint params)) :
    ∃ mount ∈ mounts, mount.endpoint = endpoint := by
  obtain ⟨mount, hmount, htarget⟩ := List.exists_of_findSome?_eq_some h
  refine ⟨mount, hmount, ?_⟩
  split at htarget
  · split at htarget
    · exact (Server.Target.endpoint.inj (Option.some.inj htarget)).1
    · cases htarget
  · cases htarget

/-- A contract that answers calls was loaded. -/
theorem Server.mem_loaded_of_dispatch (hserver : Server.ofCatalog catalog = .ok server)
    (h : server.dispatch request = .endpoint (.contract contract) params) :
    ∃ entry ∈ catalog.loaded, entry.contract = contract := by
  obtain ⟨rfl, -⟩ := Catalog.ofCatalog_eq_ok_iff.1 hserver
  obtain ⟨mount, hmount, hendpoint⟩ := Server.exists_mount_of_fit? (Server.fit?_of_dispatch h)
  obtain hmount | hmount := List.mem_append.1 hmount
  · obtain ⟨entry, hentry, rfl⟩ := List.mem_map.1 hmount
    exact ⟨entry, hentry, Endpoint.contract.inj hendpoint⟩
  · obtain rfl := List.mem_singleton.1 hmount
    cases hendpoint

theorem Contract.exists_ofValue_of_ofFile {tree : FileTree} {place : Location}
    (h : Contract.ofFile tree place = .ok contract) :
    ∃ source document, Contract.ofValue source document = .ok contract := by
  unfold Contract.ofFile Contract.ofBytes Contract.ofText at h
  split at h
  · split at h
    · split at h
      · next document _ => exact ⟨_, document, ok_of_mapError h⟩
      · cases h
      · cases h
    · cases h
  · cases h

theorem Catalog.exists_ofValue_of_mem_loaded {tree : FileTree} {casesAllowed : Bool} {top : Location}
    (hload : Catalog.load tree casesAllowed top = .ok catalog) {entry : CatalogEntry}
    (h : entry ∈ catalog.loaded) :
    ∃ source document, Contract.ofValue source document = .ok entry.contract := by
  rw [Catalog.loaded_of_load hload] at h
  obtain hnil | hoffer := Catalog.offer?_of_mem_foldl_accept h
  · cases hnil
  · exact Contract.exists_ofValue_of_ofFile (Catalog.offer?_eq_some_iff.1 hoffer).1

theorem Server.run_handle (hdispatch : server.dispatch request = .endpoint (.contract contract) params)
    (hincoming : request.incoming (textMembers params) = .ok incoming)
    (h : Gives (contract.respond runtime filler incoming now) s generated s') :
    (server.handle runtime filler request now).run s =
      ((Reply.json generated.code generated.headers generated.content).mapError .reply, s') := by
  have hadapt : Gives (ExceptT.adapt ServeError.generation (contract.respond runtime filler incoming now))
      s generated s' := by
    have hrun : ∀ x : Generation σ ε GeneratedResponse, (ExceptT.adapt ServeError.generation x).run s =
        ((x.run s).1.mapError .generation, (x.run s).2) := fun _ => rfl
    rw [Gives, hrun, h]
    rfl
  unfold Server.handle Server.respond
  simp only [hdispatch, hincoming]
  rw [Template.run_bind, hadapt]
  dsimp only
  cases Reply.json generated.code generated.headers generated.content <;> rfl

/-- **A served contract answers a call if and only if the text of its headers is bytewise.** Whenever a
response is generated, and no half of a pair stands alone in its content, the reply has its code, its
headers and its content; a character in its headers that no byte stands for, be it in a name of the
template, in the name of the case or in a value, leaves the call without an answer. -/
theorem Server.answers_iff {tree : FileTree} {casesAllowed : Bool} {top : Location}
    (hload : Catalog.load tree casesAllowed top = .ok catalog)
    (hserver : Server.ofCatalog catalog = .ok server)
    (hdispatch : server.dispatch request = .endpoint (.contract contract) params)
    (hincoming : request.incoming (textMembers params) = .ok incoming)
    (runtime : Predicate.Runtime) (filler : Filler σ ε) (now : Double) : ∃ context i,
      contract.Selects runtime incoming now context i ∧ ∀ s generated s',
      (contract.respond runtime filler incoming now).run s = (.ok generated, s') → generated.content.Whole →
        ((∃ reply, (server.handle runtime filler request now).run s = (.ok reply, s') ∧
            reply.Carries generated) ↔
          (contract.responseAt i).HeadersFit (contract.flowAt i) generated) ∧
        (¬ (contract.responseAt i).HeadersFit (contract.flowAt i) generated →
          (server.handle runtime filler request now).run s = (.error (.reply .headerText), s')) := by
  obtain ⟨entry, hentry, rfl⟩ := Server.mem_loaded_of_dispatch hserver hdispatch
  obtain ⟨source, document, hvalue⟩ := Catalog.exists_ofValue_of_mem_loaded hload hentry
  obtain ⟨context, i, hselects⟩ := Contract.exists_selects hvalue runtime incoming now
  refine ⟨context, i, hselects, fun s generated s' hrun hwhole => ?_⟩
  rw [Server.run_handle hdispatch hincoming hrun]
  obtain ⟨hfits, reply, hcarries, hjson⟩ | ⟨hfits, hjson⟩ :=
    ((gives_respond_iff hselects).1 hrun).json_eq hwhole
  · rw [hjson]
    exact ⟨iff_of_true ⟨reply, rfl, hcarries⟩ hfits, fun h => absurd hfits h⟩
  · rw [hjson]
    refine ⟨iff_of_false ?_ hfits, fun _ => rfl⟩
    rintro ⟨reply, hreply, -⟩
    cases hreply

/-! ## A response that repeats what a call says -/

/-- The response that is generated for a call, if a contract answers it. -/
def Server.generated? (server : Server) (runtime : Predicate.Runtime) (filler : Filler σ ε)
    (request : HttpRequest) (now : Double) (s : Session σ) : Option GeneratedResponse :=
  match server.dispatch request with
  | .endpoint (.contract contract) params =>
    (request.incoming (textMembers params)).toOption.bind fun incoming =>
      ((contract.respond runtime filler incoming now).run s).1.toOption
  | _ => none

theorem Server.exists_of_generated? (h : server.generated? runtime filler request now s = some generated) :
    ∃ contract params incoming, server.dispatch request = .endpoint (.contract contract) params ∧
      request.incoming (textMembers params) = .ok incoming ∧
      ∃ s', (contract.respond runtime filler incoming now).run s = (.ok generated, s') := by
  unfold Server.generated? at h
  split at h
  · next contract params hdispatch =>
    obtain ⟨incoming, hincoming, hgenerated⟩ := Option.bind_eq_some_iff.1 h
    exact ⟨contract, params, incoming, hdispatch, ok_of_toOption hincoming, _,
      Prod.ext (ok_of_toOption hgenerated) rfl⟩
  · cases h

theorem Server.exists_of_served {tree : FileTree} {α : Type} {f : Server → Option α} {a : α}
    (h : ((Catalog.load tree true []).toOption.bind fun catalog =>
      (Server.ofCatalog catalog).toOption.bind f) = some a) :
    ∃ catalog server, Catalog.load tree true [] = .ok catalog ∧ Server.ofCatalog catalog = .ok server ∧
      f server = some a := by
  obtain ⟨catalog, hcatalog, h⟩ := Option.bind_eq_some_iff.1 h
  obtain ⟨server, hserver, h⟩ := Option.bind_eq_some_iff.1 h
  exact ⟨catalog, server, ok_of_toOption hcatalog, ok_of_toOption hserver, h⟩

/-- The bytes of a document whose response has a value of the query in a header. -/
def echoDocument : List Nat :=
  Text.encode <| "\x7b\"request\": \x7b\"route\": \"/x\", \"method\": \"get\"\x7d, \"response\": " ++
    "\x7b\"code\": 200, \"headers\": \x7b\"X-Echo\": \"\x7bquery.a\x7d\"\x7d\x7d\x7d"

/-- A header with a letter that one byte stands for. -/
theorem Server.answers_iff_letter :
    let tree : FileTree := ⟨[(["a.json"], echoDocument)], []⟩
    let filler : Filler Unit Empty := pure
    let request : HttpRequest := ⟨"GET", "/x", "a=%C3%A9", [], []⟩
    ∃ catalog server generated reply, Catalog.load tree true [] = .ok catalog ∧
      Server.ofCatalog catalog = .ok server ∧
      server.generated? .standard filler request .nan ⟨(), .ofDraws []⟩ = some generated ∧
      generated.headers = [("X-Echo", "é")] ∧
      ((server.handle .standard filler request .nan).run ⟨(), .ofDraws []⟩).1 = .ok reply ∧
      reply.Carries generated ∧ reply.headers =
        [("x-echo", "é"), ("content-length", "4"), ("content-type", "application/json")] := by
  intro tree filler request
  have hrun : ((Catalog.load tree true []).toOption.bind fun catalog =>
      (Server.ofCatalog catalog).toOption.bind fun server =>
        (server.generated? .standard filler request .nan ⟨(), .ofDraws []⟩).map fun generated =>
          (generated.headers, generated.content.isNull,
            ((server.handle .standard filler request .nan).run ⟨(), .ofDraws []⟩).1.toOption.map Reply.headers)) =
      some ([("X-Echo", "é")], true, some [("x-echo", "é"), ("content-length", "4"),
        ("content-type", "application/json")]) := by decide +kernel
  obtain ⟨catalog, server, hload, hserver, hserved⟩ := Server.exists_of_served hrun
  obtain ⟨generated, hgenerated, htold⟩ := Option.map_eq_some_iff.1 hserved
  obtain ⟨hheaders, htold⟩ := Prod.mk.inj htold
  obtain ⟨hcontent, hreply⟩ := Prod.mk.inj htold
  obtain ⟨contract, params, incoming, hdispatch, hincoming, s', hrespond⟩ :=
    Server.exists_of_generated? hgenerated
  have hwhole : generated.content.Whole := by
    rw [(Value.isNull_iff _).1 hcontent]
    exact .null
  obtain ⟨context, i, -, hanswers⟩ :=
    Server.answers_iff hload hserver hdispatch hincoming .standard filler .nan
  obtain ⟨hiff, hfails⟩ := hanswers _ generated s' hrespond hwhole
  have hfits : (contract.responseAt i).HeadersFit (contract.flowAt i) generated := by
    by_contra hnot
    rw [hfails hnot] at hreply
    cases hreply
  obtain ⟨reply, hhandle, hcarries⟩ := hiff.2 hfits
  rw [hhandle] at hreply
  exact ⟨catalog, server, generated, reply, hload, hserver, hgenerated, hheaders,
    congrArg Prod.fst hhandle, hcarries, Option.some.inj hreply⟩

/-- A sign of a call that no byte stands for is put into a header, and the call is not answered. -/
theorem Server.handle_fails_on_euro_sign :
    let tree : FileTree := ⟨[(["a.json"], echoDocument)], []⟩
    let filler : Filler Unit Empty := pure
    let request : HttpRequest := ⟨"GET", "/x", "a=%E2%82%AC", [], []⟩
    ∃ catalog server contract params incoming generated s', Catalog.load tree true [] = .ok catalog ∧
      Server.ofCatalog catalog = .ok server ∧
      server.dispatch request = .endpoint (.contract contract) params ∧
      request.incoming (textMembers params) = .ok incoming ∧
      (contract.respond .standard filler incoming .nan).run ⟨(), .ofDraws []⟩ = (.ok generated, s') ∧
      generated.headers = [("X-Echo", "€")] ∧ generated.content.Whole ∧
      ∀ reply, ((server.handle .standard filler request .nan).run ⟨(), .ofDraws []⟩).1 ≠ .ok reply := by
  intro tree filler request
  have hrun : ((Catalog.load tree true []).toOption.bind fun catalog =>
      (Server.ofCatalog catalog).toOption.bind fun server =>
        (server.generated? .standard filler request .nan ⟨(), .ofDraws []⟩).map fun generated =>
          (generated.headers, generated.content.isNull,
            ((server.handle .standard filler request .nan).run ⟨(), .ofDraws []⟩).1.toOption.isSome)) =
      some ([("X-Echo", "€")], true, false) := by decide +kernel
  obtain ⟨catalog, server, hload, hserver, hserved⟩ := Server.exists_of_served hrun
  obtain ⟨generated, hgenerated, htold⟩ := Option.map_eq_some_iff.1 hserved
  obtain ⟨hheaders, htold⟩ := Prod.mk.inj htold
  obtain ⟨hcontent, hnone⟩ := Prod.mk.inj htold
  obtain ⟨contract, params, incoming, hdispatch, hincoming, s', hrespond⟩ :=
    Server.exists_of_generated? hgenerated
  refine ⟨catalog, server, contract, params, incoming, generated, s', hload, hserver, hdispatch,
    hincoming, hrespond, hheaders, ?_, fun reply hreply => ?_⟩
  · rw [(Value.isNull_iff _).1 hcontent]
    exact .null
  · rw [hreply] at hnone
    cases hnone

end Calls

end MockApi
