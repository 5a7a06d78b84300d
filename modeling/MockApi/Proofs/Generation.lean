import MockApi.Proofs.Finishing
import MockApi.Proofs.Lookup
import MockApi.Proofs.Soundness
import MockApi.Response.Build

/-!
# Every call gets a response

No step between a call and its response can fail when the contract was loaded.

* `Filler.Serves filler P text` : the filler gives a text with a property for a text;
* `IncomingRequest.Whole`, `RequestSpec.Whole` : the texts of a call, and of what is supposed for it;
* `IncomingRequest.Writable`, `RequestSpec.Writable`, `ResponseSpec.Writable` : their integers;
* `Context.exists_build`, `Context.exists_scope` : the context of a call and its scope, without
  clashes of headers;
* `fill_expandLeaf_eq_generate` : what the leaves of a template become, where they can be written;
* `exists_renderHeaders`, `exists_renderContent` : the two parts of a response;
* `Contract.exists_respond` : the response.
-/

namespace MockApi

open Placeholder (Modest)
open Template (Gives Generated Responds fill gives_bind gives_pure leaves memberLeaves scalars)
open Value (Indexable)

variable {σ ε : Type} {filler : Filler σ ε} {context : Value} {response : ResponseSpec}

/-! ## What is supposed of a filler and of texts -/

/-- The filler gives a text for this one, whatever its state, and what it gives has a property. -/
def Filler.Serves (filler : Filler σ ε) (P : Text → Prop) (text : Text) : Prop :=
  ∀ s, ∃ filled s', (filler text).run s = (.ok filled, s') ∧ P filled

/-- All texts of the call are whole. -/
structure IncomingRequest.Whole (incoming : IncomingRequest) : Prop where
  params : Value.Whole (.object incoming.params)
  query : Value.Whole (.object incoming.query)
  headers : Value.Whole (.object incoming.headers)
  body : incoming.body.Whole

/-- All texts that are supposed where a call leaves something out are whole. -/
structure RequestSpec.Whole (request : RequestSpec) : Prop where
  query : Value.Whole (.object (Members.mapValues QueryDefault.value request.query))
  headers : Value.Whole (.object request.headers.members)
  payload : request.payload.value.Whole

/-- All integers of the call can be written. -/
structure IncomingRequest.Writable (incoming : IncomingRequest) : Prop where
  params : (Value.object incoming.params).isWritable = true
  query : (Value.object incoming.query).isWritable = true
  headers : (Value.object incoming.headers).isWritable = true
  body : incoming.body.isWritable = true

/-- All integers that are supposed where a call leaves something out can be written. -/
structure RequestSpec.Writable (request : RequestSpec) : Prop where
  query : (Value.object (Members.mapValues QueryDefault.value request.query)).isWritable = true
  headers : (Value.object request.headers.members).isWritable = true
  payload : request.payload.value.isWritable = true

/-- All integers in the templates of a response can be written. -/
structure ResponseSpec.Writable (response : ResponseSpec) : Prop where
  headers : (Value.object response.headers).isWritable = true
  data : response.data.isWritable = true

def Contract.responses (contract : Contract) : List ResponseSpec :=
  contract.response :: contract.cases.map ExceptCase.response

theorem Filler.Serves.imp {P Q : Text → Prop} {text : Text} (h : filler.Serves P text)
    (himp : ∀ filled, P filled → Q filled) : filler.Serves Q text := by
  intro s
  obtain ⟨filled, s', hrun, hfilled⟩ := h s
  exact ⟨filled, s', hrun, himp filled hfilled⟩

theorem Contract.Fits.of_mem_responses {contract : Contract} (h : contract.Fits)
    (hmem : response ∈ contract.responses) : response.Fits := by
  obtain rfl | hmem := List.mem_cons.1 hmem
  · exact h.response
  · obtain ⟨c, hc, rfl⟩ := List.mem_map.1 hmem
    exact h.cases c hc

/-! ## The context -/

theorem Payload.whole_merge {default : Payload} (hdefault : default.value.Whole) {body : Value}
    (hbody : body.Whole) : (default.merge body).value.Whole := by
  cases body with
  | object members =>
    cases default with
    | object base => exact hdefault.merge hbody
    | _ =>
      have hempty : Value.Whole (.object []) := .object nofun nofun
      exact hempty.merge hbody
  | text s => exact hbody
  | _ => exact hdefault

theorem whole_lowered {headers : Members Value} (h : Value.Whole (.object headers)) :
    Value.Whole (.object (headers.map fun (name, v) => (Text.lower name, v))) := by
  cases h with
  | object hnames hvalues =>
    refine .object (fun m hm => ?_) (fun m hm => ?_)
    · obtain ⟨written, hwritten, rfl⟩ := List.mem_map.1 hm
      exact (hnames written hwritten).lower
    · obtain ⟨written, hwritten, rfl⟩ := List.mem_map.1 hm
      exact hvalues written hwritten

theorem Payload.isWritable_merge {default : Payload} (hdefault : default.value.isWritable = true)
    {body : Value} (hbody : body.isWritable = true) : (default.merge body).value.isWritable = true := by
  cases body with
  | object members =>
    cases default with
    | object base => exact Value.isWritable_merge hdefault hbody
    | _ =>
      have hempty : (Value.object []).isWritable = true := rfl
      exact Value.isWritable_merge hempty hbody
  | text s => rfl
  | _ => exact hdefault

theorem isWritable_lowered {headers : Members Value} (h : (Value.object headers).isWritable = true) :
    (Value.object (headers.map fun (name, v) => (Text.lower name, v))).isWritable = true := by
  rw [Value.isWritable_object] at *
  intro m hm
  obtain ⟨written, hwritten, rfl⟩ := List.mem_map.1 hm
  exact h written hwritten

/-- **A context is built without a clash of headers**; it is whole if the call and what is supposed for
it are, and its integers can be written if theirs can. -/
theorem Context.exists_build {request : RequestSpec} (hfolded : Folded request.headers.members)
    (incoming : IncomingRequest) (now : Double) :
    ∃ context, Context.build request incoming now = .ok context ∧ Folded context.headers ∧
      (request.Whole → incoming.Whole → context.value.Whole) ∧
      (request.Writable → incoming.Writable → context.value.isWritable = true) := by
  obtain ⟨supposed, hsupposed, hmembers⟩ := HeaderMap.ofPairs_of_folded hfolded
  rw [← hmembers] at hfolded
  have hbuild : Context.build request incoming now = .ok {
      route := incoming.params
      query := Members.merge (Members.mapValues QueryDefault.value request.query) incoming.query
      headers := supposed.merged incoming.headers
      payload := request.payload.merge incoming.body
      time := millisecondsText now } := by
    rw [Context.build, hsupposed]
    rfl
  refine ⟨_, hbuild, HeaderMap.folded_merged hfolded incoming.headers, fun hrequest hincoming => ?_,
    fun hrequest hincoming => ?_⟩
  · have hsupposedWhole := hrequest.headers
    rw [← hmembers] at hsupposedWhole
    have hquery := hrequest.query.merge hincoming.query
    have hheaders := hsupposedWhole.merge (whole_lowered hincoming.headers)
    have hpayload := Payload.whole_merge hrequest.payload hincoming.body
    have htime := Value.Whole.text (Text.whole_ofString (millisecondsText now))
    refine .object (fun m hm => ?_) (fun m hm => ?_)
    · simp only [List.mem_cons, List.not_mem_nil, or_false] at hm
      obtain rfl | rfl | rfl | rfl | rfl := hm <;> exact Text.whole_ofString _
    · simp only [List.mem_cons, List.not_mem_nil, or_false] at hm
      obtain rfl | rfl | rfl | rfl | rfl := hm
      · exact hincoming.params
      · exact hquery
      · exact hheaders
      · exact hpayload
      · exact htime
  · have hsupposed := hrequest.headers
    rw [← hmembers] at hsupposed
    rw [Context.value, Value.isWritable_object]
    intro m hm
    simp only [List.mem_cons, List.not_mem_nil, or_false] at hm
    obtain rfl | rfl | rfl | rfl | rfl := hm
    · exact hincoming.params
    · exact Value.isWritable_merge hrequest.query hincoming.query
    · exact Value.isWritable_merge hsupposed (isWritable_lowered hincoming.headers)
    · exact Payload.isWritable_merge hrequest.payload hincoming.body
    · rfl

theorem Context.exists_scope {context : Context} (h : Folded context.headers)
    (runtime : Predicate.Runtime) : ∃ scope, context.scope runtime = .ok scope := by
  obtain ⟨headers, hheaders, -⟩ := HeaderMap.ofPairs_of_folded h
  rw [Context.scope, hheaders]
  exact ⟨_, rfl⟩

/-! ## Leaves -/

theorem settle_ok {α β : Type} (error : α → GenerationError ε) (b : β) :
    (settle error (.ok b) : Generation σ ε β) = pure b :=
  rfl

theorem gives_settle_iff {α β : Type} {error : α → GenerationError ε} {result : Except α β} {b : β}
    {s s' : Session σ} : Gives (settle error result) s b s' ↔ result = .ok b ∧ s = s' := by
  cases result with
  | ok a => simp only [settle_ok, gives_pure, Except.ok.injEq]
  | error e =>
    constructor
    · intro h
      cases h
    · rintro ⟨h, -⟩
      cases h

theorem gives_settle {α β : Type} {error : α → GenerationError ε} {result : Except α β} {b : β}
    (h : result = .ok b) (s : Session σ) : Gives (settle error result) s b s :=
  gives_settle_iff.2 ⟨h, rfl⟩

theorem exists_fillText {P : Text → Prop} {text : Text} (h : filler.Serves P text) (s : Session σ) :
    ∃ filled s', Gives (fillText filler text) s filled s' ∧ P filled := by
  obtain ⟨filled, state, hrun, hfilled⟩ := h s.filler
  refine ⟨filled, { s with filler := state }, ?_, hfilled⟩
  have hfill : (fillText filler text).run s =
      (((filler text).run s.filler).1.mapError .filler,
        { s with filler := ((filler text).run s.filler).2 }) := rfl
  rw [Gives, hfill, hrun]
  rfl

theorem inherited_scalars {P : Value → Prop} (hP : Value.Inherited P) {t : Value} (ht : P t) :
    ∀ leaf ∈ scalars t, P leaf := by
  induction t using Value.induction with
  | null => exact nofun
  | list ts ih =>
    intro leaf hleaf
    obtain ⟨t, hmem, hleaf⟩ := Template.mem_itemScalars.1 hleaf
    exact ih t hmem ((hP.list_iff ts).1 ht t hmem) leaf hleaf
  | object ms ih =>
    intro leaf hleaf
    obtain ⟨m, hmem, hleaf⟩ := Template.mem_memberScalars.1 hleaf
    exact ih m hmem (hP.members ms ht m hmem) leaf hleaf
  | _ =>
    intro leaf hleaf
    obtain rfl := List.mem_singleton.1 hleaf
    exact ht

theorem responds_expandLeaf {leaf : Value} (hleaf : leaf.isWritable = true)
    (h : filler.Serves Modest leaf.written) (hcontext : context.isWritable = true) (lowered : Bool) :
    Responds (expandLeaf filler context lowered) leaf := by
  intro s
  obtain ⟨filled, s', hfill, hmodest⟩ := exists_fillText h s
  obtain ⟨result, hresult, -⟩ := Placeholder.exists_interpret hmodest hcontext lowered
  exact ⟨result, s', gives_bind.2 ⟨leaf.written, s, gives_settle (Value.render_of_isWritable hleaf) s,
    gives_bind.2 ⟨filled, s', hfill, gives_settle hresult s'⟩⟩⟩

/-- What a leaf becomes is whole, if the filler gives whole texts for it and the context is whole. -/
theorem whole_of_gives_expandLeaf {leaf : Value} {result : Text}
    (h : filler.Serves (fun filled => Modest filled ∧ filled.Whole) leaf.written)
    (hwritable : context.isWritable = true) (hcontext : context.Whole) {lowered : Bool}
    {s s' : Session σ} (hresult : Gives (expandLeaf filler context lowered leaf) s result s') :
    result.Whole := by
  obtain ⟨text, s₀, htext, hresult⟩ := gives_bind.1 hresult
  obtain ⟨hrender, rfl⟩ := gives_settle_iff.1 htext
  obtain rfl := Value.eq_written_of_render hrender
  obtain ⟨filled, s₁, hfilled, hresult⟩ := gives_bind.1 hresult
  obtain ⟨hinterpret, rfl⟩ := gives_settle_iff.1 hresult
  obtain ⟨filled', s₁', hfilled', hmodest, hwhole⟩ := exists_fillText h s
  obtain ⟨result', hinterpret', hresultWhole⟩ :=
    Placeholder.exists_interpret hmodest hwritable lowered
  rw [Gives] at hfilled hfilled'
  rw [hfilled] at hfilled'
  cases hfilled'
  rw [hinterpret] at hinterpret'
  cases hinterpret'
  exact hresultWhole hcontext hwhole

/-- **Content is generated from the rendered leaves** of a template all of whose integers can be
written. -/
theorem fill_expandLeaf_eq_generate {t : Value} (h : t.isWritable = true) (lowered : Bool) :
    fill (expandLeaf filler context lowered) t = Template.generate (fun text => do
      let text ← fillText filler text
      settle .integer (Placeholder.interpret context lowered text)) t := by
  refine Template.fill_congr fun leaf hleaf => ?_
  have hwritable := inherited_scalars Value.inherited_isWritable h leaf hleaf
  rw [expandLeaf, Value.render_of_isWritable hwritable, settle_ok, pure_bind]

/-! ## Headers -/

theorem exists_each {ρ α β : Type} {f : α → Checked ρ β} {as : List α}
    (h : ∀ a ∈ as, ∃ b, f a = .ok b) : ∃ bs, Checked.each f as = .ok bs := by
  induction as with
  | nil => exact ⟨[], rfl⟩
  | cons a as ih =>
    obtain ⟨b, hb⟩ := h a List.mem_cons_self
    obtain ⟨bs, hbs⟩ := ih fun a ha => h a (List.mem_cons_of_mem _ ha)
    exact ⟨b :: bs, by rw [Checked.each, hb, hbs]; rfl⟩

theorem exists_within {ρ α : Type} (segment : Text) {result : Checked ρ α} (h : ∃ a, result = .ok a) :
    ∃ a, result.within segment = .ok a := by
  obtain ⟨a, rfl⟩ := h
  exact ⟨a, rfl⟩

theorem exists_wholeHeaders {headers : Members Text} (h : ∀ m ∈ headers, m.1.Whole ∧ m.2.Whole) :
    ∃ strings, wholeHeaders headers = .ok strings := by
  refine exists_within _ (exists_each fun m hm => ?_)
  obtain ⟨hname, htext⟩ := h m hm
  obtain ⟨s, hs⟩ := Text.exists_string? hname
  obtain ⟨t, ht⟩ := Text.exists_string? htext
  refine ⟨(s, t), ?_⟩
  simp only [Checked.wholeText, hs, ht]
  rfl

theorem whole_withAssertion (name : String) {headers : Members Text}
    (h : ∀ m ∈ headers, m.1.Whole ∧ m.2.Whole) :
    ∀ m ∈ withAssertion name headers, m.1.Whole ∧ m.2.Whole := by
  intro m hm
  obtain rfl | hm := Members.mem_put hm
  · exact ⟨Text.whole_ofString _, Text.whole_ofString _⟩
  · exact h m (List.mem_filter.1 hm).1

theorem whole_headerText {t v : Value} (ht : t.isContainer = false)
    (h : Generated (expandLeaf filler context true) t v)
    (hfiller : ∀ leaf ∈ scalars t,
      filler.Serves (fun filled => Modest filled ∧ filled.Whole) leaf.written)
    (hwritable : context.isWritable = true) (hcontext : context.Whole) : (headerText v).Whole := by
  cases h with
  | null => exact Text.whole_nil
  | leaf _ hnull hgives =>
    have hserves := hfiller t (Template.mem_scalars_self ht hnull)
    exact whole_of_gives_expandLeaf hserves hwritable hcontext hgives
  | list _ => cases ht
  | object _ => cases ht

/-- **Headers are rendered** to whole names and whole texts. -/
theorem exists_renderHeaders (hfits : response.Fits) (hresponse : response.Writable)
    (hwritable : context.isWritable = true) (hcontext : context.Whole)
    (hfiller : ∀ text ∈ memberLeaves response.headers,
      filler.Serves (fun filled => Modest filled ∧ filled.Whole) text) (s : Session σ) :
    ∃ headers s', Gives (renderHeaders filler response context) s headers s' ∧
      ∀ m ∈ headers, m.1.Whole ∧ m.2.Whole := by
  have hserves : ∀ m ∈ response.headers, ∀ leaf ∈ scalars m.2,
      filler.Serves (fun filled => Modest filled ∧ filled.Whole) leaf.written := fun m hm leaf hleaf =>
    hfiller _ (List.mem_map_of_mem (Template.mem_memberScalars.2 ⟨m, hm, hleaf⟩))
  have hmembers : ∀ m ∈ response.headers, ∀ s, ∃ v s',
      Gives (fill (expandLeaf filler context true) m.2) s v s' := by
    intro m hm
    refine Template.exists_fill fun leaf hleaf => ?_
    have hleafWritable := inherited_scalars Value.inherited_isWritable
      ((Value.isWritable_object _).1 hresponse.headers m hm) leaf hleaf
    exact responds_expandLeaf hleafWritable ((hserves m hm leaf hleaf).imp fun _ h => h.1) hwritable true
  obtain ⟨members, s', hgives⟩ := Template.exists_fillMembers hmembers s
  refine ⟨Members.mapValues headerText members, s',
    gives_bind.2 ⟨members, s', hgives, gives_pure.2 ⟨rfl, rfl⟩⟩, fun m hm => ?_⟩
  obtain ⟨⟨name, v⟩, hv, rfl⟩ := List.mem_map.1 hm
  have hrel := Template.rel_of_gives (fun m _ v s s' => Template.generated_of_gives) hgives
  obtain ⟨t, ht, hname, hgenerated⟩ := hrel.exists_mem (name, v) hv
  subst hname
  exact ⟨hfits.names t ht,
    whole_headerText (hfits.scalars t ht) hgenerated (hserves t ht) hwritable hcontext⟩

/-! ## Content and response -/

theorem exists_finishData {f : Value → Generation σ ε Text} (hfits : response.Fits)
    (hindexable : Indexable response.data) {data : Value} (hdata : Generated f response.data data)
    (s : Session σ) :
    ∃ content s', Gives (finishData response data : Generation σ ε Value) s content s' := by
  unfold finishData
  cases hmetadata : response.metadata with
  | none => exact ⟨data, s, rfl⟩
  | some m =>
    obtain ⟨final, chance, hfinal⟩ := exists_finish (ε := ε) (hfits.metadata m hmetadata) hdata
      hindexable s.chance
    refine ⟨final, { s with chance }, ?_⟩
    unfold Gives ExceptT.run
    simp only [hfinal]

/-- **Content is rendered**, repeated and cast. -/
theorem exists_renderContent (hfits : response.Fits) (hresponse : response.Writable)
    (hindexable : Indexable response.data)
    (hfiller : ∀ text ∈ leaves response.data, filler.Serves Modest text)
    (hwritable : context.isWritable = true) (s : Session σ) :
    ∃ content s', Gives (renderContent filler response context) s content s' := by
  have hresponds : ∀ leaf ∈ scalars response.data, Responds (expandLeaf filler context false) leaf := by
    intro leaf hleaf
    have hleafWritable := inherited_scalars Value.inherited_isWritable hresponse.data leaf hleaf
    exact responds_expandLeaf hleafWritable (hfiller _ (List.mem_map_of_mem hleaf)) hwritable false
  obtain ⟨data, s₁, hdata⟩ := Template.exists_fill hresponds s
  obtain ⟨content, s', hcontent⟩ :=
    exists_finishData hfits hindexable (Template.generated_of_gives hdata) s₁
  exact ⟨content, s', gives_bind.2 ⟨data, s₁, hdata, hcontent⟩⟩

/-- **Every call of a loaded contract gets a response**, whatever the call, the moment, the state of
the filler and the numbers that chance draws. The texts of the contract and of the call are whole and
their integers can be written, and the filler gives for each leaf of a template a text without long
numerals in its placeholders, which is whole where it goes into a header. -/
theorem Contract.exists_respond {source : Option String} {document : Value} {contract : Contract}
    (hload : Contract.ofValue source document = .ok contract) (hrequest : contract.request.Whole)
    (hwritable : contract.request.Writable)
    (hresponses : ∀ response ∈ contract.responses, response.Writable)
    (hindexable : ∀ response ∈ contract.responses, Indexable response.data)
    (hheaders : ∀ response ∈ contract.responses, ∀ text ∈ memberLeaves response.headers,
      filler.Serves (fun filled => Modest filled ∧ filled.Whole) text)
    (hdata : ∀ response ∈ contract.responses, ∀ text ∈ leaves response.data,
      filler.Serves Modest text)
    {incoming : IncomingRequest} (hincoming : incoming.Whole) (hcall : incoming.Writable)
    (runtime : Predicate.Runtime) (now : Double) (session : Session σ) :
    ∃ response session',
      (contract.respond runtime filler incoming now).run session = (.ok response, session') := by
  have hfits := Contract.fits_of_ofValue hload
  obtain ⟨context, hbuild, hfolded, hwholeContext, hcontext⟩ :=
    Context.exists_build hfits.headers incoming now
  have hcontextWritable := hcontext hwritable hcall
  obtain ⟨scope, hscope⟩ := Context.exists_scope hfolded runtime
  obtain ⟨case?, hselect, hcases⟩ := exists_selectCase scope contract.cases
  have hmem : (case?.map ExceptCase.response).getD contract.response ∈ contract.responses := by
    cases case? with
    | none => exact List.mem_cons_self
    | some c => exact List.mem_cons_of_mem _ (List.mem_map_of_mem (hcases c rfl))
  have hresponse := hfits.of_mem_responses hmem
  obtain ⟨headers, s₁, hgivesHeaders, hwhole⟩ := exists_renderHeaders hresponse (hresponses _ hmem)
    hcontextWritable (hwholeContext hrequest hincoming) (hheaders _ hmem) session
  obtain ⟨content, s₂, hgivesContent⟩ := exists_renderContent hresponse (hresponses _ hmem)
    (hindexable _ hmem) (hdata _ hmem) hcontextWritable s₁
  have hwholeHeaders : ∀ m ∈ case?.elim headers (fun c => withAssertion c.name headers),
      m.1.Whole ∧ m.2.Whole := by
    cases case? with
    | none => exact hwhole
    | some c => exact whole_withAssertion c.name hwhole
  obtain ⟨strings, hstrings⟩ := exists_wholeHeaders hwholeHeaders
  exact ⟨_, s₂, gives_bind.2 ⟨context, session, gives_settle hbuild _,
    gives_bind.2 ⟨scope, session, gives_settle hscope _,
    gives_bind.2 ⟨case?, session, gives_settle hselect _,
    gives_bind.2 ⟨headers, s₁, hgivesHeaders,
    gives_bind.2 ⟨content, s₂, hgivesContent,
    gives_bind.2 ⟨strings, s₂, gives_settle hstrings _, gives_pure.2 ⟨rfl, rfl⟩⟩⟩⟩⟩⟩⟩⟩

/-- A case that always fires, whose data are repeated and cast at a path below another one. -/
theorem Contract.exists_respond_overlapping :
    let item : Value := .object [("a", .object [("b", .text "{headers.x-trace}")])]
    let document : Value := .object [
      ("request", .object [("route", .text "/books"), ("method", .text "get"),
        ("headers", .object [("X-Trace", .text "t")])]),
      ("response", .object [("code", .int 200)]),
      ("except", .object [("Always", .object [("validate", .list [.text "query"]),
        ("response", .object [("code", .int 400), ("headers", .object [("X-Id", .text "{query.0}")]),
          ("data", .list [item]), ("meta", .object [("repeat", .text "0..3"),
            ("cast", .object [("*.a", .text "string"), ("*.a.b", .text "number")])])])])])]
    let casts : List (Path × CastKind) :=
      [(⟨["*", "a"], by decide, by decide⟩, .text), (⟨["*", "a", "b"], by decide, by decide⟩, .number)]
    let contract : Contract := {
      request := ⟨"/books", .get, [], .none, ⟨[("x-trace", .text "t")], by decide⟩⟩
      response := ⟨200, [], .null, none⟩
      cases := [⟨"Always", [⟨"query", .name "query", rfl⟩],
        ⟨400, [("X-Id", .text "{query.0}")], .list [item], some ⟨casts, some "0..3"⟩⟩⟩] }
    let filler : Filler Unit Empty := pure
    let incoming : IncomingRequest :=
      ⟨[], [("0", .list [.int 7])], [("X-TRACE", .text "{time}")], .text "body"⟩
    Contract.ofValue none document = .ok contract ∧ contract.request.Whole ∧
      contract.request.Writable ∧ (∀ response ∈ contract.responses, response.Writable) ∧
      (∀ response ∈ contract.responses, Indexable response.data) ∧
      (∀ response ∈ contract.responses, ∀ text ∈ memberLeaves response.headers,
        filler.Serves (fun filled => Modest filled ∧ filled.Whole) text) ∧
      (∀ response ∈ contract.responses, ∀ text ∈ leaves response.data, filler.Serves Modest text) ∧
      incoming.Whole ∧ incoming.Writable ∧
      ∃ response session',
        (contract.respond .standard filler incoming .nan).run ⟨(), .ofDraws [-1]⟩ = (.ok response, session') := by
  intro item document casts contract filler incoming
  have hload : Contract.ofValue none document = .ok contract := rfl
  have hrequest : contract.request.Whole := by
    refine ⟨.object nofun nofun, .object (by decide) fun m hm => ?_, .null⟩
    rw [List.mem_singleton.1 hm]
    exact .text (by decide)
  have hwritable : contract.request.Writable := ⟨rfl, rfl, rfl⟩
  have hresponses : ∀ response ∈ contract.responses, response.Writable := by
    intro response hresponse
    obtain rfl | hresponse := List.mem_cons.1 hresponse
    · exact ⟨rfl, rfl⟩
    · rw [List.mem_singleton.1 hresponse]
      exact ⟨rfl, rfl⟩
  have hitem : Indexable item := ((Indexable.leaf rfl).object_singleton _).object_singleton _
  have hindexable : ∀ response ∈ contract.responses, Indexable response.data := by
    intro response hresponse
    obtain rfl | hresponse := List.mem_cons.1 hresponse
    · exact .leaf rfl
    · rw [List.mem_singleton.1 hresponse]
      exact hitem.list_singleton
  have hserves : ∀ (P : Text → Prop) (text : Text), P text → filler.Serves P text :=
    fun _ text h s => ⟨text, s, rfl, h⟩
  have hheaders : ∀ response ∈ contract.responses, ∀ text ∈ memberLeaves response.headers,
      Modest text ∧ text.Whole := by decide +kernel
  have hdata : ∀ response ∈ contract.responses, ∀ text ∈ leaves response.data, Modest text := by
    decide +kernel
  have hserveHeaders : ∀ response ∈ contract.responses, ∀ text ∈ memberLeaves response.headers,
      filler.Serves (fun filled => Modest filled ∧ filled.Whole) text :=
    fun response hresponse text htext => hserves _ text (hheaders response hresponse text htext)
  have hserveData : ∀ response ∈ contract.responses, ∀ text ∈ leaves response.data,
      filler.Serves Modest text :=
    fun response hresponse text htext => hserves _ text (hdata response hresponse text htext)
  have hincoming : incoming.Whole := by
    refine ⟨.object nofun nofun, .object (by decide) fun m hm => ?_, .object (by decide) fun m hm => ?_,
      .text (by decide)⟩
    · rw [List.mem_singleton.1 hm]
      refine .list fun v hv => ?_
      rw [List.mem_singleton.1 hv]
      exact .int 7
    · rw [List.mem_singleton.1 hm]
      exact .text (by decide)
  have hcall : incoming.Writable := ⟨rfl, by decide +kernel, rfl, rfl⟩
  exact ⟨hload, hrequest, hwritable, hresponses, hindexable, hserveHeaders, hserveData, hincoming, hcall,
    Contract.exists_respond hload hrequest hwritable hresponses hindexable hserveHeaders hserveData
      hincoming hcall .standard .nan _⟩

end MockApi
