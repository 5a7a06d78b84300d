import MockApi.Proofs.Generation
import MockApi.Proofs.Lawfulness
import MockApi.Proofs.Selection

/-!
# What a context takes from a call

The context of a call has what the call brings along on top of what the contract supposes, and
placeholders and predicates see the same of it.

* `Members.last? p members` : the value of the last member whose name fits;
* `Members.Overlays base newer merged` : members on top of others, name by name (`overlays_merge`);
* `Payload.Takes default body payload` : what a body makes of the one that is supposed;
* `Context.Merges` : all parts of a context, and where each comes from;
* `Context.SharedWith` : predicates see what placeholders see;
* `Contract.context_merges` : every call of a loaded contract has such a context.
-/

namespace MockApi

/-! ## Members on top of others -/

namespace Members

variable {α : Type}

/-- The value of the last member whose name fits. -/
def last? (p : Text → Bool) (members : Members α) : Option α :=
  (members.filter fun m => p m.1).getLast?.map Prod.snd

theorem last?_cons (p : Text → Bool) (m : Text × α) (members : Members α) :
    last? p (m :: members) = (last? p members).or (if p m.1 then some m.2 else none) := by
  unfold last?
  rw [List.filter_cons]
  split
  · rw [List.getLast?_cons]
    cases (members.filter fun m => p m.1).getLast? <;> rfl
  · rw [Option.or_none]

/-- A name has the last value that was written to it, under whatever name it was given. -/
theorem get?_merge_map (rename : Text → Text) (base newer : Members α) (name : Text) :
    get? (merge base (newer.map fun (key, v) => (rename key, v))) name =
      (last? (rename · == name) newer).or (get? base name) := by
  induction newer generalizing base with
  | nil => rfl
  | cons m newer ih =>
    have hstep : merge base ((m :: newer).map fun (key, v) => (rename key, v)) =
        merge (put base (rename m.1) m.2) (newer.map fun (key, v) => (rename key, v)) := rfl
    rw [hstep, ih, last?_cons, Option.or_assoc, get?_put]
    by_cases hname : rename m.1 = name <;> simp [hname]

/-- Members on top of others: a name has the last value that it has on top, or else the one below. The
names below keep their order. -/
structure Overlays (base newer merged : Members α) : Prop where
  get?_eq : ∀ name, get? merged name = (last? (· == name) newer).or (get? base name)
  keys_prefix : keys base <+: keys merged
  nodup : (keys base).Nodup → (keys merged).Nodup

theorem keys_prefix_merge (base newer : Members α) : keys base <+: keys (merge base newer) := by
  induction newer generalizing base with
  | nil => exact List.prefix_rfl
  | cons m newer ih =>
    have hput : keys base <+: keys (put base m.1 m.2) := by
      rw [keys_put]
      split
      · exact List.prefix_rfl
      · exact List.prefix_append _ _
    exact hput.trans (ih _)

theorem overlays_merge (base newer : Members α) : Overlays base newer (merge base newer) where
  get?_eq := by
    intro name
    have h := get?_merge_map id base newer name
    rwa [show newer.map (fun (key, v) => (id key, v)) = newer from List.map_id newer] at h
  keys_prefix := keys_prefix_merge base newer
  nodup := nodup_keys_merge base newer

end Members

/-! ## Parts of a context -/

/-- What a body makes of the one that is supposed: an object goes on top of its members, if it has any,
a text takes its place, and anything else leaves it as it is. -/
inductive Payload.Takes (default : Payload) : Value → Payload → Prop
  | members {members merged : Members Value} :
    Members.Overlays default.value.membersOf members merged →
    Takes default (.object members) (.object merged)
  | text (s : Text) : Takes default (.text s) (.text s)
  | default {body : Value} : (∀ members, body ≠ .object members) → (∀ s, body ≠ .text s) →
    Takes default body default

theorem Payload.takes_merge (default : Payload) (body : Value) :
    default.Takes body (default.merge body) := by
  cases body with
  | object members =>
    cases default with
    | object base => exact .members (Members.overlays_merge base members)
    | _ => exact .members (Members.overlays_merge [] members)
  | text s => exact .text s
  | _ => exact .default nofun nofun

/-- A context has what the call brings along on top of what is supposed. The names of headers are in
lower case, and the last header counts whose name is one of them in lower case. -/
structure Context.Merges (context : Context) (request : RequestSpec) (incoming : IncomingRequest) :
    Prop where
  route : context.route = incoming.params
  query : Members.Overlays (Members.mapValues QueryDefault.value request.query) incoming.query
    context.query
  folded : Folded context.headers
  headers : ∀ name, Members.get? context.headers name =
    (Members.last? (Text.lower · == name) incoming.headers).or
      (Members.get? request.headers.members name)
  payload : request.payload.Takes incoming.body context.payload

/-- Predicates see what placeholders see, and its headers under names in any case. Each root is an
object of its own. -/
structure Context.SharedWith (context : Context) (scope : Predicate.Scope) : Prop where
  route : ∃ v, Members.get? context.value.membersOf "route" = some v ∧
    scope.route = .ofValue scope.runtime (.root .route) v
  query : ∃ v, Members.get? context.value.membersOf "query" = some v ∧
    scope.query = .ofValue scope.runtime (.root .query) v
  payload : ∃ v, Members.get? context.value.membersOf "payload" = some v ∧
    scope.payload = .ofValue scope.runtime (.root .payload) v
  headers : ∃ map : HeaderMap, Members.get? context.value.membersOf "headers" =
    some (.object map.members) ∧ scope.headers = .ofHeaders scope.runtime (.root .headers) map

section Context
variable {request : RequestSpec} {incoming : IncomingRequest} {now : Double} {context : Context}
  {source : Option String} {document : Value} {contract : Contract}

theorem Context.merges_of_build (hfolded : Folded request.headers.members)
    (h : Context.build request incoming now = .ok context) : context.Merges request incoming := by
  obtain ⟨supposed, hsupposed, h⟩ := ok_of_bind h
  obtain ⟨map, hmap, hmembers⟩ := HeaderMap.ofPairs_of_folded hfolded
  obtain rfl := Except.ok.inj (hmap.symm.trans hsupposed)
  cases h
  rw [← hmembers] at hfolded
  refine ⟨rfl, Members.overlays_merge _ _, HeaderMap.folded_merged hfolded _, fun name => ?_,
    Payload.takes_merge _ _⟩
  rw [← hmembers]
  exact Members.get?_merge_map Text.lower map.members incoming.headers name

theorem Context.sharedWith_of_scope {runtime : Predicate.Runtime} {scope : Predicate.Scope}
    (hfolded : Folded context.headers) (h : context.scope runtime = .ok scope) : context.SharedWith scope := by
  obtain ⟨headers, hheaders, h⟩ := ok_of_bind h
  obtain ⟨map, hmap, hmembers⟩ := HeaderMap.ofPairs_of_folded hfolded
  obtain rfl := Except.ok.inj (hmap.symm.trans hheaders)
  cases h
  exact ⟨⟨_, rfl, rfl⟩, ⟨_, rfl, rfl⟩, ⟨_, rfl, rfl⟩, map, by rw [hmembers]; rfl, rfl⟩

theorem Context.runtime_eq_of_scope {runtime : Predicate.Runtime} {scope : Predicate.Scope}
    (h : context.scope runtime = .ok scope) : scope.runtime = runtime := by
  obtain ⟨headers, -, h⟩ := ok_of_bind h
  cases h
  rfl

/-- **Every call of a loaded contract has a context**, in which it is on top of what the contract
supposes, and predicates see the same of it as placeholders. Its payload is an object, a text or
null. -/
theorem Contract.context_merges (hload : Contract.ofValue source document = .ok contract)
    (runtime : Predicate.Runtime) (incoming : IncomingRequest) (now : Double) :
    ∃ context scope, Context.build contract.request incoming now = .ok context ∧
      context.scope runtime = .ok scope ∧ scope.runtime = runtime ∧ context.Merges contract.request incoming ∧
      context.SharedWith scope ∧ ((∃ members, context.payload.value = .object members) ∨
        (∃ s, context.payload.value = .text s) ∨ context.payload.value = .null) := by
  have hfolded := (Contract.fits_of_ofValue hload).headers
  obtain ⟨context, hbuild, hlowered, -⟩ := Context.exists_build hfolded incoming now
  obtain ⟨scope, hscope⟩ := Context.exists_scope hlowered runtime
  exact ⟨context, scope, hbuild, hscope, Context.runtime_eq_of_scope hscope, Context.merges_of_build hfolded hbuild,
    Context.sharedWith_of_scope hlowered hscope, context.payload.value_cases⟩

/-- Names that are supposed and that the call has too, one of them a header that is sent twice. -/
theorem Contract.context_merges_overlapping :
    let document : Value := .object [
      ("request", .object [("route", .text "/books"), ("method", .text "post"),
        ("query", .object [("a", .text "1"), ("b", .list [.text "2"])]),
        ("payload", .object [("a", .int 1), ("b", .int 2)]),
        ("headers", .object [("X-A", .text "d"), ("X-B", .text "e")])]),
      ("response", .object [("code", .int 200)])]
    let incoming : IncomingRequest := ⟨[], [("a", .list [])], [("X-a", .text "f"), ("x-A", .text "g")],
      .object [("b", .null), ("c", .bool true)]⟩
    let json : Text := "\x7b\"route\":\x7b\x7d,\"query\":\x7b\"a\":[],\"b\":[\"2\"]\x7d," ++
      "\"headers\":\x7b\"x-a\":\"g\",\"x-b\":\"e\"\x7d," ++
      "\"payload\":\x7b\"a\":1,\"b\":null,\"c\":true\x7d,\"time\":\"1500\"\x7d"
    ∃ contract context scope, Contract.ofValue none document = .ok contract ∧
      Context.build contract.request incoming (.nearest false 3 2) = .ok context ∧
      context.value.compact = json ∧ context.scope .standard = .ok scope ∧
      context.Merges contract.request incoming ∧ context.SharedWith scope := by
  intro document incoming json
  have hrun : (Contract.ofValue none document).toOption.map (fun contract =>
      (Context.build contract.request incoming (.nearest false 3 2)).toOption.map fun context =>
        context.value.compact) = some (some json) := by decide +kernel
  obtain ⟨contract, hcontract, hcontext⟩ := Option.map_eq_some_iff.1 hrun
  obtain ⟨context, hbuild, hjson⟩ := Option.map_eq_some_iff.1 hcontext
  have hload := ok_of_toOption hcontract
  have hmade := ok_of_toOption hbuild
  obtain ⟨built, scope, hbuilt, hscope, -, hmerges, hshared, -⟩ :=
    Contract.context_merges hload .standard incoming (.nearest false 3 2)
  obtain rfl := Except.ok.inj (hmade.symm.trans hbuilt)
  exact ⟨contract, context, scope, hload, hmade, hjson, hscope, hmerges, hshared⟩

end Context

end MockApi
