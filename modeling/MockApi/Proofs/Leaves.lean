import MockApi.Proofs.Selection
import MockApi.Server.Reply

/-!
# Leaves of generated content

What is generated from a template has texts and nulls for its leaves. Only a cast puts anything else
into a place, and what it puts there can be sent.

* `Value.LeafAt way leaf` : a leaf of a value and the way to it;
* `Path.Addresses segments way` : a path leads along a way, segment by segment;
* `Value.Sendable`, `Value.Wordy` : leaves that a JSON document can hold, and those that are a text or
  null;
* `leafAt_writeFrom` : a leaf after a write was there before, or it was written to an addressed place;
* `CastOnly casts v` : all leaves can be sent, and they are texts and nulls but where a cast addresses
  them (`CastOnly.castAll`), so that all integers in them can be written (`CastOnly.isWritable`);
* `Contract.leaves_of_respond` : this holds of the content of every response.
-/

namespace MockApi

open MockApi.Path (indexOf? wildcard writeFrom writeItems)
open Template (Generated Gives)

/-! ## Leaves and the ways to them -/

namespace Value

/-- A step from a container to one of its parts. -/
inductive Step where
  | key (name : Text)
  | item (i : Nat)

/-- The value has the leaf at the end of the way. -/
inductive LeafAt : Value → List Step → Value → Prop
  | here {v : Value} : v.isContainer = false → LeafAt v [] v
  | member {members : Members Value} {name : Text} {v leaf : Value} {way : List Step} :
    (name, v) ∈ members → LeafAt v way leaf → LeafAt (.object members) (.key name :: way) leaf
  | item {items : List Value} {i : Nat} {v leaf : Value} {way : List Step} :
    items[i]? = some v → LeafAt v way leaf → LeafAt (.list items) (.item i :: way) leaf

/-- The leaf is null or a text. -/
def Wordy (leaf : Value) : Prop := leaf = .null ∨ ∃ s, leaf = .text s

/-- The leaf can be sent: it is a finite double, an integer that is not too long to be written, or no
number. -/
def Sendable : Value → Prop
  | .float x => x.isFinite = true
  | .int n => n.natAbs < 10 ^ maxIntegerDigits
  | .list _ => False
  | .object _ => False
  | _ => True

variable {v leaf : Value} {way : List Step}

theorem Wordy.sendable (h : leaf.Wordy) : leaf.Sendable := by
  obtain rfl | ⟨s, rfl⟩ := h <;> trivial

theorem leafAt_of_leaf (hv : v.isContainer = false) (h : LeafAt v way leaf) : way = [] ∧ leaf = v := by
  cases h with
  | here _ => exact ⟨rfl, rfl⟩
  | member _ _ => cases hv
  | item _ _ => cases hv

/-- If all leaves can be sent then all doubles are finite. -/
theorem isFinite_of_leaves (h : ∀ way leaf, LeafAt v way leaf → leaf.Sendable) : v.isFinite = true := by
  induction v using Value.induction with
  | float x => exact h [] _ (.here rfl)
  | list items ih =>
    have hitems : ∀ w ∈ items, w.isFinite = true := fun w hw => ih w hw fun way leaf hleaf => by
      obtain ⟨i, hi⟩ := List.mem_iff_getElem?.1 hw
      exact h _ _ (.item hi hleaf)
    clear h ih
    change Value.allFinite items = true
    induction items with
    | nil => rfl
    | cons w items ih =>
      rw [List.forall_mem_cons] at hitems
      rw [Value.allFinite, hitems.1, ih hitems.2]
      rfl
  | object members ih =>
    have hmembers : ∀ m ∈ members, m.2.isFinite = true := fun m hm =>
      ih m hm fun way leaf hleaf => h _ _ (.member hm hleaf)
    clear h ih
    change Value.membersFinite members = true
    induction members with
    | nil => rfl
    | cons m members ih =>
      rw [List.forall_mem_cons] at hmembers
      rw [Value.membersFinite, hmembers.1, ih hmembers.2]
      rfl
  | _ => rfl

/-- If all leaves can be sent then all integers can be written. -/
theorem isWritable_of_leaves (h : ∀ way leaf, LeafAt v way leaf → leaf.Sendable) :
    v.isWritable = true := by
  induction v using Value.induction with
  | int n =>
    have hpow : ∀ digits : ℕ, Nat.pow 10 digits = 10 ^ digits := fun _ => rfl
    rw [isWritable, hpow]
    exact decide_eq_true (h [] (.int n) (.here rfl))
  | list items ih =>
    refine (isWritable_list items).2 fun w hw => ih w hw fun way leaf hleaf => ?_
    obtain ⟨i, hi⟩ := List.mem_iff_getElem?.1 hw
    exact h _ _ (.item hi hleaf)
  | object members ih =>
    exact (isWritable_object members).2 fun m hm =>
      ih m hm fun way leaf hleaf => h _ _ (.member hm hleaf)
  | _ => rfl

end Value

open Value (LeafAt Sendable Step Wordy)

/-! ## Casts -/

/-- A cast gives a leaf that can be sent, unless it is given one that cannot. -/
theorem CastKind.sendable_apply (kind : CastKind) {v : Value}
    (hv : v.isContainer = false → v.Sendable) : (kind.apply v).Sendable := by
  obtain ⟨h, hscalar⟩ | ⟨number, hnumber, h⟩ | ⟨b, h⟩ | ⟨s, h⟩ := kind.apply_cases v <;> rw [h]
  · exact hv hscalar
  · obtain ⟨n, hn, rfl⟩ | ⟨x, hx, rfl⟩ := plainNumber?_cases hnumber
    · exact natAbs_lt_of_readInteger hn
    · exact hx
  · trivial
  · trivial

/-! ## Leaves after a write -/

/-- The segment leads along the step. -/
def Path.Passes (segment : Text) : Step → Prop
  | .key name => segment = name
  | .item i => segment = wildcard ∨ indexOf? segment = .ok (some i)

/-- The segments lead along the way, one for each step. -/
def Path.Addresses (segments : List Text) (way : List Step) : Prop :=
  List.Forall₂ Passes segments way

section Writing
variable {g : Value → Value} {path segments trail : List Text} {v leaf : Value} {way : List Step}

/-- What a write makes of a place: a leaf that is `g` of what was there, which may be a container,
null for what was missing, or a leaf. -/
def WrittenAt (g : Value → Value) (segments : List Text) (v : Value) (way : List Step) (leaf : Value) :
    Prop :=
  Path.Addresses segments way ∧
    ∃ old, leaf = g old ∧ (old.isContainer = false → old = .null ∨ LeafAt v way old)

/-- A place of a part is a place of the whole. -/
theorem WrittenAt.into {part : Value} {segment : Text} {step : Step}
    (h : WrittenAt g segments part way leaf) (hstep : Path.Passes segment step)
    (hinto : ∀ way old, LeafAt part way old → LeafAt v (step :: way) old) :
    WrittenAt g (segment :: segments) v (step :: way) leaf := by
  obtain ⟨haddresses, old, hleaf, hold⟩ := h
  exact ⟨.cons hstep haddresses, old, hleaf, fun hscalar => (hold hscalar).imp_right (hinto way old)⟩

theorem getElem?_writeItems {step : Nat → Value → Path.Written Empty} {items : List Value} {k i : Nat}
    {w : Value} (h : (writeItems step k items).1[i]? = some w) :
    ∃ u, items[i]? = some u ∧ (w = u ∨ w = (step (k + i) u).document) := by
  induction items generalizing k i with
  | nil => simp [writeItems] at h
  | cons u items ih =>
    rw [writeItems] at h
    dsimp only at h
    split at h
    · cases i with
      | zero => exact ⟨u, rfl, .inr (Option.some.inj h).symm⟩
      | succ i => exact ⟨w, h, .inl rfl⟩
    · cases i with
      | zero => exact ⟨u, rfl, .inr (Option.some.inj h).symm⟩
      | succ i =>
        obtain ⟨u', hu, hw⟩ := ih h
        rw [Nat.add_right_comm, Nat.add_assoc] at hw
        exact ⟨u', hu, hw⟩

theorem leafAt_put {members : Members Value} {name : Text} {new : Value}
    (h : LeafAt (.object (Members.put members name new)) way leaf) :
    LeafAt (.object members) way leaf ∨ ∃ more, way = .key name :: more ∧ LeafAt new more leaf := by
  cases h with
  | here hc => cases hc
  | member hmem hleaf =>
    obtain heq | hmem := Members.mem_put hmem
    · cases heq
      exact .inr ⟨_, rfl, hleaf⟩
    · exact .inl (.member hmem hleaf)

theorem leafAt_set {items : List Value} {i : Nat} {new : Value}
    (h : LeafAt (.list (items.set i new)) way leaf) :
    LeafAt (.list items) way leaf ∨ ∃ more, way = .item i :: more ∧ LeafAt new more leaf := by
  cases h with
  | here hc => cases hc
  | item hj hleaf =>
    rw [List.getElem?_set] at hj
    split at hj
    · next heq =>
      subst heq
      split at hj
      · cases hj
        exact .inr ⟨_, rfl, hleaf⟩
      · cases hj
    · exact .inl (.item hj hleaf)

theorem leafAt_writeItems {step : Nat → Value → Path.Written Empty} {items : List Value}
    (h : LeafAt (.list (writeItems step 0 items).1) way leaf) :
    LeafAt (.list items) way leaf ∨ ∃ i u more, items[i]? = some u ∧ way = .item i :: more ∧
      LeafAt (step i u).document more leaf := by
  cases h with
  | here hc => cases hc
  | item hi hleaf =>
    obtain ⟨u, hu, rfl | rfl⟩ := getElem?_writeItems hi
    · exact .inl (.item hu hleaf)
    · rw [Nat.zero_add] at hleaf
      exact .inr ⟨_, u, _, hu, rfl, hleaf⟩

/-- **A leaf after a write** was there before, or it was written to an addressed place. -/
theorem leafAt_writeFrom (hg : ∀ v, (g v).isContainer = false)
    (h : LeafAt (writeFrom (always g) path segments trail v).document way leaf) :
    LeafAt v way leaf ∨ WrittenAt g segments v way leaf := by
  induction segments generalizing v trail way with
  | nil =>
    obtain ⟨rfl, rfl⟩ := Value.leafAt_of_leaf (hg v) h
    exact .inr ⟨.nil, v, rfl, fun hv => .inr (.here hv)⟩
  | cons segment rest ih =>
    cases v with
    | object members =>
      rw [writeFrom] at h
      cases hget : Members.get? members segment with
      | some old =>
        simp only [hget, Path.Written.map] at h
        obtain h | ⟨more, rfl, hleaf⟩ := leafAt_put h
        · exact .inl h
        · have hold := Members.mem_of_get? hget
          exact (ih hleaf).imp (.member hold) fun h => h.into rfl fun _ _ => .member hold
      | none =>
        simp only [hget] at h
        split at h
        · next hlast =>
          obtain rfl := List.isEmpty_iff.1 hlast
          obtain h | ⟨more, rfl, hleaf⟩ := leafAt_put h
          · exact .inl h
          · obtain ⟨rfl, rfl⟩ := Value.leafAt_of_leaf (hg .null) hleaf
            exact .inr ⟨.cons rfl .nil, .null, rfl, fun _ => .inl rfl⟩
        · exact .inl h
    | list items =>
      rw [writeFrom] at h
      split at h
      · next hwild =>
        obtain h | ⟨i, u, more, hu, rfl, hleaf⟩ := leafAt_writeItems h
        · exact .inl h
        · exact (ih hleaf).imp (.item hu) fun h => h.into (.inl hwild) fun _ _ => .item hu
      · split at h
        · exact .inl h
        · exact .inl h
        · next i hi =>
          split at h
          · exact .inl h
          · next old hold =>
            obtain h | ⟨more, rfl, hleaf⟩ := leafAt_set h
            · exact .inl h
            · exact (ih hleaf).imp (.item hold) fun h => h.into (.inr hi) fun _ _ => .item hold
    | _ => exact .inl h

end Writing

/-! ## Leaves after casts -/

/-- All leaves can be sent, and they are texts and nulls but where one of the casts addresses them. -/
def CastOnly (casts : List (Path × CastKind)) (v : Value) : Prop :=
  ∀ way leaf, LeafAt v way leaf →
    leaf.Sendable ∧ (leaf.Wordy ∨ ∃ c ∈ casts, Path.Addresses c.1.segments way)

theorem castOnly_of_wordy {v : Value} (h : ∀ way leaf, LeafAt v way leaf → leaf.Wordy)
    (casts : List (Path × CastKind)) : CastOnly casts v :=
  fun way leaf hleaf => ⟨(h way leaf hleaf).sendable, .inl (h way leaf hleaf)⟩

namespace CastOnly
variable {ε : Type} {casts : List (Path × CastKind)} {path : Path} {kind : CastKind}
  {g : Value → Value} {data final : Value}

/-- What is cast next can be written: no cast comes to an integer of too many digits. -/
theorem isWritable (h : CastOnly casts data) : data.isWritable = true :=
  Value.isWritable_of_leaves fun way leaf hleaf => (h way leaf hleaf).1

/-- A write keeps this if it writes texts, or what can be sent to a place that a cast addresses. -/
theorem write (h : CastOnly casts data) (hg : ∀ v, (g v).isContainer = false)
    (hsendable : ∀ old, (old.isContainer = false → old.Sendable) → (g old).Sendable)
    (hplace : (∀ old, (g old).Wordy) ∨ ∃ c ∈ casts, c.1 = path) :
    CastOnly casts (path.write (always g) data).document := by
  intro way leaf hleaf
  obtain hleaf | ⟨haddresses, old, rfl, hold⟩ := leafAt_writeFrom hg hleaf
  · exact h way leaf hleaf
  · refine ⟨hsendable old fun hscalar => ?_, ?_⟩
    · obtain rfl | hold := hold hscalar
      · trivial
      · exact (h way old hold).1
    · obtain hwordy | ⟨c, hc, rfl⟩ := hplace
      · exact .inl (hwordy old)
      · exact .inr ⟨c, hc, haddresses⟩

theorem document_of_result {w : Path.Written Empty} (h : w.result (ε := ε) = .ok final) :
    final = w.document := by
  unfold Path.Written.result at h
  split at h
  · exact (Except.ok.inj h).symm
  · cases h
  · cases h
  · next e _ => exact e.elim

theorem leaveDiagnostic {trail : List Text} {text : Text} (h : CastOnly casts data)
    (hleave : MockApi.leaveDiagnostic (ε := ε) trail (.text text) data = .ok final) :
    CastOnly casts final := by
  unfold MockApi.leaveDiagnostic at hleave
  split at hleave
  · cases hleave
    refine castOnly_of_wordy (fun way leaf hleaf => ?_) casts
    obtain ⟨-, rfl⟩ := Value.leafAt_of_leaf rfl hleaf
    exact .inr ⟨text, rfl⟩
  · split at hleave
    · rw [document_of_result hleave]
      exact h.write (fun _ => rfl) (fun _ _ => trivial) (.inl fun _ => .inr ⟨text, rfl⟩)
    · cases hleave

/-- A cast keeps what can be sent, and so does the diagnostic that it leaves where it is stopped. -/
theorem castAt (h : CastOnly casts data) (hmem : (path, kind) ∈ casts)
    (hcast : MockApi.castAt (ε := ε) path kind data = .ok final) : CastOnly casts final := by
  have hwritten : CastOnly casts (path.write (always kind.apply) data).document :=
    h.write kind.isContainer_apply (fun _ => kind.sendable_apply) (.inr ⟨_, hmem, rfl⟩)
  unfold MockApi.castAt at hcast
  dsimp only at hcast
  split at hcast
  · exact hwritten.leaveDiagnostic hcast
  · rw [document_of_result hcast]
    exact hwritten

theorem castAll {those : List (Path × CastKind)} (h : CastOnly casts data)
    (hmem : ∀ c ∈ those, c ∈ casts) (hcast : MockApi.castAll (ε := ε) those data = .ok final) :
    CastOnly casts final := by
  induction those generalizing data with
  | nil =>
    cases hcast
    exact h
  | cons c those ih =>
    obtain ⟨path, kind⟩ := c
    rw [castAll_cons] at hcast
    obtain ⟨next, hnext, hrest⟩ := ok_of_bind hcast
    exact ih (h.castAt (hmem _ List.mem_cons_self) hnext)
      (fun c hc => hmem c (List.mem_cons_of_mem _ hc)) hrest

end CastOnly

/-! ## Leaves of content -/

section Content
variable {σ ε : Type} {f : Value → Generation σ ε Text} {template data final leaf : Value}
  {way : List Step}

/-- What is generated from a template has texts and nulls for its leaves. -/
theorem wordy_of_generated (h : Generated f template data) (hleaf : LeafAt data way leaf) :
    leaf.Wordy := by
  induction hleaf generalizing template with
  | here hv =>
    cases h with
    | null => exact .inl rfl
    | leaf _ _ _ => exact .inr ⟨_, rfl⟩
    | list _ => cases hv
    | object _ => cases hv
  | member hmem _ ih =>
    cases h with
    | object hmembers =>
      obtain ⟨m, -, -, hm⟩ := hmembers.exists_mem _ hmem
      exact ih hm
  | item hi _ ih =>
    cases h with
    | list hitems =>
      obtain ⟨t, -, ht⟩ := forall₂_getElem? hitems.flip hi
      exact ih ht

theorem repeatData_cases {repetition : Option String} {chance chance' : Chance}
    (h : repeatData (ε := ε) repetition data chance = .ok (final, chance')) :
    final = data ∨ ∃ items count, data = .list items ∧ final = .list (Repeat.copies count items) := by
  unfold repeatData at h
  split at h
  · next formula items =>
    split at h
    · cases h
      exact .inl rfl
    · split at h
      · next repeated _ hexpand =>
        cases h
        obtain ⟨bounds, -, hcopies⟩ := ok_of_bind hexpand
        cases hcopies
        exact .inr ⟨items, _, rfl, rfl⟩
      · cases h
  · cases h
    exact .inl rfl

theorem wordy_of_repeatData {repetition : Option String} {chance chance' : Chance}
    (hdata : ∀ way leaf, LeafAt data way leaf → leaf.Wordy)
    (h : repeatData (ε := ε) repetition data chance = .ok (final, chance'))
    (hleaf : LeafAt final way leaf) : leaf.Wordy := by
  obtain rfl | ⟨items, count, rfl, rfl⟩ := repeatData_cases h
  · exact hdata way leaf hleaf
  · cases hleaf with
    | here hc => cases hc
    | item hi hleaf =>
      obtain ⟨i, hi⟩ := List.mem_iff_getElem?.1 (mem_of_mem_copies (List.mem_of_getElem? hi))
      exact hdata _ _ (.item hi hleaf)

/-- Finished content has casts only where it was cast. -/
theorem castOnly_of_finish {m : Metadata} {chance chance' : Chance}
    (hdata : ∀ way leaf, LeafAt data way leaf → leaf.Wordy)
    (h : m.finish (ε := ε) data chance = .ok (final, chance')) : CastOnly m.casts final := by
  obtain ⟨⟨repeated, chance₁⟩, hrepeat, h⟩ := ok_of_bind h
  obtain ⟨cast, hcast, h⟩ := ok_of_bind h
  cases h
  have hrepeated : CastOnly m.casts repeated :=
    castOnly_of_wordy (fun _ _ => wordy_of_repeatData hdata hrepeat) m.casts
  exact hrepeated.castAll (fun _ hc => hc) hcast

def ResponseSpec.casts (response : ResponseSpec) : List (Path × CastKind) :=
  response.metadata.elim [] Metadata.casts

theorem castOnly_of_finishData {response : ResponseSpec} {s s' : Session σ}
    (hdata : ∀ way leaf, LeafAt data way leaf → leaf.Wordy)
    (h : Gives (finishData response data : Generation σ ε Value) s final s') :
    CastOnly response.casts final := by
  unfold finishData at h
  unfold ResponseSpec.casts
  cases hmetadata : response.metadata with
  | none =>
    rw [hmetadata] at h
    obtain ⟨rfl, -⟩ := Template.gives_pure.1 h
    exact castOnly_of_wordy hdata []
  | some m =>
    simp only [hmetadata, Gives, ExceptT.run] at h
    split at h
    · next data' chance hfinish =>
      cases h
      exact castOnly_of_finish hdata hfinish
    · cases h

/-- **Content can be sent.** All doubles of the content of a response are finite. Each of its leaves is
a text, null, a truth value, an integer that is not too long to be written, or a finite double, and
one that is no text and not null stands where one of the casts of the response leads. -/
theorem Contract.leaves_of_respond {source : Option String} {document : Value} {contract : Contract}
    (hload : Contract.ofValue source document = .ok contract) (runtime : Predicate.Runtime)
    (filler : Filler σ ε) (incoming : IncomingRequest) (now : Double) : ∃ context i,
      contract.Selects runtime incoming now context i ∧ ∀ s generated s',
        (contract.respond runtime filler incoming now).run s = (.ok generated, s') →
        generated.content.isFinite = true ∧ ∀ way leaf, LeafAt generated.content way leaf →
          leaf.Sendable ∧ (leaf.Wordy ∨
            ∃ c ∈ (contract.responseAt i).casts, Path.Addresses c.1.segments way) := by
  obtain ⟨context, i, hselects⟩ := Contract.exists_selects hload runtime incoming now
  refine ⟨context, i, hselects, fun s generated s' hrun => ?_⟩
  obtain ⟨-, -, members, s₁, data, s₂, -, -, hdata, hfinish⟩ := (gives_respond_iff hselects).1 hrun
  have hwordy : ∀ way leaf, LeafAt data way leaf → leaf.Wordy := fun way leaf hleaf =>
    wordy_of_generated (Template.generated_of_gives hdata) hleaf
  have hcast := castOnly_of_finishData hwordy hfinish
  exact ⟨Value.isFinite_of_leaves fun way leaf hleaf => (hcast way leaf hleaf).1, hcast⟩

/-- Numbers of a call that are read and that are too large, in copies of a list. -/
theorem Contract.leaves_of_respond_numbers :
    let document : Value := .object [
      ("request", .object [("route", .text "/books"), ("method", .text "get")]),
      ("response", .object [("code", .int 200),
        ("data", .list [.list [.text "{query.a}", .text "{query.b}", .int 7]]),
        ("meta", .object [("repeat", .text "0..3"),
          ("cast", .object [("*.0", .text "number"), ("*.1", .text "number")])])])]
    let filler : Filler Unit Empty := pure
    let incoming : IncomingRequest := ⟨[], [("a", .text "15"), ("b", .text "1e999")], [], .null⟩
    let json : Text := "[[15,\"<\\\"1e999\\\" is not a number>\",\"7\"]]"
    ∃ contract generated, Contract.ofValue none document = .ok contract ∧
      ((contract.respond .standard filler incoming .nan).run ⟨(), .ofDraws [1]⟩).1 = .ok generated ∧
      generated.content.compact = json ∧
      generated.content.isFinite = true ∧ ∃ i, ∀ way leaf, LeafAt generated.content way leaf →
        leaf.Sendable ∧ (leaf.Wordy ∨
          ∃ c ∈ (contract.responseAt i).casts, Path.Addresses c.1.segments way) := by
  intro document filler incoming json
  have hrun : (Contract.ofValue none document).toOption.map (fun contract =>
      ((contract.respond .standard filler incoming .nan).run ⟨(), .ofDraws [1]⟩).1.toOption.map fun generated =>
        generated.content.compact) =
      some (some json) := by decide +kernel
  obtain ⟨contract, hcontract, hresponse⟩ := Option.map_eq_some_iff.1 hrun
  obtain ⟨generated, hgenerated, hcompact⟩ := Option.map_eq_some_iff.1 hresponse
  have hload := ok_of_toOption hcontract
  have hok := ok_of_toOption hgenerated
  obtain ⟨context, i, -, hleaves⟩ := Contract.leaves_of_respond hload .standard filler incoming .nan
  obtain ⟨hfinite, hcast⟩ := hleaves _ generated _ (Prod.ext hok rfl)
  exact ⟨contract, generated, hload, hok, hcompact, hfinite, i, hcast⟩

end Content

end MockApi
