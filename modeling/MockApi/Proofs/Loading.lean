import MockApi.Contract.Rejection
import MockApi.Proofs.Wholeness

/-!
# What a loaded contract is known to be

The check of a document leaves facts behind about the contract that it denotes.

* `Metadata.Fits`, `ResponseSpec.Fits`, `Contract.Fits` : those facts;
* `Checked.ok_of_required`, `Checked.ok_of_both`, … : what the parts of a check passed;
* `Contract.fits_of_ofValue` : a loaded contract fits.
-/

namespace MockApi

/-- How data are finished is possible for the data: a formula of repetition can be applied to them,
and each path of a cast leads to values that are there. -/
structure Metadata.Fits (m : Metadata) (data : Value) : Prop where
  repetition : ∀ formula ∈ m.repetition, ∃ items bounds, data = .list items ∧
    Repeat.parse (.ofString formula) items.length = .ok bounds
  casts : ∀ c ∈ m.casts, c.1.resolves data = .ok true

/-- The headers of a response have whole names and no containers, and its metadata fit its data. -/
structure ResponseSpec.Fits (response : ResponseSpec) : Prop where
  names : ∀ m ∈ response.headers, m.1.Whole
  scalars : ∀ m ∈ response.headers, m.2.isContainer = false
  metadata : ∀ m ∈ response.metadata, m.Fits response.data

/-- The names of the supposed headers are in lower case, and each response fits. -/
structure Contract.Fits (contract : Contract) : Prop where
  headers : Folded contract.request.headers.members
  response : contract.response.Fits
  cases : ∀ c ∈ contract.cases, c.response.Fits

/-! ## What parts of a check passed -/

theorem ok_of_bind {ε α β : Type} {x : Except ε α} {f : α → Except ε β} {b : β}
    (h : (x >>= f) = .ok b) : ∃ a, x = .ok a ∧ f a = .ok b := by
  cases x with
  | error e => cases h
  | ok a => exact ⟨a, rfl, h⟩

theorem ok_of_map {ε α β : Type} {x : Except ε α} {f : α → β} {b : β} (h : x.map f = .ok b) :
    ∃ a, x = .ok a ∧ f a = b := by
  cases x with
  | error e => cases h
  | ok a =>
    cases h
    exact ⟨a, rfl, rfl⟩

theorem ok_of_mapError {α β γ : Type} {x : Except α γ} {f : α → β} {c : γ} (h : x.mapError f = .ok c) :
    x = .ok c := by
  cases x with
  | ok c' =>
    cases h
    rfl
  | error a => cases h

namespace Checked

variable {ρ α β ε : Type} {members : Members Value} {names : List String}

theorem ok_of_within {segment : Text} {result : Checked ρ α} {a : α}
    (h : within segment result = .ok a) : result = .ok a := by
  cases result with
  | error problems => cases h
  | ok a' =>
    cases h
    rfl

theorem ok_of_both {first : Checked ρ α} {second : Checked ρ β} {a : α} {b : β}
    (h : both first second = .ok (a, b)) : first = .ok a ∧ second = .ok b := by
  cases first with
  | error ps => cases second <;> cases h
  | ok a' =>
    cases second with
    | error ps => cases h
    | ok b' =>
      cases h
      exact ⟨rfl, rfl⟩

theorem ok_of_ofExcept {broken : ε → ρ} {result : Except ε α} {a : α}
    (h : ofExcept broken result = .ok a) : result = .ok a := by
  cases result with
  | error e => cases h
  | ok a' =>
    cases h
    rfl

theorem member?_of_required {f : Value → Checked ρ α} {a : α}
    (h : required members names f = .ok a) :
    ∃ key v, member? members names = some (key, v) ∧ f v = .ok a := by
  unfold required at h
  split at h
  · next key v hmember => exact ⟨key, v, hmember, ok_of_within h⟩
  · exact absurd (ok_of_within h) nofun

theorem ok_of_required {f : Value → Checked ρ α} {a : α} (h : required members names f = .ok a) :
    ∃ v, f v = .ok a := by
  obtain ⟨_, v, -, hv⟩ := member?_of_required h
  exact ⟨v, hv⟩

theorem ok_of_optional {default a : α} {f : Value → Checked ρ α}
    (h : optional members names default f = .ok a) : a = default ∨ ∃ v, f v = .ok a := by
  unfold optional at h
  split at h
  · exact .inr ⟨_, ok_of_within h⟩
  · cases h
    exact .inl rfl

theorem whole_of_wholeText {text : Text} {s : String}
    (h : (wholeText text : Checked ρ String) = .ok s) : text.Whole := by
  unfold wholeText at h
  split at h
  · next hstring => exact Text.whole_of_string? hstring
  · cases h

theorem ok_of_entries {members members' : Members α}
    (h : (entries members : Checked ρ (Members α)) = .ok members') :
    members' = members ∧ ∀ m ∈ members, m.1.Whole := by
  induction members generalizing members' with
  | nil =>
    cases h
    exact ⟨rfl, nofun⟩
  | cons member members ih =>
    obtain ⟨⟨first, rest⟩, hboth, rfl⟩ := ok_of_map h
    obtain ⟨hfirst, hrest⟩ := ok_of_both hboth
    obtain ⟨⟨s, a⟩, hentry, rfl⟩ := ok_of_map (ok_of_within hfirst)
    obtain ⟨hname, ha⟩ := ok_of_both hentry
    obtain ⟨rfl, hwhole⟩ := ih hrest
    cases ha
    refine ⟨rfl, fun m hm => ?_⟩
    obtain rfl | hm := List.mem_cons.1 hm
    · exact whole_of_wholeText (ok_of_within hname)
    · exact hwhole m hm

end Checked

/-! ## Responses -/

theorem headers_of_headerTemplatesOfValue {v : Value} {headers : Members Value}
    (h : headerTemplatesOfValue v = .ok headers) :
    (∀ m ∈ headers, m.1.Whole) ∧ ∀ m ∈ headers, m.2.isContainer = false := by
  obtain ⟨map, -, h⟩ := ok_of_bind h
  simp only at h
  split at h
  · cases h
  · next hnone =>
    obtain ⟨rfl, hwhole⟩ := Checked.ok_of_entries h
    refine ⟨hwhole, fun m hm => ?_⟩
    simpa using List.find?_eq_none.1 hnone m hm

theorem resolves_of_checkCasts {data : Value} {casts : List (Path × CastKind)}
    (h : checkCasts data casts = .ok ()) : ∀ c ∈ casts, c.1.resolves data = .ok true := by
  induction casts with
  | nil => exact nofun
  | cons c casts ih =>
    obtain ⟨found, hfound, h⟩ := ok_of_bind h
    split at h
    · next hyes =>
      intro c' hc'
      obtain rfl | hc' := List.mem_cons.1 hc'
      · rw [Checked.ok_of_ofExcept hfound, hyes]
      · exact ih h c' hc'
    · cases h

theorem parse_of_checkRepetition {data : Value} {formula : String}
    (h : checkRepetition data formula = .ok ()) :
    ∃ items bounds, data = .list items ∧
      Repeat.parse (.ofString formula) items.length = .ok bounds := by
  cases data with
  | list items =>
    obtain ⟨bounds, hbounds, -⟩ := ok_of_map h
    exact ⟨items, bounds, rfl, Checked.ok_of_ofExcept hbounds⟩
  | _ => cases h

theorem resolves_of_container {data : Value} {casts : List (Path × CastKind)}
    (h : (if casts.isEmpty then (return () : Judged Unit)
      else if data.isContainer then checkCasts data casts
      else Checked.breaks .castsNoContainer) = .ok ()) :
    ∀ c ∈ casts, c.1.resolves data = .ok true := by
  split at h
  · next hempty =>
    rw [List.isEmpty_iff.1 hempty]
    exact nofun
  · split at h
    · exact resolves_of_checkCasts h
    · cases h

theorem fits_of_checkMetadata {data : Value} {m : Metadata} (h : checkMetadata data m = .ok ()) :
    m.Fits data := by
  unfold checkMetadata at h
  cases hrepetition : m.repetition with
  | none =>
    simp only [hrepetition] at h
    exact ⟨by rw [hrepetition]; exact nofun, resolves_of_container h⟩
  | some formula =>
    simp only [hrepetition] at h
    obtain ⟨u, hformula, h⟩ := ok_of_bind h
    refine ⟨fun other hother => ?_, resolves_of_container h⟩
    rw [hrepetition, Option.mem_some] at hother
    subst hother
    exact parse_of_checkRepetition hformula

theorem ResponseSpec.fits_of_ofValue {v : Value} {response : ResponseSpec}
    (h : ResponseSpec.ofValue v = .ok response) : response.Fits := by
  obtain ⟨members, -, h⟩ := ok_of_bind h
  obtain ⟨⟨code, headers, data, metadata⟩, hparts, h⟩ := ok_of_bind h
  obtain ⟨-, hparts⟩ := Checked.ok_of_both hparts
  obtain ⟨hheaders, -⟩ := Checked.ok_of_both hparts
  obtain ⟨hnames, hscalars⟩ : (∀ m ∈ headers, m.1.Whole) ∧
      ∀ m ∈ headers, m.2.isContainer = false := by
    obtain rfl | ⟨v, hv⟩ := Checked.ok_of_optional hheaders
    · exact ⟨nofun, nofun⟩
    · exact headers_of_headerTemplatesOfValue hv
  cases metadata with
  | none =>
    cases h
    exact ⟨hnames, hscalars, nofun⟩
  | some m =>
    obtain ⟨u, hmetadata, h⟩ := ok_of_bind h
    cases h
    refine ⟨hnames, hscalars, fun m' hm => ?_⟩
    rw [Option.mem_some] at hm
    subst hm
    exact fits_of_checkMetadata hmetadata

/-! ## Requests and cases -/

theorem folded_of_headersOfValue {v : Value} {headers : HeaderMap}
    (h : headersOfValue v = .ok headers) : Folded headers.members := by
  obtain ⟨map, hmap, h⟩ := ok_of_bind h
  obtain ⟨-, -, h⟩ := ok_of_bind h
  cases h
  cases v with
  | null =>
    cases hmap
    exact ⟨.nil, nofun⟩
  | object members => exact HeaderMap.folded_of_ofPairs (Checked.ok_of_ofExcept hmap)
  | _ => cases hmap

theorem RequestSpec.folded_of_ofValue {v : Value} {request : RequestSpec}
    (h : RequestSpec.ofValue v = .ok request) : Folded request.headers.members := by
  obtain ⟨members, -, h⟩ := ok_of_bind h
  obtain ⟨⟨route, method, query, payload, headers⟩, hparts, h⟩ := ok_of_bind h
  cases h
  obtain ⟨-, hparts⟩ := Checked.ok_of_both hparts
  obtain ⟨-, hparts⟩ := Checked.ok_of_both hparts
  obtain ⟨-, hparts⟩ := Checked.ok_of_both hparts
  obtain ⟨-, hheaders⟩ := Checked.ok_of_both hparts
  obtain rfl | ⟨v, hv⟩ := Checked.ok_of_optional hheaders
  · exact ⟨.nil, nofun⟩
  · exact folded_of_headersOfValue hv

theorem ExceptCase.fits_of_ofValue {v : Value} {c : ExceptCase} (h : ExceptCase.ofValue v = .ok c) :
    c.response.Fits := by
  obtain ⟨members, -, h⟩ := ok_of_bind h
  obtain ⟨⟨name, predicates, response⟩, hparts, h⟩ := ok_of_bind h
  cases h
  obtain ⟨-, hparts⟩ := Checked.ok_of_both hparts
  obtain ⟨-, hresponse⟩ := Checked.ok_of_both hparts
  obtain ⟨v, hv⟩ := Checked.ok_of_required hresponse
  exact ResponseSpec.fits_of_ofValue hv

theorem fits_of_casesFrom {byName : Bool} {i : Nat} {members : Members Value}
    {cases : List ExceptCase} (h : casesFrom byName i members = .ok cases) :
    ∀ c ∈ cases, c.response.Fits := by
  induction members generalizing i cases with
  | nil =>
    cases h
    exact nofun
  | cons member members ih =>
    obtain ⟨⟨first, rest⟩, hboth, rfl⟩ := ok_of_map h
    obtain ⟨hfirst, hrest⟩ := Checked.ok_of_both hboth
    intro c hc
    obtain rfl | hc := List.mem_cons.1 hc
    · exact ExceptCase.fits_of_ofValue (Checked.ok_of_within hfirst)
    · exact ih hrest c hc

theorem fits_of_casesOfMembers {members : Members Value} {cases : List ExceptCase}
    (h : casesOfMembers members = .ok cases) : ∀ c ∈ cases, c.response.Fits := by
  obtain rfl | ⟨v, hv⟩ := Checked.ok_of_optional h
  · exact nofun
  · cases v with
    | null =>
      cases hv
      exact nofun
    | object members => exact fits_of_casesFrom hv
    | _ => cases hv

theorem Contract.ofMembers_of_ofValue {source : Option String} {v : Value} {contract : Contract}
    (h : Contract.ofValue source v = .ok contract) :
    ∃ members, v = .object members ∧ Contract.ofMembers members = .ok contract := by
  cases v with
  | object members =>
    unfold Contract.ofValue at h
    cases hparts : Contract.ofMembers members with
    | error problems =>
      simp only [hparts] at h
      cases h
    | ok c =>
      simp only [hparts] at h
      cases h
      exact ⟨members, rfl, hparts⟩
  | _ => cases h

/-- **A loaded contract fits.** -/
theorem Contract.fits_of_ofValue {source : Option String} {v : Value} {contract : Contract}
    (h : Contract.ofValue source v = .ok contract) : contract.Fits := by
  obtain ⟨members, -, hmembers⟩ := Contract.ofMembers_of_ofValue h
  obtain ⟨⟨request, response, cases⟩, hparts, h⟩ := ok_of_bind hmembers
  cases h
  obtain ⟨hrequest, hparts⟩ := Checked.ok_of_both hparts
  obtain ⟨hresponse, hcases⟩ := Checked.ok_of_both hparts
  obtain ⟨v, hv⟩ := Checked.ok_of_required hrequest
  obtain ⟨w, hw⟩ := Checked.ok_of_required hresponse
  exact ⟨RequestSpec.folded_of_ofValue hv, ResponseSpec.fits_of_ofValue hw,
    fits_of_casesOfMembers hcases⟩

end MockApi
