import MockApi.Proofs.Casting
import MockApi.Proofs.Content
import MockApi.Proofs.Loading

/-!
# Finishing generated data

Data generated from the template of a loaded response are repeated and then cast.

* `leads_of_resolves`, `leads_of_generated` : a path that resolves in the template leads on everywhere
  in what was generated, and so do the paths of the casts;
* `exists_finish` : finishing goes well;
* `RepeatsFrom start period items` : from some place on the items repeat;
* `finish_copies_alike` : casts of every item treat all copies alike but the first one, and the
  first one as well if no cast is stopped.
-/

namespace MockApi

open MockApi.Path (Leads Admits)
open Repeat (copies)
open Template (Generated generate)
open Value (Prunes Indexable)

variable {ε ε' σ : Type} {f : Value → ExceptT ε' (StateM σ) Text} {m : Metadata}
  {template data : Value} {items : List Value}

/-! ## Paths in what was generated -/

/-- A path that resolves in a template leads on in what was generated from it. -/
theorem leads_of_resolves {path : Path} (h : path.resolves template = .ok true)
    (hdata : Generated f template data) : Leads path.segments data :=
  (Path.leads_of_reaches h).of_prunes hdata.prunes_template

theorem leads_of_generated (hfits : m.Fits template) (hdata : Generated f template data) :
    ∀ c ∈ m.casts, Leads c.1.segments data :=
  fun c hc => leads_of_resolves (hfits.casts c hc) hdata

theorem length_of_generated {template : List Value} (h : Generated f (.list template) (.list items)) :
    items.length = template.length := by
  cases h with
  | list hitems => exact hitems.length_eq.symm

/-! ## Repeating -/

theorem copies_succ (count : Nat) (items : List Value) :
    copies (count + 1) items = items ++ copies count items := by
  rw [copies, List.replicate_succ, List.flatten_cons, copies]

theorem copies_succ' (count : Nat) (items : List Value) :
    copies (count + 1) items = copies count items ++ items := by
  rw [copies, List.replicate_succ', List.flatten_append, List.flatten_singleton, copies]

theorem length_copies (count : Nat) (items : List Value) :
    (copies count items).length = items.length * count := by
  simp [copies, Nat.mul_comm]

theorem not_isEmpty_of_parse {formula : String} {length : Nat} {bounds : Repeat.Bounds}
    (h : Repeat.parse (.ofString formula) length = .ok bounds) : formula.isEmpty = false := by
  rw [Bool.eq_false_iff]
  intro hempty
  obtain rfl := String.isEmpty_iff.1 hempty
  cases h

theorem repeatData_of_parse {formula : String} {bounds : Repeat.Bounds}
    (h : Repeat.parse (.ofString formula) items.length = .ok bounds) (chance : Chance) :
    repeatData (ε := ε) (some formula) (.list items) chance =
      .ok (.list (copies (chance.pick bounds.low bounds.high).1 items),
        (chance.pick bounds.low bounds.high).2) := by
  have hempty := not_isEmpty_of_parse h
  have hexpand : Repeat.expand items (.ofString formula) chance =
      .ok (copies (chance.pick bounds.low bounds.high).1 items,
        (chance.pick bounds.low bounds.high).2) := by
    rw [Repeat.expand, h]
    rfl
  simp only [repeatData, hempty, hexpand]
  rfl

theorem finish_of_castAll {data data' : Value} {chance chance' : Chance}
    (hrepeat : repeatData (ε := ε) m.repetition data chance = .ok (data', chance')) {final : Value}
    (hcasts : castAll (ε := ε) m.casts data' = .ok final) :
    m.finish (ε := ε) data chance = .ok (final, chance') := by
  rw [Metadata.finish, hrepeat]
  simp only [bind, Except.bind, hcasts]
  rfl

theorem castAll_nil_copies (hadmits : ∀ c ∈ m.casts, Leads c.1.segments (.list items)) :
    ∃ final, castAll (ε := ε) m.casts (.list []) = .ok final := by
  have hempty : Indexable (.list []) := .list (Nat.zero_le _) nofun
  refine (castAll_ok (fun c hc => ?_) hempty).imp fun final h => h.1
  cases hsegments : c.1.segments with
  | nil => trivial
  | cons segment rest =>
    have hleads := hadmits c hc
    rw [hsegments] at hleads
    by_cases hwild : segment = Path.wildcard
    · subst hwild
      exact Path.admits_wildcard.2 nofun
    · obtain ⟨i, v, hi, -⟩ := (Path.leads_index hwild).1 hleads
      exact (Path.admits_index hwild).2 ⟨i, hi, nofun⟩

/-- **Finishing goes well**: what was generated from a template that fits is repeated and cast. -/
theorem exists_finish (hfits : m.Fits template) (hdata : Generated f template data)
    (hindexable : Indexable template) (chance : Chance) :
    ∃ final chance', m.finish (ε := ε) data chance = .ok (final, chance') := by
  have hleads := leads_of_generated hfits hdata
  have hindexable' := hindexable.of_prunes hdata.prunes
  cases hrepetition : m.repetition with
  | none =>
    have hrepeat : repeatData (ε := ε) m.repetition data chance = .ok (data, chance) := by
      rw [hrepetition]
      rfl
    obtain ⟨final, hcasts, -⟩ :=
      castAll_ok (ε := ε) (fun c hc => Path.admits_of_leads (hleads c hc)) hindexable'
    exact ⟨final, chance, finish_of_castAll hrepeat hcasts⟩
  | some formula =>
    obtain ⟨templates, bounds, rfl, hparse⟩ := hfits.repetition formula hrepetition
    cases hdata with
    | leaf h => cases h
    | @list _ items hitems =>
      rw [hitems.length_eq] at hparse
      have hrepeat := repeatData_of_parse (ε := ε) hparse chance
      rw [← hrepetition] at hrepeat
      cases hcount : (chance.pick bounds.low bounds.high).1 with
      | zero =>
        rw [hcount] at hrepeat
        obtain ⟨final, hcasts⟩ := castAll_nil_copies (ε := ε) hleads
        exact ⟨final, _, finish_of_castAll hrepeat hcasts⟩
      | succ count =>
        rw [hcount, copies_succ] at hrepeat
        obtain ⟨items', others', -, hcasts, -⟩ := castAll_copies (ε := ε)
          (fun c hc => Path.admits_of_leads (hleads c hc)) hindexable'
          (fun c hc => Path.enters_of_leads (hleads c hc)) (Prunes.forall₂_refl items) count
        exact ⟨_, _, finish_of_castAll hrepeat hcasts⟩

/-! ## Copies that are alike -/

/-- From `start` on each item is the same as the one `period` further. -/
def RepeatsFrom (start period : Nat) (items : List Value) : Prop :=
  ∀ i, start ≤ i → i + period < items.length → items[i]? = items[i + period]?

theorem repeatsFrom_copies (count : Nat) (items : List Value) :
    RepeatsFrom 0 items.length (copies count items) := by
  intro i _ hi
  cases count with
  | zero => cases hi
  | succ count =>
    have hlast : i < (copies count items).length := by
      rw [copies_succ', List.length_append] at hi
      omega
    have hleft : (copies (count + 1) items)[i]? = (copies count items)[i]? := by
      rw [copies_succ', List.getElem?_append_left hlast]
    have hright : (copies (count + 1) items)[i + items.length]? = (copies count items)[i]? := by
      rw [copies_succ, List.getElem?_append_right (Nat.le_add_left _ _), Nat.add_sub_cancel]
    rw [hleft, hright]

theorem repeatsFrom_append_copies {first others : List Value} (hlength : others.length = first.length)
    (count : Nat) : RepeatsFrom first.length first.length (first ++ copies count others) := by
  intro i hstart hi
  rw [List.length_append] at hi
  have hrepeats := repeatsFrom_copies count others (i - first.length) (Nat.zero_le _) (by omega)
  rw [hlength, Nat.sub_add_cancel hstart] at hrepeats
  rw [List.getElem?_append_right hstart, List.getElem?_append_right (Nat.le_add_left _ _),
    Nat.add_sub_cancel, hrepeats]

/-- What casts of every item make of a list and of copies of it. -/
theorem castAll_copies_alike (hleads : ∀ c ∈ m.casts, Leads c.1.segments (.list items))
    (hindexable : Indexable (.list items))
    (hwild : ∀ c ∈ m.casts, c.1.segments.head? = some Path.wildcard) (count : Nat) :
    ∃ final, castAll (ε := ε) m.casts (.list (copies count items)) = .ok (.list final) ∧
      final.length = items.length * count ∧
      (0 < count → castAll (ε := ε) m.casts (.list items) = .ok (.list (final.take items.length))) ∧
      RepeatsFrom items.length items.length final ∧
      (Unstopped m.casts (.list items) → RepeatsFrom 0 items.length final) := by
  have hadmits : ∀ c ∈ m.casts, Admits c.1.segments (.list items) := fun c hc =>
    Path.admits_of_leads (hleads c hc)
  cases count with
  | zero =>
    -- Without copies the list is empty, and a wildcard leads on in it.
    have hempty : ∀ c ∈ m.casts, Leads c.1.segments (.list []) := by
      intro c hc
      obtain ⟨rest, hsegments⟩ := List.head?_eq_some_iff.1 (hwild c hc)
      rw [hsegments]
      exact Path.leads_wildcard.2 nofun
    obtain ⟨first, others, -, hcasts, hprunes, -⟩ := castAll_copies (ε := ε)
      (fun c hc => Path.admits_of_leads (hempty c hc)) (.list (Nat.zero_le _) nofun)
      (fun c hc => Path.enters_of_leads (hempty c hc)) (Prunes.forall₂_refl []) 0
    cases hprunes
    exact ⟨[], hcasts, rfl, nofun, fun i _ hi => absurd hi (Nat.not_lt_zero _),
      fun _ i _ hi => absurd hi (Nat.not_lt_zero _)⟩
  | succ count =>
    obtain ⟨first, others, hfirst, hcasts, hprunes, hothers⟩ := castAll_copies (ε := ε) hadmits
      hindexable (fun c hc => Path.enters_of_leads (hleads c hc)) (Prunes.forall₂_refl items) count
    have hlength := hprunes.length_eq
    have hlength' := hothers.length_eq
    refine ⟨first ++ copies count others, ?_, ?_, fun _ => ?_, ?_, fun hunstopped => ?_⟩
    · rw [copies_succ, hcasts]
    · rw [List.length_append, length_copies, hlength', ← hlength, Nat.mul_succ, Nat.add_comm]
    · rw [hfirst, hlength, List.take_left]
    · rw [hlength]
      exact repeatsFrom_append_copies hlength' count
    · obtain ⟨items', hitems', hcasts'⟩ :=
        castAll_unstopped_copies (ε := ε) hadmits hindexable hwild hunstopped count
      rw [hfirst] at hitems'
      cases hitems'
      rw [hcasts] at hcasts'
      have hsame := Value.list.inj (Except.ok.inj hcasts')
      rw [hsame, ← copies_succ, hlength]
      exact repeatsFrom_copies (count + 1) first

/-- **Casts of every item treat the copies alike.** What was generated from the data of a loaded
response is repeated as often as chance picks. The first copy becomes what the casts make of the data
alone, and all the others become the same as each other; without a cast that is stopped the first one
is like the others. -/
theorem finish_copies_alike {f : Text → ExceptT ε' (StateM σ) Text} {document : Value}
    {response : ResponseSpec} {template content : List Value} {formula : String} {s s' : σ}
    (hload : ResponseSpec.ofValue document = .ok response)
    (hmetadata : response.metadata = some m) (hdata : response.data = .list template)
    (hindexable : Indexable response.data) (hformula : m.repetition = some formula)
    (hwild : ∀ c ∈ m.casts, c.1.segments.head? = some Path.wildcard)
    (hcontent : (generate f response.data).run s = (.ok (.list content), s')) (chance : Chance) :
    ∃ bounds final, Repeat.parse (.ofString formula) template.length = .ok bounds ∧
      m.finish (ε := ε) (.list content) chance =
        .ok (.list final, (chance.pick bounds.low bounds.high).2) ∧
      final.length = template.length * (chance.pick bounds.low bounds.high).1 ∧
      (0 < (chance.pick bounds.low bounds.high).1 →
        castAll (ε := ε) m.casts (.list content) = .ok (.list (final.take template.length))) ∧
      RepeatsFrom template.length template.length final ∧
      (Unstopped m.casts (.list content) → RepeatsFrom 0 template.length final) := by
  have hfits := (ResponseSpec.fits_of_ofValue hload).metadata m hmetadata
  have hgenerated := Template.generated_of_gives hcontent
  rw [hdata] at hfits hgenerated hindexable
  have hlength := length_of_generated hgenerated
  obtain ⟨templates, bounds, hsame, hparse⟩ := hfits.repetition formula hformula
  cases hsame
  have hparseContent := hparse
  rw [← hlength] at hparseContent
  have hrepeat := repeatData_of_parse (ε := ε) hparseContent chance
  rw [← hformula] at hrepeat
  obtain ⟨final, hcasts, halike⟩ := castAll_copies_alike (ε := ε)
    (leads_of_generated hfits hgenerated) (hindexable.of_prunes hgenerated.prunes) hwild
    (chance.pick bounds.low bounds.high).1
  rw [hlength] at halike
  exact ⟨bounds, final, hparse, finish_of_castAll hrepeat hcasts, halike⟩

/-- A cast at `*.a.b` behind one at `*.a` is stopped on the first of three copies. -/
theorem finish_copies_alike_overlapping :
    let item : Value := .object [("a", .object [("b", .text "1")])]
    let document : Value := .object [("code", .int 200), ("data", .list [item]),
      ("meta", .object [("repeat", .text "3"),
        ("cast", .object [("*.a", .text "string"), ("*.a.b", .text "number")])])]
    let casts : List (Path × CastKind) :=
      [(⟨["*", "a"], by decide, by decide⟩, .text), (⟨["*", "a", "b"], by decide, by decide⟩, .number)]
    let m : Metadata := ⟨casts, some "3"⟩
    let response : ResponseSpec := ⟨200, [], .list [item], some m⟩
    let f : Text → ExceptT Empty (StateM Unit) Text := pure
    ResponseSpec.ofValue document = .ok response ∧ Indexable response.data ∧
      (∀ c ∈ m.casts, c.1.segments.head? = some Path.wildcard) ∧
      (generate f response.data).run () = (.ok (.list [item]), ()) ∧
      ∃ final, m.finish (ε := Empty) (.list [item]) (.ofDraws []) =
          .ok (.list final, ((Chance.ofDraws []).pick 3 3).2) ∧
        final.length = 3 ∧ RepeatsFrom 1 1 final := by
  intro item document casts m response f
  have hload : ResponseSpec.ofValue document = .ok response := rfl
  have hindexable : Indexable response.data :=
    ((Indexable.leaf rfl).object_singleton _).object_singleton _ |>.list_singleton
  have hwild : ∀ c ∈ m.casts, c.1.segments.head? = some Path.wildcard := by decide
  have hcontent : (generate f response.data).run () = (.ok (.list [item]), ()) := rfl
  obtain ⟨bounds, final, hparse, hfinish, hlength, -, hrepeats, -⟩ := finish_copies_alike
    (ε := Empty) hload rfl rfl hindexable rfl hwild hcontent (.ofDraws [])
  cases hparse
  exact ⟨hload, hindexable, hwild, hcontent, final, hfinish, hlength, hrepeats⟩

/-- There the first copy holds the diagnostic, and the second one holds what the first cast made. -/
theorem finish_stopped_first_copy :
    let item : Value := .object [("a", .object [("b", .text "1")])]
    let document : Value := .object [("code", .int 200), ("data", .list [item]),
      ("meta", .object [("repeat", .text "2"),
        ("cast", .object [("*.a", .text "string"), ("*.a.b", .text "number")])])]
    let f : Text → ExceptT Empty (StateM Unit) Text := pure
    ∃ response m final chance, ResponseSpec.ofValue document = .ok response ∧
      response.metadata = some m ∧ (∀ c ∈ m.casts, c.1.segments.head? = some Path.wildcard) ∧
      (generate f response.data).run () = (.ok (.list [item]), ()) ∧
      m.finish (ε := Empty) (.list [item]) (.ofDraws []) = .ok (.list final, chance) ∧
      ¬ RepeatsFrom 0 1 final := by
  intro item document f
  let casts : List (Path × CastKind) :=
    [(⟨["*", "a"], by decide, by decide⟩, .text), (⟨["*", "a", "b"], by decide, by decide⟩, .number)]
  let final : List Value :=
    [.object [("a", .text "<cannot cast *.a.b as number>")], .object [("a", .text "\x7b\"b\":\"1\"\x7d")]]
  have hdiffer : ¬ RepeatsFrom 0 1 final := by
    intro hrepeats
    have hsame := hrepeats 0 (Nat.le_refl 0) (by decide)
    simp [final, Text.ofString, Text.ofChars] at hsame
  exact ⟨⟨200, [], .list [item], some ⟨casts, some "2"⟩⟩, ⟨casts, some "2"⟩, final, _, rfl, rfl,
    by decide, rfl, rfl, hdiffer⟩

end MockApi
