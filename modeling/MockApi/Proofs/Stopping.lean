import MockApi.Proofs.Addressing

/-!
# Writing where a write stopped

* `Path.Pins segments v way` : a path that leads along a single way, to a part that is there;
* `Path.write_of_pins` : a write through such a path changes that part and nothing else;
* `Path.pins_trail` : the trail of an obstacle is such a path, also in what the write left;
* `Path.write_stops_first` : a write that stops has come to the first place where the path cannot be
  followed, has changed what is addressed before it, and the trail leads back to that place.
-/

namespace MockApi

namespace Value

variable {v u : Value} {way other : List Step}

theorem Precedes.not_above (h : Precedes way other) : ¬ way <+: other := by
  induction h with
  | here hlt =>
    intro hprefix
    cases (List.cons_prefix_cons.1 hprefix).1
    exact Nat.lt_irrefl _ hlt
  | deeper _ ih => exact fun hprefix => ih (List.cons_prefix_cons.1 hprefix).2

theorem Precedes.not_below (h : Precedes way other) : ¬ other <+: way := by
  induction h with
  | here hlt =>
    intro hprefix
    cases (List.cons_prefix_cons.1 hprefix).1
    exact Nat.lt_irrefl _ hlt
  | deeper _ ih => exact fun hprefix => ih (List.cons_prefix_cons.1 hprefix).2

/-- The indices on a way through a value are no larger than its lists are long. -/
theorem Indexable.index_lt (h : Indexable v) (hpart : v.part? way = some u) {i : Nat}
    (hi : Step.item i ∈ way) : i < 10 ^ maxIntegerDigits := by
  induction way generalizing v with
  | nil => cases hi
  | cons step way ih =>
    obtain ⟨w, hchild, hrest⟩ := part?_cons_eq_some_iff.1 hpart
    cases h with
    | list hlength hitems =>
      cases step with
      | key name => cases hchild
      | item j =>
        obtain ⟨hlt, -⟩ := List.getElem?_eq_some_iff.1 hchild
        obtain heq | hi := List.mem_cons.1 hi
        · cases heq
          omega
        · exact ih (hitems w (List.mem_of_getElem? hchild)) hrest hi
    | object hmembers =>
      cases step with
      | item j => cases hchild
      | key name =>
        obtain heq | hi := List.mem_cons.1 hi
        · cases heq
        · exact ih (hmembers _ (Members.mem_of_get? hchild)) hrest hi
    | leaf hleaf =>
      cases v with
      | list _ => cases hleaf
      | object _ => cases hleaf
      | _ => cases hchild

end Value

namespace Path

open Value (Indexable Outside Precedes Rewritten Step)

variable {f g : Value → Value} {segments passed rest : List Text} {segment : Text} {step : Step}
  {u v : Value} {way : List Step}

/-! ## Paths to a single part -/

/-- The path leads along the way to a part that is there, and along no other way. -/
inductive Pins : List Text → Value → List Step → Prop
  | here (v : Value) : Pins [] v []
  | into {segment : Text} {rest : List Text} {v u : Value} {step : Step} {way : List Step} :
    Through segment v step u → Pins rest u way → Pins (segment :: rest) v (step :: way)

theorem Pins.locates_iff (h : Pins segments v way) {place : List Step} :
    Locates segments v place ↔ place = way := by
  induction h generalizing place with
  | here v =>
    constructor
    · intro hlocates
      cases hlocates
      rfl
    · rintro rfl
      exact .here v
  | into hthrough _ ih => simp [hthrough.locates_iff, ih]

theorem Through.leads (h : Through segment v step u) (hrest : Leads rest u) :
    Leads (segment :: rest) v := by
  cases v with
  | object members =>
    cases step with
    | item i => cases h.child
    | key name =>
      cases h.passes
      exact ⟨u, h.child, hrest⟩
  | list items =>
    cases step with
    | key name => cases h.child
    | item i =>
      by_cases hwild : segment = wildcard
      · subst hwild
        refine leads_wildcard.2 fun w hw => ?_
        obtain ⟨j, hj⟩ := List.mem_iff_getElem?.1 hw
        cases h.only (.item j) w (.inl rfl) hj
        obtain rfl : u = w := Option.some.inj (h.child.symm.trans hj)
        exact hrest
      · exact (leads_index hwild).2 ⟨i, u, h.passes.resolve_left hwild, h.child, hrest⟩
  | _ => cases h.child

theorem Pins.leads (h : Pins segments v way) : Leads segments v := by
  induction h with
  | here v => trivial
  | into hthrough _ ih => exact hthrough.leads ih

/-- **A write to a single part** changes that part and nothing else. -/
theorem write_of_pins {path : Path} (h : Pins path.segments v way) (g : Value → Value) :
    ∃ document, path.write (always g) v = ⟨document, none⟩ ∧ Rewritten g (· = way) v document := by
  have hwrite := write_of_leads h.leads g
  refine ⟨changeAt g path.segments v, hwrite, ?_⟩
  have hrewritten := (wrote_writeFrom g path.segments path.segments [] v).completed
    (congrArg Written.error? hwrite)
  rw [show writeFrom _ _ _ _ _ = _ from hwrite] at hrewritten
  exact hrewritten.2.congr fun place => h.locates_iff

/-! ## The trail -/

/-- The segment that stands for a step leads along that step only. -/
theorem through_spelled (hpasses : Passes segment step) (hchild : v.child? step = some u)
    (hindex : ∀ i, step = .item i → i < 10 ^ maxIntegerDigits) :
    Through (spelled segment step) v step u := by
  cases step with
  | key name =>
    cases hpasses
    cases v with
    | object members => exact through_member hchild
    | _ => cases hchild
  | item i =>
    cases v with
    | list items =>
      rw [spelled]
      split
      · exact through_item (indexText_ne_wildcard i) (indexOf?_indexText (hindex i rfl)) hchild
      · next hwild => exact through_item hwild (hpasses.resolve_left hwild) hchild
    | _ => cases hchild

/-- The trail pins down the place in every document in which there is a part at the end of the way. -/
theorem pins_trail (haddresses : Addresses passed way) (hpart : v.part? way = some u)
    (hindex : ∀ i, Step.item i ∈ way → i < 10 ^ maxIntegerDigits) :
    Pins (List.zipWith spelled passed way) v way := by
  induction haddresses generalizing v with
  | nil => exact .here v
  | @cons segment step passed way hpasses _ ih =>
    obtain ⟨w, hchild, hpart⟩ := Value.part?_cons_eq_some_iff.1 hpart
    exact .into (through_spelled hpasses hchild fun i hi => hindex i (hi ▸ List.mem_cons_self))
      (ih hpart fun i hi => hindex i (List.mem_cons_of_mem _ hi))

theorem nil_not_mem_trail (hnil : [] ∉ passed) (haddresses : Addresses passed way) :
    [] ∉ List.zipWith spelled passed way := by
  induction haddresses with
  | nil => exact hnil
  | @cons segment step passed way _ _ ih =>
    obtain ⟨hsegment, hpassed⟩ : segment ≠ [] ∧ [] ∉ passed := by
      simpa [eq_comm] using hnil
    rw [List.zipWith_cons_cons, List.mem_cons, not_or]
    refine ⟨fun heq => ?_, ih hpassed⟩
    cases step with
    | key name => exact hsegment heq.symm
    | item i =>
      rw [spelled] at heq
      split at heq
      · exact indexText_ne_nil i heq.symm
      · exact hsegment heq.symm

/-- Two ways of one path part only at a wildcard. -/
theorem wildcard_mem_of_precedes {place : List Step} (hplace : Addresses (passed ++ rest) place)
    (hway : Addresses passed way) (h : Precedes place way) : wildcard ∈ passed := by
  induction h generalizing passed with
  | here hlt =>
    cases hway with
    | cons hj _ =>
      cases hplace with
      | cons hi _ =>
        obtain rfl | hi := hi
        · exact List.mem_cons_self
        · obtain rfl | hj := hj
          · exact List.mem_cons_self
          · rw [hi] at hj
            cases hj
            exact absurd hlt (Nat.lt_irrefl _)
  | deeper _ ih =>
    cases hway with
    | cons _ hway =>
      cases hplace with
      | cons _ hplace => exact List.mem_cons_of_mem _ (ih hplace hway)

/-- **A write that stops has come to the first place where the path cannot be followed** and has changed
what is addressed before it, which is nothing if the path has no wildcard. What it leaves can be written
to at the place where it stopped, which changes that place and nothing else. -/
theorem write_stops_first {path : Path} {o : Obstacle}
    (h : (path.write (always f) v).error? = some (.obstacle o)) :
    ∃ way, StopsAt f path.segments [] v o (path.write (always f) v).document way ∧
      (wildcard ∉ path.segments → (path.write (always f) v).document = v) ∧
      (Indexable v → o.trail ≠ [] → ∃ trail : Path, ofSegments? o.trail = some trail ∧ ∀ g,
        ∃ document, trail.write (always g) (path.write (always f) v).document = ⟨document, none⟩ ∧
          Rewritten g (· = way) (path.write (always f) v).document document) := by
  obtain ⟨way, hstops⟩ := (wrote_writeFrom f path.segments path.segments [] v).stopped o h
  obtain ⟨passed, rest, u, hsegments, haddresses, hpart, -, htrail⟩ := hstops.stuck
  rw [List.nil_append] at htrail
  refine ⟨way, hstops, fun hwild => ?_, fun hindexable hne => ?_⟩
  · refine hstops.before.eq_of_no_place fun place hplace => hwild ?_
    have hplaces := addresses_of_locates hplace.1
    rw [hsegments] at hplaces ⊢
    exact List.mem_append_left _ (wildcard_mem_of_precedes hplaces haddresses hplace.2)
  · have hnil : [] ∉ o.trail := by
      rw [htrail]
      refine nil_not_mem_trail (fun hmem => path.no_empty ?_) haddresses
      rw [hsegments]
      exact List.mem_append_left _ hmem
    -- The write left the way to the place alone.
    have hpart' : (path.write (always f) v).document.part? way = some u := by
      rw [← hpart]
      exact hstops.before.elsewhere way (fun place hplace => hplace.2.not_above)
        fun place hplace => hplace.2.not_below
    have hpins := pins_trail haddresses hpart' fun i => hindexable.index_lt hpart
    rw [← htrail] at hpins
    exact ⟨⟨o.trail, hne, hnil⟩, dif_pos ⟨hne, hnil⟩, write_of_pins hpins⟩

/-- Two wildcards, a member that is added in the item before the one where the write stops, and an item
behind it that is left alone. -/
theorem write_stops_first_nested :
    let id : Value → Value := fun v => .object [("id", v)]
    let v : Value := .object [("rows", .list [.list [],
      .list [id (.object []), id (.text "x"), id (.object [])]])]
    let path : Path := ⟨["rows", "*", "*", "id", "value"], by decide, by decide⟩
    let f : Value → Value := fun _ => .int 0
    let o : Obstacle := ⟨["rows", "1", "1", "id"], "value", .unaddressable "str", path.segments⟩
    let document : Value := .object [("rows", .list [.list [],
      .list [id (.object [("value", .int 0)]), id (.text "x"), id (.object [])]])]
    path.write (always f) v = ⟨document, some (.obstacle o)⟩ ∧ Indexable v ∧
      ∃ way, StopsAt f path.segments [] v o document way ∧
        ∃ trail : Path, ofSegments? o.trail = some trail ∧ ∀ g, ∃ document',
          trail.write (always g) document = ⟨document', none⟩ ∧
            Rewritten g (· = way) document document' := by
  intro id v path f o document
  have hwrite : path.write (always f) v = ⟨document, some (.obstacle o)⟩ := rfl
  have herror : (path.write (always f) v).error? = some (.obstacle o) := congrArg Written.error? hwrite
  have hlist : ∀ {items : List Value}, items.length ≤ 10 → (∀ w ∈ items, Indexable w) →
      Indexable (.list items) := fun hlength hitems =>
    .list (hlength.trans (Nat.le_self_pow (by decide) 10)) hitems
  have hid : ∀ {w : Value}, Indexable w → Indexable (id w) := fun hw => hw.object_singleton _
  have hempty : Indexable (.object []) := .object nofun
  have hindexable : Indexable v := by
    refine (hlist (by decide) ?_).object_singleton _
    simp only [List.forall_mem_cons, List.not_mem_nil, false_imp_iff, implies_true, and_true]
    refine ⟨hlist (by decide) nofun, hlist (by decide) ?_⟩
    simp only [List.forall_mem_cons, List.not_mem_nil, false_imp_iff, implies_true, and_true]
    exact ⟨hid hempty, hid (.leaf rfl), hid hempty⟩
  obtain ⟨way, hstops, -, hagain⟩ := write_stops_first herror
  exact ⟨hwrite, hindexable, way, hstops, hagain hindexable (by decide)⟩

end Path

end MockApi
