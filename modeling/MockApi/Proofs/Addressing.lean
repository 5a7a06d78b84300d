import MockApi.Proofs.Locating

/-!
# Where a write goes and where it stops

* `Path.Locates segments v way` : a place that a path addresses, which may be a member that an object
  lacks;
* `Path.Sticks segments v way` : a place where a path cannot be followed any further;
* `Path.Wrote f segments trail v w` : what a write makes of a value, whether it stops or not
  (`wrote_writeFrom`);
* `Path.write_frame` : a write that does not stop changes what is addressed and nothing else.
-/

namespace MockApi.Path

open Value (Outside Precedes Rewritten Step)

variable {f : Value → Value} {path segments passed rest trail : List Text} {segment : Text}
  {step : Step} {u v : Value} {way : List Step}

/-! ## Places of a path -/

/-- The segment cannot be followed in the value; `rest` are the segments behind it. -/
def Blocks (segment : Text) (rest : List Text) : Value → Prop
  | .object members => rest ≠ [] ∧ Members.get? members segment = none
  | .list items => segment ≠ wildcard ∧ ∀ i, indexOf? segment = .ok (some i) → items[i]? = none
  | _ => True

/-- The path addresses the place at the end of the way: it leads there part by part, and at last to a
part that is there or to a member that an object lacks. -/
inductive Locates : List Text → Value → List Step → Prop
  | here (v : Value) : Locates [] v []
  | into {segment : Text} {rest : List Text} {v u : Value} {step : Step} {way : List Step} :
    Passes segment step → v.child? step = some u → Locates rest u way →
    Locates (segment :: rest) v (step :: way)
  | missing {name : Text} {members : Members Value} : Members.get? members name = none →
    Locates [name] (.object members) [.key name]

/-- The path leads along the way to a value in which its next segment cannot be followed. -/
def Sticks (segments : List Text) (v : Value) (way : List Step) : Prop :=
  ∃ passed segment rest u, segments = passed ++ segment :: rest ∧ Addresses passed way ∧
    v.part? way = some u ∧ Blocks segment rest u

/-- The segment leads on from the value, along a single step. -/
structure Through (segment : Text) (v : Value) (step : Step) (u : Value) : Prop where
  passes : Passes segment step
  child : v.child? step = some u
  only : ∀ other w, Passes segment other → v.child? other = some w → other = step

theorem child?_of_lacks {members : Members Value} (h : Members.get? members segment = none)
    (hpasses : Passes segment step) : Value.child? (.object members) step = none := by
  cases step with
  | item i => rfl
  | key name =>
    cases hpasses
    exact h

theorem not_blocks_of_child (hpasses : Passes segment step) (hchild : v.child? step = some u) :
    ¬ Blocks segment rest v := by
  intro hblocks
  cases v with
  | object members =>
    rw [child?_of_lacks hblocks.2 hpasses] at hchild
    cases hchild
  | list items =>
    cases step with
    | key name => cases hchild
    | item i =>
      rw [Value.child?_item] at hchild
      obtain hwild | hi := hpasses
      · exact hblocks.1 hwild
      · rw [hblocks.2 i hi] at hchild
        cases hchild
  | _ => cases hchild

theorem blocks_of_leaf (h : v.isContainer = false) : Blocks segment rest v := by
  cases v with
  | list _ => cases h
  | object _ => cases h
  | _ => trivial

theorem sticks_cons_iff : Sticks (segment :: rest) v way ↔
    (way = [] ∧ Blocks segment rest v) ∨ ∃ step more u, way = step :: more ∧ Passes segment step ∧
      v.child? step = some u ∧ Sticks rest u more := by
  constructor
  · rintro ⟨passed, next, behind, u, hsegments, haddresses, hpart, hblocks⟩
    cases haddresses with
    | nil =>
      cases hsegments
      cases hpart
      exact .inl ⟨rfl, hblocks⟩
    | cons hpasses haddresses =>
      cases hsegments
      obtain ⟨w, hchild, hpart⟩ := Value.part?_cons_eq_some_iff.1 hpart
      exact .inr ⟨_, _, w, rfl, hpasses, hchild, _, _, _, u, rfl, haddresses, hpart, hblocks⟩
  · rintro (⟨rfl, hblocks⟩ | ⟨step, more, w, rfl, hpasses, hchild, hsticks⟩)
    · exact ⟨[], segment, rest, v, rfl, .nil, rfl, hblocks⟩
    · obtain ⟨passed, next, behind, u, rfl, haddresses, hpart, hblocks⟩ := hsticks
      exact ⟨segment :: passed, next, behind, u, rfl, .cons hpasses haddresses,
        Value.part?_cons_eq_some_iff.2 ⟨w, hchild, hpart⟩, hblocks⟩

theorem not_sticks_nil : ¬ Sticks [] v way := by
  rintro ⟨passed, next, behind, u, hsegments, -⟩
  cases passed <;> cases hsegments

theorem addresses_of_locates (h : Locates segments v way) : Addresses segments way := by
  induction h with
  | here v => exact .nil
  | into hpasses _ _ ih => exact .cons hpasses ih
  | missing _ => exact .cons rfl .nil

theorem Through.sticks_iff (h : Through segment v step u) :
    Sticks (segment :: rest) v way ↔ ∃ more, way = step :: more ∧ Sticks rest u more := by
  rw [sticks_cons_iff]
  constructor
  · rintro (⟨-, hblocks⟩ | ⟨other, more, w, rfl, hpasses, hchild, hsticks⟩)
    · exact absurd hblocks (not_blocks_of_child h.passes h.child)
    · obtain rfl := h.only other w hpasses hchild
      rw [h.child] at hchild
      cases hchild
      exact ⟨more, rfl, hsticks⟩
  · rintro ⟨more, rfl, hsticks⟩
    exact .inr ⟨step, more, u, rfl, h.passes, h.child, hsticks⟩

theorem Through.locates_iff (h : Through segment v step u) :
    Locates (segment :: rest) v way ↔ ∃ more, way = step :: more ∧ Locates rest u more := by
  constructor
  · intro hlocates
    cases hlocates with
    | into hpasses hchild hlocates =>
      obtain rfl := h.only _ _ hpasses hchild
      rw [h.child] at hchild
      cases hchild
      exact ⟨_, rfl, hlocates⟩
    | missing hnone =>
      have hchild := h.child
      rw [child?_of_lacks hnone h.passes] at hchild
      cases hchild
  · rintro ⟨more, rfl, hlocates⟩
    exact .into h.passes h.child hlocates

theorem through_member {members : Members Value} (h : Members.get? members segment = some u) :
    Through segment (.object members) (.key segment) u where
  passes := rfl
  child := h
  only other w hpasses hchild := by
    cases other with
    | item i => cases hchild
    | key name =>
      cases hpasses
      rfl

theorem through_item {items : List Value} {i : Nat} (hwild : segment ≠ wildcard)
    (hi : indexOf? segment = .ok (some i)) (h : items[i]? = some u) :
    Through segment (.list items) (.item i) u where
  passes := .inr hi
  child := h
  only other w hpasses hchild := by
    cases other with
    | key name => cases hchild
    | item j =>
      obtain hwild' | hj := hpasses
      · exact absurd hwild' hwild
      · rw [hi] at hj
        cases hj
        rfl

theorem sticks_items_iff {items : List Value} : Sticks (wildcard :: rest) (.list items) way ↔
    ∃ i u more, way = .item i :: more ∧ items[i]? = some u ∧ Sticks rest u more := by
  rw [sticks_cons_iff]
  constructor
  · rintro (⟨-, hblocks⟩ | ⟨step, more, u, rfl, -, hchild, hsticks⟩)
    · exact absurd rfl hblocks.1
    · cases step with
      | key name => cases hchild
      | item i => exact ⟨i, u, more, rfl, hchild, hsticks⟩
  · rintro ⟨i, u, more, rfl, hi, hsticks⟩
    exact .inr ⟨.item i, more, u, rfl, .inl rfl, hi, hsticks⟩

theorem locates_items_iff {items : List Value} : Locates (wildcard :: rest) (.list items) way ↔
    ∃ i u more, way = .item i :: more ∧ items[i]? = some u ∧ Locates rest u more := by
  constructor
  · intro hlocates
    cases hlocates with
    | @into _ _ _ u step more _ hchild hlocates =>
      cases step with
      | key name => cases hchild
      | item i => exact ⟨i, u, more, rfl, hchild, hlocates⟩
  · rintro ⟨i, u, more, rfl, hi, hlocates⟩
    exact .into (.inl rfl) hi hlocates

/-! ## What a segment meets -/

/-- What a write meets in a value with a segment to follow. -/
inductive Meets (segment : Text) (rest : List Text) : Value → Prop
  | blocked {v : Value} : Blocks segment rest v → Meets segment rest v
  | member {members : Members Value} {old : Value} : Members.get? members segment = some old →
    Meets segment rest (.object members)
  | missing {members : Members Value} : rest = [] → Members.get? members segment = none →
    Meets segment rest (.object members)
  | item {items : List Value} {i : Nat} {old : Value} : segment ≠ wildcard →
    indexOf? segment = .ok (some i) → items[i]? = some old → Meets segment rest (.list items)
  | items {items : List Value} : segment = wildcard → Meets segment rest (.list items)

theorem meets (segment : Text) (rest : List Text) (v : Value) : Meets segment rest v := by
  by_cases hblocks : Blocks segment rest v
  · exact .blocked hblocks
  · cases v with
    | object members =>
      cases hget : Members.get? members segment with
      | some old => exact .member hget
      | none =>
        refine .missing ?_ hget
        by_contra hrest
        exact hblocks ⟨hrest, hget⟩
    | list items =>
      by_cases hwild : segment = wildcard
      · exact .items hwild
      · have hindex : ∃ i, indexOf? segment = .ok (some i) ∧ items[i]? ≠ none := by
          by_contra hnone
          refine hblocks ⟨hwild, fun i hi => ?_⟩
          by_contra hitem
          exact hnone ⟨i, hi, hitem⟩
        obtain ⟨i, hi, hitem⟩ := hindex
        obtain ⟨old, hold⟩ := Option.ne_none_iff_exists'.1 hitem
        exact .item hwild hi hold
    | _ => exact absurd (blocks_of_leaf rfl) hblocks

/-- A write stops at once in a value in which the segment cannot be followed, or for an index of too
many digits, whatever would be written. -/
theorem writeFrom_blocked (h : Blocks segment rest v) (path trail : List Text) :
    (∃ hindrance, ∀ f, writeFrom (always f) path (segment :: rest) trail v =
      obstruct path trail segment hindrance v) ∨
      ∃ fault, ∀ f, writeFrom (always f) path (segment :: rest) trail v = ⟨v, some (.index fault)⟩ := by
  cases v with
  | object members =>
    refine .inl ⟨.missingKey, fun f => ?_⟩
    have hrest : ¬ rest.isEmpty := fun hempty => h.1 (List.isEmpty_iff.1 hempty)
    simp only [writeFrom, h.2, if_neg hrest]
  | list items =>
    cases hindex : indexOf? segment with
    | error fault =>
      refine .inr ⟨fault, fun f => ?_⟩
      simp only [writeFrom, if_neg h.1, hindex]
    | ok i? =>
      refine .inl ⟨.unaddressable "list", fun f => ?_⟩
      cases i? with
      | none => simp only [writeFrom, if_neg h.1, hindex, Value.kindName]
      | some i => simp only [writeFrom, if_neg h.1, hindex, h.2 i hindex, Value.kindName]
  | _ => exact .inl ⟨_, fun f => rfl⟩

/-! ## Items written one after the other -/

section Items
variable {ε : Type} {k : Nat} {items items' : List Value}

/-- How far a write to one item after the other came: to the end, or to the first item whose write
stopped, with the items behind it left alone. -/
inductive Progress (write : Nat → Value → Written ε) (k : Nat) (items items' : List Value) :
    Option (WriteError ε) → Prop
  | all : (∀ i u, items[i]? = some u →
      (write (k + i) u).error? = none ∧ items'[i]? = some (write (k + i) u).document) →
    Progress write k items items' none
  | upTo {j : Nat} {u : Value} {e : WriteError ε} : items[j]? = some u →
    (write (k + j) u).error? = some e → items'[j]? = some (write (k + j) u).document →
    (∀ i < j, ∀ u, items[i]? = some u →
      (write (k + i) u).error? = none ∧ items'[i]? = some (write (k + i) u).document) →
    (∀ i, j < i → items'[i]? = items[i]?) → Progress write k items items' (some e)

theorem length_writeItems (write : Nat → Value → Written ε) (k : Nat) (items : List Value) :
    (writeItems write k items).1.length = items.length := by
  induction items generalizing k with
  | nil => rfl
  | cons v items ih =>
    rw [writeItems]
    dsimp only
    split
    · rfl
    · rw [List.length_cons, List.length_cons, ih]

theorem progress_writeItems (write : Nat → Value → Written ε) (k : Nat) (items : List Value) :
    Progress write k items (writeItems write k items).1 (writeItems write k items).2 := by
  induction items generalizing k with
  | nil => exact .all fun i u hu => nomatch hu
  | cons v items ih =>
    rw [writeItems]
    dsimp only
    split
    · next e he =>
      refine .upTo (j := 0) rfl he rfl (fun i hi => absurd hi (Nat.not_lt_zero i)) fun i hi => ?_
      cases i with
      | zero => exact absurd hi (Nat.lt_irrefl 0)
      | succ i => rfl
    · next he =>
      -- The items behind the first one are numbered from the next index on.
      have hshift : ∀ i, k + 1 + i = k + (i + 1) := fun i => by omega
      have hrest := ih (k + 1)
      revert hrest
      generalize writeItems write (k + 1) items = written
      obtain ⟨items', error?⟩ := written
      intro hrest
      cases hrest with
      | all hall =>
        refine .all fun i u hu => ?_
        cases i with
        | zero =>
          cases hu
          exact ⟨he, rfl⟩
        | succ i =>
          have hi := hall i u hu
          rwa [hshift] at hi
      | @upTo j u e hj herror hdocument hbefore hbehind =>
        rw [hshift] at herror hdocument
        refine .upTo (j := j + 1) hj herror hdocument (fun i hi u hu => ?_) fun i hi => ?_
        · cases i with
          | zero =>
            cases hu
            exact ⟨he, rfl⟩
          | succ i =>
            have hi := hbefore i (Nat.lt_of_succ_lt_succ hi) u hu
            rwa [hshift] at hi
        · cases i with
          | zero => exact absurd hi (Nat.not_lt_zero _)
          | succ i => exact hbehind i (Nat.lt_of_succ_lt_succ hi)

end Items

/-! ## What a write makes of a value -/

/-- The segment that stands for a step in a trail: a wildcard gives way to the index of the item. -/
def spelled (segment : Text) : Step → Text
  | .key _ => segment
  | .item i => if segment = wildcard then indexText i else segment

/-- A write that started at the end of `trail` stopped at the end of the way, and left `document`. -/
structure StopsAt (f : Value → Value) (segments trail : List Text) (v : Value) (o : Obstacle)
    (document : Value) (way : List Step) : Prop where
  /-- The path leads along the way to a value in which its next segment cannot be followed, and the
  obstacle tells this segment and the way, with indices for wildcards. -/
  stuck : ∃ passed rest u, segments = passed ++ o.segment :: rest ∧ Addresses passed way ∧
    v.part? way = some u ∧ Blocks o.segment rest u ∧ o.trail = trail ++ List.zipWith spelled passed way
  /-- It is the first such place. -/
  first : ∀ other, Sticks segments v other → other = way ∨ Precedes way other
  /-- What is addressed before that place is changed, and nothing else. -/
  before : Rewritten f (fun place => Locates segments v place ∧ Precedes place way) v document

/-- What a write makes of a value, if no index on its way has too many digits. -/
structure Wrote (f : Value → Value) (segments trail : List Text) (v : Value) (w : Written Empty) :
    Prop where
  completed : w.error? = none →
    (∀ way, ¬ Sticks segments v way) ∧ Rewritten f (Locates segments v) v w.document
  stopped : ∀ o, w.error? = some (.obstacle o) → ∃ way, StopsAt f segments trail v o w.document way

namespace Wrote

/-- A write stops at a value in which the segment cannot be followed. -/
theorem obstruct (h : Blocks segment rest v) (path : List Text) (hindrance : Hindrance) :
    Wrote f (segment :: rest) trail v (Path.obstruct path trail segment hindrance v) where
  completed := nofun
  stopped o ho := by
    cases ho
    refine ⟨[], ⟨[], rest, v, rfl, .nil, rfl, h, (List.append_nil trail).symm⟩, fun other hother => ?_,
      .refl fun place hplace => Value.not_precedes_nil hplace.2⟩
    obtain ⟨rfl, -⟩ | ⟨step, more, u, rfl, hpasses, hchild, -⟩ := sticks_cons_iff.1 hother
    · exact .inl rfl
    · exact absurd h (not_blocks_of_child hpasses hchild)

/-- A member that is missing is added at the end of the path. -/
theorem added {members : Members Value} (h : Members.get? members segment = none) :
    Wrote f [segment] trail (.object members)
      ⟨.object (Members.put members segment (f .null)), none⟩ where
  completed _ := by
    have hnone : ∀ step u, Passes segment step → Value.child? (.object members) step ≠ some u := by
      intro step u hpasses hchild
      rw [child?_of_lacks h hpasses] at hchild
      cases hchild
    refine ⟨fun way hway => ?_, .added h fun way => ⟨fun hway => ?_, ?_⟩⟩
    · obtain ⟨-, hblocks⟩ | ⟨step, more, u, -, hpasses, hchild, -⟩ := sticks_cons_iff.1 hway
      · exact hblocks.1 rfl
      · exact hnone step u hpasses hchild
    · cases hway with
      | into hpasses hchild _ => exact absurd hchild (hnone _ _ hpasses)
      | missing _ => rfl
    · rintro rfl
      exact .missing h
  stopped := nofun

/-- A write goes on in the only part that the segment leads to. -/
theorem into {w : Written Empty} {place : Value → Value} (hthrough : Through segment v step u)
    (hplace : ∀ places new, (∀ way, places way → ∃ more, way = step :: more) →
      Rewritten f (fun way => places (step :: way)) u new → Rewritten f places v (place new))
    (h : Wrote f rest (trail ++ [spelled segment step]) u w) :
    Wrote f (segment :: rest) trail v (w.map place) where
  completed hnone := by
    obtain ⟨hsticks, hrewritten⟩ := h.completed hnone
    refine ⟨fun way hway => ?_, hplace _ _ (fun way hway => ?_) (hrewritten.congr fun way => ?_)⟩
    · obtain ⟨more, -, hmore⟩ := hthrough.sticks_iff.1 hway
      exact hsticks more hmore
    · obtain ⟨more, hmore, -⟩ := hthrough.locates_iff.1 hway
      exact ⟨more, hmore⟩
    · simp [hthrough.locates_iff]
  stopped o ho := by
    obtain ⟨way, ⟨passed, behind, last, rfl, haddresses, hpart, hblocks, htrail⟩, hfirst, hbefore⟩ :=
      h.stopped o ho
    refine ⟨step :: way, ⟨segment :: passed, behind, last, rfl, .cons hthrough.passes haddresses,
      (Value.part?_cons hthrough.child way).trans hpart, hblocks, ?_⟩, fun other hother => ?_,
      hplace _ _ (fun way hway => ?_) (hbefore.congr fun place => ?_)⟩
    · rw [htrail, List.append_assoc, List.zipWith_cons_cons, List.singleton_append]
    · obtain ⟨more, rfl, hmore⟩ := hthrough.sticks_iff.1 hother
      obtain rfl | hprecedes := hfirst more hmore
      · exact .inl rfl
      · exact .inr (.deeper hprecedes)
    · obtain ⟨more, hmore, -⟩ := hthrough.locates_iff.1 hway.1
      exact ⟨more, hmore⟩
    · simp only [hthrough.locates_iff, List.cons.injEq, true_and, exists_eq_left']
      refine and_congr_right fun _ => ⟨.deeper, fun hprecedes => ?_⟩
      cases hprecedes with
      | here hlt => exact absurd hlt (Nat.lt_irrefl _)
      | deeper hprecedes => exact hprecedes

/-- A write to every item of a list. -/
theorem items {write : Nat → Value → Written Empty}
    (h : ∀ i v, Wrote f rest (trail ++ [indexText i]) v (write i v)) (items : List Value) :
    Wrote f (wildcard :: rest) trail (.list items)
      ⟨.list (writeItems write 0 items).1, (writeItems write 0 items).2⟩ := by
  have hlength := length_writeItems write 0 items
  have hprogress := progress_writeItems write 0 items
  generalize writeItems write 0 items = written at hlength hprogress ⊢
  obtain ⟨items', error?⟩ := written
  refine ⟨fun hnone => ?_, fun o ho => ?_⟩
  · obtain rfl : error? = none := hnone
    cases hprogress with
    | all hall =>
      simp only [Nat.zero_add] at hall
      refine ⟨fun way hway => ?_, .items hlength (fun way hway => ?_) fun i u hu => ?_⟩
      · obtain ⟨i, u, more, -, hu, hsticks⟩ := sticks_items_iff.1 hway
        exact ((h i u).completed (hall i u hu).1).1 more hsticks
      · obtain ⟨i, u, more, rfl, hu, -⟩ := locates_items_iff.1 hway
        exact ⟨i, more, rfl, (List.getElem?_eq_some_iff.1 hu).1⟩
      · obtain ⟨herror, hdocument⟩ := hall i u hu
        refine ⟨_, hdocument, ((h i u).completed herror).2.congr fun way => ?_⟩
        simp [locates_items_iff, hu]
  · obtain rfl : error? = some (.obstacle o) := ho
    cases hprogress with
    | @upTo j last _ hj herror hdocument hbefore hbehind =>
      simp only [Nat.zero_add] at herror hdocument hbefore
      obtain ⟨way, ⟨passed, behind, u, rfl, haddresses, hpart, hblocks, htrail⟩, hfirst, hplaces⟩ :=
        (h j last).stopped o herror
      refine ⟨.item j :: way, ⟨wildcard :: passed, behind, u, rfl, .cons (.inl rfl) haddresses,
        Value.part?_cons_eq_some_iff.2 ⟨last, hj, hpart⟩, hblocks, ?_⟩, fun other hother => ?_,
        .items hlength (fun place hplace => ?_) fun i u hu => ?_⟩
      · rw [htrail, List.append_assoc, List.zipWith_cons_cons, List.singleton_append, spelled,
          if_pos rfl]
      · obtain ⟨i, u, more, rfl, hu, hsticks⟩ := sticks_items_iff.1 hother
        obtain hlt | rfl | hlt := Nat.lt_trichotomy i j
        · exact absurd hsticks (((h i u).completed (hbefore i hlt u hu).1).1 more)
        · rw [hj] at hu
          cases hu
          obtain rfl | hprecedes := hfirst more hsticks
          · exact .inl rfl
          · exact .inr (.deeper hprecedes)
        · exact .inr (.here hlt)
      · obtain ⟨i, u, more, rfl, hu, -⟩ := locates_items_iff.1 hplace.1
        exact ⟨i, more, rfl, (List.getElem?_eq_some_iff.1 hu).1⟩
      -- Items before the one that stopped are changed in full, items behind it not at all.
      · obtain hlt | rfl | hlt := Nat.lt_trichotomy i j
        · obtain ⟨herror, hdocument⟩ := hbefore i hlt u hu
          refine ⟨_, hdocument, ((h i u).completed herror).2.congr fun place => ?_⟩
          simp [locates_items_iff, hu, Value.precedes_item_iff, hlt]
        · rw [hj] at hu
          cases hu
          refine ⟨_, hdocument, hplaces.congr fun place => ?_⟩
          simp [locates_items_iff, hj, Value.precedes_item_iff]
        · refine ⟨u, (hbehind i hlt).trans hu, .refl fun place hplace => ?_⟩
          obtain hlt' | ⟨rfl, -⟩ := Value.precedes_item_iff.1 hplace.2
          · exact absurd hlt' (Nat.lt_asymm hlt)
          · exact absurd hlt (Nat.lt_irrefl _)

end Wrote

/-- **What a write makes of a value**, by induction on the segments: one case for each kind of value
that the next segment meets. -/
theorem wrote_writeFrom (f : Value → Value) (path segments trail : List Text) (v : Value) :
    Wrote f segments trail v (writeFrom (always f) path segments trail v) := by
  induction segments generalizing v trail with
  | nil =>
    refine ⟨fun _ => ⟨fun _ => not_sticks_nil, .root fun way => ⟨fun hway => ?_, ?_⟩⟩, nofun⟩
    · cases hway
      rfl
    · rintro rfl
      exact .here v
  | cons segment rest ih =>
    cases meets segment rest v with
    | blocked h =>
      obtain ⟨hindrance, hwrite⟩ | ⟨fault, hwrite⟩ := writeFrom_blocked h path trail
      · rw [hwrite]
        exact .obstruct h path hindrance
      · rw [hwrite]
        exact ⟨nofun, nofun⟩
    | member h =>
      rw [writeFrom_member h]
      exact .into (through_member h) (fun _ _ hplaces => .member h hplaces) (ih _ _)
    | missing hlast h =>
      subst hlast
      rw [writeFrom_missing h]
      exact .added h
    | item hwild hi h =>
      rw [writeFrom_item hwild hi h]
      refine .into (through_item hwild hi h) (fun _ _ hplaces => .item h hplaces) ?_
      rw [spelled, if_neg hwild]
      exact ih _ _
    | items hwild =>
      subst hwild
      rw [writeFrom_items]
      exact .items (fun i v => ih (trail ++ [indexText i]) v) _

/-! ## Writes that do not stop -/

/-- A member that an object lacks is addressed, if the path leads to the object and ends with the
member. -/
theorem locates_missing {init : List Text} {name : Text} {members : Members Value}
    (haddresses : Addresses init way) (hpart : v.part? way = some (.object members))
    (hnone : Members.get? members name = none) :
    Locates (init ++ [name]) v (way ++ [.key name]) := by
  induction haddresses generalizing v with
  | nil =>
    cases hpart
    exact .missing hnone
  | cons hpasses _ ih =>
    obtain ⟨u, hchild, hpart⟩ := Value.part?_cons_eq_some_iff.1 hpart
    exact .into hpasses hchild (ih hpart)

/-- **A write that does not stop changes what is addressed and nothing else.** Only the object before
the last segment may get a new member, at its end, with what `f` makes of null. -/
theorem write_frame {path : Path} (h : (path.write (always f) v).error? = none) :
    Rewritten f (Locates path.segments v) v (path.write (always f) v).document ∧
      ∀ init name way members, path.segments = init ++ [name] → Addresses init way →
        v.part? way = some (.object members) → Members.get? members name = none →
        ∃ members', (path.write (always f) v).document.part? way = some (.object members') ∧
          Members.keys members' = Members.keys members ++ [name] ∧
          Members.get? members' name = some (f .null) := by
  have hrewritten := ((wrote_writeFrom f path.segments path.segments [] v).completed h).2
  refine ⟨hrewritten, fun init name way members hsegments haddresses hpart hnone => ?_⟩
  have hplace : Locates path.segments v (way ++ [.key name]) :=
    hsegments ▸ locates_missing haddresses hpart hnone
  -- A place lies as many steps deep as the path has segments, so none is above the object.
  have houtside : Outside (Locates path.segments v) way := by
    intro place hlocates hprefix
    have hlength := (addresses_of_locates hlocates).length_eq
    rw [hsegments, List.length_append, haddresses.length_eq, List.length_singleton] at hlength
    have := hprefix.length_le
    omega
  obtain ⟨members', hpart', hkeys⟩ := hrewritten.object way members houtside hpart
  have hname : Members.get? members' name = some (f .null) := by
    have hnew := hrewritten.place _ hplace
    rw [Value.part?_append, Value.part?_append, hpart, hpart'] at hnew
    simpa [Value.part?, Value.child?, hnone] using hnew
  refine ⟨members', hpart', ?_, hname⟩
  have hmem : name ∈ Members.keys members' := by
    rw [← Members.has_iff, Members.has, hname]
    rfl
  have hfresh : name ∉ Members.keys members := (Members.get?_eq_none_iff members name).1 hnone
  obtain hkeys | ⟨other, -, -, hkeys⟩ := hkeys
  -- Without a new name the member could not be found.
  · rw [hkeys] at hmem
    exact absurd hmem hfresh
  · rw [hkeys, List.mem_append, List.mem_singleton] at hmem
    obtain rfl := hmem.resolve_left hfresh
    exact hkeys

/-- A wildcard, an item with the member and one without it, and a member beside them. -/
theorem write_frame_added :
    let v : Value := .object [("rows", .list [.object [("id", .text "1")], .object [("n", .null)]]),
      ("id", .bool true)]
    let path : Path := ⟨["rows", "*", "id"], by decide, by decide⟩
    let f : Value → Value := fun u => .list [u]
    let document : Value := .object [("rows", .list [.object [("id", .list [.text "1"])],
      .object [("n", .null), ("id", .list [.null])]]), ("id", .bool true)]
    path.write (always f) v = ⟨document, none⟩ ∧ Rewritten f (Locates path.segments v) v document := by
  intro v path f document
  have hwrite : path.write (always f) v = ⟨document, none⟩ := rfl
  have herror : (path.write (always f) v).error? = none := congrArg Written.error? hwrite
  exact ⟨hwrite, (write_frame herror).1⟩

end MockApi.Path
