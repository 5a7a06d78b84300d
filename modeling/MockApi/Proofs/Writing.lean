import MockApi.Path.Read
import MockApi.Proofs.Integer
import MockApi.Proofs.Pruning
import MockApi.Response.Finish

/-!
# Writing through a path

What a path that was found in a value does in what becomes of the value.

* `Leads segments v` : every segment leads on, for each item where it is a wildcard;
* `Admits segments v` : every segment leads on as long as there are containers, so that pruning
  keeps it (`Admits.prunes`);
* `reaches_cases` : how a path that resolves goes on in a value;
* `changeAt` : what a write that does not stop makes of a value (`write_of_leads`);
* `StopsWithin` : a write that stops at a place which can be written to (`writeFrom_stops`);
* `StopsInItems` : the same among the first items of a list (`writeFrom_list_stops`).
-/

namespace MockApi.Path

open Value (Prunes Indexable)

variable {g : Value → Value} {path segments rest trail : List Text} {segment : Text} {t v : Value}

/-! ## Paths that lead somewhere -/

/-- Every segment leads on, for each item of a list where it is a wildcard. -/
def Leads : List Text → Value → Prop
  | [], _ => True
  | segment :: rest, .object members => ∃ v, Members.get? members segment = some v ∧ Leads rest v
  | segment :: rest, .list items =>
    if segment = wildcard then ∀ v ∈ items, Leads rest v
    else ∃ i v, indexOf? segment = .ok (some i) ∧ items[i]? = some v ∧ Leads rest v
  | _ :: _, _ => False

/-- Every segment leads on as long as there are containers; only an index may be past the end. -/
def Admits : List Text → Value → Prop
  | [], _ => True
  | segment :: rest, .object members => ∃ v, Members.get? members segment = some v ∧ Admits rest v
  | segment :: rest, .list items =>
    if segment = wildcard then ∀ v ∈ items, Admits rest v
    else ∃ i, indexOf? segment = .ok (some i) ∧ ∀ v, items[i]? = some v → Admits rest v
  | _ :: _, _ => True

theorem leads_wildcard {items : List Value} :
    Leads (wildcard :: rest) (.list items) ↔ ∀ v ∈ items, Leads rest v := by
  rw [Leads, if_pos rfl]

theorem admits_wildcard {items : List Value} :
    Admits (wildcard :: rest) (.list items) ↔ ∀ v ∈ items, Admits rest v := by
  rw [Admits, if_pos rfl]

theorem leads_index (h : segment ≠ wildcard) {items : List Value} :
    Leads (segment :: rest) (.list items) ↔
      ∃ i v, indexOf? segment = .ok (some i) ∧ items[i]? = some v ∧ Leads rest v := by
  rw [Leads, if_neg h]

theorem admits_index (h : segment ≠ wildcard) {items : List Value} :
    Admits (segment :: rest) (.list items) ↔
      ∃ i, indexOf? segment = .ok (some i) ∧ ∀ v, items[i]? = some v → Admits rest v := by
  rw [Admits, if_neg h]

/-- With other items behind a list a path leads on, if it does in those that a wildcard reaches. -/
theorem Leads.append {items others : List Value} (h : Leads (segment :: rest) (.list items))
    (hothers : segment = wildcard → ∀ v ∈ others, Leads rest v) :
    Leads (segment :: rest) (.list (items ++ others)) := by
  by_cases hwild : segment = wildcard
  · subst hwild
    rw [leads_wildcard] at h ⊢
    intro v hv
    obtain hv | hv := List.mem_append.1 hv
    · exact h v hv
    · exact hothers rfl v hv
  · obtain ⟨i, v, hi, hv, hrest⟩ := (leads_index hwild).1 h
    obtain ⟨hlt, -⟩ := List.getElem?_eq_some_iff.1 hv
    refine (leads_index hwild).2 ⟨i, v, hi, ?_, hrest⟩
    rw [List.getElem?_append_left hlt, hv]

theorem admits_of_leads (h : Leads segments v) : Admits segments v := by
  induction segments generalizing v with
  | nil => trivial
  | cons segment rest ih =>
    cases v with
    | object members =>
      obtain ⟨v, hv, hrest⟩ := h
      exact ⟨v, hv, ih hrest⟩
    | list items =>
      by_cases hwild : segment = wildcard
      · subst hwild
        rw [leads_wildcard] at h
        exact admits_wildcard.2 fun v hv => ih (h v hv)
      · obtain ⟨i, v, hi, hv, hrest⟩ := (leads_index hwild).1 h
        refine (admits_index hwild).2 ⟨i, hi, fun u hu => ?_⟩
        rw [hv] at hu
        exact ih (Option.some.inj hu ▸ hrest)
    | _ => trivial

/-! ## Paths that resolve -/

section Resolving
variable {u : Value} {items : List Value} {members : Members Value}

/-- How a path that resolves goes on in a value. -/
inductive GoesOn (segment : Text) (rest : List Text) : Value → Prop
  | items {items : List Value} : segment = wildcard → (∀ u ∈ items, reaches rest u = .ok true) →
    GoesOn segment rest (.list items)
  | member {members : Members Value} {u : Value} : segment ≠ wildcard →
    Members.get? members segment = some u → reaches rest u = .ok true →
    GoesOn segment rest (.object members)
  | item {items : List Value} {i : Nat} {u : Value} : segment ≠ wildcard →
    indexOf? segment = .ok (some i) → items[i]? = some u → reaches rest u = .ok true →
    GoesOn segment rest (.list items)

theorem allM_eq_true_iff {p : Value → Except IntegerFault Bool} :
    items.allM p = .ok true ↔ ∀ v ∈ items, p v = .ok true := by
  induction items with
  | nil => exact ⟨fun _ => nofun, fun _ => rfl⟩
  | cons v items ih =>
    rw [List.allM, List.forall_mem_cons, ← ih]
    cases hv : p v with
    | error fault => exact ⟨nofun, fun h => nomatch h.1⟩
    | ok b =>
      cases b with
      | false => exact ⟨nofun, fun h => nomatch h.1⟩
      | true => exact ⟨fun h => ⟨rfl, h⟩, fun h => h.2⟩

theorem reaches_items :
    reaches (wildcard :: rest) (.list items) = .ok true ↔ ∀ u ∈ items, reaches rest u = .ok true := by
  rw [reaches, if_pos rfl, allM_eq_true_iff]

theorem reaches_member (hwild : segment ≠ wildcard) (h : Members.get? members segment = some u) :
    reaches (segment :: rest) (.object members) = reaches rest u := by
  simp only [reaches, if_neg hwild, h]

theorem reaches_item {i : Nat} (hwild : segment ≠ wildcard) (hi : indexOf? segment = .ok (some i))
    (h : items[i]? = some u) : reaches (segment :: rest) (.list items) = reaches rest u := by
  simp only [reaches, if_neg hwild, hi, bind, Except.bind, h]

theorem reaches_cases (h : reaches (segment :: rest) v = .ok true) : GoesOn segment rest v := by
  by_cases hwild : segment = wildcard
  · subst hwild
    cases v with
    | list items => exact .items rfl (reaches_items.1 h)
    | _ => cases h
  · cases v with
    | object members =>
      cases hget : Members.get? members segment with
      | none =>
        simp only [reaches, if_neg hwild, hget] at h
        cases h
      | some u => exact .member hwild hget (reaches_member hwild hget ▸ h)
    | list items =>
      cases hindex : indexOf? segment with
      | error fault =>
        simp only [reaches, if_neg hwild, hindex, bind, Except.bind] at h
        cases h
      | ok i? =>
        cases i? with
        | none =>
          simp only [reaches, if_neg hwild, hindex, bind, Except.bind] at h
          cases h
        | some i =>
          cases hitem : items[i]? with
          | none =>
            simp only [reaches, if_neg hwild, hindex, bind, Except.bind, hitem] at h
            cases h
          | some u => exact .item hwild hindex hitem (reaches_item hwild hindex hitem ▸ h)
    | _ =>
      simp only [reaches, if_neg hwild] at h
      cases h

/-- A path that was found to lead to values that are there leads on everywhere. -/
theorem leads_of_reaches (h : reaches segments v = .ok true) : Leads segments v := by
  induction segments generalizing v with
  | nil => trivial
  | cons segment rest ih =>
    cases reaches_cases h with
    | items hwild hitems =>
      subst hwild
      exact leads_wildcard.2 fun u hu => ih (hitems u hu)
    | member _ hget hrest => exact ⟨_, hget, ih hrest⟩
    | item hwild hi hitem hrest => exact (leads_index hwild).2 ⟨_, _, hi, hitem, ih hrest⟩

end Resolving

/-! ## Paths in pruned values -/

theorem Admits.prunes (h : Admits segments t) (hprunes : Prunes t v) : Admits segments v := by
  induction segments generalizing t v with
  | nil => trivial
  | cons segment rest ih =>
    cases hprunes with
    | cut hv => cases v <;> trivial
    | object hmembers =>
      obtain ⟨u, hu, hrest⟩ := h
      obtain ⟨w, hw, huw⟩ := hmembers.get? hu
      exact ⟨w, hw, ih hrest huw⟩
    | list hitems =>
      by_cases hwild : segment = wildcard
      · subst hwild
        rw [admits_wildcard] at h
        refine admits_wildcard.2 fun w hw => ?_
        obtain ⟨u, hu, huw⟩ := forall₂_exists_mem hitems w hw
        exact ih (h u hu) huw
      · obtain ⟨i, hi, hrest⟩ := (admits_index hwild).1 h
        refine (admits_index hwild).2 ⟨i, hi, fun w hw => ?_⟩
        obtain ⟨u, hu, huw⟩ := forall₂_getElem? hitems.flip hw
        exact ih (hrest u hu) huw

/-- What leads on in a pruned value did so before. -/
theorem Leads.of_prunes (h : Leads segments v) (hprunes : Prunes t v) : Leads segments t := by
  induction segments generalizing t v with
  | nil => trivial
  | cons segment rest ih =>
    cases hprunes with
    | cut hv =>
      cases v with
      | list _ => cases hv
      | object _ => cases hv
      | _ => cases h
    | object hmembers =>
      obtain ⟨w, hw, hrest⟩ := h
      obtain ⟨u, hu, huw⟩ := hmembers.flip.get? hw
      exact ⟨u, hu, ih hrest huw⟩
    | list hitems =>
      by_cases hwild : segment = wildcard
      · subst hwild
        rw [leads_wildcard] at h
        refine leads_wildcard.2 fun u hu => ?_
        obtain ⟨w, hw, huw⟩ := forall₂_exists_mem hitems.flip u hu
        exact ih (h w hw) huw
      · obtain ⟨i, w, hi, hw, hrest⟩ := (leads_index hwild).1 h
        obtain ⟨u, hu, huw⟩ := forall₂_getElem? hitems.flip hw
        exact (leads_index hwild).2 ⟨i, u, hi, hu, ih hrest huw⟩

/-! ## What a write does with one segment -/

theorem writeFrom_member {members : Members Value} (h : Members.get? members segment = some v)
    (f : Value → Value) (path trail : List Text) :
    writeFrom (always f) path (segment :: rest) trail (.object members) =
      (writeFrom (always f) path rest (trail ++ [segment]) v).map fun new =>
        .object (Members.put members segment new) := by
  simp only [writeFrom, h]

theorem writeFrom_missing {members : Members Value} (h : Members.get? members segment = none)
    (f : Value → Value) (path trail : List Text) :
    writeFrom (always f) path [segment] trail (.object members) =
      ⟨.object (Members.put members segment (f .null)), none⟩ := by
  simp only [writeFrom, h, List.isEmpty_nil, if_true, always]

theorem writeFrom_item {items : List Value} {i : Nat} (hwild : segment ≠ wildcard)
    (hi : indexOf? segment = .ok (some i)) (h : items[i]? = some v) (f : Value → Value)
    (path trail : List Text) :
    writeFrom (always f) path (segment :: rest) trail (.list items) =
      (writeFrom (always f) path rest (trail ++ [segment]) v).map fun new =>
        .list (items.set i new) := by
  simp only [writeFrom, if_neg hwild, hi, h]

theorem writeFrom_items (f : Value → Value) (path trail : List Text) (items : List Value) :
    writeFrom (always f) path (wildcard :: rest) trail (.list items) =
      ⟨.list (writeItems
        (fun i v => writeFrom (always f) path rest (trail ++ [indexText i]) v) 0 items).1,
        (writeItems
          (fun i v => writeFrom (always f) path rest (trail ++ [indexText i]) v) 0 items).2⟩ := by
  rw [writeFrom, if_pos rfl]

/-! ## Writes that do not stop -/

/-- What a write through a path that leads on everywhere makes of a value. -/
def changeAt (g : Value → Value) : List Text → Value → Value
  | [], v => g v
  | segment :: rest, .object members =>
    match Members.get? members segment with
    | some v => .object (Members.put members segment (changeAt g rest v))
    | none => .object members
  | segment :: rest, .list items =>
    if segment = wildcard then .list (items.map (changeAt g rest))
    else
      match indexOf? segment with
      | .ok (some i) => .list ((items[i]?).elim items fun v => items.set i (changeAt g rest v))
      | _ => .list items
  | _ :: _, v => v

theorem changeAt_wildcard {items : List Value} :
    changeAt g (wildcard :: rest) (.list items) = .list (items.map (changeAt g rest)) := by
  rw [changeAt, if_pos rfl]

theorem changeAt_index (hwild : segment ≠ wildcard) {items : List Value} {i : Nat}
    (hi : indexOf? segment = .ok (some i)) (hv : items[i]? = some v) :
    changeAt g (segment :: rest) (.list items) = .list (items.set i (changeAt g rest v)) := by
  rw [changeAt, if_neg hwild]
  simp only [hi, hv, Option.elim_some]

theorem changeAt_member {members : Members Value} (hv : Members.get? members segment = some v) :
    changeAt g (segment :: rest) (.object members) =
      .object (Members.put members segment (changeAt g rest v)) := by
  simp only [changeAt, hv]

theorem prunes_changeAt (hg : ∀ v, (g v).isContainer = false) (h : Leads segments v) :
    Prunes v (changeAt g segments v) := by
  induction segments generalizing v with
  | nil => exact .cut (hg v)
  | cons segment rest ih =>
    cases v with
    | object members =>
      obtain ⟨v, hv, hrest⟩ := h
      rw [changeAt_member hv]
      exact .put hv (ih hrest)
    | list items =>
      by_cases hwild : segment = wildcard
      · subst hwild
        rw [leads_wildcard] at h
        rw [changeAt_wildcard]
        refine .list (List.forall₂_map_right_iff.2 (List.forall₂_same.2 fun v hv => ih (h v hv)))
      · obtain ⟨i, v, hi, hv, hrest⟩ := (leads_index hwild).1 h
        rw [changeAt_index hwild hi hv]
        exact .list (Prunes.forall₂_set_right hv (ih hrest))
    | _ => cases h

/-- What is made of a pruned value is what is made of the value, pruned. -/
theorem prunes_changeAt_changeAt (hg : ∀ v, (g v).isContainer = false) (h : Leads segments v)
    (hprunes : Prunes t v) : Prunes (changeAt g segments t) (changeAt g segments v) := by
  induction segments generalizing t v with
  | nil => exact .cut (hg v)
  | cons segment rest ih =>
    cases hprunes with
    | cut hv =>
      cases v with
      | list _ => cases hv
      | object _ => cases hv
      | _ => cases h
    | object hmembers =>
      obtain ⟨w, hw, hrest⟩ := h
      obtain ⟨u, hu, huw⟩ := hmembers.flip.get? hw
      rw [changeAt_member hw, changeAt_member hu]
      exact .object (hmembers.put (ih hrest huw) segment)
    | list hitems =>
      by_cases hwild : segment = wildcard
      · subst hwild
        rw [leads_wildcard] at h
        rw [changeAt_wildcard, changeAt_wildcard]
        exact .list (forall₂_map_of_mem hitems fun u w hw huw => ih (h w hw) huw)
      · obtain ⟨i, w, hi, hw, hrest⟩ := (leads_index hwild).1 h
        obtain ⟨u, hu, huw⟩ := forall₂_getElem? hitems.flip hw
        rw [changeAt_index hwild hi hw, changeAt_index hwild hi hu]
        exact .list (forall₂_set hitems (ih hrest huw) i)

theorem writeItems_of_change {ε : Type} {step : Nat → Value → Written ε} {f : Value → Value}
    {items : List Value} (h : ∀ i, ∀ v ∈ items, step i v = ⟨f v, none⟩) (k : Nat) :
    writeItems step k items = (items.map f, none) := by
  induction items generalizing k with
  | nil => rfl
  | cons v items ih =>
    have hrest := ih (fun i v hv => h i v (List.mem_cons_of_mem _ hv)) (k + 1)
    simp only [writeItems, h k v List.mem_cons_self, hrest, List.map_cons]

/-- A write through a path that leads on everywhere does not stop. -/
theorem writeFrom_of_leads (path : List Text) (h : Leads segments v) (trail : List Text) :
    writeFrom (always g) path segments trail v = ⟨changeAt g segments v, none⟩ := by
  induction segments generalizing v trail with
  | nil => rfl
  | cons segment rest ih =>
    cases v with
    | object members =>
      obtain ⟨v, hv, hrest⟩ := h
      rw [changeAt_member hv, writeFrom_member hv, ih hrest]
      rfl
    | list items =>
      by_cases hwild : segment = wildcard
      · subst hwild
        rw [leads_wildcard] at h
        have hitems := writeItems_of_change (fun i v hv => ih (h v hv) (trail ++ [indexText i])) 0
        rw [changeAt_wildcard, writeFrom_items, hitems]
      · obtain ⟨i, v, hi, hv, hrest⟩ := (leads_index hwild).1 h
        rw [changeAt_index hwild hi hv, writeFrom_item hwild hi hv, ih hrest]
        rfl
    | _ => cases h

theorem write_of_leads {path : Path} (h : Leads path.segments v) (g : Value → Value) :
    path.write (always g) v = ⟨changeAt g path.segments v, none⟩ :=
  writeFrom_of_leads path.segments h []

/-! ## Writes that stop -/

/-- A write to `v` stopped at an obstacle. Its trail goes on below `trail` to a place of what it left,
which is `v` pruned, and everything on the way to that place is there. -/
def StopsWithin (trail : List Text) (v : Value) (w : Written Empty) : Prop :=
  ∃ o more d, w = ⟨d, some (.obstacle o)⟩ ∧ o.trail = trail ++ more ∧ [] ∉ more ∧ Leads more d ∧
    Prunes v d

/-- A write to a list stopped below one of its first `items`, of which it left `items'`, whatever
other items follow; those it left alone. -/
def StopsInItems (trail : List Text) (items : List Value) (w : List Value → Written Empty) : Prop :=
  ∃ o items' segment more i v, (∀ others, w others = ⟨.list (items' ++ others), some (.obstacle o)⟩) ∧
    o.trail = trail ++ segment :: more ∧ [] ∉ segment :: more ∧ segment ≠ wildcard ∧
    indexOf? segment = .ok (some i) ∧ items'[i]? = some v ∧ Leads more v ∧
    List.Forall₂ Prunes items items'

theorem writeItems_of_stop {ε : Type} {step : Nat → Value → Written ε} {f : Value → Value}
    {before : List Value} (hbefore : ∀ i, ∀ u ∈ before, step i u = ⟨f u, none⟩) (k : Nat)
    {d : Value} {e : WriteError ε} (hstop : step (k + before.length) v = ⟨d, some e⟩)
    (after : List Value) :
    writeItems step k (before ++ v :: after) = (before.map f ++ d :: after, some e) := by
  induction before generalizing k with
  | nil =>
    replace hstop : step k v = ⟨d, some e⟩ := hstop
    simp only [List.nil_append, writeItems, hstop, List.map_nil]
  | cons u before ih =>
    have hlength : k + (u :: before).length = k + 1 + before.length := by
      rw [List.length_cons]
      omega
    rw [hlength] at hstop
    have hrest := ih (fun i u hu => hbefore i u (List.mem_cons_of_mem _ hu)) (k + 1) hstop
    simp only [List.cons_append, writeItems, hbefore k u List.mem_cons_self, hrest, List.map_cons]

theorem forall_or_exists_first (p : Value → Prop) (items : List Value) :
    (∀ v ∈ items, p v) ∨
      ∃ before v after, items = before ++ v :: after ∧ (∀ u ∈ before, p u) ∧ ¬ p v := by
  induction items with
  | nil =>
    left
    intro v hv
    cases hv
  | cons v items ih =>
    by_cases hv : p v
    · obtain hall | ⟨before, u, after, rfl, hbefore, hu⟩ := ih
      · left
        simpa using ⟨hv, hall⟩
      · right
        exact ⟨v :: before, u, after, rfl, by simpa using ⟨hv, hbefore⟩, hu⟩
    · right
      exact ⟨[], v, items, rfl, by simp, hv⟩

/-- A write to every item stops below the first one where the rest of the path does not lead on. -/
theorem writeFrom_wildcard_stops (hg : ∀ v, (g v).isContainer = false)
    (hrest : ∀ v trail, Admits rest v → Indexable v → ¬ Leads rest v →
      StopsWithin trail v (writeFrom (always g) path rest trail v))
    {items : List Value} (hadmits : ∀ v ∈ items, Admits rest v)
    (hlength : items.length ≤ 10 ^ maxIntegerDigits) (hindexable : ∀ v ∈ items, Indexable v)
    (hstuck : ¬ ∀ v ∈ items, Leads rest v) (trail : List Text) :
    StopsInItems trail items fun others =>
      writeFrom (always g) path (wildcard :: rest) trail (.list (items ++ others)) := by
  obtain hall | ⟨before, u, after, rfl, hbefore, hu⟩ := forall_or_exists_first (Leads rest) items
  · exact absurd hall hstuck
  have hmem : u ∈ before ++ u :: after := by simp
  obtain ⟨o, more, d, hwrite, htrail, hnil, hleads, hprunes⟩ :=
    hrest u (trail ++ [indexText before.length]) (hadmits u hmem) (hindexable u hmem) hu
  have hbound : before.length < 10 ^ maxIntegerDigits := by
    rw [List.length_append, List.length_cons] at hlength
    omega
  rw [← Nat.zero_add before.length] at hwrite
  have hitems := writeItems_of_stop
    (fun i v hv => writeFrom_of_leads path (hbefore v hv) (trail ++ [indexText i])) 0 hwrite
  refine ⟨o, before.map (changeAt g rest) ++ d :: after, indexText before.length, more,
    before.length, d, fun others => ?_, ?_, ?_, indexText_ne_wildcard _, indexOf?_indexText hbound,
    ?_, hleads, ?_⟩
  · beta_reduce
    rw [writeFrom_items, List.append_assoc, List.cons_append, hitems (after ++ others),
      List.append_assoc, List.cons_append]
  · rw [htrail, List.append_assoc, List.singleton_append]
  · simpa using ⟨indexText_ne_nil _, hnil⟩
  · simp
  · refine List.rel_append (List.forall₂_map_right_iff.2 (List.forall₂_same.2 fun v hv => ?_))
      (.cons hprunes (Prunes.forall₂_refl after))
    exact prunes_changeAt hg (hbefore v hv)

/-- A write to one item stops below it. -/
theorem writeFrom_index_stops {items : List Value} {i : Nat} (hwild : segment ≠ wildcard)
    (hsegment : segment ≠ []) (hi : indexOf? segment = .ok (some i)) (hv : items[i]? = some v)
    (hstops : StopsWithin (trail ++ [segment]) v
      (writeFrom (always g) path rest (trail ++ [segment]) v)) :
    StopsInItems trail items fun others =>
      writeFrom (always g) path (segment :: rest) trail (.list (items ++ others)) := by
  obtain ⟨o, more, d, hwrite, htrail, hnil, hleads, hprunes⟩ := hstops
  obtain ⟨hlt, -⟩ := List.getElem?_eq_some_iff.1 hv
  refine ⟨o, items.set i d, segment, more, i, d, fun others => ?_, ?_, ?_, hwild, hi, ?_, hleads,
    Prunes.forall₂_set_right hv hprunes⟩
  · beta_reduce
    rw [writeFrom, if_neg hwild]
    simp only [hi, List.getElem?_append_left hlt, hv, Written.map, hwrite,
      List.set_append_left i d hlt]
  · rw [htrail, List.append_assoc, List.singleton_append]
  · simpa using ⟨hsegment, hnil⟩
  · rw [List.getElem?_set_self hlt]

/-- A write that stops below an item stops in the first part of a list, if it does so in that part
alone. -/
theorem writeFrom_list_stops_of (hg : ∀ v, (g v).isContainer = false)
    (hrest : ∀ v trail, Admits rest v → Indexable v → ¬ Leads rest v →
      StopsWithin trail v (writeFrom (always g) path rest trail v))
    {items : List Value} (hadmits : Admits (segment :: rest) (.list items))
    (hindexable : Indexable (.list items)) (hsegment : segment ≠ [])
    (hinside : segment ≠ wildcard → ∃ i v, indexOf? segment = .ok (some i) ∧ items[i]? = some v)
    (hstuck : ¬ Leads (segment :: rest) (.list items)) (trail : List Text) :
    StopsInItems trail items fun others =>
      writeFrom (always g) path (segment :: rest) trail (.list (items ++ others)) := by
  cases hindexable with
  | leaf h => cases h
  | list hlength hitems =>
    by_cases hwild : segment = wildcard
    · subst hwild
      rw [admits_wildcard] at hadmits
      rw [leads_wildcard] at hstuck
      exact writeFrom_wildcard_stops hg hrest hadmits hlength hitems hstuck trail
    · obtain ⟨i, v, hi, hv⟩ := hinside hwild
      obtain ⟨j, hj, hadmits⟩ := (admits_index hwild).1 hadmits
      rw [hi] at hj
      obtain rfl := Option.some.inj (Except.ok.inj hj)
      have hu : ¬ Leads rest v := fun h => hstuck ((leads_index hwild).2 ⟨i, v, hi, hv, h⟩)
      exact writeFrom_index_stops hwild hsegment hi hv
        (hrest v _ (hadmits v hv) (hitems v (List.mem_of_getElem? hv)) hu)

/-- **A write through a path that is admitted but does not lead on everywhere stops**, at a place
that can be written to. -/
theorem writeFrom_stops (path : List Text) (hg : ∀ v, (g v).isContainer = false) (hadmits : Admits segments v)
    (hindexable : Indexable v) (hnil : [] ∉ segments) (hstuck : ¬ Leads segments v)
    (trail : List Text) : StopsWithin trail v (writeFrom (always g) path segments trail v) := by
  induction segments generalizing v trail with
  | nil => exact absurd trivial hstuck
  | cons segment rest ih =>
    obtain ⟨hsegment, hrestNil⟩ : segment ≠ [] ∧ [] ∉ rest := by
      simpa [eq_comm] using hnil
    have hobstruct : ∀ hindrance, StopsWithin trail v (obstruct path trail segment hindrance v) :=
      fun hindrance => ⟨_, [], v, rfl, by simp, by simp, trivial, .refl v⟩
    cases v with
    | object members =>
      obtain ⟨v, hv, hadmits⟩ := hadmits
      cases hindexable with
      | leaf h => cases h
      | object hmembers =>
        have hu : ¬ Leads rest v := fun h => hstuck ⟨v, hv, h⟩
        obtain ⟨o, more, d, hwrite, htrail, hmore, hleads, hprunes⟩ :=
          ih hadmits (hmembers _ (Members.mem_of_get? hv)) hrestNil hu (trail ++ [segment])
        refine ⟨o, segment :: more, .object (Members.put members segment d), ?_, ?_, ?_,
          ⟨d, Members.get?_put_self _ _ _, hleads⟩, .put hv hprunes⟩
        · rw [writeFrom_member hv, hwrite]
          rfl
        · rw [htrail, List.append_assoc, List.singleton_append]
        · simpa using ⟨hsegment, hmore⟩
    | list items =>
      by_cases hinside :
          segment ≠ wildcard → ∃ i v, indexOf? segment = .ok (some i) ∧ items[i]? = some v
      · obtain ⟨o, items', head, more, i, v, hw, htrail, hmore, hwild, hi, hv, hleads, hprunes⟩ :=
          writeFrom_list_stops_of hg (fun v trail ha hi hs => ih ha hi hrestNil hs trail) hadmits
            hindexable hsegment hinside hstuck trail
        replace hw := hw []
        simp only [List.append_nil] at hw
        rw [hw]
        exact ⟨o, head :: more, .list items', rfl, htrail, hmore,
          (leads_index hwild).2 ⟨i, v, hi, hv, hleads⟩, .list hprunes⟩
      · rw [Classical.not_imp] at hinside
        obtain ⟨hwild, hinside⟩ := hinside
        obtain ⟨i, hi, -⟩ := (admits_index hwild).1 hadmits
        have hpast : items[i]? = none := by
          rw [Option.eq_none_iff_forall_ne_some]
          exact fun v hv => hinside ⟨i, v, hi, hv⟩
        rw [writeFrom, if_neg hwild]
        simp only [hi, hpast]
        exact hobstruct _
    | _ => exact hobstruct _

theorem writeFrom_list_stops (path : List Text) (hg : ∀ v, (g v).isContainer = false)
    {items : List Value}
    (hadmits : Admits (segment :: rest) (.list items)) (hindexable : Indexable (.list items))
    (hnil : [] ∉ segment :: rest)
    (hinside : segment ≠ wildcard → ∃ i v, indexOf? segment = .ok (some i) ∧ items[i]? = some v)
    (hstuck : ¬ Leads (segment :: rest) (.list items)) (trail : List Text) :
    StopsInItems trail items fun others =>
      writeFrom (always g) path (segment :: rest) trail (.list (items ++ others)) := by
  obtain ⟨hsegment, hrestNil⟩ : segment ≠ [] ∧ [] ∉ rest := by
    simpa [eq_comm] using hnil
  exact writeFrom_list_stops_of hg
    (fun v trail ha hi hs => writeFrom_stops path hg ha hi hrestNil hs trail) hadmits
    hindexable hsegment hinside hstuck trail

end MockApi.Path
