import MockApi.Proofs.Leaves

/-!
# Parts of a document and what happens to them

* `Value.child?`, `Value.part?` : the part of a value that a step, and a way of steps, leads to;
* `Value.Precedes` : the order of the document, where two ways part at two items of a list;
* `Value.Rewritten f places before after` : a function was applied at some places and nothing else was
  changed;
* `Rewritten.of_parts` : this holds of a container if it holds of its parts; `Rewritten.member`,
  `Rewritten.added` and `Rewritten.items` are the cases of an object and of a list.
-/

namespace MockApi

namespace Members

variable {α : Type} {members : Members α} {name : Text} {value : α}

theorem put_of_get? (h : get? members name = some value) : put members name value = members := by
  induction members with
  | nil => cases h
  | cons member rest ih =>
    obtain ⟨key, old⟩ := member
    rw [get?_cons] at h
    rw [put]
    split at h
    · next hkey =>
      cases h
      rw [if_pos hkey]
    · next hkey => rw [if_neg hkey, ih h]

theorem keys_put_of_get? (h : get? members name = some value) (new : α) :
    keys (put members name new) = keys members := by
  have hmem : name ∈ keys members := by
    by_contra hmem
    rw [(get?_eq_none_iff members name).2 hmem] at h
    cases h
  rw [keys_put, if_pos hmem]

theorem keys_put_of_get?_none (h : get? members name = none) (new : α) :
    keys (put members name new) = keys members ++ [name] := by
  rw [keys_put, if_neg ((get?_eq_none_iff members name).1 h)]

end Members

namespace Value

/-! ## Parts and ways -/

/-- The part of a container that a step leads to. -/
def child? : Value → Step → Option Value
  | .object members, .key name => Members.get? members name
  | .list items, .item i => items[i]?
  | _, _ => none

/-- The part of a value at the end of a way. -/
def part? : Value → List Step → Option Value
  | v, [] => some v
  | v, step :: way => (v.child? step).bind fun u => u.part? way

/-- In the order of a document one way comes before another if the two part at two items of a list and
it goes on to the earlier one. -/
inductive Precedes : List Step → List Step → Prop
  | here {i j : Nat} {way way' : List Step} : i < j → Precedes (.item i :: way) (.item j :: way')
  | deeper {step : Step} {way way' : List Step} :
    Precedes way way' → Precedes (step :: way) (step :: way')

@[simp] theorem child?_key (members : Members Value) (name : Text) :
    (Value.object members).child? (.key name) = Members.get? members name := rfl

@[simp] theorem child?_item (items : List Value) (i : Nat) :
    (Value.list items).child? (.item i) = items[i]? := rfl

@[simp] theorem part?_nil (v : Value) : v.part? [] = some v := rfl

theorem part?_cons {v u : Value} {step : Step} (h : v.child? step = some u) (way : List Step) :
    v.part? (step :: way) = u.part? way := by
  rw [part?, h, Option.bind_some]

theorem part?_cons_of_none {v : Value} {step : Step} (h : v.child? step = none) (way : List Step) :
    v.part? (step :: way) = none := by
  rw [part?, h, Option.bind_none]

theorem part?_cons_eq_some_iff {v w : Value} {step : Step} {way : List Step} :
    v.part? (step :: way) = some w ↔ ∃ u, v.child? step = some u ∧ u.part? way = some w := by
  rw [part?, Option.bind_eq_some_iff]

theorem part?_append (v : Value) (way more : List Step) :
    v.part? (way ++ more) = (v.part? way).bind fun u => u.part? more := by
  induction way generalizing v with
  | nil => rfl
  | cons step way ih =>
    rw [List.cons_append, part?, part?, Option.bind_assoc]
    congr 1
    funext u
    exact ih u

theorem precedes_item_iff {i j : Nat} {way way' : List Step} :
    Precedes (.item i :: way) (.item j :: way') ↔ i < j ∨ i = j ∧ Precedes way way' := by
  constructor
  · intro h
    cases h with
    | here hlt => exact .inl hlt
    | deeper h => exact .inr ⟨rfl, h⟩
  · rintro (hlt | ⟨rfl, h⟩)
    · exact .here hlt
    · exact .deeper h

theorem not_precedes_nil {way : List Step} : ¬ Precedes way [] := nofun

/-! ## Values with some places changed -/

/-- The way leads neither to one of the places nor into one. -/
def Outside (places : List Step → Prop) (way : List Step) : Prop :=
  ∀ place, places place → ¬ place <+: way

/-- `after` is `before` with `f` applied at the places, and nothing else is changed. -/
structure Rewritten (f : Value → Value) (places : List Step → Prop) (before after : Value) : Prop where
  /-- A place has what `f` makes of what was there, or of null if an object had no such member. -/
  place : ∀ way, places way → after.part? way = some (f ((before.part? way).getD .null))
  /-- Lists that are not inside of a place keep their length. -/
  list : ∀ way items, Outside places way → before.part? way = some (.list items) →
    ∃ items', after.part? way = some (.list items') ∧ items'.length = items.length
  /-- Objects that are not inside of a place keep their names in order. Only a member that is a place
  and was missing is added, at the end. -/
  object : ∀ way members, Outside places way → before.part? way = some (.object members) →
    ∃ members', after.part? way = some (.object members') ∧
      (Members.keys members' = Members.keys members ∨
        ∃ name, places (way ++ [.key name]) ∧ Members.get? members name = none ∧
          Members.keys members' = Members.keys members ++ [name])
  /-- What is no place, not inside of one and not on the way to one is what it was. -/
  elsewhere : ∀ way, Outside places way → (∀ place, places place → ¬ way <+: place) →
    after.part? way = before.part? way

theorem Outside.below {places : List Step → Prop} {step : Step} {way : List Step}
    (h : Outside places (step :: way)) : Outside (fun way => places (step :: way)) way :=
  fun place hplace hprefix => h (step :: place) hplace (List.cons_prefix_cons.2 ⟨rfl, hprefix⟩)

namespace Rewritten

variable {f : Value → Value} {places places' : List Step → Prop} {before after v : Value}

theorem congr (h : Rewritten f places before after) (hplaces : ∀ way, places way ↔ places' way) :
    Rewritten f places' before after := by
  obtain rfl : places = places' := funext fun way => propext (hplaces way)
  exact h

/-- A value is changed itself. -/
theorem root (hplaces : ∀ way, places way ↔ way = []) : Rewritten f places v (f v) where
  place way hway := by
    obtain rfl := (hplaces way).1 hway
    rfl
  list way _ houtside _ := absurd List.nil_prefix (houtside [] ((hplaces []).2 rfl))
  object way _ houtside _ := absurd List.nil_prefix (houtside [] ((hplaces []).2 rfl))
  elsewhere way houtside _ := absurd List.nil_prefix (houtside [] ((hplaces []).2 rfl))

theorem refl (hplaces : ∀ way, ¬ places way) : Rewritten f places v v where
  place way hway := absurd hway (hplaces way)
  list _ items _ hv := ⟨items, hv, rfl⟩
  object _ members _ hv := ⟨members, hv, .inl rfl⟩
  elsewhere _ _ _ := rfl

theorem eq_of_no_place (h : Rewritten f places before after) (hplaces : ∀ way, ¬ places way) :
    after = before :=
  Option.some.inj (h.elsewhere [] (fun place hplace => absurd hplace (hplaces place))
    fun place hplace => absurd hplace (hplaces place))

/-- **A container is changed in its parts.** A part that is missing may be added, as a place. -/
theorem of_parts (hroot : ¬ places [])
    (hpart : ∀ step u, before.child? step = some u → ∃ u', after.child? step = some u' ∧
      Rewritten f (fun way => places (step :: way)) u u')
    (hmissing : ∀ step, before.child? step = none →
      (∀ way, places (step :: way) → way = [] ∧ after.child? step = some (f .null)) ∧
        (¬ places [step] → after.child? step = none))
    (hlist : ∀ items, before = .list items →
      ∃ items', after = .list items' ∧ items'.length = items.length)
    (hobject : ∀ members, before = .object members → ∃ members', after = .object members' ∧
      (Members.keys members' = Members.keys members ∨
        ∃ name, places [.key name] ∧ Members.get? members name = none ∧
          Members.keys members' = Members.keys members ++ [name]))
    (hsame : (∀ way, ¬ places way) → after = before) : Rewritten f places before after where
  place way hway := by
    cases way with
    | nil => exact absurd hway hroot
    | cons step way =>
      cases hchild : before.child? step with
      | none =>
        obtain ⟨rfl, hafter⟩ := (hmissing step hchild).1 way hway
        rw [part?_cons hafter, part?_cons_of_none hchild]
        rfl
      | some u =>
        obtain ⟨u', hafter, hu⟩ := hpart step u hchild
        rw [part?_cons hafter, part?_cons hchild]
        exact hu.place way hway
  list way items houtside hv := by
    cases way with
    | nil =>
      obtain ⟨items', rfl, hlength⟩ := hlist items (Option.some.inj hv)
      exact ⟨items', rfl, hlength⟩
    | cons step way =>
      obtain ⟨u, hchild, hu⟩ := part?_cons_eq_some_iff.1 hv
      obtain ⟨u', hafter, hrewritten⟩ := hpart step u hchild
      rw [part?_cons hafter]
      exact hrewritten.list way items houtside.below hu
  object way members houtside hv := by
    cases way with
    | nil =>
      obtain ⟨members', rfl, hkeys⟩ := hobject members (Option.some.inj hv)
      exact ⟨members', rfl, hkeys⟩
    | cons step way =>
      obtain ⟨u, hchild, hu⟩ := part?_cons_eq_some_iff.1 hv
      obtain ⟨u', hafter, hrewritten⟩ := hpart step u hchild
      rw [part?_cons hafter]
      exact hrewritten.object way members houtside.below hu
  elsewhere way houtside haside := by
    cases way with
    -- The value itself lies on the way to every place, so there is none.
    | nil => rw [part?_nil, part?_nil, hsame fun place hplace => haside place hplace List.nil_prefix]
    | cons step way =>
      cases hchild : before.child? step with
      | none =>
        have hafter := (hmissing step hchild).2 fun hplace =>
          houtside [step] hplace (List.cons_prefix_cons.2 ⟨rfl, List.nil_prefix⟩)
        rw [part?_cons_of_none hafter, part?_cons_of_none hchild]
      | some u =>
        obtain ⟨u', hafter, hu⟩ := hpart step u hchild
        rw [part?_cons hafter, part?_cons hchild]
        exact hu.elsewhere way houtside.below fun place hplace hprefix =>
          haside (step :: place) hplace (List.cons_prefix_cons.2 ⟨rfl, hprefix⟩)

section Object
variable {members : Members Value} {name : Text} {old new : Value}

/-- A member of an object is changed. -/
theorem member (hold : Members.get? members name = some old)
    (hplaces : ∀ way, places way → ∃ more, way = .key name :: more)
    (h : Rewritten f (fun way => places (.key name :: way)) old new) :
    Rewritten f places (.object members) (.object (Members.put members name new)) := by
  have hstep : ∀ step way, places (step :: way) → step = .key name := by
    intro step way hway
    obtain ⟨more, heq⟩ := hplaces _ hway
    cases heq
    rfl
  refine of_parts (fun hroot => nomatch hplaces [] hroot) (fun step u hu => ?_)
    (fun step hnone => ?_) nofun (fun _ heq => ⟨_, rfl, .inl ?_⟩) fun hno => ?_
  · cases step with
    | item i => cases hu
    | key other =>
      rw [child?_key] at hu
      simp only [child?_key, Members.get?_put]
      by_cases hother : name = other
      · subst hother
        rw [hold] at hu
        cases hu
        exact ⟨new, if_pos rfl, h⟩
      · refine ⟨u, by rw [if_neg hother, hu], refl fun way hway => hother ?_⟩
        exact (Step.key.inj (hstep _ way hway)).symm
  · cases step with
    | item i => exact ⟨fun way hway => (nomatch hstep _ way hway), fun _ => rfl⟩
    | key other =>
      rw [child?_key] at hnone
      have hother : name ≠ other := by
        rintro rfl
        rw [hold] at hnone
        cases hnone
      refine ⟨fun way hway => absurd (Step.key.inj (hstep _ way hway)).symm hother, fun _ => ?_⟩
      rw [child?_key, Members.get?_put, if_neg hother, hnone]
  · cases heq
    exact Members.keys_put_of_get? hold new
  · rw [h.eq_of_no_place fun way => hno _, Members.put_of_get? hold]

/-- A member that an object lacks is added. -/
theorem added (hlacks : Members.get? members name = none)
    (hplaces : ∀ way, places way ↔ way = [.key name]) :
    Rewritten f places (.object members) (.object (Members.put members name (f .null))) := by
  have hplace : places [.key name] := (hplaces _).2 rfl
  refine of_parts (fun hroot => nomatch (hplaces []).1 hroot) (fun step u hu => ?_)
    (fun step hnone => ?_) nofun (fun _ heq => ⟨_, rfl, .inr ?_⟩) fun hno => absurd hplace (hno _)
  · cases step with
    | item i => cases hu
    | key other =>
      rw [child?_key] at hu
      have hother : name ≠ other := by
        rintro rfl
        rw [hlacks] at hu
        cases hu
      refine ⟨u, ?_, refl fun way hway => ?_⟩
      · rw [child?_key, Members.get?_put, if_neg hother, hu]
      · cases (hplaces _).1 hway
        exact hother rfl
  · refine ⟨fun way hway => ?_, fun hstep => ?_⟩
    · cases (hplaces _).1 hway
      exact ⟨rfl, Members.get?_put_self _ _ _⟩
    · cases step with
      | item i => rfl
      | key other =>
        have hother : name ≠ other := by
          rintro rfl
          exact hstep hplace
        rw [child?_key, Members.get?_put, if_neg hother]
        exact hnone
  · cases heq
    exact ⟨name, hplace, hlacks, Members.keys_put_of_get?_none hlacks _⟩

end Object

/-- Items of a list are changed. -/
theorem items {items items' : List Value} (hlength : items'.length = items.length)
    (hplaces : ∀ way, places way → ∃ i more, way = .item i :: more ∧ i < items.length)
    (hitems : ∀ i u, items[i]? = some u →
      ∃ u', items'[i]? = some u' ∧ Rewritten f (fun way => places (.item i :: way)) u u') :
    Rewritten f places (.list items) (.list items') := by
  refine of_parts (fun hroot => ?_) (fun step u hu => ?_) (fun step hnone => ?_)
    (fun _ heq => ⟨_, rfl, ?_⟩) nofun fun hno => ?_
  · obtain ⟨i, more, heq, -⟩ := hplaces [] hroot
    cases heq
  · cases step with
    | key name => cases hu
    | item i => exact hitems i u hu
  · cases step with
    | key name =>
      refine ⟨fun way hway => ?_, fun _ => rfl⟩
      obtain ⟨i, more, heq, -⟩ := hplaces _ hway
      cases heq
    | item i =>
      have hlong : items.length ≤ i := List.getElem?_eq_none_iff.1 hnone
      refine ⟨fun way hway => ?_, fun _ => List.getElem?_eq_none_iff.2 (hlength ▸ hlong)⟩
      obtain ⟨j, more, heq, hlt⟩ := hplaces _ hway
      cases heq
      omega
  · cases heq
    exact hlength
  · congr 1
    refine List.ext_getElem? fun i => ?_
    cases hi : items[i]? with
    | none => rw [List.getElem?_eq_none_iff, hlength, ← List.getElem?_eq_none_iff, hi]
    | some u =>
      obtain ⟨u', hu', h⟩ := hitems i u hi
      rw [hu', h.eq_of_no_place fun way => hno _]

/-- One item of a list is changed. -/
theorem item {items : List Value} {i : Nat} {old new : Value} (hold : items[i]? = some old)
    (hplaces : ∀ way, places way → ∃ more, way = .item i :: more)
    (h : Rewritten f (fun way => places (.item i :: way)) old new) :
    Rewritten f places (.list items) (.list (items.set i new)) := by
  obtain ⟨hlt, -⟩ := List.getElem?_eq_some_iff.1 hold
  refine .items List.length_set (fun way hway => ?_) fun j u hu => ?_
  · obtain ⟨more, rfl⟩ := hplaces way hway
    exact ⟨i, more, rfl, hlt⟩
  · by_cases hij : i = j
    · subst hij
      rw [hold] at hu
      cases hu
      exact ⟨new, List.getElem?_set_self hlt, h⟩
    · refine ⟨u, (List.getElem?_set_ne hij).trans hu, refl fun way hway => hij ?_⟩
      obtain ⟨more, heq⟩ := hplaces _ hway
      cases heq
      rfl

end Rewritten

end Value

end MockApi
