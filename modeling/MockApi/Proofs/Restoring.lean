import MockApi.Proofs.Lookup
import MockApi.Proofs.Numerals
import MockApi.Proofs.Shaping
import MockApi.Proofs.Stopping

/-!
# Casts that undo generation

* `Value.Restorable t` : a template whose leaves a cast can give back, under names that a path can hold;
* `Value.leafCasts t` : the segments to each leaf but null, with the kind of the leaf;
* `Value.Draft t v` : `v` is `t` with some of its leaves written out as text;
* `Draft.write` : the cast of one leaf gives it back and leaves the other ones as they are;
* `Draft.castAll` : the casts of some leaves, one after the other, give all of these back;
* `castAll_content` : the casts of all leaves, in any order, make the template of its content.
-/

namespace MockApi

open MockApi.Path (indexText)
open Template (content)

namespace Value

/-- The kind whose cast gives a leaf its type back. Null stays null without one. -/
def castKind? : Value → Option CastKind
  | .bool _ => some .boolean
  | .int _ => some .number
  | .text _ => some .text
  | _ => none

/-- Nested lists and objects of integers, truth values, texts and nulls. An integer has no more digits
than are converted, a list no more items than can be indexed, and an object has each name once, which is
not empty and has no point in it. -/
inductive Restorable : Value → Prop
  | null : Restorable .null
  | bool (b : Bool) : Restorable (.bool b)
  | int {n : Int} : n.natAbs < 10 ^ maxIntegerDigits → Restorable (.int n)
  | text (s : Text) : Restorable (.text s)
  | list {items : List Value} : items.length ≤ 10 ^ maxIntegerDigits → (∀ v ∈ items, Restorable v) →
    Restorable (.list items)
  | object {members : Members Value} : (Members.keys members).Nodup →
    (∀ name ∈ Members.keys members, name ≠ [] ∧ CodePoint.ofChar '.' ∉ name) →
    (∀ m ∈ members, Restorable m.2) → Restorable (.object members)

/-- A segment in front of the way to each cast. -/
def castsBelow (segment : Text) (casts : List (List Text × CastKind)) : List (List Text × CastKind) :=
  casts.map fun (segments, kind) => (segment :: segments, kind)

mutual

/-- The segments to each leaf but null, with the kind of the leaf, in the order of the document. -/
def leafCasts : Value → List (List Text × CastKind)
  | .list items => itemCasts 0 items
  | .object members => memberCasts members
  | leaf => leaf.castKind?.toList.map fun kind => ([], kind)

def itemCasts : Nat → List Value → List (List Text × CastKind)
  | _, [] => []
  | i, v :: rest => castsBelow (indexText i) (leafCasts v) ++ itemCasts (i + 1) rest

def memberCasts : List (Text × Value) → List (List Text × CastKind)
  | [] => []
  | (name, v) :: rest => castsBelow name (leafCasts v) ++ memberCasts rest

end

def Step.segment : Step → Text
  | .key name => name
  | .item i => indexText i

/-- The value is the template, with some of its leaves written out as text. -/
inductive Draft : Value → Value → Prop
  | same {t : Value} : t.isContainer = false → Draft t t
  | written {t : Value} {kind : CastKind} : t.castKind? = some kind → Draft t (.text t.written)
  | list {ts vs : List Value} : List.Forall₂ Draft ts vs → Draft (.list ts) (.list vs)
  | object {ms ns : Members Value} : Members.Rel Draft ms ns → Draft (.object ms) (.object ns)

/-- The value has every leaf of the template that can be cast in its place. -/
def HasLeaves (t v : Value) : Prop :=
  ∀ way x kind, t.part? way = some x → x.castKind? = some kind → v.part? way = some x

variable {t u v x : Value} {way : List Step} {segments : List Text} {kind : CastKind}

/-! ## The leaves of a template -/

theorem mem_castsBelow {segment : Text} {casts : List (List Text × CastKind)} {c : List Text × CastKind} :
    c ∈ castsBelow segment casts ↔ ∃ segments, (segments, c.2) ∈ casts ∧ c.1 = segment :: segments := by
  rw [castsBelow, List.mem_map]
  constructor
  · rintro ⟨⟨segments, kind⟩, hmem, rfl⟩
    exact ⟨segments, hmem, rfl⟩
  · rintro ⟨segments, hmem, hsegments⟩
    exact ⟨_, hmem, Prod.ext hsegments.symm rfl⟩

theorem mem_itemCasts {items : List Value} {k : Nat} {c : List Text × CastKind} :
    c ∈ itemCasts k items ↔ ∃ i v segments, items[i]? = some v ∧ (segments, c.2) ∈ leafCasts v ∧
      c.1 = indexText (k + i) :: segments := by
  induction items generalizing k with
  | nil => simp [itemCasts]
  | cons v items ih =>
    rw [itemCasts, List.mem_append, mem_castsBelow, ih]
    constructor
    · rintro (⟨segments, hmem, hsegments⟩ | ⟨i, w, segments, hw, hmem, hsegments⟩)
      · exact ⟨0, v, segments, rfl, hmem, hsegments⟩
      · exact ⟨i + 1, w, segments, hw, hmem, by rw [hsegments, show k + 1 + i = k + (i + 1) by omega]⟩
    · rintro ⟨i, w, segments, hw, hmem, hsegments⟩
      cases i with
      | zero =>
        cases hw
        exact .inl ⟨segments, hmem, hsegments⟩
      | succ i =>
        rw [show k + (i + 1) = k + 1 + i by omega] at hsegments
        exact .inr ⟨i, w, segments, hw, hmem, hsegments⟩

theorem mem_memberCasts {members : Members Value} {c : List Text × CastKind} :
    c ∈ memberCasts members ↔ ∃ m ∈ members, ∃ segments, (segments, c.2) ∈ leafCasts m.2 ∧
      c.1 = m.1 :: segments := by
  induction members with
  | nil => simp [memberCasts]
  | cons m members ih => simp [memberCasts, mem_castsBelow, ih]

theorem isContainer_of_castKind? (h : t.castKind? = some kind) : t.isContainer = false := by
  cases t with
  | list _ => cases h
  | object _ => cases h
  | _ => rfl

theorem child?_of_leaf (h : t.isContainer = false) (step : Step) : t.child? step = none := by
  cases t with
  | list _ => cases h
  | object _ => cases h
  | _ => rfl

theorem part?_of_leaf (h : t.isContainer = false) : t.part? way = some x ↔ way = [] ∧ x = t := by
  cases way with
  | nil => simp [eq_comm]
  | cons step way => simp [part?_cons_of_none (child?_of_leaf h step)]

theorem mem_leafCasts_of_leaf (h : t.isContainer = false) :
    (segments, kind) ∈ t.leafCasts ↔ t.castKind? = some kind ∧ segments = [] := by
  cases t with
  | list _ => cases h
  | object _ => cases h
  | _ => simp [leafCasts, castKind?, eq_comm, and_comm]

theorem Restorable.items {items : List Value} (h : Restorable (.list items)) : ∀ v ∈ items, Restorable v := by
  cases h
  assumption

theorem Restorable.nodup {members : Members Value} (h : Restorable (.object members)) :
    (Members.keys members).Nodup := by
  cases h
  assumption

theorem Restorable.members {members : Members Value} (h : Restorable (.object members)) :
    ∀ m ∈ members, Restorable m.2 := by
  cases h
  assumption

/-- **The casts of a template are those of its leaves**, each with the segments of the way to it. -/
theorem mem_leafCasts_iff (h : Restorable t) : (segments, kind) ∈ t.leafCasts ↔
    ∃ way x, t.part? way = some x ∧ x.castKind? = some kind ∧ segments = way.map Step.segment := by
  induction t using Value.induction generalizing segments with
  | list items ih =>
    rw [leafCasts, mem_itemCasts]
    constructor
    · rintro ⟨i, v, segments, hv, hmem, rfl⟩
      have hitem := List.mem_of_getElem? hv
      obtain ⟨way, x, hpart, hkind, rfl⟩ := (ih v hitem (h.items v hitem)).1 hmem
      refine ⟨.item i :: way, x, part?_cons_eq_some_iff.2 ⟨v, hv, hpart⟩, hkind, ?_⟩
      rw [Nat.zero_add]
      rfl
    · rintro ⟨way, x, hpart, hkind, rfl⟩
      cases way with
      | nil =>
        cases hpart
        cases hkind
      | cons step way =>
        obtain ⟨v, hv, hrest⟩ := part?_cons_eq_some_iff.1 hpart
        cases step with
        | key name => cases hv
        | item i =>
          have hitem := List.mem_of_getElem? hv
          refine ⟨i, v, _, hv, (ih v hitem (h.items v hitem)).2 ⟨way, x, hrest, hkind, rfl⟩, ?_⟩
          rw [Nat.zero_add]
          rfl
  | object members ih =>
    rw [leafCasts, mem_memberCasts]
    constructor
    · rintro ⟨m, hm, segments, hmem, rfl⟩
      obtain ⟨way, x, hpart, hkind, rfl⟩ := (ih m hm (h.members m hm)).1 hmem
      have hchild : (Value.object members).child? (.key m.1) = some m.2 := Members.get?_of_mem h.nodup hm
      exact ⟨.key m.1 :: way, x, part?_cons_eq_some_iff.2 ⟨m.2, hchild, hpart⟩, hkind, rfl⟩
    · rintro ⟨way, x, hpart, hkind, rfl⟩
      cases way with
      | nil =>
        cases hpart
        cases hkind
      | cons step way =>
        obtain ⟨v, hv, hrest⟩ := part?_cons_eq_some_iff.1 hpart
        cases step with
        | item i => cases hv
        | key name =>
          have hmem := Members.mem_of_get? hv
          exact ⟨_, hmem, _, (ih _ hmem (h.members _ hmem)).2 ⟨way, x, hrest, hkind, rfl⟩, rfl⟩
  | _ =>
    rw [mem_leafCasts_of_leaf rfl]
    constructor
    · rintro ⟨hkind, rfl⟩
      exact ⟨[], _, rfl, hkind, rfl⟩
    · rintro ⟨way, x, hpart, hkind, rfl⟩
      obtain ⟨rfl, rfl⟩ := (part?_of_leaf rfl).1 hpart
      exact ⟨hkind, rfl⟩

/-! ## Drafts -/

/-- Content is a draft in which every leaf is written out. -/
theorem draft_content (h : Restorable t) : Draft t (content id t) := by
  induction t using Value.induction with
  | null => exact .same rfl
  | float x => cases h
  | list items ih =>
    rw [Template.content_list]
    exact .list (List.forall₂_map_right_iff.2 (List.forall₂_same.2 fun v hv => ih v hv (h.items v hv)))
  | object members ih =>
    rw [Template.content_object]
    exact .object (.mapValues_right fun m hm => ih m hm (h.members m hm))
  | _ => exact .written rfl

/-- A part of a draft is a draft of that part. -/
theorem Draft.child? {step : Step} (h : Draft t v) (hchild : t.child? step = some u) :
    ∃ w, v.child? step = some w ∧ Draft u w := by
  cases h with
  | same hleaf =>
    rw [child?_of_leaf hleaf] at hchild
    cases hchild
  | written hkind =>
    rw [child?_of_leaf (isContainer_of_castKind? hkind)] at hchild
    cases hchild
  | list hitems =>
    cases step with
    | key name => cases hchild
    | item i => exact forall₂_getElem? hitems hchild
  | object hmembers =>
    cases step with
    | item i => cases hchild
    | key name => exact hmembers.get? hchild

theorem Draft.part? (h : Draft t v) (hpart : t.part? way = some x) :
    ∃ y, v.part? way = some y ∧ Draft x y := by
  induction way generalizing t v with
  | nil =>
    cases hpart
    exact ⟨v, rfl, h⟩
  | cons step way ih =>
    obtain ⟨u, hchild, hrest⟩ := part?_cons_eq_some_iff.1 hpart
    obtain ⟨w, hw, hdraft⟩ := h.child? hchild
    obtain ⟨y, hy, hdraft⟩ := ih hdraft hrest
    exact ⟨y, part?_cons_eq_some_iff.2 ⟨w, hw, hy⟩, hdraft⟩

theorem HasLeaves.child {w : Value} (h : HasLeaves t v) (step : Step) (hu : t.child? step = some u)
    (hw : v.child? step = some w) : HasLeaves u w := fun way x kind hpart hkind => by
  have hleaf := h (step :: way) x kind (part?_cons_eq_some_iff.2 ⟨u, hu, hpart⟩) hkind
  rwa [part?_cons hw] at hleaf

/-- A draft that has every leaf of the template is the template. -/
theorem Draft.eq_of_hasLeaves (h : Draft t v) (hrestorable : Restorable t)
    (hleaves : HasLeaves t v) : v = t := by
  induction t using Value.induction generalizing v with
  | list items ih =>
    cases h with
    | same hleaf => cases hleaf
    | written hkind => cases hkind
    | @list _ vs hitems =>
      refine congrArg Value.list (List.ext_getElem? fun i => ?_)
      have hitem := Path.rel_getElem? hitems i
      generalize hu : items[i]? = u?, hw : vs[i]? = w? at hitem ⊢
      cases hitem with
      | none => rfl
      | @some u w hdraft =>
        have hmem := List.mem_of_getElem? hu
        rw [ih u hmem hdraft (hrestorable.items u hmem) (hleaves.child (.item i) hu hw)]
  | object members ih =>
    cases h with
    | same hleaf => cases hleaf
    | written hkind => cases hkind
    | object hmembers =>
      refine congrArg Value.object (hmembers.eq_of_get? hrestorable.nodup fun name u w hu hw hdraft => ?_)
      have hmem := Members.mem_of_get? hu
      exact ih _ hmem hdraft (hrestorable.members _ hmem) (hleaves.child (.key name) hu hw)
  | _ =>
    cases h with
    | same hleaf => rfl
    | written hkind => exact Option.some.inj (hleaves [] _ _ rfl hkind)

/-- **The cast of a leaf gives it back**, whether it was written out or not. -/
theorem Draft.apply_eq (h : Draft x v) (hrestorable : Restorable x) (hkind : x.castKind? = some kind) :
    kind.apply v = x := by
  cases hrestorable with
  | null => cases hkind
  | bool b =>
    cases hkind
    cases h with
    | same _ => cases b <;> rfl
    | written _ => cases b <;> rfl
  | int hn =>
    cases hkind
    cases h with
    | same _ => rfl
    | written _ =>
      have hnumeral := integerNumeral_toString hn
      rw [← hnumeral.strip_eq] at hnumeral
      simp only [CastKind.apply, isNull, Bool.false_eq_true, if_false, castNumber, Value.written,
        plainNumber?_of_integerNumeral hnumeral, Option.getD_some]
  | text s =>
    cases hkind
    cases h with
    | same _ => simp [CastKind.apply, isNull, Value.written]
    | written _ => simp [CastKind.apply, isNull, Value.written]
  | list _ _ => cases hkind
  | object _ _ _ => cases hkind

theorem Restorable.indexable (h : Restorable t) : Indexable t := by
  induction t using Value.induction with
  | list items ih =>
    cases h with
    | list hlength hitems => exact .list hlength fun v hv => ih v hv (hitems v hv)
  | object members ih => exact .object fun m hm => ih m hm (h.members m hm)
  | _ => exact .leaf rfl

theorem Restorable.of_part? (h : Restorable t) (hpart : t.part? way = some x) : Restorable x := by
  induction way generalizing t with
  | nil =>
    cases hpart
    exact h
  | cons step way ih =>
    obtain ⟨u, hu, hrest⟩ := part?_cons_eq_some_iff.1 hpart
    refine ih ?_ hrest
    cases t with
    | list items =>
      cases step with
      | key name => cases hu
      | item i => exact h.items u (List.mem_of_getElem? hu)
    | object members =>
      cases step with
      | item i => cases hu
      | key name => exact h.members _ (Members.mem_of_get? hu)
    | _ => cases hu

/-- The segments of a way lead along it, and along no other. -/
theorem pins_segments (hpart : v.part? way = some u)
    (hindex : ∀ i, Step.item i ∈ way → i < 10 ^ maxIntegerDigits) :
    Path.Pins (way.map Step.segment) v way := by
  induction way generalizing v with
  | nil => exact .here v
  | cons step way ih =>
    obtain ⟨w, hchild, hrest⟩ := part?_cons_eq_some_iff.1 hpart
    refine .into ?_ (ih hrest fun i hi => hindex i (List.mem_cons_of_mem _ hi))
    have hstep : ∀ i, step = .item i → i < 10 ^ maxIntegerDigits := fun i hi =>
      hindex i (hi ▸ List.mem_cons_self)
    cases step with
    | key name =>
      have hpasses : Path.Passes name (.key name) := rfl
      exact Path.through_spelled hpasses hchild hstep
    | item i =>
      have hpasses : Path.Passes Path.wildcard (.item i) := .inl rfl
      exact Path.through_spelled hpasses hchild hstep

/-- A draft stays one when a leaf is changed to another draft of it. -/
theorem Draft.changeAt {g : Value → Value} (h : Draft t v) (hpart : t.part? way = some x)
    (hindex : ∀ i, Step.item i ∈ way → i < 10 ^ maxIntegerDigits) (hg : ∀ y, Draft x y → Draft x (g y)) :
    Draft t (Path.changeAt g (way.map Step.segment) v) := by
  induction way generalizing t v with
  | nil =>
    cases hpart
    exact hg v h
  | cons step way ih =>
    obtain ⟨u, hu, hrest⟩ := part?_cons_eq_some_iff.1 hpart
    obtain ⟨w, hw, hdraft⟩ := h.child? hu
    have hbelow := ih hdraft hrest fun i hi => hindex i (List.mem_cons_of_mem _ hi)
    cases step with
    | key name =>
      cases h with
      | same hleaf =>
        rw [child?_of_leaf hleaf] at hu
        cases hu
      | written hkind => cases hw
      | list hitems => cases hu
      | @object ms ns hmembers =>
        rw [List.map_cons, Step.segment, Path.changeAt_member hw]
        have hput := hmembers.put hbelow name
        rw [Members.put_of_get? hu] at hput
        exact .object hput
    | item i =>
      cases h with
      | same hleaf =>
        rw [child?_of_leaf hleaf] at hu
        cases hu
      | written hkind => cases hw
      | object hmembers => cases hu
      | @list ts vs hitems =>
        rw [List.map_cons, Step.segment, Path.changeAt_index (Path.indexText_ne_wildcard i)
          (Path.indexOf?_indexText (hindex i List.mem_cons_self)) hw]
        have hset := forall₂_set hitems hbelow i
        obtain ⟨_, heq⟩ := List.getElem?_eq_some_iff.1 hu
        rw [← heq, List.set_getElem_self] at hset
        exact .list hset

/-- No way to a leaf goes on to another part. -/
theorem way_eq_of_extends {way' : List Step} {x' : Value} (hpart : t.part? way = some x)
    (hleaf : x.isContainer = false) (hpart' : t.part? way' = some x') (h : way <+: way') :
    way' = way := by
  obtain ⟨more, rfl⟩ := h
  rw [part?_append, hpart, Option.bind_some, part?_of_leaf hleaf] at hpart'
  rw [hpart'.1, List.append_nil]

/-- **The cast of one leaf** is not stopped, gives the leaf back and keeps the leaves that are there. -/
theorem Draft.write {path : Path} (h : Draft t v) (hrestorable : Restorable t) (hpart : t.part? way = some x)
    (hkind : x.castKind? = some kind) (hsegments : path.segments = way.map Step.segment) :
    ∃ v', path.write (always kind.apply) v = ⟨v', none⟩ ∧ Draft t v' ∧ v'.part? way = some x ∧
      ∀ way' x' kind', t.part? way' = some x' → x'.castKind? = some kind' → v.part? way' = some x' →
        v'.part? way' = some x' := by
  have hindex : ∀ i, Step.item i ∈ way → i < 10 ^ maxIntegerDigits := fun i =>
    hrestorable.indexable.index_lt hpart
  have happly : ∀ y, Draft x y → kind.apply y = x := fun y hy =>
    hy.apply_eq (hrestorable.of_part? hpart) hkind
  obtain ⟨y, hy, hdraft⟩ := h.part? hpart
  have hpins : Path.Pins path.segments v way := hsegments ▸ pins_segments hy hindex
  obtain ⟨v', hwrite, hrewritten⟩ := Path.write_of_pins hpins kind.apply
  have hv' : v' = Path.changeAt kind.apply path.segments v :=
    congrArg Path.Written.document (hwrite.symm.trans (Path.write_of_leads hpins.leads kind.apply))
  refine ⟨v', hwrite, ?_, ?_, fun way' x' kind' hpart' hkind' hthere => ?_⟩
  · rw [hv', hsegments]
    refine h.changeAt hpart hindex fun y hy => ?_
    rw [happly y hy]
    exact .same (isContainer_of_castKind? hkind)
  · rw [hrewritten.place way rfl, hy, Option.getD_some, happly y hdraft]
  · by_cases hsame : way' = way
    · subst hsame
      rw [hrewritten.place way' rfl, hy, Option.getD_some, happly y hdraft, ← hpart, hpart']
    · rw [hrewritten.elsewhere way' ?_ ?_, hthere]
      · rintro place rfl hprefix
        exact hsame (way_eq_of_extends hpart (isContainer_of_castKind? hkind) hpart' hprefix)
      · rintro place rfl hprefix
        exact hsame (way_eq_of_extends hpart' (isContainer_of_castKind? hkind') hpart hprefix).symm

/-- Two ways to parts of one value have different segments. -/
theorem way_eq_of_segments {way' : List Step} {x' : Value} (hrestorable : Restorable t)
    (hpart : t.part? way = some x) (hpart' : t.part? way' = some x')
    (heq : way.map Step.segment = way'.map Step.segment) : way = way' := by
  have hpins := pins_segments hpart fun i => hrestorable.indexable.index_lt hpart
  have hpins' := pins_segments hpart' fun i => hrestorable.indexable.index_lt hpart'
  rw [heq] at hpins
  exact hpins'.locates_iff.1 (hpins.locates_iff.2 rfl)

/-- **Casts of leaves**, one after the other, give back the leaves that they are of and are not stopped. -/
theorem Draft.castAll {ε : Type} {casts : List (Path × CastKind)} (h : Draft t v) (hrestorable : Restorable t)
    (hcasts : ∀ c ∈ casts, ∃ way x, t.part? way = some x ∧ x.castKind? = some c.2 ∧
      c.1.segments = way.map Step.segment) :
    Unstopped casts v ∧ ∃ v', MockApi.castAll (ε := ε) casts v = .ok v' ∧ Draft t v' ∧
      ∀ way x kind, t.part? way = some x → x.castKind? = some kind →
        v.part? way = some x ∨ (∃ c ∈ casts, c.1.segments = way.map Step.segment) →
          v'.part? way = some x := by
  -- The casts before keep the value a draft, which is all that the next one needs to find its leaf.
  induction casts generalizing v with
  | nil =>
    refine ⟨trivial, v, rfl, h, fun way x kind _ _ hthere => ?_⟩
    exact hthere.resolve_right fun ⟨c, hc, _⟩ => nomatch hc
  | cons c casts ih =>
    obtain ⟨path, kind⟩ := c
    obtain ⟨way, x, hpart, hkind, hsegments⟩ := hcasts _ List.mem_cons_self
    obtain ⟨v₁, hwrite, hdraft, hback, hkeeps⟩ := h.write hrestorable hpart hkind hsegments
    obtain ⟨hunstopped, v₂, hcastAll, hdraft₂, hleaves⟩ :=
      ih hdraft fun c hc => hcasts c (List.mem_cons_of_mem _ hc)
    have hcast : castAt (ε := ε) path kind v = .ok v₁ := by
      simp only [castAt, hwrite, Path.Written.result]
    refine ⟨⟨congrArg Path.Written.error? hwrite, hwrite ▸ hunstopped⟩, v₂, ?_, hdraft₂,
      fun way' x' kind' hpart' hkind' h => ?_⟩
    · rw [castAll_cons, hcast]
      exact hcastAll
    · refine hleaves way' x' kind' hpart' hkind' ?_
      rcases h with hthere | ⟨c, hc, hc'⟩
      · exact .inl (hkeeps way' x' kind' hpart' hkind' hthere)
      · rcases List.mem_cons.1 hc with rfl | hc
        · -- Digits can be a key or an index, but at one place of the template they are one of the two.
          obtain rfl := way_eq_of_segments hrestorable hpart hpart' (hsegments.symm.trans hc')
          rw [hpart] at hpart'
          cases hpart'
          exact .inl hback
        · exact .inr ⟨c, hc, hc'⟩

/-! ## The paths to the leaves -/

/-- The segments of a way can stand in the text of a path. -/
theorem usable_of_part? (h : Restorable t) (hpart : t.part? way = some x) :
    ∀ segment ∈ way.map Step.segment, segment ≠ [] ∧ CodePoint.ofChar '.' ∉ segment := by
  induction way generalizing t with
  | nil => exact nofun
  | cons step way ih =>
    obtain ⟨u, hu, hrest⟩ := part?_cons_eq_some_iff.1 hpart
    refine List.forall_mem_cons.2 ⟨?_, ih (h.of_part? (part?_cons_eq_some_iff.2 ⟨u, hu, part?_nil u⟩)) hrest⟩
    cases step with
    | key name =>
      cases h with
      | object _ hnames _ =>
        refine hnames name ?_
        by_contra hname
        rw [← Members.get?_eq_none_iff] at hname
        rw [child?_key, hname] at hu
        cases hu
      | _ => cases hu
    | item i =>
      refine ⟨Path.indexText_ne_nil i, fun hmem => ?_⟩
      exact absurd (Path.isAsciiDigit_of_mem_indexText hmem) (by decide)

theorem exists_path (hcontainer : t.isContainer = true) (h : Restorable t)
    (hmem : (segments, kind) ∈ t.leafCasts) :
    ∃ path : Path, Path.parse? (Path.dotted segments) = some path ∧ path.segments = segments := by
  obtain ⟨way, x, hpart, hkind, rfl⟩ := (mem_leafCasts_iff h).1 hmem
  have husable := usable_of_part? h hpart
  have hne : way.map Step.segment ≠ [] := by
    intro hnil
    rw [List.map_eq_nil_iff.1 hnil] at hpart
    cases hpart
    rw [isContainer_of_castKind? hkind] at hcontainer
    cases hcontainer
  let path : Path := ⟨way.map Step.segment, hne, fun hnil => (husable [] hnil).1 rfl⟩
  have hparse : Path.parse? path.text = some path :=
    Path.parse?_text fun segment hsegment => (husable segment hsegment).2
  exact ⟨path, hparse, rfl⟩

end Value

open Value (Restorable)

/-- **Casts undo generation.** For each leaf of a list or an object but null there is a path that the
dotted text of its segments is read as; and the casts of all these leaves, each to its own kind and in
any order, are not stopped and make the template of its content, with the types that its leaves had. -/
theorem castAll_content {ε : Type} {t : Value} (hcontainer : t.isContainer = true) (h : Restorable t) :
    (∀ c ∈ t.leafCasts, ∃ path : Path, Path.parse? (Path.dotted c.1) = some path ∧ path.segments = c.1) ∧
      ∀ casts : List (Path × CastKind), (casts.map fun c => (c.1.segments, c.2)).Perm t.leafCasts →
        Unstopped casts (content id t) ∧ castAll (ε := ε) casts (content id t) = .ok t := by
  refine ⟨fun c hc => Value.exists_path hcontainer h hc, fun casts hperm => ?_⟩
  have hcasts : ∀ c ∈ casts, ∃ way x, t.part? way = some x ∧ x.castKind? = some c.2 ∧
      c.1.segments = way.map Value.Step.segment := fun c hc =>
    (Value.mem_leafCasts_iff h).1 (hperm.mem_iff.1 (List.mem_map.2 ⟨c, hc, rfl⟩))
  obtain ⟨hunstopped, v, hcastAll, hdraft, hleaves⟩ := (Value.draft_content h).castAll (ε := ε) h hcasts
  refine ⟨hunstopped, ?_⟩
  rw [hcastAll, hdraft.eq_of_hasLeaves h fun way x kind hpart hkind => ?_]
  have hmem : (way.map Value.Step.segment, kind) ∈ t.leafCasts :=
    (Value.mem_leafCasts_iff h).2 ⟨way, x, hpart, hkind, rfl⟩
  obtain ⟨c, hc, heq⟩ := List.mem_map.1 (hperm.mem_iff.2 hmem)
  exact hleaves way x kind hpart hkind (.inr ⟨c, hc, congrArg Prod.fst heq⟩)

/-- A key that would be a wildcard on a list, keys of digits around an index, a negative integer, and
texts that look like a truth value and like a number; the casts come from the last leaf to the first. -/
theorem castAll_content_nested :
    let t : Value := .object [("*", .list [.int (-7), .null, .bool true, .text "true"]),
      ("0", .list [.object [("0", .text "007")]]), ("id", .int 2)]
    let drafted : Value := .object [("*", .list [.text "-7", .null, .text "true", .text "true"]),
      ("0", .list [.object [("0", .text "007")]]), ("id", .text "2")]
    let casts : List (Path × CastKind) := [(⟨["id"], by decide, by decide⟩, .number),
      (⟨["0", "0", "0"], by decide, by decide⟩, .text), (⟨["*", "3"], by decide, by decide⟩, .text),
      (⟨["*", "2"], by decide, by decide⟩, .boolean), (⟨["*", "0"], by decide, by decide⟩, .number)]
    t.isContainer = true ∧ Restorable t ∧ content id t = drafted ∧
      (casts.map fun c => (c.1.segments, c.2)).Perm t.leafCasts ∧ Unstopped casts drafted ∧
      castAll (ε := Empty) casts drafted = .ok t := by
  intro t drafted casts
  have hlow : ∀ {n : ℕ}, n ≤ 10 → n ≤ 10 ^ maxIntegerDigits := fun hn =>
    hn.trans (Nat.le_self_pow (by decide) 10)
  have hint : ∀ {n : Int}, n.natAbs < 10 → Restorable (.int n) := fun hn =>
    .int (hn.trans_le (Nat.le_self_pow (by decide) 10))
  have hrestorable : Restorable t := by
    refine .object (by decide) (by decide) ?_
    simp only [List.forall_mem_cons, List.not_mem_nil, false_imp_iff, implies_true, and_true]
    refine ⟨.list (hlow (by decide)) ?_, .list (hlow (by decide)) ?_, hint (by decide)⟩
    · simp only [List.forall_mem_cons, List.not_mem_nil, false_imp_iff, implies_true, and_true]
      exact ⟨hint (by decide), .null, .bool true, .text "true"⟩
    · refine List.forall_mem_singleton.2 (.object (by decide) (by decide) ?_)
      exact List.forall_mem_singleton.2 (.text "007")
  have hperm : (casts.map fun c => (c.1.segments, c.2)).Perm t.leafCasts :=
    List.reverse_perm t.leafCasts
  exact ⟨rfl, hrestorable, rfl, hperm, (castAll_content rfl hrestorable).2 casts hperm⟩

end MockApi
