import MockApi.Proofs.Finishing
import MockApi.Proofs.Fusing
import MockApi.Proofs.Stopping

/-!
# Casts that can be exchanged

* `Path.Idles segments v way` : an empty list that a wildcard of a path stands for no item of;
* `Path.Apart` : no place of one of two paths is or holds a place of the other, or an empty list over
  which the other idles;
* `Path.leads_changeAt_of_apart`, `Path.changeAt_comm` : a write leaves a path that is apart from it where
  it is, and two such writes can be exchanged;
* `Independent casts data` : all casts lead somewhere, apart from each other (`castAll_perm`);
* `finish_perm` : casts of a loaded response that are apart give the same content in every order.
-/

namespace MockApi

/-- Two members that are there can be written in either order. -/
theorem Members.put_comm {α : Type} {members : Members α} {name other : Text} {old old' : α}
    (hne : other ≠ name) (hold : get? members name = some old) (hold' : get? members other = some old')
    (new new' : α) :
    put (put members name new) other new' = put (put members other new') name new := by
  induction members with
  | nil => cases hold
  | cons member rest ih =>
    obtain ⟨key, value⟩ := member
    rw [get?_cons] at hold hold'
    by_cases hkey : key = name
    · subst hkey
      simp [put, hne.symm]
    · rw [if_neg hkey] at hold
      by_cases hkey' : key = other
      · simp [put, hkey', hne]
      · rw [if_neg hkey'] at hold'
        simp [put, hkey, hkey', ih hold hold']

namespace Path

open Value (Prunes Step)

variable {f g : Value → Value} {p q segments rest : List Text} {segment other : Text} {step : Step}
  {t u v : Value} {way : List Step} {items : List Value} {members : Members Value}

/-! ## Ends of a path -/

/-- The path leads along the way to an empty list, and there its next segment is a wildcard. -/
inductive Idles : List Text → Value → List Step → Prop
  | here (rest : List Text) : Idles (wildcard :: rest) (.list []) []
  | into {segment : Text} {rest : List Text} {v u : Value} {step : Step} {way : List Step} :
    Passes segment step → v.child? step = some u → Idles rest u way →
    Idles (segment :: rest) v (step :: way)

/-- The path comes to an end: at a place that it addresses, or at an empty list over which it idles. -/
def Ends (segments : List Text) (v : Value) (way : List Step) : Prop :=
  Locates segments v way ∨ Idles segments v way

/-- No place of the first path is an end of the second one or holds one. -/
def Clears (p q : List Text) (v : Value) : Prop :=
  ∀ place last, Locates p v place → Ends q v last → ¬ place <+: last

/-- Neither of two paths has a place that is an end of the other or holds one. -/
def Apart (p q : List Text) (v : Value) : Prop := Clears p q v ∧ Clears q p v

theorem Apart.symm (h : Apart p q v) : Apart q p v := ⟨h.2, h.1⟩

theorem Ends.into (hpasses : Passes segment step) (hchild : v.child? step = some u)
    (h : Ends rest u way) : Ends (segment :: rest) v (step :: way) :=
  h.imp (.into hpasses hchild) (.into hpasses hchild)

theorem Clears.of_part {rest rest' : List Text} (h : Clears (segment :: rest) (other :: rest') v)
    (step : Step) (hsegment : Passes segment step) (hother : Passes other step)
    (hchild : v.child? step = some u) :
    Clears rest rest' u := fun place last hplace hlast hprefix =>
  h (step :: place) (step :: last) (.into hsegment hchild hplace) (hlast.into hother hchild)
    (List.cons_prefix_cons.2 ⟨rfl, hprefix⟩)

theorem Apart.of_part {rest rest' : List Text} (h : Apart (segment :: rest) (other :: rest') v)
    (step : Step) (hsegment : Passes segment step) (hother : Passes other step)
    (hchild : v.child? step = some u) : Apart rest rest' u :=
  ⟨h.1.of_part step hsegment hother hchild, h.2.of_part step hother hsegment hchild⟩

/-- A path that leads on everywhere has an end. -/
theorem exists_ends (h : Leads segments v) : ∃ way, Ends segments v way := by
  induction segments generalizing v with
  | nil => exact ⟨[], .inl (.here v)⟩
  | cons segment rest ih =>
    cases v with
    | object members =>
      obtain ⟨u, hu, hrest⟩ := h
      obtain ⟨way, hway⟩ := ih hrest
      exact ⟨.key segment :: way, hway.into rfl hu⟩
    | list items =>
      by_cases hwild : segment = wildcard
      · subst hwild
        cases items with
        | nil => exact ⟨[], .inr (.here rest)⟩
        | cons u items =>
          obtain ⟨way, hway⟩ := ih (leads_wildcard.1 h u List.mem_cons_self)
          exact ⟨.item 0 :: way, hway.into (.inl rfl) rfl⟩
      · obtain ⟨i, u, hi, hu, hrest⟩ := (leads_index hwild).1 h
        obtain ⟨way, hway⟩ := ih hrest
        exact ⟨.item i :: way, hway.into (.inr hi) hu⟩
    | _ => cases h

/-- The whole value is apart from nothing. -/
theorem not_clears_nil (h : Leads q v) : ¬ Clears [] q v := fun hclears => by
  obtain ⟨last, hlast⟩ := exists_ends h
  exact hclears [] last (.here v) hlast List.nil_prefix

/-- A segment that can only be the name of a member. -/
def IsName (segment : Text) : Prop := segment ≠ wildcard ∧ Text.isAllDigits segment = false

instance (segment : Text) : Decidable (IsName segment) := inferInstanceAs (Decidable (_ ∧ _))

theorem IsName.step_eq (h : IsName segment) (hpasses : Passes segment step) : step = .key segment := by
  cases step with
  | key name => exact congrArg Step.key hpasses.symm
  | item i =>
    obtain hwild | hi := hpasses
    · exact absurd hwild h.1
    · rw [indexOf?, h.2] at hi
      cases hi

theorem addresses_of_idles (h : Idles segments v way) :
    ∃ passed behind, segments = passed ++ behind ∧ Addresses passed way := by
  induction h with
  | here rest => exact ⟨[], _, rfl, .nil⟩
  | into hpasses _ _ ih =>
    obtain ⟨passed, behind, rfl, haddresses⟩ := ih
    exact ⟨_ :: passed, behind, rfl, .cons hpasses haddresses⟩

theorem addresses_of_ends (h : Ends segments v way) :
    ∃ passed behind, segments = passed ++ behind ∧ Addresses passed way := by
  obtain hlocates | hidles := h
  · exact ⟨segments, [], (List.append_nil segments).symm, addresses_of_locates hlocates⟩
  · exact addresses_of_idles hidles

/-- Ways of paths with two different names at one depth part there. -/
theorem not_prefix_of_names {init init' : List Text} {place last : List Step}
    (hsegment : IsName segment) (hother : IsName other) (hne : segment ≠ other)
    (hlength : init.length = init'.length) {behind passed : List Text}
    (hplace : Addresses (init ++ segment :: behind) place) (hlast : Addresses passed last)
    (hpassed : passed <+: init' ++ other :: rest) : ¬ place <+: last := by
  induction init generalizing init' place last passed with
  | nil =>
    obtain rfl := List.length_eq_zero_iff.1 hlength.symm
    cases hplace with
    | cons hpasses _ =>
      rintro ⟨more, rfl⟩
      cases hlast with
      | cons hpasses' _ =>
        obtain rfl := (List.cons_prefix_cons.1 hpassed).1
        have hsame := (hsegment.step_eq hpasses).symm.trans (hother.step_eq hpasses')
        exact hne (Step.key.inj hsame)
  | cons first init ih =>
    cases init' with
    | nil => cases hlength
    | cons first' init' =>
      cases hplace with
      | cons _ hplace =>
        rintro ⟨more, rfl⟩
        cases hlast with
        | cons _ hlast =>
          exact ih (Nat.succ.inj hlength) hplace hlast (List.cons_prefix_cons.1 hpassed).2
            (List.prefix_append _ _)

/-- **Paths with two different names at one depth are apart**, whatever the value. -/
theorem apart_of_names (init init' : List Text) {rest' : List Text} (hsegment : IsName segment)
    (hother : IsName other) (hne : segment ≠ other) (hlength : init.length = init'.length) (v : Value) :
    Apart (init ++ segment :: rest) (init' ++ other :: rest') v := by
  constructor
  · intro place last hplace hlast
    obtain ⟨passed, behind, hsegments, haddresses⟩ := addresses_of_ends hlast
    exact not_prefix_of_names hsegment hother hne hlength (addresses_of_locates hplace) haddresses
      ⟨behind, hsegments.symm⟩
  · intro place last hplace hlast
    obtain ⟨passed, behind, hsegments, haddresses⟩ := addresses_of_ends hlast
    exact not_prefix_of_names hother hsegment hne.symm hlength.symm (addresses_of_locates hplace) haddresses
      ⟨behind, hsegments.symm⟩

/-! ## Two paths into one value -/

/-- How two paths go on in a value if both lead on everywhere and they are apart. -/
inductive BothGoOn (segment : Text) (rest : List Text) (other : Text) (rest' : List Text) : Value → Prop
  | member {members : Members Value} {u : Value} : other = segment →
    Members.get? members segment = some u → Leads rest u → Leads rest' u → Apart rest rest' u →
    BothGoOn segment rest other rest' (.object members)
  | members {members : Members Value} {u w : Value} : other ≠ segment →
    Members.get? members segment = some u → Members.get? members other = some w →
    Leads rest u → Leads rest' w → BothGoOn segment rest other rest' (.object members)
  | items {items : List Value} : segment = wildcard → other = wildcard →
    (∀ u ∈ items, Leads rest u ∧ Leads rest' u ∧ Apart rest rest' u) →
    BothGoOn segment rest other rest' (.list items)
  | allAndOne {items : List Value} {i : Nat} {u : Value} : segment = wildcard → other ≠ wildcard →
    indexOf? other = .ok (some i) → items[i]? = some u → (∀ w ∈ items, Leads rest w) →
    Leads rest' u → Apart rest rest' u → BothGoOn segment rest other rest' (.list items)
  | oneAndAll {items : List Value} {i : Nat} {u : Value} : segment ≠ wildcard → other = wildcard →
    indexOf? segment = .ok (some i) → items[i]? = some u → (∀ w ∈ items, Leads rest' w) →
    Leads rest u → Apart rest rest' u → BothGoOn segment rest other rest' (.list items)
  | item {items : List Value} {i : Nat} {u : Value} : segment ≠ wildcard → other ≠ wildcard →
    indexOf? segment = .ok (some i) → indexOf? other = .ok (some i) → items[i]? = some u →
    Leads rest u → Leads rest' u → Apart rest rest' u → BothGoOn segment rest other rest' (.list items)
  | twoItems {items : List Value} {i j : Nat} {u w : Value} : segment ≠ wildcard → other ≠ wildcard →
    indexOf? segment = .ok (some i) → indexOf? other = .ok (some j) → i ≠ j → items[i]? = some u →
    items[j]? = some w → Leads rest u → Leads rest' w → BothGoOn segment rest other rest' (.list items)

theorem bothGoOn {rest rest' : List Text} (hp : Leads (segment :: rest) v)
    (hq : Leads (other :: rest') v) (h : Apart (segment :: rest) (other :: rest') v) :
    BothGoOn segment rest other rest' v := by
  cases v with
  | object members =>
    obtain ⟨u, hu, hrest⟩ := hp
    obtain ⟨w, hw, hrest'⟩ := hq
    by_cases hsame : other = segment
    · subst hsame
      rw [hu] at hw
      cases hw
      exact .member rfl hu hrest hrest' (h.of_part (.key other) rfl rfl hu)
    · exact .members hsame hu hw hrest hrest'
  | list items =>
    by_cases hwild : segment = wildcard
    · subst hwild
      rw [leads_wildcard] at hp
      by_cases hwild' : other = wildcard
      · subst hwild'
        rw [leads_wildcard] at hq
        refine .items rfl rfl fun u hu => ⟨hp u hu, hq u hu, ?_⟩
        obtain ⟨i, hi⟩ := List.mem_iff_getElem?.1 hu
        exact h.of_part (.item i) (.inl rfl) (.inl rfl) hi
      · obtain ⟨i, u, hi, hu, hrest'⟩ := (leads_index hwild').1 hq
        exact .allAndOne rfl hwild' hi hu hp hrest' (h.of_part (.item i) (.inl rfl) (.inr hi) hu)
    · obtain ⟨i, u, hi, hu, hrest⟩ := (leads_index hwild).1 hp
      by_cases hwild' : other = wildcard
      · subst hwild'
        rw [leads_wildcard] at hq
        exact .oneAndAll hwild rfl hi hu hq hrest (h.of_part (.item i) (.inr hi) (.inl rfl) hu)
      · obtain ⟨j, w, hj, hw, hrest'⟩ := (leads_index hwild').1 hq
        by_cases hij : i = j
        · subst hij
          rw [hu] at hw
          cases hw
          exact .item hwild hwild' hi hj hu hrest hrest'
            (h.of_part (.item i) (.inr hi) (.inr hj) hu)
        · exact .twoItems hwild hwild' hi hj hij hu hw hrest hrest'
  | _ => cases hp

/-- **A write leaves a path that is apart from it where it is.** -/
theorem leads_changeAt_of_apart (hp : Leads p v) (hq : Leads q v) (h : Apart p q v) (f : Value → Value) :
    Leads q (changeAt f p v) := by
  induction p generalizing q v with
  | nil => exact absurd h.1 (not_clears_nil hq)
  | cons segment rest ih =>
    cases q with
    | nil => trivial
    | cons other rest' =>
      cases bothGoOn hp hq h with
      | member hsame hu hrest hrest' hapart =>
        subst hsame
        rw [changeAt_member hu]
        exact ⟨_, Members.get?_put_self _ _ _, ih hrest hrest' hapart⟩
      | members hne hu hw _ hrest' =>
        rw [changeAt_member hu]
        refine ⟨_, ?_, hrest'⟩
        rw [Members.get?_put, if_neg fun hsame => hne hsame.symm, hw]
      | items hwild hwild' hitems =>
        subst hwild hwild'
        rw [changeAt_wildcard, leads_wildcard]
        intro w hw
        obtain ⟨u, hu, rfl⟩ := List.mem_map.1 hw
        obtain ⟨hrest, hrest', hapart⟩ := hitems u hu
        exact ih hrest hrest' hapart
      | allAndOne hwild hwild' hi hu hrest hrest' hapart =>
        subst hwild
        rw [changeAt_wildcard, leads_index hwild']
        refine ⟨_, _, hi, ?_, ih (hrest _ (List.mem_of_getElem? hu)) hrest' hapart⟩
        rw [List.getElem?_map, hu, Option.map_some]
      | oneAndAll hwild hwild' hi hu hrest' hrest hapart =>
        subst hwild'
        rw [changeAt_index hwild hi hu, leads_wildcard]
        intro w hw
        obtain hw | rfl := List.mem_or_eq_of_mem_set hw
        · exact hrest' w hw
        · exact ih hrest (hrest' _ (List.mem_of_getElem? hu)) hapart
      | item hwild hwild' hi hi' hu hrest hrest' hapart =>
        rw [changeAt_index hwild hi hu, leads_index hwild']
        obtain ⟨hlt, -⟩ := List.getElem?_eq_some_iff.1 hu
        exact ⟨_, _, hi', List.getElem?_set_self hlt, ih hrest hrest' hapart⟩
      | twoItems hwild hwild' hi hj hij hu hw _ hrest' =>
        rw [changeAt_index hwild hi hu, leads_index hwild']
        exact ⟨_, _, hj, (List.getElem?_set_ne hij).trans hw, hrest'⟩

/-- A write to all items and one to a single item can be exchanged if they can in that item. -/
theorem changeAt_comm_item {rest' : List Text} {i : Nat} (hother : other ≠ wildcard)
    (hi : indexOf? other = .ok (some i)) (hu : items[i]? = some u)
    (hcomm : changeAt g rest' (changeAt f rest u) = changeAt f rest (changeAt g rest' u)) :
    changeAt g (other :: rest') (changeAt f (wildcard :: rest) (.list items)) =
      changeAt f (wildcard :: rest) (changeAt g (other :: rest') (.list items)) := by
  have hmap : (items.map (changeAt f rest))[i]? = some (changeAt f rest u) := by
    rw [List.getElem?_map, hu, Option.map_some]
  rw [changeAt_wildcard, changeAt_index hother hi hmap, changeAt_index hother hi hu, changeAt_wildcard,
    List.map_set, hcomm]

/-- **Two writes that are apart can be exchanged.** -/
theorem changeAt_comm (hp : Leads p v) (hq : Leads q v) (h : Apart p q v) (f g : Value → Value) :
    changeAt g q (changeAt f p v) = changeAt f p (changeAt g q v) := by
  induction p generalizing q v with
  | nil => exact absurd h.1 (not_clears_nil hq)
  | cons segment rest ih =>
    cases q with
    | nil => exact absurd h.2 (not_clears_nil hp)
    | cons other rest' =>
      cases bothGoOn hp hq h with
      | @member members u hsame hu hrest hrest' hapart =>
        subst hsame
        have hself : ∀ new, Members.get? (Members.put members other new) other = some new :=
          Members.get?_put_self members other
        rw [changeAt_member hu, changeAt_member (hself _), changeAt_member hu, changeAt_member (hself _),
          Members.put_put, Members.put_put, ih hrest hrest' hapart]
      | @members members u w hne hu hw _ _ =>
        have hother : ∀ new, Members.get? (Members.put members segment new) other = some w := fun new => by
          rw [Members.get?_put, if_neg hne.symm, hw]
        have hsegment : ∀ new, Members.get? (Members.put members other new) segment = some u := fun new => by
          rw [Members.get?_put, if_neg hne, hu]
        rw [changeAt_member hu, changeAt_member (hother _), changeAt_member hw,
          changeAt_member (hsegment _), Members.put_comm hne hu hw]
      | items hwild hwild' hitems =>
        subst hwild hwild'
        rw [changeAt_wildcard, changeAt_wildcard, changeAt_wildcard, changeAt_wildcard, List.map_map,
          List.map_map]
        refine congrArg Value.list (List.map_congr_left fun u hu => ?_)
        obtain ⟨hrest, hrest', hapart⟩ := hitems u hu
        exact ih hrest hrest' hapart
      | allAndOne hwild hwild' hi hu hrest hrest' hapart =>
        subst hwild
        exact changeAt_comm_item hwild' hi hu (ih (hrest _ (List.mem_of_getElem? hu)) hrest' hapart)
      | oneAndAll hwild hwild' hi hu hrest' hrest hapart =>
        subst hwild'
        have hcomm := ih hrest (hrest' _ (List.mem_of_getElem? hu)) hapart
        exact (changeAt_comm_item hwild hi hu hcomm.symm).symm
      | @item items i u hwild hwild' hi hi' hu hrest hrest' hapart =>
        obtain ⟨hlt, -⟩ := List.getElem?_eq_some_iff.1 hu
        have hself : ∀ new, (items.set i new)[i]? = some new := fun new => List.getElem?_set_self hlt
        rw [changeAt_index hwild hi hu, changeAt_index hwild' hi' (hself _), changeAt_index hwild' hi' hu,
          changeAt_index hwild hi (hself _), List.set_set, List.set_set, ih hrest hrest' hapart]
      | twoItems hwild hwild' hi hj hij hu hw _ _ =>
        rw [changeAt_index hwild hi hu, changeAt_index hwild' hj ((List.getElem?_set_ne hij).trans hw),
          changeAt_index hwild' hj hw,
          changeAt_index hwild hi ((List.getElem?_set_ne (Ne.symm hij)).trans hu),
          List.set_comm _ _ hij]

/-! ## Ends in a pruned value -/

theorem Through.idles_iff (h : Through segment v step u) :
    Idles (segment :: rest) v way ↔ ∃ more, way = step :: more ∧ Idles rest u more := by
  constructor
  · intro hidles
    cases hidles with
    | here _ =>
      have hchild := h.child
      cases step <;> cases hchild
    | into hpasses hchild hidles =>
      obtain rfl := h.only _ _ hpasses hchild
      rw [h.child] at hchild
      cases hchild
      exact ⟨_, rfl, hidles⟩
  · rintro ⟨more, rfl, hidles⟩
    exact .into h.passes h.child hidles

theorem idles_items_iff : Idles (wildcard :: rest) (.list items) way ↔
    (items = [] ∧ way = []) ∨ ∃ i u more, way = .item i :: more ∧ items[i]? = some u ∧ Idles rest u more := by
  constructor
  · intro hidles
    cases hidles with
    | here _ => exact .inl ⟨rfl, rfl⟩
    | @into _ _ _ u step more _ hchild hidles =>
      cases step with
      | key name => cases hchild
      | item i => exact .inr ⟨i, u, more, rfl, hchild, hidles⟩
  · rintro (⟨rfl, rfl⟩ | ⟨i, u, more, rfl, hi, hidles⟩)
    · exact .here rest
    · exact .into (.inl rfl) hi hidles

/-- How a path that leads on in a pruned value goes on in it and in the value. -/
inductive AlikeIn (segment : Text) (rest : List Text) : Value → Value → Prop
  | through {t v u w : Value} {step : Step} : Through segment t step u → Through segment v step w →
    Prunes u w → Leads rest w → AlikeIn segment rest t v
  | items {ts vs : List Value} : segment = wildcard → List.Forall₂ Prunes ts vs →
    (∀ w ∈ vs, Leads rest w) → AlikeIn segment rest (.list ts) (.list vs)

theorem alikeIn_of_prunes (hprunes : Prunes t v) (h : Leads (segment :: rest) v) :
    AlikeIn segment rest t v := by
  cases hprunes with
  | cut hleaf =>
    cases v with
    | list _ => cases hleaf
    | object _ => cases hleaf
    | _ => cases h
  | object hmembers =>
    obtain ⟨w, hw, hrest⟩ := h
    obtain ⟨u, hu, huw⟩ := hmembers.flip.get? hw
    exact .through (through_member hu) (through_member hw) huw hrest
  | list hitems =>
    by_cases hwild : segment = wildcard
    · subst hwild
      exact .items rfl hitems (leads_wildcard.1 h)
    · obtain ⟨i, w, hi, hw, hrest⟩ := (leads_index hwild).1 h
      obtain ⟨u, hu, huw⟩ := forall₂_getElem? hitems.flip hw
      exact .through (through_item hwild hi hu) (through_item hwild hi hw) huw hrest

theorem exists_item_iff {P Q : Value → List Step → Prop} {items' : List Value}
    (hitems : List.Forall₂ Prunes items items')
    (hiff : ∀ u, ∀ w ∈ items', Prunes u w → ∀ more, P u more ↔ Q w more) :
    (∃ i u more, way = .item i :: more ∧ items[i]? = some u ∧ P u more) ↔
      ∃ i w more, way = .item i :: more ∧ items'[i]? = some w ∧ Q w more := by
  constructor
  · rintro ⟨i, u, more, rfl, hu, hmore⟩
    obtain ⟨w, hw, huw⟩ := forall₂_getElem? hitems hu
    exact ⟨i, w, more, rfl, hw, (hiff u w (List.mem_of_getElem? hw) huw more).1 hmore⟩
  · rintro ⟨i, w, more, rfl, hw, hmore⟩
    obtain ⟨u, hu, huw⟩ := forall₂_getElem? hitems.flip hw
    exact ⟨i, u, more, rfl, hu, (hiff u w (List.mem_of_getElem? hw) huw more).2 hmore⟩

theorem locates_iff_of_prunes (hprunes : Prunes t v) (h : Leads segments v) :
    Locates segments t way ↔ Locates segments v way := by
  induction segments generalizing t v way with
  | nil => rw [(Pins.here t).locates_iff, (Pins.here v).locates_iff]
  | cons segment rest ih =>
    cases alikeIn_of_prunes hprunes h with
    | through ht hv huw hrest => simp only [ht.locates_iff, hv.locates_iff, ih huw hrest]
    | items hwild hitems hrest =>
      subst hwild
      rw [locates_items_iff, locates_items_iff]
      exact exists_item_iff hitems fun u w hw huw more => ih huw (hrest w hw)

theorem idles_iff_of_prunes (hprunes : Prunes t v) (h : Leads segments v) :
    Idles segments t way ↔ Idles segments v way := by
  induction segments generalizing t v way with
  | nil => exact ⟨nofun, nofun⟩
  | cons segment rest ih =>
    cases alikeIn_of_prunes hprunes h with
    | through ht hv huw hrest => simp only [ht.idles_iff, hv.idles_iff, ih huw hrest]
    | items hwild hitems hrest =>
      subst hwild
      rw [idles_items_iff, idles_items_iff, ← List.length_eq_zero_iff, hitems.length_eq,
        List.length_eq_zero_iff]
      exact or_congr_right (exists_item_iff hitems fun u w hw huw more => ih huw (hrest w hw))

/-- Paths that lead on everywhere in a pruned value are apart in it if they are in the value. -/
theorem apart_iff_of_prunes (hprunes : Prunes t v) (hp : Leads p v) (hq : Leads q v) :
    Apart p q t ↔ Apart p q v := by
  simp only [Apart, Clears, Ends, locates_iff_of_prunes hprunes hp, locates_iff_of_prunes hprunes hq,
    idles_iff_of_prunes hprunes hp, idles_iff_of_prunes hprunes hq]

end Path

/-! ## Casts in any order -/

open MockApi.Path (Apart Leads changeAt)
open Template (Generated generate)
open Value (Prunes)

variable {ε σ ε' : Type} {f : Text → ExceptT ε' (StateM σ) Text} {casts casts' : List (Path × CastKind)}
  {path : Path} {kind : CastKind} {template data : Value}

/-- All casts lead somewhere, and each is apart from all the others. -/
structure Independent (casts : List (Path × CastKind)) (data : Value) : Prop where
  leads : ∀ c ∈ casts, Leads c.1.segments data
  apart : casts.Pairwise fun c d => Apart c.1.segments d.1.segments data

namespace Independent

theorem perm (h : Independent casts data) (hperm : casts.Perm casts') : Independent casts' data where
  leads c hc := h.leads c (hperm.mem_iff.2 hc)
  apart := (hperm.pairwise_iff fun hapart => hapart.symm).1 h.apart

theorem of_prunes (h : Independent casts template) (hprunes : Prunes template data)
    (hleads : ∀ c ∈ casts, Leads c.1.segments data) : Independent casts data where
  leads := hleads
  apart := h.apart.imp_of_mem fun hc hd =>
    (Path.apart_iff_of_prunes hprunes (hleads _ hc) (hleads _ hd)).1

/-- What the first cast writes leaves the others independent. -/
theorem tail (h : Independent ((path, kind) :: casts) data) :
    Independent casts (changeAt kind.apply path.segments data) := by
  obtain ⟨hleads, hrest⟩ := List.forall_mem_cons.1 h.leads
  obtain ⟨hapart, hpairs⟩ := List.pairwise_cons.1 h.apart
  exact of_prunes ⟨hrest, hpairs⟩ (Path.prunes_changeAt kind.isContainer_apply hleads)
    fun c hc => Path.leads_changeAt_of_apart hleads (hrest c hc) (hapart c hc) _

theorem castAll_cons (h : Independent ((path, kind) :: casts) data) :
    castAll (ε := ε) ((path, kind) :: casts) data =
      castAll casts (changeAt kind.apply path.segments data) := by
  rw [MockApi.castAll_cons, castAt_of_leads (h.leads _ List.mem_cons_self)]
  rfl

theorem exists_castAll (h : Independent casts data) :
    ∃ final, castAll (ε := ε) casts data = .ok final := by
  induction casts generalizing data with
  | nil => exact ⟨data, rfl⟩
  | cons c casts ih =>
    rw [h.castAll_cons]
    exact ih h.tail

end Independent

/-- **Independent casts give the same in every order**, by induction on the permutation: each of them
keeps the others independent, and two in a row can be exchanged. -/
theorem castAll_perm (h : Independent casts data) (hperm : casts.Perm casts') :
    castAll (ε := ε) casts data = castAll casts' data := by
  induction hperm generalizing data with
  | nil => rfl
  | cons c hperm ih => rw [h.castAll_cons, (h.perm (hperm.cons c)).castAll_cons, ih h.tail]
  | swap c d casts =>
    have h' := h.perm (.swap c d casts)
    have hc := h.leads c (List.mem_cons_of_mem _ List.mem_cons_self)
    have hd := h.leads d List.mem_cons_self
    have hapart := (List.pairwise_cons.1 h.apart).1 c List.mem_cons_self
    rw [h.castAll_cons, h.tail.castAll_cons, h'.castAll_cons, h'.tail.castAll_cons,
      Path.changeAt_comm hd hc hapart]
  | trans hfirst _ ih ih' => exact (ih h).trans (ih' (h.perm hfirst))

/-- **Casts that are apart can be put in any order.** What was generated from the data of a loaded
response without a repetition is finished to the same content, whatever the order of the casts. -/
theorem finish_perm {document content : Value} {response : ResponseSpec} {m : Metadata} {s s' : σ}
    (hload : ResponseSpec.ofValue document = .ok response) (hmetadata : response.metadata = some m)
    (hrepetition : m.repetition = none)
    (hapart : m.casts.Pairwise fun c d => Apart c.1.segments d.1.segments response.data)
    (hcontent : (generate f response.data).run s = (.ok content, s')) (hperm : casts.Perm m.casts)
    (chance : Chance) :
    ∃ final, m.finish (ε := ε) content chance = .ok (final, chance) ∧
      Metadata.finish (ε := ε) { m with casts } content chance = .ok (final, chance) := by
  have hfits := (ResponseSpec.fits_of_ofValue hload).metadata m hmetadata
  have hgenerated := Template.generated_of_gives hcontent
  have hindependent : Independent m.casts content :=
    Independent.of_prunes ⟨fun c hc => Path.leads_of_reaches (hfits.casts c hc), hapart⟩ hgenerated.prunes
      (leads_of_generated hfits hgenerated)
  obtain ⟨final, hfinal⟩ := hindependent.exists_castAll (ε := ε)
  have hrepeat : repeatData (ε := ε) m.repetition content chance = .ok (content, chance) := by
    rw [hrepetition]
    rfl
  refine ⟨final, finish_of_castAll hrepeat hfinal, finish_of_castAll (m := { m with casts }) hrepeat ?_⟩
  rw [← castAll_perm hindependent hperm.symm]
  exact hfinal

/-- A wildcard, an index below which there is an empty list, and a member beside them. -/
theorem finish_perm_nested :
    let row (id : String) (tags : List Value) : Value := .object [("id", .text id), ("tags", .list tags)]
    let data : Value := .object [("rows", .list [row "1" [], row "x" []]), ("n", .text "2.5")]
    let document : Value := .object [("code", .int 200), ("data", data),
      ("meta", .object [("cast", .object [("rows.*.id", .text "number"), ("rows.0.tags", .text "string"),
        ("n", .text "number")])])]
    let first : Path × CastKind := (⟨["rows", "*", "id"], by decide, by decide⟩, .number)
    let second : Path × CastKind := (⟨["rows", "0", "tags"], by decide, by decide⟩, .text)
    let third : Path × CastKind := (⟨["n"], by decide, by decide⟩, .number)
    let m : Metadata := ⟨[first, second, third], none⟩
    let response : ResponseSpec := ⟨200, [], data, some m⟩
    let f : Text → ExceptT Empty (StateM Unit) Text := pure
    ResponseSpec.ofValue document = .ok response ∧
      (m.casts.Pairwise fun c d => Apart c.1.segments d.1.segments response.data) ∧
      (generate f response.data).run () = (.ok data, ()) ∧ [third, second, first].Perm m.casts ∧
      ∃ final, m.finish (ε := Empty) data (.ofDraws []) = .ok (final, .ofDraws []) ∧
        Metadata.finish (ε := Empty) { m with casts := [third, second, first] } data (.ofDraws []) =
          .ok (final, .ofDraws []) := by
  intro row data document first second third m response f
  have hload : ResponseSpec.ofValue document = .ok response := rfl
  have hcontent : (generate f response.data).run () = (.ok data, ()) := rfl
  have hrows : Path.IsName "rows" := by decide
  have hn : Path.IsName "n" := by decide
  have hid : Path.IsName "id" := by decide
  have htags : Path.IsName "tags" := by decide
  have hapart : m.casts.Pairwise fun c d => Apart c.1.segments d.1.segments response.data := by
    refine .cons (List.forall_mem_cons.2 ⟨?_, List.forall_mem_singleton.2 ?_⟩) (List.pairwise_pair.2 ?_)
    · exact Path.apart_of_names ["rows", "*"] ["rows", "0"] hid htags (by decide) rfl _
    · exact Path.apart_of_names [] [] hrows hn (by decide) rfl _
    · exact Path.apart_of_names [] [] hrows hn (by decide) rfl _
  have hperm : [third, second, first].Perm m.casts := List.reverse_perm m.casts
  exact ⟨hload, hapart, hcontent, hperm, finish_perm hload rfl rfl hapart hcontent hperm _⟩

/-- There an empty list is no place of the path that ends with it and none of the path that goes on below
it, but the first one takes the list away. -/
theorem finish_reordered_empty_list :
    let document : Value := .object [("code", .int 200), ("data", .object [("a", .list [])]),
      ("meta", .object [("cast", .object [("a.*.x", .text "number"), ("a", .text "string")])])]
    let below : Path × CastKind := (⟨["a", "*", "x"], by decide, by decide⟩, .number)
    let whole : Path × CastKind := (⟨["a"], by decide, by decide⟩, .text)
    let m : Metadata := ⟨[below, whole], none⟩
    let response : ResponseSpec := ⟨200, [], .object [("a", .list [])], some m⟩
    let f : Text → ExceptT Empty (StateM Unit) Text := pure
    let final : Value := .object [("a", .text "")]
    let final' : Value := .object [("a", .text "<cannot cast a.*.x as number>")]
    ResponseSpec.ofValue document = .ok response ∧
      (m.casts.Pairwise fun c d => ∀ place place', Path.Locates c.1.segments response.data place →
        Path.Locates d.1.segments response.data place' → ¬ place <+: place' ∧ ¬ place' <+: place) ∧
      (generate f response.data).run () = (.ok response.data, ()) ∧ [whole, below].Perm m.casts ∧
      m.finish (ε := Empty) response.data (.ofDraws []) = .ok (final, .ofDraws []) ∧
      Metadata.finish (ε := Empty) { m with casts := [whole, below] } response.data (.ofDraws []) =
        .ok (final', .ofDraws []) ∧ final ≠ final' := by
  intro document below whole m response f final final'
  have hdiffer : final ≠ final' := by simp [final, final', Text.ofString, Text.ofChars]
  refine ⟨rfl, List.pairwise_pair.2 fun place place' hplace => ?_, rfl, .swap _ _ _, rfl, rfl, hdiffer⟩
  -- Without an item the path that goes on below the list has no place.
  obtain ⟨more, -, hmore⟩ := (Path.through_member rfl).locates_iff.1 hplace
  obtain ⟨i, u, -, -, hi, -⟩ := Path.locates_items_iff.1 hmore
  cases hi

end MockApi
