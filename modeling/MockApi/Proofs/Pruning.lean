import Mathlib.Algebra.Group.Nat.Defs
import Mathlib.Data.List.Forall2
import MockApi.Json.Value
import MockApi.Number.Numeral

/-!
# Pruning

* `Members.Rel R` : members with the same names, whose values are related;
* `Value.Prunes t v` : `v` is `t` with containers cut down to single leaves in some places, whatever
  the leaves are; it is reflexive and transitive, and `Prunes.put` and
  `Prunes.forall₂_set_right` prune one part;
* `Value.Indexable v` : each list in `v` has so few items that every index can be written and read.
-/

namespace MockApi

/-! ## Related lists and members -/

theorem forall₂_getElem? {α β : Type} {R : α → β → Prop} {as : List α} {bs : List β}
    (h : List.Forall₂ R as bs) {i : Nat} {a : α} (ha : as[i]? = some a) :
    ∃ b, bs[i]? = some b ∧ R a b := by
  induction h generalizing i with
  | nil => cases ha
  | cons hab _ ih =>
    cases i with
    | zero =>
      cases ha
      exact ⟨_, rfl, hab⟩
    | succ i => exact ih ha

theorem forall₂_set {α β : Type} {R : α → β → Prop} {as : List α} {bs : List β}
    (h : List.Forall₂ R as bs) {a : α} {b : β} (hab : R a b) (i : Nat) :
    List.Forall₂ R (as.set i a) (bs.set i b) := by
  induction h generalizing i with
  | nil => exact .nil
  | cons hhead htail ih =>
    cases i with
    | zero => exact .cons hab htail
    | succ i => exact .cons hhead (ih i)

theorem forall₂_exists_mem {α β : Type} {R : α → β → Prop} {as : List α} {bs : List β}
    (h : List.Forall₂ R as bs) : ∀ b ∈ bs, ∃ a ∈ as, R a b := by
  induction h with
  | nil => intro b hb; cases hb
  | cons hab _ ih =>
    intro b hb
    obtain rfl | hb := List.mem_cons.1 hb
    · exact ⟨_, by simp, hab⟩
    · obtain ⟨a, ha, h⟩ := ih b hb
      exact ⟨a, by simp [ha], h⟩

theorem forall₂_imp_of_mem {α β : Type} {R S : α → β → Prop} {as : List α} {bs : List β}
    (h : List.Forall₂ R as bs) (himp : ∀ a ∈ as, ∀ b, R a b → S a b) : List.Forall₂ S as bs := by
  induction h with
  | nil => exact .nil
  | cons hab _ ih =>
    exact .cons (himp _ List.mem_cons_self _ hab)
      (ih fun a ha => himp a (List.mem_cons_of_mem _ ha))

theorem forall₂_map_of_mem {α β γ δ : Type} {R : α → β → Prop} {S : γ → δ → Prop} {f : α → γ}
    {g : β → δ} {as : List α} {bs : List β} (h : List.Forall₂ R as bs)
    (hmap : ∀ a, ∀ b ∈ bs, R a b → S (f a) (g b)) :
    List.Forall₂ S (as.map f) (bs.map g) := by
  induction h with
  | nil => exact .nil
  | cons hab _ ih =>
    exact .cons (hmap _ _ List.mem_cons_self hab)
      (ih fun a b hb => hmap a b (List.mem_cons_of_mem _ hb))

namespace Members

variable {α β : Type}

/-- Members with the same names in the same order, whose values are related. -/
inductive Rel (R : α → β → Prop) : Members α → Members β → Prop
  | nil : Rel R [] []
  | cons {name : Text} {a : α} {b : β} {ms : Members α} {ns : Members β} :
    R a b → Rel R ms ns → Rel R ((name, a) :: ms) ((name, b) :: ns)

namespace Rel

variable {R : α → β → Prop} {ms : Members α} {ns : Members β}

theorem get? (h : Rel R ms ns) {name : Text} {a : α} (ha : Members.get? ms name = some a) :
    ∃ b, Members.get? ns name = some b ∧ R a b := by
  induction h with
  | nil => cases ha
  | @cons key a' b' ms ns hab _ ih =>
    rw [get?_cons] at ha ⊢
    split at ha
    · next hkey =>
      cases ha
      exact ⟨b', by rw [if_pos hkey], hab⟩
    · next hkey =>
      rw [if_neg hkey]
      exact ih ha

theorem put (h : Rel R ms ns) {a : α} {b : β} (hab : R a b) (name : Text) :
    Rel R (Members.put ms name a) (Members.put ns name b) := by
  induction h with
  | nil => exact .cons hab .nil
  | @cons key _ _ _ _ hhead htail ih =>
    rw [Members.put, Members.put]
    split
    · exact .cons hab htail
    · exact .cons hhead ih

theorem flip (h : Rel R ms ns) : Rel (fun b a => R a b) ns ms := by
  induction h with
  | nil => exact .nil
  | cons hab _ ih => exact .cons hab ih

theorem imp_of_mem {S : α → β → Prop} (h : Rel R ms ns) (himp : ∀ m ∈ ms, ∀ b, R m.2 b → S m.2 b) :
    Rel S ms ns := by
  induction h with
  | nil => exact .nil
  | cons hab _ ih =>
    exact .cons (himp _ List.mem_cons_self _ hab)
      (ih fun m hm => himp m (List.mem_cons_of_mem _ hm))

theorem exists_mem (h : Rel R ms ns) : ∀ n ∈ ns, ∃ m ∈ ms, m.1 = n.1 ∧ R m.2 n.2 := by
  induction h with
  | nil => intro n hn; cases hn
  | cons hab _ ih =>
    intro n hn
    obtain rfl | hn := List.mem_cons.1 hn
    · exact ⟨_, List.mem_cons_self, rfl, hab⟩
    · obtain ⟨m, hm, h⟩ := ih n hn
      exact ⟨m, List.mem_cons_of_mem _ hm, h⟩

theorem refl {R : α → α → Prop} {ms : Members α} (h : ∀ m ∈ ms, R m.2 m.2) : Rel R ms ms := by
  induction ms with
  | nil => exact .nil
  | cons m ms ih => exact .cons (h m (by simp)) (ih fun m hm => h m (by simp [hm]))

/-- Related members that agree at each name are the same, if there is no name twice. -/
theorem eq_of_get? {R : α → α → Prop} {ms ns : Members α} (h : Rel R ms ns) (hnodup : (keys ms).Nodup)
    (heq : ∀ name a b, Members.get? ms name = some a → Members.get? ns name = some b → R a b → b = a) :
    ns = ms := by
  induction h with
  | nil => rfl
  | @cons name a b ms ns hab _ ih =>
    obtain ⟨hname, hnodup⟩ := List.nodup_cons.1 hnodup
    have hhead : b = a := heq name a b (by simp [get?_cons]) (by simp [get?_cons]) hab
    have htail : ns = ms := ih hnodup fun other u w hu hw hdraft => by
      have hne : name ≠ other := by
        rintro rfl
        exact hname (List.mem_map.2 ⟨_, mem_of_get? hu, rfl⟩)
      exact heq other u w (by rwa [get?_cons, if_neg hne]) (by rwa [get?_cons, if_neg hne]) hdraft
    rw [hhead, htail]

theorem mapValues_right {f : α → β} (h : ∀ m ∈ ms, R m.2 (f m.2)) : Rel R ms (mapValues f ms) := by
  induction ms with
  | nil => exact .nil
  | cons m ms ih => exact .cons (h m (by simp)) (ih fun m hm => h m (by simp [hm]))

/-- A single member is put in the place of a related one. -/
theorem put_right {R : α → α → Prop} (hrefl : ∀ a, R a a) {ms : Members α} {name : Text}
    {old new : α} (hold : Members.get? ms name = some old) (h : R old new) :
    Rel R ms (Members.put ms name new) := by
  induction ms with
  | nil => cases hold
  | cons m ms ih =>
    obtain ⟨key, a⟩ := m
    rw [get?_cons] at hold
    rw [Members.put]
    split at hold
    · next hkey =>
      cases hold
      rw [if_pos hkey]
      exact .cons h (refl fun m _ => hrefl m.2)
    · next hkey =>
      rw [if_neg hkey]
      exact .cons (hrefl a) (ih hold)

end Rel

end Members

namespace Value

/-! ## Pruned values -/

/-- `v` is `t` with some of its parts cut down to values that are no containers. -/
inductive Prunes : Value → Value → Prop
  | list {ts vs : List Value} : List.Forall₂ Prunes ts vs → Prunes (.list ts) (.list vs)
  | object {ms ns : Members Value} : Members.Rel Prunes ms ns → Prunes (.object ms) (.object ns)
  | cut {t v : Value} : v.isContainer = false → Prunes t v

namespace Prunes

theorem refl (v : Value) : Prunes v v := by
  induction v using Value.induction with
  | list items ih => exact .list (List.forall₂_same.2 ih)
  | object members ih => exact .object (.refl ih)
  | _ => exact .cut rfl

theorem forall₂_refl (vs : List Value) : List.Forall₂ Prunes vs vs :=
  List.forall₂_same.2 fun v _ => refl v

theorem forall₂_trans {ts us vs : List Value}
    (hstep : ∀ t ∈ ts, ∀ u v, Prunes t u → Prunes u v → Prunes t v)
    (htu : List.Forall₂ Prunes ts us) (huv : List.Forall₂ Prunes us vs) :
    List.Forall₂ Prunes ts vs := by
  induction htu generalizing vs with
  | nil =>
    cases huv
    exact .nil
  | cons h _ ih =>
    cases huv with
    | cons h' htail =>
      exact .cons (hstep _ (by simp) _ _ h h') (ih (fun t ht => hstep t (by simp [ht])) htail)

theorem rel_trans {ms ns ks : Members Value}
    (hstep : ∀ m ∈ ms, ∀ u v, Prunes m.2 u → Prunes u v → Prunes m.2 v)
    (hmn : Members.Rel Prunes ms ns) (hnk : Members.Rel Prunes ns ks) :
    Members.Rel Prunes ms ks := by
  induction hmn generalizing ks with
  | nil =>
    cases hnk
    exact .nil
  | cons h _ ih =>
    cases hnk with
    | cons h' htail =>
      exact .cons (hstep _ List.mem_cons_self _ _ h h')
        (ih (fun m hm => hstep m (List.mem_cons_of_mem _ hm)) htail)

theorem trans {t u v : Value} (htu : Prunes t u) (huv : Prunes u v) : Prunes t v := by
  induction t using Value.induction generalizing u v with
  | list ts ih =>
    cases huv with
    | cut hv => exact .cut hv
    | list huv =>
      cases htu with
      | list htu => exact .list (forall₂_trans (fun t ht u v => ih t ht) htu huv)
      | cut hu => cases hu
    | object huv =>
      cases htu with
      | cut hu => cases hu
  | object ms ih =>
    cases huv with
    | cut hv => exact .cut hv
    | object huv =>
      cases htu with
      | object htu => exact .object (rel_trans (fun m hm u v => ih m hm) htu huv)
      | cut hu => cases hu
    | list huv =>
      cases htu with
      | cut hu => cases hu
  | _ =>
    cases htu with
    | cut hu =>
      cases huv with
      | cut hv => exact .cut hv
      | list _ => cases hu
      | object _ => cases hu

theorem items_trans {ts us vs : List Value} (htu : List.Forall₂ Prunes ts us)
    (huv : List.Forall₂ Prunes us vs) : List.Forall₂ Prunes ts vs :=
  forall₂_trans (fun _ _ _ _ => trans) htu huv

/-- A member of an object is pruned. -/
theorem put {ms : Members Value} {name : Text} {old new : Value}
    (hold : Members.get? ms name = some old) (h : Prunes old new) :
    Prunes (.object ms) (.object (Members.put ms name new)) :=
  .object (.put_right refl hold h)

theorem forall₂_set_right {vs : List Value} {i : Nat} {old new : Value} (hold : vs[i]? = some old)
    (h : Prunes old new) : List.Forall₂ Prunes vs (vs.set i new) := by
  obtain ⟨hi, rfl⟩ := List.getElem?_eq_some_iff.1 hold
  have hset := forall₂_set (forall₂_refl vs) h i
  rwa [List.set_getElem_self] at hset

end Prunes

/-! ## Indices that can be written -/

/-- Each list in the value is so short that the indices of its items have no more digits than are
converted. -/
inductive Indexable : Value → Prop
  | list {items : List Value} : items.length ≤ 10 ^ maxIntegerDigits →
    (∀ v ∈ items, Indexable v) → Indexable (.list items)
  | object {members : Members Value} : (∀ m ∈ members, Indexable m.2) →
    Indexable (.object members)
  | leaf {v : Value} : v.isContainer = false → Indexable v

theorem Indexable.list_singleton {v : Value} (h : Indexable v) : Indexable (.list [v]) := by
  refine .list (Nat.one_le_pow _ _ (by decide)) fun w hw => ?_
  rw [List.mem_singleton.1 hw]
  exact h

theorem Indexable.object_singleton {v : Value} (name : Text) (h : Indexable v) :
    Indexable (.object [(name, v)]) := by
  refine .object fun m hm => ?_
  rw [List.mem_singleton.1 hm]
  exact h

theorem Indexable.of_prunes {t v : Value} (h : Indexable t) (hprunes : Prunes t v) :
    Indexable v := by
  induction h generalizing v with
  | list hlength _ ih =>
    cases hprunes with
    | list hitems =>
      refine .list (hitems.length_eq ▸ hlength) fun v hv => ?_
      obtain ⟨t, ht, htv⟩ := forall₂_exists_mem hitems v hv
      exact ih t ht htv
    | cut hv => exact .leaf hv
  | object _ ih =>
    cases hprunes with
    | object hmembers =>
      refine .object fun n hn => ?_
      obtain ⟨m, hm, -, hmn⟩ := hmembers.exists_mem n hn
      exact ih m hm hmn
    | cut hv => exact .leaf hv
  | leaf ht =>
    cases hprunes with
    | cut hv => exact .leaf hv
    | list _ => cases ht
    | object _ => cases ht

end Value

end MockApi
