import MockApi.Proofs.Pruning
import MockApi.Template.Content

/-!
# Content and its template

* `Gives x s a s'` : a computation with a state and errors gives a result;
* `Generated f t v` : `v` is the template `t` with a text that `f` can give in place of each leaf;
* `generated_of_gives`, `exists_fill` : content is so generated, and it is generated if `f` gives a text
  for each leaf;
* `fill_congr` : only what becomes of the leaves counts;
* `Generated.prunes`, `Generated.prunes_template` : content has the containers of its template.
-/

namespace MockApi.Template

open Value (Prunes)

variable {ε σ α β : Type} {f : Value → ExceptT ε (StateM σ) Text}

/-! ## Results -/

/-- The computation gives `a` and leaves the state `s'`. -/
def Gives (x : ExceptT ε (StateM σ) α) (s : σ) (a : α) (s' : σ) : Prop := x.run s = (.ok a, s')

theorem gives_pure {a b : α} {s s' : σ} :
    Gives (pure a : ExceptT ε (StateM σ) α) s b s' ↔ a = b ∧ s = s' := by
  constructor
  · intro h
    cases h
    exact ⟨rfl, rfl⟩
  · rintro ⟨rfl, rfl⟩
    rfl

theorem run_bind {x : ExceptT ε (StateM σ) α} {g : α → ExceptT ε (StateM σ) β} (s : σ) :
    (x >>= g).run s = match x.run s with
      | (.ok a, s) => (g a).run s
      | (.error e, s) => (.error e, s) := by
  have hrun : (x >>= g).run s = (ExceptT.bindCont g (x.run s).1) (x.run s).2 := rfl
  rw [hrun]
  rcases x.run s with ⟨_ | a, s⟩ <;> rfl

theorem gives_bind {x : ExceptT ε (StateM σ) α} {g : α → ExceptT ε (StateM σ) β} {s s' : σ} {b : β} :
    Gives (x >>= g) s b s' ↔ ∃ a s₁, Gives x s a s₁ ∧ Gives (g a) s₁ b s' := by
  unfold Gives
  rw [run_bind]
  rcases x.run s with ⟨_ | a, s₁⟩
  · constructor
    · intro h
      cases h
    · rintro ⟨a, s₁, h, -⟩
      cases h
  · constructor
    · intro h
      exact ⟨a, s₁, rfl, h⟩
    · rintro ⟨a', s₁', h, hg⟩
      cases h
      exact hg

/-! ## Generated content -/

/-- The value is the template with each leaf replaced by a text that `f` can give for it. -/
inductive Generated (f : Value → ExceptT ε (StateM σ) Text) : Value → Value → Prop
  | null : Generated f .null .null
  | leaf {t : Value} {text : Text} {s s' : σ} : t.isContainer = false → t.isNull = false →
    Gives (f t) s text s' → Generated f t (.text text)
  | list {ts vs : List Value} : List.Forall₂ (Generated f) ts vs → Generated f (.list ts) (.list vs)
  | object {ms ns : Members Value} : Members.Rel (Generated f) ms ns →
    Generated f (.object ms) (.object ns)

theorem generated_leaf_of_gives {t v : Value} (ht : t.isContainer = false)
    (hnull : t.isNull = false) {s s' : σ} (h : Gives (fillLeaf f t) s v s') : Generated f t v := by
  obtain ⟨text, s₁, htext, h⟩ := gives_bind.1 h
  obtain ⟨rfl, rfl⟩ := gives_pure.1 h
  exact .leaf ht hnull htext

theorem forall₂_of_gives {ts vs : List Value}
    (hitems : ∀ t ∈ ts, ∀ v s s', Gives (fill f t) s v s' → Generated f t v) {s s' : σ}
    (h : Gives (fillItems f ts) s vs s') : List.Forall₂ (Generated f) ts vs := by
  induction ts generalizing vs s with
  | nil =>
    obtain ⟨rfl, rfl⟩ := gives_pure.1 h
    exact .nil
  | cons t ts ih =>
    obtain ⟨v, s₁, hv, h⟩ := gives_bind.1 h
    obtain ⟨rest, s₂, hrest, h⟩ := gives_bind.1 h
    obtain ⟨rfl, rfl⟩ := gives_pure.1 h
    exact .cons (hitems t List.mem_cons_self v s s₁ hv)
      (ih (fun t ht => hitems t (List.mem_cons_of_mem _ ht)) hrest)

theorem rel_of_gives {ms ns : Members Value}
    (hmembers : ∀ m ∈ ms, ∀ v s s', Gives (fill f m.2) s v s' → Generated f m.2 v) {s s' : σ}
    (h : Gives (fillMembers f ms) s ns s') : Members.Rel (Generated f) ms ns := by
  induction ms generalizing ns s with
  | nil =>
    obtain ⟨rfl, rfl⟩ := gives_pure.1 h
    exact .nil
  | cons m ms ih =>
    obtain ⟨v, s₁, hv, h⟩ := gives_bind.1 h
    obtain ⟨rest, s₂, hrest, h⟩ := gives_bind.1 h
    obtain ⟨rfl, rfl⟩ := gives_pure.1 h
    exact .cons (hmembers m List.mem_cons_self v s s₁ hv)
      (ih (fun m hm => hmembers m (List.mem_cons_of_mem _ hm)) hrest)

/-- What is generated from a template is the template with texts for its leaves. -/
theorem generated_of_gives {t v : Value} {s s' : σ} (h : Gives (fill f t) s v s') :
    Generated f t v := by
  induction t using Value.induction generalizing v s s' with
  | null =>
    obtain ⟨rfl, rfl⟩ := gives_pure.1 h
    exact .null
  | list ts ih =>
    obtain ⟨vs, s₁, hvs, h⟩ := gives_bind.1 h
    obtain ⟨rfl, rfl⟩ := gives_pure.1 h
    exact .list (forall₂_of_gives (fun t ht v s s' => ih t ht) hvs)
  | object ms ih =>
    obtain ⟨ns, s₁, hns, h⟩ := gives_bind.1 h
    obtain ⟨rfl, rfl⟩ := gives_pure.1 h
    exact .object (rel_of_gives (fun m hm v s s' => ih m hm) hns)
  | _ => exact generated_leaf_of_gives rfl rfl h

/-! ## Content is generated -/

/-- The function gives a text, whatever the state. -/
def Responds {α : Type} (f : α → ExceptT ε (StateM σ) Text) (a : α) : Prop :=
  ∀ s, ∃ text s', Gives (f a) s text s'

theorem exists_fillLeaf {t : Value} (h : Responds f t) (s : σ) :
    ∃ v s', Gives (fillLeaf f t) s v s' := by
  obtain ⟨text, s', htext⟩ := h s
  exact ⟨.text text, s', gives_bind.2 ⟨text, s', htext, gives_pure.2 ⟨rfl, rfl⟩⟩⟩

theorem exists_fillItems {ts : List Value}
    (hitems : ∀ t ∈ ts, ∀ s, ∃ v s', Gives (fill f t) s v s') (s : σ) :
    ∃ vs s', Gives (fillItems f ts) s vs s' := by
  induction ts generalizing s with
  | nil => exact ⟨[], s, rfl⟩
  | cons t ts ih =>
    obtain ⟨v, s₁, hv⟩ := hitems t List.mem_cons_self s
    obtain ⟨vs, s₂, hvs⟩ := ih (fun t ht => hitems t (List.mem_cons_of_mem _ ht)) s₁
    exact ⟨v :: vs, s₂, gives_bind.2 ⟨v, s₁, hv, gives_bind.2 ⟨vs, s₂, hvs, gives_pure.2 ⟨rfl, rfl⟩⟩⟩⟩

theorem exists_fillMembers {ms : Members Value}
    (hmembers : ∀ m ∈ ms, ∀ s, ∃ v s', Gives (fill f m.2) s v s') (s : σ) :
    ∃ ns s', Gives (fillMembers f ms) s ns s' := by
  induction ms generalizing s with
  | nil => exact ⟨[], s, rfl⟩
  | cons m ms ih =>
    obtain ⟨v, s₁, hv⟩ := hmembers m List.mem_cons_self s
    obtain ⟨ns, s₂, hns⟩ := ih (fun m hm => hmembers m (List.mem_cons_of_mem _ hm)) s₁
    exact ⟨(m.1, v) :: ns, s₂,
      gives_bind.2 ⟨v, s₁, hv, gives_bind.2 ⟨ns, s₂, hns, gives_pure.2 ⟨rfl, rfl⟩⟩⟩⟩

theorem mem_scalars_self {t : Value} (ht : t.isContainer = false) (hnull : t.isNull = false) :
    t ∈ scalars t := by
  cases t with
  | null => cases hnull
  | list _ => cases ht
  | object _ => cases ht
  | _ => exact List.mem_cons_self

theorem mem_itemScalars {ts : List Value} {leaf : Value} :
    leaf ∈ itemScalars ts ↔ ∃ t ∈ ts, leaf ∈ scalars t := by
  induction ts with
  | nil => simp [itemScalars]
  | cons t ts ih => simp [itemScalars, ih]

theorem mem_memberScalars {ms : Members Value} {leaf : Value} :
    leaf ∈ memberScalars ms ↔ ∃ m ∈ ms, leaf ∈ scalars m.2 := by
  induction ms with
  | nil => simp [memberScalars]
  | cons m ms ih => simp [memberScalars, ih]

/-- **Content is generated** from a template if there is a text for each of its leaves. -/
theorem exists_fill {t : Value} (h : ∀ leaf ∈ scalars t, Responds f leaf) (s : σ) :
    ∃ v s', Gives (fill f t) s v s' := by
  induction t using Value.induction generalizing s with
  | null => exact ⟨.null, s, rfl⟩
  | list ts ih =>
    have hitems : ∀ t ∈ ts, ∀ s, ∃ v s', Gives (fill f t) s v s' := fun t ht =>
      ih t ht fun leaf hleaf => h leaf (mem_itemScalars.2 ⟨t, ht, hleaf⟩)
    obtain ⟨vs, s', hvs⟩ := exists_fillItems hitems s
    exact ⟨.list vs, s', gives_bind.2 ⟨vs, s', hvs, gives_pure.2 ⟨rfl, rfl⟩⟩⟩
  | object ms ih =>
    have hmembers : ∀ m ∈ ms, ∀ s, ∃ v s', Gives (fill f m.2) s v s' := fun m hm =>
      ih m hm fun leaf hleaf => h leaf (mem_memberScalars.2 ⟨m, hm, hleaf⟩)
    obtain ⟨ns, s', hns⟩ := exists_fillMembers hmembers s
    exact ⟨.object ns, s', gives_bind.2 ⟨ns, s', hns, gives_pure.2 ⟨rfl, rfl⟩⟩⟩
  | _ => exact exists_fillLeaf (h _ List.mem_cons_self) s

theorem fillItems_congr {g : Value → ExceptT ε (StateM σ) Text} {ts : List Value}
    (hitems : ∀ t ∈ ts, fill f t = fill g t) : fillItems f ts = fillItems g ts := by
  induction ts with
  | nil => rfl
  | cons t ts ih =>
    rw [fillItems, fillItems, hitems t List.mem_cons_self,
      ih fun t ht => hitems t (List.mem_cons_of_mem _ ht)]

theorem fillMembers_congr {g : Value → ExceptT ε (StateM σ) Text} {ms : Members Value}
    (hmembers : ∀ m ∈ ms, fill f m.2 = fill g m.2) : fillMembers f ms = fillMembers g ms := by
  induction ms with
  | nil => rfl
  | cons m ms ih =>
    rw [fillMembers, fillMembers, hmembers m List.mem_cons_self,
      ih fun m hm => hmembers m (List.mem_cons_of_mem _ hm)]

/-- Content depends on what the function makes of the leaves of its template. -/
theorem fill_congr {g : Value → ExceptT ε (StateM σ) Text} {t : Value}
    (h : ∀ leaf ∈ scalars t, f leaf = g leaf) : fill f t = fill g t := by
  induction t using Value.induction with
  | null => rfl
  | list ts ih =>
    have hitems := fillItems_congr fun t ht =>
      ih t ht fun leaf hleaf => h leaf (mem_itemScalars.2 ⟨t, ht, hleaf⟩)
    rw [fill, fill, hitems]
  | object ms ih =>
    have hmembers := fillMembers_congr fun m hm =>
      ih m hm fun leaf hleaf => h leaf (mem_memberScalars.2 ⟨m, hm, hleaf⟩)
    rw [fill, fill, hmembers]
  | _ =>
    rw [fill, fill, fillLeaf, fillLeaf, h _ List.mem_cons_self]

/-! ## Content has the containers of its template -/

theorem Generated.prunes {t v : Value} (h : Generated f t v) : Prunes t v := by
  induction t using Value.induction generalizing v with
  | list ts ih =>
    cases h with
    | leaf ht _ _ => cases ht
    | list hitems => exact .list (forall₂_imp_of_mem hitems fun t ht v => ih t ht)
  | object ms ih =>
    cases h with
    | leaf ht _ _ => cases ht
    | object hmembers => exact .object (hmembers.imp_of_mem fun m hm v => ih m hm)
  | null =>
    cases h with
    | null => exact .cut rfl
    | leaf _ _ _ => exact .cut rfl
  | _ =>
    cases h with
    | leaf _ _ _ => exact .cut rfl

theorem Generated.prunes_template {t v : Value} (h : Generated f t v) : Prunes v t := by
  induction t using Value.induction generalizing v with
  | list ts ih =>
    cases h with
    | leaf ht _ _ => cases ht
    | list hitems => exact .list (forall₂_imp_of_mem hitems fun t ht v => ih t ht).flip
  | object ms ih =>
    cases h with
    | leaf ht _ _ => cases ht
    | object hmembers => exact .object (hmembers.imp_of_mem fun m hm v => ih m hm).flip
  | _ => exact .cut rfl

end MockApi.Template
