import MockApi.Proofs.Addressing

/-!
# Two writes through one path

* `Path.Fuses first second both v` : two writes that do one after the other what a third one does at
  once, also where they are stopped;
* `Path.fuses_writeFrom` : this holds of two functions and their composition, written through one path;
* `Path.write_write` : two writes through one path are one, and whether and where a write stops does not
  depend on what is written.
-/

namespace MockApi

theorem Members.put_put {α : Type} (members : Members α) (name : Text) (first second : α) :
    put (put members name first) name second = put members name second := by
  induction members with
  | nil => simp [put]
  | cons member rest ih =>
    obtain ⟨key, old⟩ := member
    by_cases hkey : key = name
    · simp [put, hkey]
    · simp [put, hkey, ih]

namespace Path

/-- The second write makes of what the first one left what `both` makes of the value, and the first one
stops as `both` does. -/
structure Fuses (first second both : Value → Written Empty) (v : Value) : Prop where
  error : (first v).error? = (both v).error?
  document : second (first v).document = both v

/-- Two writes to every item of a list. -/
theorem Fuses.writeItems {first second both : Nat → Value → Written Empty}
    (h : ∀ i v, Fuses (first i) (second i) (both i) v) (k : Nat) (items : List Value) :
    (writeItems first k items).2 = (writeItems both k items).2 ∧
      writeItems second k (writeItems first k items).1 = writeItems both k items := by
  induction items generalizing k with
  | nil => exact ⟨rfl, rfl⟩
  | cons v items ih =>
    obtain ⟨herror, hdocument⟩ := h k v
    obtain ⟨hrestError, hrest⟩ := ih (k + 1)
    rw [Path.writeItems, Path.writeItems, ← herror]
    dsimp only
    cases hstop : (first k v).error? with
    | some e =>
      refine ⟨rfl, ?_⟩
      simp only [Path.writeItems, hdocument, ← herror, hstop]
    | none =>
      refine ⟨hrestError, ?_⟩
      simp only [Path.writeItems, hdocument, ← herror, hstop, hrest]

/-- **Two functions are written one after the other as their composition is**, by induction on the
segments. The first write keeps what the next segment meets: a part stays where it is, and a member that
was missing is found by the second write. -/
theorem fuses_writeFrom (f g : Value → Value) (path segments trail : List Text) (v : Value) :
    Fuses (writeFrom (always f) path segments trail) (writeFrom (always g) path segments trail)
      (writeFrom (always (g ∘ f)) path segments trail) v := by
  induction segments generalizing v trail with
  | nil => exact ⟨rfl, rfl⟩
  | cons segment rest ih =>
    cases meets segment rest v with
    | blocked h =>
      obtain ⟨hindrance, hwrite⟩ | ⟨fault, hwrite⟩ := writeFrom_blocked h path trail
      · refine ⟨by rw [hwrite, hwrite], ?_⟩
        rw [hwrite f, hwrite (g ∘ f)]
        exact hwrite g
      · refine ⟨by rw [hwrite, hwrite], ?_⟩
        rw [hwrite f, hwrite (g ∘ f)]
        exact hwrite g
    | @member members old h =>
      obtain ⟨herror, hdocument⟩ := ih (trail ++ [segment]) old
      refine ⟨by rw [writeFrom_member h, writeFrom_member h]; exact herror, ?_⟩
      rw [writeFrom_member h, writeFrom_member h]
      simp only [Written.map]
      rw [writeFrom_member (Members.get?_put_self _ _ _), hdocument]
      simp only [Written.map, Members.put_put]
    | @missing members hlast h =>
      subst hlast
      refine ⟨by rw [writeFrom_missing h, writeFrom_missing h], ?_⟩
      -- The second write finds the member that the first one added.
      rw [writeFrom_missing h, writeFrom_missing h, writeFrom_member (Members.get?_put_self _ _ _)]
      simp only [writeFrom, change, always, Written.map, Members.put_put, Function.comp_apply]
    | @item items i old hwild hi h =>
      obtain ⟨hlt, -⟩ := List.getElem?_eq_some_iff.1 h
      obtain ⟨herror, hdocument⟩ := ih (trail ++ [segment]) old
      refine ⟨by rw [writeFrom_item hwild hi h, writeFrom_item hwild hi h]; exact herror, ?_⟩
      rw [writeFrom_item hwild hi h, writeFrom_item hwild hi h]
      simp only [Written.map]
      rw [writeFrom_item hwild hi (List.getElem?_set_self hlt), hdocument]
      simp only [Written.map, List.set_set]
    | @items items hwild =>
      subst hwild
      obtain ⟨herror, hdocument⟩ :=
        Fuses.writeItems (fun i v => ih (trail ++ [indexText i]) v) 0 items
      refine ⟨by rw [writeFrom_items, writeFrom_items]; exact herror, ?_⟩
      rw [writeFrom_items f, writeFrom_items (g ∘ f), writeFrom_items g]
      simp only [hdocument]

/-- **Two writes through one path are one**, also when the last member has to be added first and when
the path cannot be followed everywhere. Whether and where a write stops does not depend on what is
written. -/
theorem write_write (path : Path) (v : Value) (f g : Value → Value) :
    path.write (always g) (path.write (always f) v).document = path.write (always (g ∘ f)) v ∧
      (path.write (always f) v).error? = (path.write (always g) v).error? := by
  refine ⟨(fuses_writeFrom f g path.segments path.segments [] v).document, ?_⟩
  -- Both writes stop as the one that writes null does.
  exact (fuses_writeFrom f (fun _ => .null) path.segments path.segments [] v).error.trans
    (fuses_writeFrom g (fun _ => .null) path.segments path.segments [] v).error.symm

end Path

end MockApi
