import MockApi.Proofs.Writing

/-!
# Reading what was written

* `Path.gathered segments v` : what a path leads to in a value, with a list of all items for every
  wildcard;
* `Value.mapAtDepth f depth v` : a function applied to what nested lists hold at a depth;
* `Path.get_write_of_resolves` : after a write through a path that resolves the path leads to what the
  function makes of what it led to before.
-/

namespace MockApi

namespace Value

/-- Nested lists with the function applied to what they hold at the depth. -/
def mapAtDepth (f : Value → Value) : Nat → Value → Value
  | 0, v => f v
  | depth + 1, .list items => .list (items.map (mapAtDepth f depth))
  | _ + 1, v => v

/-- Down to the depth there are nested lists, and there nothing is null. -/
def FullAtDepth : Nat → Value → Prop
  | 0, v => v ≠ .null
  | depth + 1, .list items => ∀ v ∈ items, FullAtDepth depth v
  | _ + 1, _ => False

theorem isNull_of_ne {v : Value} (h : v ≠ .null) : v.isNull = false := by
  rwa [← Bool.not_eq_true, isNull_iff]

theorem FullAtDepth.ne_null {depth : Nat} {v : Value} (h : v.FullAtDepth depth) : v ≠ .null := by
  rintro rfl
  cases depth with
  | zero => exact h rfl
  | succ depth => exact h

end Value

namespace Path

variable {f : Value → Value} {segments rest : List Text} {segment : Text} {u v : Value}
  {items : List Value} {members : Members Value}

/-- What a path leads to in a value in which it resolves: for every wildcard the list of what it leads
to in each of the items. -/
def gathered : List Text → Value → Value
  | [], v => v
  | segment :: rest, .object members => ((Members.get? members segment).map (gathered rest)).getD .null
  | segment :: rest, .list items =>
    if segment = wildcard then .list (items.map (gathered rest))
    else
      match indexOf? segment with
      | .ok (some i) => ((items[i]?).map (gathered rest)).getD .null
      | _ => .null
  | _ :: _, _ => .null

/-! ## Reading where a path resolves -/

theorem ne_null_of_reaches (h : reaches segments v = .ok true) : v ≠ .null := by
  rintro rfl
  cases segments with
  | nil => cases h
  | cons segment rest => cases reaches_cases h

theorem gathered_items : gathered (wildcard :: rest) (.list items) = .list (items.map (gathered rest)) := by
  rw [gathered, if_pos rfl]

theorem gathered_member (h : Members.get? members segment = some u) :
    gathered (segment :: rest) (.object members) = gathered rest u := by
  rw [gathered, h, Option.map_some, Option.getD_some]

theorem gathered_item {i : Nat} (hwild : segment ≠ wildcard) (hi : indexOf? segment = .ok (some i))
    (h : items[i]? = some u) : gathered (segment :: rest) (.list items) = gathered rest u := by
  simp only [gathered, if_neg hwild, hi, h, Option.map_some, Option.getD_some]

theorem fullAtDepth_gathered (h : reaches segments v = .ok true) :
    (gathered segments v).FullAtDepth (segments.count wildcard) := by
  induction segments generalizing v with
  | nil => exact ne_null_of_reaches h
  | cons segment rest ih =>
    cases reaches_cases h with
    | items hwild hitems =>
      subst hwild
      rw [gathered_items, List.count_cons_self]
      intro w hw
      obtain ⟨u, hu, rfl⟩ := List.mem_map.1 hw
      exact ih (hitems u hu)
    | member hwild hget hrest =>
      rw [gathered_member hget, List.count_cons_of_ne hwild]
      exact ih hrest
    | item hwild hi hitem hrest =>
      rw [gathered_item hwild hi hitem, List.count_cons_of_ne hwild]
      exact ih hrest

theorem mapM_eq_ok_map {g : Value → Except IntegerFault Value} {k : Value → Value}
    (h : ∀ v ∈ items, g v = .ok (k v)) : items.mapM g = .ok (items.map k) := by
  induction items with
  | nil => rfl
  | cons v items ih =>
    rw [List.forall_mem_cons] at h
    rw [List.mapM_cons, h.1, ih h.2]
    rfl

/-- A value in which the rest of a path resolves is not passed over, and only the end of a path is no
container. -/
theorem descend_of_reaches (h : reaches rest u = .ok true) :
    (if u.isNull || (!true && u.isBlank) then .ok .null
      else if u.isContainer then follow true rest u else .ok u) = follow true rest u := by
  rw [Value.isNull_of_ne (ne_null_of_reaches h)]
  cases rest with
  | nil => simp [follow]
  | cons segment rest => cases reaches_cases h <;> rfl

/-- A look-up that keeps blank values finds all that a path that resolves leads to. -/
theorem follow_of_reaches (h : reaches segments v = .ok true) :
    follow true segments v = .ok (gathered segments v) := by
  induction segments generalizing v with
  | nil => rfl
  | cons segment rest ih =>
    cases reaches_cases h with
    | @items items hwild hitems =>
      subst hwild
      -- What the look-up drops from the list is null, and no item leads to null.
      have hkept : (items.map (gathered rest)).filter (fun w => !w.isNull) = items.map (gathered rest) := by
        refine List.filter_eq_self.2 fun w hw => ?_
        obtain ⟨u, hu, rfl⟩ := List.mem_map.1 hw
        rw [Value.isNull_of_ne (fullAtDepth_gathered (hitems u hu)).ne_null, Bool.not_false]
      rw [follow_wildcard, mapM_eq_ok_map fun u hu => ih (hitems u hu), gathered_items, Except.map, hkept]
    | @member members u hwild hget hrest =>
      have hchild : child segment (.object members) = .ok u := by simp [child, hget]
      rw [follow_child fun _ _ => hwild, hchild, gathered_member hget]
      exact (descend_of_reaches hrest).trans (ih hrest)
    | @item items i u hwild hi hitem hrest =>
      have hchild : child segment (.list items) = .ok u := by
        simp [child, hi, hitem, bind, Except.bind, pure, Except.pure]
      rw [follow_child fun _ _ => hwild, hchild, gathered_item hwild hi hitem]
      exact (descend_of_reaches hrest).trans (ih hrest)

/-! ## Reading after a write -/

/-- A path that resolves does so after a write that makes no null, and then it leads to what the
function makes of what it led to before. -/
theorem gathered_changeAt (h : reaches segments v = .ok true) (hf : ∀ u, u ≠ .null → f u ≠ .null) :
    reaches segments (changeAt f segments v) = .ok true ∧
      gathered segments (changeAt f segments v) =
        (gathered segments v).mapAtDepth f (segments.count wildcard) := by
  induction segments generalizing v with
  | nil =>
    have hnull := Value.isNull_of_ne (hf v (ne_null_of_reaches h))
    exact ⟨by rw [changeAt, reaches, hnull]; rfl, rfl⟩
  | cons segment rest ih =>
    cases reaches_cases h with
    | @items items hwild hitems =>
      subst hwild
      rw [changeAt_wildcard, reaches_items, gathered_items, gathered_items, List.count_cons_self,
        Value.mapAtDepth, List.map_map, List.map_map]
      refine ⟨fun w hw => ?_, ?_⟩
      · obtain ⟨u, hu, rfl⟩ := List.mem_map.1 hw
        exact (ih (hitems u hu)).1
      · exact congrArg Value.list (List.map_congr_left fun u hu => (ih (hitems u hu)).2)
    | @member members u hwild hget hrest =>
      have hnew := Members.get?_put_self members segment (changeAt f rest u)
      rw [changeAt_member hget, reaches_member hwild hnew, gathered_member hnew, gathered_member hget,
        List.count_cons_of_ne hwild]
      exact ih hrest
    | @item items i u hwild hi hitem hrest =>
      obtain ⟨hlt, -⟩ := List.getElem?_eq_some_iff.1 hitem
      have hnew : (items.set i (changeAt f rest u))[i]? = some (changeAt f rest u) :=
        List.getElem?_set_self hlt
      rw [changeAt_index hwild hi hitem, reaches_item hwild hi hnew, gathered_item hwild hi hnew,
        gathered_item hwild hi hitem, List.count_cons_of_ne hwild]
      exact ih hrest

/-- **What was written is read.** A write through a path that resolves does not stop. The look-up that
keeps blank values finds, for every wildcard, one entry for each item, in order; afterwards it finds the
same with the function applied at the depth that is the number of wildcards. -/
theorem get_write_of_resolves {path : Path} (h : path.resolves v = .ok true)
    (hf : ∀ u, u ≠ .null → f u ≠ .null) :
    ∃ document, path.write (always f) v = ⟨document, none⟩ ∧
      path.get true v = .ok (gathered path.segments v) ∧
      (gathered path.segments v).FullAtDepth (path.segments.count wildcard) ∧
      path.get true document =
        .ok ((gathered path.segments v).mapAtDepth f (path.segments.count wildcard)) := by
  obtain ⟨hreaches, hgathered⟩ := gathered_changeAt h hf
  refine ⟨changeAt f path.segments v, write_of_leads (leads_of_reaches h) f, follow_of_reaches h,
    fullAtDepth_gathered h, ?_⟩
  rw [get, follow_of_reaches hreaches, hgathered]

/-- Two wildcards, values that count as blank, and an empty list. -/
theorem get_write_of_resolves_nested :
    let v : Value := .object [("a", .list [.list [.int 0, .bool false], .list []])]
    let path : Path := ⟨["a", "*", "*"], by decide, by decide⟩
    let f : Value → Value := fun u => .list [u]
    path.resolves v = .ok true ∧ (∀ u, u ≠ .null → f u ≠ .null) ∧
      ∃ document, path.write (always f) v = ⟨document, none⟩ ∧
        path.get true v = .ok (.list [.list [.int 0, .bool false], .list []]) ∧
        path.get true document =
          .ok (.list [.list [.list [.int 0], .list [.bool false]], .list []]) := by
  intro v path f
  have hresolves : path.resolves v = .ok true := rfl
  have hf : ∀ u, u ≠ .null → f u ≠ .null := fun u _ => nofun
  obtain ⟨document, hwrite, hbefore, -, hafter⟩ := get_write_of_resolves hresolves hf
  exact ⟨hresolves, hf, document, hwrite, hbefore, hafter⟩

end Path

end MockApi
