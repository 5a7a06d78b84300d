import Mathlib.Data.List.Infix
import MockApi.Path.Read

/-!
# Blank values count as missing

* `Path.Visits segments v rest u` : a look-up of the segments in `v` goes on with `rest` in `u`;
* `Path.Collects segments v w` : on its way a wildcard collects `w`;
* `Value.Listed w v` : `w` is an item of nested lists;
* `Path.not_isBlank_of_follow` : a look-up that drops blank values answers none of them;
* `Path.get_not_isBlank_iff` : and its wildcards collect none of them if and only if there is none in
  a list that the path ends on with a wildcard.
-/

namespace MockApi

/-- An item of a list, or of a list among its items. -/
inductive Value.Listed (w : Value) : Value → Prop
  | item {items : List Value} : w ∈ items → Listed w (.list items)
  | deeper {items : List Value} {u : Value} : u ∈ items → Listed w u → Listed w (.list items)

namespace Path

open Value (Listed)

variable {segments rest : List Text} {segment : Text} {u v w found : Value} {items : List Value}

/-- A look-up of segments goes on with some of them in a part of the value: behind a wildcard in each
item of a list, and else in a list or an object that one segment leads to. -/
inductive Visits : List Text → Value → List Text → Value → Prop
  | here (segments : List Text) (v : Value) : Visits segments v segments v
  | each {rest rest' : List Text} {items : List Value} {v u : Value} : v ∈ items →
    Visits rest v rest' u → Visits (wildcard :: rest) (.list items) rest' u
  | deeper {segment : Text} {rest rest' : List Text} {v found u : Value} :
    (∀ items, v = .list items → segment ≠ wildcard) → child segment v = .ok found →
    found.isContainer = true → Visits rest found rest' u → Visits (segment :: rest) v rest' u

/-- A wildcard that a look-up without blank values comes to collects the value. -/
def Collects (segments : List Text) (v w : Value) : Prop :=
  ∃ rest items collected, Visits segments v (wildcard :: rest) (.list items) ∧
    follow false (wildcard :: rest) (.list items) = .ok (.list collected) ∧ w ∈ collected

/-! ## One step of a look-up -/

theorem mem_of_mapM {ε : Type} {f : Value → Except ε Value} {collected : List Value}
    (h : items.mapM f = .ok collected) :
    (∀ w ∈ collected, ∃ v ∈ items, f v = .ok w) ∧ ∀ v ∈ items, ∃ w ∈ collected, f v = .ok w := by
  induction items generalizing collected with
  | nil =>
    cases h
    exact ⟨nofun, nofun⟩
  | cons v items ih =>
    rw [List.mapM_cons] at h
    cases hv : f v with
    | error fault =>
      rw [hv] at h
      cases h
    | ok w =>
      cases hitems : items.mapM f with
      | error fault =>
        rw [hv, hitems] at h
        cases h
      | ok ws =>
        rw [hv, hitems] at h
        cases h
        obtain ⟨hback, hforth⟩ := ih hitems
        constructor
        · intro w' hw'
          obtain rfl | hw' := List.mem_cons.1 hw'
          · exact ⟨v, List.mem_cons_self, hv⟩
          · obtain ⟨u, hu, hfu⟩ := hback w' hw'
            exact ⟨u, List.mem_cons_of_mem _ hu, hfu⟩
        · intro u hu
          obtain rfl | hu := List.mem_cons.1 hu
          · exact ⟨w, List.mem_cons_self, hv⟩
          · obtain ⟨w', hw', hfu⟩ := hforth u hu
            exact ⟨w', List.mem_cons_of_mem _ hw', hfu⟩

/-- What a wildcard collects from a list is what the rest of the path leads to in its items, null left
out. -/
theorem mem_follow_wildcard {keepBlank : Bool}
    (h : follow keepBlank (wildcard :: rest) (.list items) = .ok found) :
    ∃ collected, found = .list collected ∧
      (∀ w ∈ collected, w ≠ .null ∧ ∃ v ∈ items, follow keepBlank rest v = .ok w) ∧
      ∀ v ∈ items, ∃ w, follow keepBlank rest v = .ok w ∧ (w ≠ .null → w ∈ collected) := by
  rw [follow_wildcard] at h
  cases hitems : items.mapM (follow keepBlank rest) with
  | error fault =>
    rw [hitems] at h
    cases h
  | ok ws =>
    rw [hitems] at h
    cases h
    obtain ⟨hback, hforth⟩ := mem_of_mapM hitems
    refine ⟨_, rfl, fun w hw => ?_, fun v hv => ?_⟩
    · obtain ⟨hmem, hnull⟩ := List.mem_filter.1 hw
      refine ⟨?_, hback w hmem⟩
      rintro rfl
      cases hnull
    · obtain ⟨w, hw, hfollow⟩ := hforth v hv
      refine ⟨w, hfollow, fun hne => List.mem_filter.2 ⟨hw, ?_⟩⟩
      rwa [Bool.not_eq_true', ← Bool.not_eq_true, Value.isNull_iff]

/-- A wildcard at the end collects whatever is not null. -/
theorem follow_last_wildcard (keepBlank : Bool) (items : List Value) :
    follow keepBlank [wildcard] (.list items) = .ok (.list (items.filter fun v => !v.isNull)) := by
  have hitems : items.mapM (follow keepBlank []) = .ok (items.map id) :=
    List.mapM_pure
  rw [follow_wildcard, hitems, List.map_id]
  rfl

theorem follow_container {keepBlank : Bool} (hnext : ∀ items, v = .list items → segment ≠ wildcard)
    (hchild : child segment v = .ok u) (hu : u.isContainer = true) :
    follow keepBlank (segment :: rest) v = follow keepBlank rest u := by
  have hnull : u.isNull = false := by cases u <;> first | rfl | cases hu
  rw [follow_child hnext, hchild]
  simp [Except.bind, hnull, hu, Value.isBlank_of_isContainer hu]

/-! ## What is answered -/

/-- A look-up that drops blank values answers null or what is not blank. -/
theorem not_isBlank_of_follow (hne : segments ≠ []) (h : follow false segments v = .ok found)
    (hfound : found ≠ .null) : found.isBlank = false := by
  induction segments generalizing v with
  | nil => exact absurd rfl hne
  | cons segment rest ih =>
    by_cases hnext : ∀ items, v = .list items → segment ≠ wildcard
    · rw [follow_child hnext] at h
      cases hchild : child segment v with
      | error fault =>
        rw [hchild] at h
        cases h
      | ok next =>
        rw [hchild] at h
        simp only [Except.bind] at h
        split at h
        · cases h
          exact absurd rfl hfound
        · next hkept =>
          split at h
          · next hcontainer =>
            cases rest with
            | nil =>
              cases h
              exact Value.isBlank_of_isContainer hcontainer
            | cons segment' rest => exact ih (List.cons_ne_nil _ _) h
          · cases h
            simpa using (not_or.1 (mt Bool.or_eq_true_iff.2 hkept)).2
    · push Not at hnext
      obtain ⟨items, rfl, rfl⟩ := hnext
      obtain ⟨collected, rfl, -⟩ := mem_follow_wildcard h
      rfl

/-! ## What is collected -/

theorem Visits.suffix {rest : List Text} (h : Visits segments v rest u) : rest <:+ segments := by
  induction h with
  | here => exact List.suffix_refl _
  | each _ _ ih => exact ih.trans (List.suffix_cons _ _)
  | deeper _ _ _ _ ih => exact ih.trans (List.suffix_cons _ _)

/-- What is collected stands in the lists that are answered. -/
theorem Collects.listed (h : Collects segments v w) (hfound : follow false segments v = .ok found) :
    Listed w found := by
  obtain ⟨rest, items, collected, hvisits, hfollow, hw⟩ := h
  generalize htarget : wildcard :: rest = target at hvisits
  generalize hlist : Value.list items = list at hvisits
  induction hvisits generalizing found with
  | here segments v =>
    subst htarget hlist
    rw [hfollow] at hfound
    cases hfound
    exact .item hw
  | each hv _ ih =>
    obtain ⟨kept, rfl, -, hkept⟩ := mem_follow_wildcard hfound
    obtain ⟨u, hu, hmem⟩ := hkept _ hv
    have hlisted := ih hu htarget hlist
    have hne : u ≠ .null := by
      rintro rfl
      cases hlisted
    exact .deeper (hmem hne) hlisted
  | deeper hnext hchild hcontainer _ ih =>
    rw [follow_container hnext hchild hcontainer] at hfound
    exact ih hfound htarget hlist

/-- Only a wildcard at the end of a path collects blank values, and it collects all of them. -/
theorem collects_not_isBlank_iff : (∀ w, Collects segments v w → w.isBlank = false) ↔
    ∀ items, Visits segments v [wildcard] (.list items) →
      ∀ item ∈ items, item ≠ .null → item.isBlank = false := by
  constructor
  · intro h items hvisits item hitem hne
    have hkept : item ∈ items.filter fun v => !v.isNull := List.mem_filter.2 ⟨hitem, by
      rwa [Bool.not_eq_true', ← Bool.not_eq_true, Value.isNull_iff]⟩
    exact h item ⟨[], items, _, hvisits, follow_last_wildcard false items, hkept⟩
  · rintro h w ⟨rest, items, collected, hvisits, hfollow, hw⟩
    obtain ⟨_, heq, hback, -⟩ := mem_follow_wildcard hfollow
    cases heq
    obtain ⟨hne, item, hitem, hrest⟩ := hback w hw
    cases rest with
    | nil =>
      cases hrest
      exact h items hvisits w hitem hne
    | cons segment rest => exact not_isBlank_of_follow (List.cons_ne_nil _ _) hrest hne

/-- **Blank values count as missing but under a last wildcard.** A look-up that drops blank values
answers none of them. What its wildcards collect stands in the lists that are answered, and is not blank
unless the path ends with a wildcard; then it is blank for the blank items of the lists there, null left
out, and for nothing else. -/
theorem get_not_isBlank_iff {path : Path} (h : path.get false v = .ok found) :
    (found ≠ .null → found.isBlank = false) ∧
    (∀ w, Collects path.segments v w → Listed w found) ∧
    (path.segments.getLast path.ne_nil ≠ wildcard →
      ∀ w, Collects path.segments v w → w.isBlank = false) ∧
    ((∀ w, Collects path.segments v w → w.isBlank = false) ↔
      ∀ items, Visits path.segments v [wildcard] (.list items) →
        ∀ item ∈ items, item ≠ .null → item.isBlank = false) := by
  refine ⟨not_isBlank_of_follow path.ne_nil h, fun w hw => hw.listed h, fun hlast => ?_,
    collects_not_isBlank_iff⟩
  refine collects_not_isBlank_iff.2 fun items hvisits => ?_
  obtain ⟨passed, hpassed⟩ := hvisits.suffix
  exact absurd (by simp [← hpassed]) hlast

/-- A field of each item that is false in the first one. -/
theorem get_not_isBlank_iff_field :
    let path : Path := ⟨["rows", "*", "on"], by decide, by decide⟩
    let v : Value := .object [("rows", .list [.object [("on", .bool false)], .object [("on", .int 1)]])]
    path.get false v = .ok (.list [.int 1]) ∧
      (∀ w, Collects path.segments v w → Listed w (.list [.int 1])) ∧
      (∀ w, Collects path.segments v w → w.isBlank = false) := by
  intro path v
  have h : path.get false v = .ok (.list [.int 1]) := rfl
  obtain ⟨-, hlisted, hlast, -⟩ := get_not_isBlank_iff h
  exact ⟨h, hlisted, hlast (by decide)⟩

/-- A last wildcard collects false, zero and the empty text. -/
theorem get_keeps_blank_items :
    let path : Path := ⟨["flags", "*"], by decide, by decide⟩
    let v : Value := .object [("flags", .list [.bool false, .int 0, .text [], .int 1])]
    path.get false v = .ok (.list [.bool false, .int 0, .text [], .int 1]) ∧
      Collects path.segments v (.int 0) ∧ ¬ ∀ w, Collects path.segments v w → w.isBlank = false := by
  intro path v
  have hvisits : Visits path.segments v ["*"] (.list [.bool false, .int 0, .text [], .int 1]) :=
    .deeper nofun rfl rfl (.here _ _)
  have hzero : Collects path.segments v (.int 0) :=
    ⟨[], _, _, hvisits, follow_last_wildcard false _, .tail _ (.head _)⟩
  exact ⟨rfl, hzero, fun h => nomatch h _ hzero⟩

end Path

end MockApi
