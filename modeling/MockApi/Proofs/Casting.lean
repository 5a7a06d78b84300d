import MockApi.Proofs.Writing

/-!
# Casts of generated data

Data that were generated from a template are cast at paths that lead on everywhere in the template.
Each cast only prunes the data, so the next path is still admitted.

* `CastKind.apply_cases` : what a cast of a value gives;
* `castAt_of_leads`, `castAt_of_stuck` : the two ways in which a cast goes;
* `castAll_ok` : casts at admitted paths go well and prune the data;
* `Unstopped casts data` : no cast is stopped;
* `castAt_copies`, `castAll_copies` : casts of a list followed by copies of a list that is less
  pruned.
-/

namespace MockApi

open MockApi.Path (Leads Admits changeAt write_of_leads)
open Repeat (copies)
open Value (Prunes Indexable)

variable {ε : Type} {path : Path} {kind : CastKind} {casts : List (Path × CastKind)}
  {data : Value} {items others : List Value}

/-! ## Casts give leaves -/

/-- A number that is read is an integer or a finite double. -/
theorem plainNumber?_cases {text : Text} {v : Value} (h : plainNumber? text = some v) :
    (∃ n, readInteger (Text.strip text) = .ok n ∧ v = .int n) ∨
      ∃ x : Double, x.isFinite = true ∧ v = .float x := by
  simp only [plainNumber?] at h
  split at h
  · split at h
    · next n hn =>
      cases h
      exact .inl ⟨n, hn, rfl⟩
    · split at h
      · split at h
        · next x _ hfinite =>
          cases h
          exact .inr ⟨x, hfinite, rfl⟩
        · cases h
      · cases h
  · cases h

/-- What a cast gives: a leaf that stays what it is, a number that is read, a truth value, or a text. -/
theorem CastKind.apply_cases (kind : CastKind) (v : Value) :
    (kind.apply v = v ∧ v.isContainer = false) ∨
      (∃ number, plainNumber? v.written = some number ∧ kind.apply v = number) ∨
      (∃ b, kind.apply v = .bool b) ∨ ∃ s, kind.apply v = .text s := by
  unfold CastKind.apply
  split
  · exact .inr (.inr (.inr ⟨_, rfl⟩))
  · cases kind with
    | number =>
      dsimp only [castNumber]
      split
      · exact .inl ⟨rfl, rfl⟩
      · exact .inl ⟨rfl, rfl⟩
      · cases h : plainNumber? v.written with
        | none => exact .inr (.inr (.inr ⟨_, rfl⟩))
        | some number => exact .inr (.inl ⟨number, rfl, rfl⟩)
    | boolean =>
      dsimp only [castBoolean]
      split
      · exact .inr (.inr (.inl ⟨true, rfl⟩))
      · split
        · exact .inr (.inr (.inl ⟨false, rfl⟩))
        · exact .inr (.inr (.inr ⟨_, rfl⟩))
    | text => exact .inr (.inr (.inr ⟨_, rfl⟩))

theorem CastKind.isContainer_apply (kind : CastKind) (v : Value) :
    (kind.apply v).isContainer = false := by
  obtain ⟨h, hv⟩ | ⟨number, hnumber, h⟩ | ⟨b, h⟩ | ⟨s, h⟩ := kind.apply_cases v <;> rw [h]
  · exact hv
  · obtain ⟨n, -, rfl⟩ | ⟨x, -, rfl⟩ := plainNumber?_cases hnumber <;> rfl
  · rfl
  · rfl

/-! ## One cast -/

theorem leaveDiagnostic_of_leads {trail : List Text} (hne : trail ≠ []) (hnil : [] ∉ trail)
    (h : Leads trail data) (diagnostic : Value) :
    leaveDiagnostic (ε := ε) trail diagnostic data =
      .ok (changeAt (fun _ => diagnostic) trail data) := by
  have hleads : Leads (Path.mk trail hne hnil).segments data := h
  have hwrite := write_of_leads hleads fun _ => diagnostic
  rw [leaveDiagnostic, if_neg hne]
  simp only [Path.ofSegments?, dif_pos (And.intro hne hnil), hwrite, Path.Written.result]

/-- A cast at a path that leads on everywhere changes what it leads to. -/
theorem castAt_of_leads (h : Leads path.segments data) (kind : CastKind) :
    castAt (ε := ε) path kind data = .ok (changeAt kind.apply path.segments data) := by
  simp only [castAt, write_of_leads h, Path.Written.result]

/-- A cast at an admitted path that does not lead on everywhere leaves a diagnostic. -/
theorem castAt_of_stuck (hadmits : Admits path.segments data) (hindexable : Indexable data)
    (hstuck : ¬ Leads path.segments data) (kind : CastKind) :
    ∃ data', castAt (ε := ε) path kind data = .ok data' ∧ Prunes data data' := by
  obtain ⟨o, more, d, hwrite, htrail, hnil, hleads, hprunes⟩ :=
    Path.writeFrom_stops path.segments kind.isContainer_apply hadmits hindexable
      path.no_empty hstuck []
  rw [List.nil_append] at htrail
  subst htrail
  have hcast : castAt (ε := ε) path kind data =
      leaveDiagnostic o.trail (castDiagnostic path kind) d := by
    simp only [castAt, Path.write, hwrite]
  by_cases hne : o.trail = []
  · refine ⟨castDiagnostic path kind, ?_, .cut rfl⟩
    rw [hcast, leaveDiagnostic, if_pos hne]
  · refine ⟨_, hcast.trans (leaveDiagnostic_of_leads hne hnil hleads _), ?_⟩
    exact hprunes.trans (Path.prunes_changeAt (fun _ => rfl) hleads)

theorem castAt_ok (hadmits : Admits path.segments data) (hindexable : Indexable data)
    (kind : CastKind) :
    ∃ data', castAt (ε := ε) path kind data = .ok data' ∧ Prunes data data' := by
  by_cases h : Leads path.segments data
  · exact ⟨_, castAt_of_leads h kind, Path.prunes_changeAt kind.isContainer_apply h⟩
  · exact castAt_of_stuck hadmits hindexable h kind

/-! ## All casts -/

theorem castAll_cons (path : Path) (kind : CastKind) (casts : List (Path × CastKind))
    (data : Value) : castAll (ε := ε) ((path, kind) :: casts) data =
      (castAt path kind data).bind (castAll casts) := by
  rw [castAll, List.foldlM_cons]
  rfl

/-- **Casts at admitted paths go well**, whatever the casts before have made of the data. -/
theorem castAll_ok (hadmits : ∀ c ∈ casts, Admits c.1.segments data) (hindexable : Indexable data) :
    ∃ data', castAll (ε := ε) casts data = .ok data' ∧ Prunes data data' := by
  induction casts generalizing data with
  | nil => exact ⟨data, rfl, .refl data⟩
  | cons c casts ih =>
    obtain ⟨path, kind⟩ := c
    obtain ⟨data₁, hcast, hprunes⟩ :=
      castAt_ok (ε := ε) (hadmits _ List.mem_cons_self) hindexable kind
    have hadmits₁ : ∀ c ∈ casts, Admits c.1.segments data₁ := fun c hc =>
      (hadmits c (List.mem_cons_of_mem _ hc)).prunes hprunes
    obtain ⟨data₂, hcasts, hprunes₂⟩ := ih hadmits₁ (hindexable.of_prunes hprunes)
    refine ⟨data₂, ?_, hprunes.trans hprunes₂⟩
    rw [castAll_cons, hcast]
    exact hcasts

/-! ## Lists followed by copies -/

theorem mem_of_mem_copies {count : Nat} {v : Value} (h : v ∈ copies count items) : v ∈ items := by
  obtain ⟨copy, hcopy, hv⟩ := List.mem_flatten.1 h
  exact List.eq_of_mem_replicate hcopy ▸ hv

theorem map_copies (f : Value → Value) (count : Nat) (items : List Value) :
    (copies count items).map f = copies count (items.map f) := by
  rw [copies, copies, List.map_flatten, List.map_replicate]

/-- The first segment of a path stands for every item of a list, or for one that is there. -/
def Path.Enters (segments : List Text) (items : List Value) : Prop :=
  ∃ segment rest, segments = segment :: rest ∧
    (segment ≠ wildcard → ∃ i v, indexOf? segment = .ok (some i) ∧ items[i]? = some v)

theorem Path.Enters.prunes {segments : List Text} {items items' : List Value}
    (h : Enters segments items) (hprunes : List.Forall₂ Prunes items items') :
    Enters segments items' := by
  obtain ⟨segment, rest, hsegments, hinside⟩ := h
  refine ⟨segment, rest, hsegments, fun hwild => ?_⟩
  obtain ⟨i, v, hi, hv⟩ := hinside hwild
  obtain ⟨v', hv', -⟩ := forall₂_getElem? hprunes hv
  exact ⟨i, v', hi, hv'⟩

theorem Path.enters_of_leads (h : Leads path.segments (.list items)) :
    Enters path.segments items := by
  cases hsegments : path.segments with
  | nil => exact absurd hsegments path.ne_nil
  | cons segment rest =>
    refine ⟨segment, rest, rfl, fun hwild => ?_⟩
    rw [hsegments, Path.leads_index hwild] at h
    obtain ⟨i, v, hi, hv, -⟩ := h
    exact ⟨i, v, hi, hv⟩

/-- What a cast makes of a list and of the list with copies of less pruned items behind it: it
changes the first items in the same way, and either all copies in one way or none of them. -/
def CastsCopies (ε : Type) (path : Path) (kind : CastKind) (items others : List Value)
    (count : Nat) (items' others' : List Value) : Prop :=
  castAt (ε := ε) path kind (.list items) = .ok (.list items') ∧
    castAt (ε := ε) path kind (.list (items ++ copies count others)) =
      .ok (.list (items' ++ copies count others')) ∧
    List.Forall₂ Prunes items items' ∧ List.Forall₂ Prunes others' items'

theorem castAt_wildcard_copies {rest : List Text} (hsegments : path.segments = Path.wildcard :: rest)
    (hleads : Leads path.segments (.list items)) (hothers : List.Forall₂ Prunes others items)
    (kind : CastKind) (count : Nat) :
    CastsCopies ε path kind items others count (items.map (changeAt kind.apply rest))
      (others.map (changeAt kind.apply rest)) := by
  have hitems : ∀ v ∈ items, Leads rest v := by
    rwa [hsegments, Path.leads_wildcard] at hleads
  have hcopies : ∀ v ∈ copies count others, Leads rest v := by
    intro v hv
    obtain ⟨u, hu, hvu⟩ := forall₂_exists_mem hothers.flip v (mem_of_mem_copies hv)
    exact (hitems u hu).of_prunes hvu
  have hwhole : Leads path.segments (.list (items ++ copies count others)) := by
    rw [hsegments] at hleads ⊢
    exact hleads.append fun _ => hcopies
  refine ⟨?_, ?_, ?_, ?_⟩
  · rw [castAt_of_leads hleads, hsegments, Path.changeAt_wildcard]
  · rw [castAt_of_leads hwhole, hsegments, Path.changeAt_wildcard, List.map_append, map_copies]
  · refine List.forall₂_map_right_iff.2 (List.forall₂_same.2 fun v hv => ?_)
    exact Path.prunes_changeAt kind.isContainer_apply (hitems v hv)
  · exact forall₂_map_of_mem hothers fun u v hv huv =>
      Path.prunes_changeAt_changeAt kind.isContainer_apply (hitems v hv) huv

theorem castAt_index_copies {segment : Text} {rest : List Text}
    (hsegments : path.segments = segment :: rest) (hwild : segment ≠ Path.wildcard)
    (hleads : Leads path.segments (.list items)) (hothers : List.Forall₂ Prunes others items)
    (kind : CastKind) (count : Nat) :
    ∃ items', CastsCopies ε path kind items others count items' others := by
  have hleads' := hleads
  rw [hsegments, Path.leads_index hwild] at hleads'
  obtain ⟨i, v, hi, hv, hrest⟩ := hleads'
  obtain ⟨hlt, -⟩ := List.getElem?_eq_some_iff.1 hv
  have hv' : (items ++ copies count others)[i]? = some v := by
    rw [List.getElem?_append_left hlt, hv]
  have hwhole : Leads path.segments (.list (items ++ copies count others)) := by
    rw [hsegments] at hleads ⊢
    exact hleads.append fun heq => absurd heq hwild
  have hprunes := Prunes.forall₂_set_right hv
    (Path.prunes_changeAt (g := kind.apply) kind.isContainer_apply hrest)
  refine ⟨items.set i (changeAt kind.apply rest v), ?_, ?_, hprunes,
    Prunes.items_trans hothers hprunes⟩
  · rw [castAt_of_leads hleads, hsegments, Path.changeAt_index hwild hi hv]
  · rw [castAt_of_leads hwhole, hsegments, Path.changeAt_index hwild hi hv',
      List.set_append_left i _ hlt]

theorem castAt_stuck_copies (hadmits : Admits path.segments (.list items))
    (hindexable : Indexable (.list items)) (henters : Path.Enters path.segments items)
    (hstuck : ¬ Leads path.segments (.list items)) (hothers : List.Forall₂ Prunes others items)
    (kind : CastKind) (count : Nat) :
    ∃ items', CastsCopies ε path kind items others count items' others := by
  obtain ⟨segment, rest, hsegments, hinside⟩ := henters
  have hnil := path.no_empty
  rw [hsegments] at hadmits hstuck hnil
  obtain ⟨o, items₁, head, more, i, v, hwrite, htrail, hmore, hwild, hi, hv, hleads, hprunes⟩ :=
    Path.writeFrom_list_stops path.segments kind.isContainer_apply hadmits hindexable hnil
      hinside hstuck []
  rw [List.nil_append] at htrail
  obtain ⟨hlt, -⟩ := List.getElem?_eq_some_iff.1 hv
  let diagnostic := castDiagnostic path kind
  let items' := items₁.set i (changeAt (fun _ => diagnostic) more v)
  -- The write stops at the same place whatever follows the first items, and so the diagnostic does
  -- not go into a copy.
  have hcast : ∀ others, castAt (ε := ε) path kind (.list (items ++ others)) =
      .ok (.list (items' ++ others)) := by
    intro others
    have hv' : (items₁ ++ others)[i]? = some v := by
      rw [List.getElem?_append_left hlt, hv]
    have hplace : Leads (head :: more) (.list (items₁ ++ others)) :=
      (Path.leads_index hwild).2 ⟨i, v, hi, hv', hleads⟩
    have hstop := hwrite others
    rw [← hsegments] at hstop
    simp only [castAt, Path.write, hstop]
    rw [htrail, leaveDiagnostic_of_leads (List.cons_ne_nil _ _) hmore hplace,
      Path.changeAt_index hwild hi hv', List.set_append_left i _ hlt]
  have hset : List.Forall₂ Prunes items items' :=
    Prunes.items_trans hprunes
      (Prunes.forall₂_set_right hv (Path.prunes_changeAt (fun _ => rfl) hleads))
  refine ⟨items', ?_, hcast _, hset, Prunes.items_trans hothers hset⟩
  have halone := hcast []
  rwa [List.append_nil, List.append_nil] at halone

theorem castAt_copies (hadmits : Admits path.segments (.list items))
    (hindexable : Indexable (.list items)) (henters : Path.Enters path.segments items)
    (hothers : List.Forall₂ Prunes others items) (kind : CastKind) (count : Nat) :
    ∃ items' others', CastsCopies ε path kind items others count items' others' := by
  by_cases hleads : Leads path.segments (.list items)
  · obtain ⟨segment, rest, hsegments, -⟩ := henters
    by_cases hwild : segment = Path.wildcard
    · subst hwild
      exact ⟨_, _, castAt_wildcard_copies hsegments hleads hothers kind count⟩
    · obtain ⟨items', hcast⟩ := castAt_index_copies hsegments hwild hleads hothers kind count
      exact ⟨items', others, hcast⟩
  · obtain ⟨items', hcast⟩ :=
      castAt_stuck_copies hadmits hindexable henters hleads hothers kind count
    exact ⟨items', others, hcast⟩

/-- **Casts of a list with copies behind it** change its first items as if they stood alone, and all
copies alike. -/
theorem castAll_copies (hadmits : ∀ c ∈ casts, Admits c.1.segments (.list items))
    (hindexable : Indexable (.list items)) (henters : ∀ c ∈ casts, Path.Enters c.1.segments items)
    (hothers : List.Forall₂ Prunes others items) (count : Nat) :
    ∃ items' others', castAll (ε := ε) casts (.list items) = .ok (.list items') ∧
      castAll (ε := ε) casts (.list (items ++ copies count others)) =
        .ok (.list (items' ++ copies count others')) ∧
      List.Forall₂ Prunes items items' ∧ List.Forall₂ Prunes others' items' := by
  induction casts generalizing items others with
  | nil => exact ⟨items, others, rfl, rfl, Prunes.forall₂_refl items, hothers⟩
  | cons c casts ih =>
    obtain ⟨path, kind⟩ := c
    obtain ⟨items₁, others₁, hcast, hcastCopies, hprunes, hothers₁⟩ := castAt_copies (ε := ε)
      (hadmits _ List.mem_cons_self) hindexable (henters _ List.mem_cons_self) hothers kind count
    obtain ⟨items₂, others₂, hcasts, hcastsCopies, hprunes₂, hothers₂⟩ := ih
      (fun c hc => (hadmits c (List.mem_cons_of_mem _ hc)).prunes (.list hprunes))
      (hindexable.of_prunes (.list hprunes))
      (fun c hc => (henters c (List.mem_cons_of_mem _ hc)).prunes hprunes) hothers₁
    refine ⟨items₂, others₂, ?_, ?_, Prunes.items_trans hprunes hprunes₂, hothers₂⟩
    · rw [castAll_cons, hcast]
      exact hcasts
    · rw [castAll_cons, hcastCopies]
      exact hcastsCopies

/-! ## Casts that are not stopped -/

/-- No cast is stopped on its way, each after the ones before. -/
def Unstopped : List (Path × CastKind) → Value → Prop
  | [], _ => True
  | (path, kind) :: casts, data =>
    (path.write (always kind.apply) data).error? = none ∧
      Unstopped casts (path.write (always kind.apply) data).document

theorem leads_of_unstopped (hadmits : Admits path.segments data) (hindexable : Indexable data)
    (h : (path.write (always kind.apply) data).error? = none) : Leads path.segments data := by
  by_contra hstuck
  obtain ⟨o, more, d, hwrite, -⟩ := Path.writeFrom_stops path.segments
    kind.isContainer_apply hadmits hindexable path.no_empty hstuck []
  rw [Path.write, hwrite] at h
  cases h

theorem document_of_leads (h : Leads path.segments data) :
    (path.write (always kind.apply) data).document = changeAt kind.apply path.segments data := by
  rw [write_of_leads h]

/-- **Casts of every item that are not stopped** keep a list a number of equal copies. -/
theorem castAll_unstopped_copies (hadmits : ∀ c ∈ casts, Admits c.1.segments (.list items))
    (hindexable : Indexable (.list items))
    (hwild : ∀ c ∈ casts, c.1.segments.head? = some Path.wildcard)
    (hunstopped : Unstopped casts (.list items)) (count : Nat) :
    ∃ items', castAll (ε := ε) casts (.list items) = .ok (.list items') ∧
      castAll (ε := ε) casts (.list (items ++ copies count items)) =
        .ok (.list (items' ++ copies count items')) := by
  induction casts generalizing items with
  | nil => exact ⟨items, rfl, rfl⟩
  | cons c casts ih =>
    obtain ⟨path, kind⟩ := c
    obtain ⟨rest, hsegments⟩ : ∃ rest, path.segments = Path.wildcard :: rest :=
      List.head?_eq_some_iff.1 (hwild _ List.mem_cons_self)
    obtain ⟨herror, hrest⟩ := hunstopped
    have hleads := leads_of_unstopped (hadmits _ List.mem_cons_self) hindexable herror
    obtain ⟨hcast, hcastCopies, hprunes, -⟩ := castAt_wildcard_copies (ε := ε) hsegments hleads
      (Prunes.forall₂_refl items) kind count
    rw [document_of_leads hleads, hsegments, Path.changeAt_wildcard] at hrest
    obtain ⟨items₂, hcasts, hcastsCopies⟩ := ih
      (fun c hc => (hadmits c (List.mem_cons_of_mem _ hc)).prunes (.list hprunes))
      (hindexable.of_prunes (.list hprunes)) (fun c hc => hwild c (List.mem_cons_of_mem _ hc)) hrest
    refine ⟨items₂, ?_, ?_⟩
    · rw [castAll_cons, hcast]
      exact hcasts
    · rw [castAll_cons, hcastCopies]
      exact hcastsCopies

end MockApi
