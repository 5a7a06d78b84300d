import Mathlib.Data.List.Induction
import MockApi.Proofs.Merging

/-!
# Header maps

A header map is made of pairs in which no two names differ only in case. It is looked up by names in any
case, and it holds the pairs in order, with the names in lower case.

* `FirstClash pairs e` : the first of the pairs whose name was there before, as the duplicate `e`;
* `HeaderMap.ofPairs_eq_error_iff` : that is the pair for which there is no header map;
* `HeaderMap.Serves headers pairs` : what look-ups, a second making and headers on top are, told by the
  pairs;
* `HeaderMap.ofPairs_laws` : when there is a header map of pairs, and that it serves them.
-/

namespace MockApi

variable {pairs : List (Text × Value)} {e : DuplicateHeader}

/-! ## Pairs without a header map -/

theorem exists_first_repeat {α β : Type} (f : α → β) {as : List α} (h : ¬ (as.map f).Nodup) :
    ∃ before a after, as = before ++ a :: after ∧ (before.map f).Nodup ∧ f a ∈ before.map f := by
  induction as using List.reverseRecOn with
  | nil => exact absurd List.nodup_nil h
  | append_singleton as a ih =>
    by_cases hbefore : (as.map f).Nodup
    · refine ⟨as, a, [], rfl, hbefore, ?_⟩
      by_contra hmem
      refine h ?_
      rw [List.map_append, List.nodup_append]
      refine ⟨hbefore, List.pairwise_singleton _ _, fun b hb b' hb' heq => hmem ?_⟩
      rwa [heq, List.mem_singleton.1 hb'] at hb
    · obtain ⟨before, a', after, rfl, hnodup, hmem⟩ := ih hbefore
      exact ⟨before, a', after ++ [a], by rw [List.append_assoc, List.cons_append], hnodup, hmem⟩

/-- The first of the pairs whose name, in lower case, is one of those before. -/
inductive FirstClash : List (Text × Value) → DuplicateHeader → Prop
  | mk {before after : List (Text × Value)} {name : Text} {v : Value} :
    (before.map fun pair => Text.lower pair.1).Nodup →
    Text.lower name ∈ (before.map fun pair => Text.lower pair.1) →
    FirstClash (before ++ (name, v) :: after) ⟨name, Text.lower name⟩

namespace HeaderMap

variable {headers : HeaderMap}

theorem ofPairs_of_firstClash (h : FirstClash pairs e) : ofPairs pairs = .error e := by
  cases h with
  | @mk before after name v hnodup hmem =>
    obtain ⟨headers, hheaders⟩ := exists_ofPairs hnodup
    rw [← keys_of_ofPairs hheaders] at hmem
    have hfirst : ofPairs (before ++ [(name, v)]) = .error ⟨name, Text.lower name⟩ := by
      rw [ofPairs_concat, hheaders]
      exact add_of_mem hmem v
    rw [List.append_cons, ofPairs, List.foldlM_append, ← ofPairs, hfirst]
    rfl

theorem exists_ofPairs_iff :
    (∃ headers, ofPairs pairs = .ok headers) ↔ (pairs.map fun pair => Text.lower pair.1).Nodup := by
  refine ⟨fun ⟨headers, hheaders⟩ => ?_, exists_ofPairs⟩
  rw [← keys_of_ofPairs hheaders]
  exact headers.nodup

theorem ofPairs_eq_error_iff : ofPairs pairs = .error e ↔ FirstClash pairs e := by
  refine ⟨fun h => ?_, ofPairs_of_firstClash⟩
  have hrepeat : ¬ (pairs.map fun pair => Text.lower pair.1).Nodup := by
    rw [← exists_ofPairs_iff, h]
    exact nofun
  obtain ⟨before, ⟨name, v⟩, after, rfl, hnodup, hmem⟩ := exists_first_repeat _ hrepeat
  have hclash : FirstClash (before ++ (name, v) :: after) ⟨name, Text.lower name⟩ := .mk hnodup hmem
  have hsame := h.symm.trans (ofPairs_of_firstClash hclash)
  rwa [Except.error.inj hsame]

/-! ## Reading a header map -/

theorem get?_iff (h : ofPairs pairs = .ok headers) (key : Text) (v : Value) :
    headers.get? key = some v ↔ ∃ pair ∈ pairs, Text.lower pair.1 = Text.lower key ∧ pair.2 = v := by
  have hmem : headers.get? key = some v ↔ (Text.lower key, v) ∈ headers.members :=
    ⟨Members.mem_of_get?, Members.get?_of_mem headers.nodup⟩
  rw [hmem, members_of_ofPairs h, List.mem_map]
  simp only [Prod.mk.injEq]

theorem has_iff (h : ofPairs pairs = .ok headers) (key : Text) :
    headers.has key = true ↔ ∃ pair ∈ pairs, Text.lower pair.1 = Text.lower key := by
  rw [has, Option.isSome_iff_exists]
  simp only [get?_iff h]
  exact ⟨fun ⟨_, pair, hpair, hname, _⟩ => ⟨pair, hpair, hname⟩,
    fun ⟨pair, hpair, hname⟩ => ⟨pair.2, pair, hpair, hname, rfl⟩⟩

/-- A name of a header map finds its own value, for it is in lower case already. -/
theorem get?_of_mem (h : ofPairs pairs = .ok headers) {name : Text} {v : Value}
    (hmem : (name, v) ∈ headers.members) : headers.get? name = some v := by
  have hname := (folded_of_ofPairs h).lowered name (List.mem_map_of_mem hmem)
  rw [get?, hname]
  exact Members.get?_of_mem headers.nodup hmem

theorem mem_keys_merged (headers : HeaderMap) (newer : Members Value) (name : Text) :
    name ∈ Members.keys (headers.merged newer) ↔
      name ∈ Members.keys headers.members ∨ ∃ m ∈ newer, Text.lower m.1 = name := by
  rw [merged, Members.mem_keys_merge]
  simp [Members.keys]

/-- What a header map is good for, told by the pairs that it is made of. -/
structure Serves (headers : HeaderMap) (pairs : List (Text × Value)) : Prop where
  /-- The pairs are held in order. -/
  members : headers.members = pairs.map fun (name, v) => (Text.lower name, v)
  size : headers.size = pairs.length
  has_iff : ∀ key, headers.has key = true ↔ ∃ pair ∈ pairs, Text.lower pair.1 = Text.lower key
  get?_iff : ∀ key v, headers.get? key = some v ↔
    ∃ pair ∈ pairs, Text.lower pair.1 = Text.lower key ∧ pair.2 = v
  /-- Names that differ only in case find the same. -/
  any_case : ∀ key key', Text.lower key = Text.lower key' →
    headers.has key = headers.has key' ∧ headers.get? key = headers.get? key'
  /-- The names find all members again, and the map made of these is the same. -/
  reread : (∀ m ∈ headers.members, headers.get? m.1 = some m.2) ∧
    ofPairs headers.members = .ok headers
  /-- On top of the map the last header counts whose name is the given one in lower case. -/
  merged : ∀ newer key, Members.get? (headers.merged newer) (Text.lower key) =
    (Members.last? (Text.lower · == Text.lower key) newer).or (headers.get? key)
  /-- There are no other names, and each is there once. -/
  merged_keys : ∀ newer, (Members.keys (headers.merged newer)).Nodup ∧
    ∀ name, name ∈ Members.keys (headers.merged newer) ↔
      name ∈ Members.keys headers.members ∨ ∃ m ∈ newer, Text.lower m.1 = name

theorem serves_of_ofPairs (h : ofPairs pairs = .ok headers) : headers.Serves pairs where
  members := members_of_ofPairs h
  size := by rw [size, members_of_ofPairs h, List.length_map]
  has_iff := has_iff h
  get?_iff := get?_iff h
  any_case key key' hsame := by
    have hget : headers.get? key = headers.get? key' := by rw [get?, get?, hsame]
    exact ⟨by rw [has, has, hget], hget⟩
  reread := by
    refine ⟨fun m hm => get?_of_mem h hm, ?_⟩
    obtain ⟨again, hagain, hmembers⟩ := ofPairs_of_folded (folded_of_ofPairs h)
    rw [hagain]
    cases again
    cases headers
    cases hmembers
    rfl
  merged newer key := Members.get?_merge_map Text.lower headers.members newer (Text.lower key)
  merged_keys newer :=
    ⟨Members.nodup_keys_merge _ _ headers.nodup, mem_keys_merged headers newer⟩

/-- **Header maps are keyed by names in lower case.** Pairs make a header map if and only if no two of
their names are the same in lower case; otherwise the first pair is told whose name was there before.
The map serves its pairs. -/
theorem ofPairs_laws (pairs : List (Text × Value)) :
    ((∃ headers, ofPairs pairs = .ok headers) ↔
        (pairs.map fun pair => Text.lower pair.1).Nodup) ∧
      (∀ e, ofPairs pairs = .error e ↔ FirstClash pairs e) ∧
      ∀ headers, ofPairs pairs = .ok headers → headers.Serves pairs :=
  ⟨exists_ofPairs_iff, fun _ => ofPairs_eq_error_iff, fun _ => serves_of_ofPairs⟩

/-- A sigma that is final in lower case, and a letter that becomes two. -/
theorem ofPairs_laws_sigma :
    let pairs : List (Text × Value) := [("ΟΔΟΣ", .int 1), ("İ", .int 2)]
    let again : List (Text × Value) := [("οδοΣ", .int 3)]
    let newer : Members Value := [("οδοΣ", .int 4), ("X", .int 5), ("Οδος", .int 6)]
    ofPairs (pairs ++ again) = .error ⟨"οδοΣ", "οδος"⟩ ∧
      ∃ headers, ofPairs pairs = .ok headers ∧ headers.get? "Οδος" = some (.int 1) ∧
        headers.has "οδοσ" = false ∧ headers.get? "i\u0307" = some (.int 2) ∧
        Members.get? (headers.merged newer) "οδος" = some (.int 6) := by
  intro pairs again newer
  have hclash : FirstClash (pairs ++ again) ⟨"οδοΣ", Text.lower "οδοΣ"⟩ :=
    @FirstClash.mk pairs [] "οδοΣ" (.int 3) (by decide +kernel) (by decide +kernel)
  have herror := ((ofPairs_laws (pairs ++ again)).2.1 _).2 hclash
  rw [show Text.lower "οδοΣ" = "οδος" by decide +kernel] at herror
  obtain ⟨headers, hheaders⟩ := (ofPairs_laws pairs).1.2 (by decide +kernel)
  have hserves := (ofPairs_laws pairs).2.2 headers hheaders
  refine ⟨herror, headers, hheaders, ?_, ?_, ?_, ?_⟩
  · exact (hserves.get?_iff _ _).2 ⟨("ΟΔΟΣ", .int 1), List.mem_cons_self, by decide +kernel, rfl⟩
  · rw [← Bool.not_eq_true, hserves.has_iff]
    rintro ⟨pair, hpair, hname⟩
    obtain rfl | hpair := List.mem_cons.1 hpair
    · exact absurd hname (by decide +kernel)
    · obtain rfl := List.mem_singleton.1 hpair
      exact absurd hname (by decide +kernel)
  · exact (hserves.get?_iff _ _).2 ⟨("İ", .int 2), by simp [pairs], by decide +kernel, rfl⟩
  · have hsettled : Text.lower "οδος" = "οδος" := by decide +kernel
    have hlast : (Text.lower "Οδος" == Text.lower "οδος") = true := by decide +kernel
    have hmerged := hserves.merged newer "οδος"
    rw [Members.last?_cons, Members.last?_cons, Members.last?_cons, hlast, hsettled] at hmerged
    exact hmerged

end HeaderMap

end MockApi
