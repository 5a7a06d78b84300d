import Mathlib.Data.List.Induction
import Mathlib.Tactic.SplitIfs
import MockApi.HeaderMap
import MockApi.Proofs.Pruning

/-!
# Names in lower case

* `CaseRun.Covers` : the code points of a run of a case mapping;
* `lowerRuns_miss` : no run of the lower case mapping covers what another one maps to;
* `lower_lower` : lower case is settled after one step;
* `Folded members` : members whose names are in lower case and distinct;
* `members_of_ofPairs` : a header map holds its pairs, with their names in lower case;
* `ofPairs_of_folded` : folded members are a header map already;
* `folded_merged` : and stay folded when other headers are written on top of them.
-/

namespace MockApi

namespace Text

/-! ## The lower case mapping -/

def CaseRun.Covers (run : CaseRun) (n : Nat) : Prop :=
  run.first ≤ n ∧ n ≤ run.last ∧ (n - run.first) % run.step = 0

theorem shiftBy_cases (runs : List CaseRun) (n : Nat) :
    shiftBy runs n = n ∨
      ∃ run ∈ runs, run.Covers n ∧ shiftBy runs n = (n + run.shift).toNat := by
  induction runs with
  | nil => exact .inl rfl
  | cons run runs ih =>
    rw [shiftBy]
    split_ifs with hlow hcovers
    · exact .inl rfl
    · exact .inr ⟨run, List.mem_cons_self, ⟨Nat.le_of_not_lt hlow, hcovers⟩, rfl⟩
    · obtain hsame | ⟨other, hmem, hother⟩ := ih
      · exact .inl hsame
      · exact .inr ⟨other, List.mem_cons_of_mem _ hmem, hother⟩

theorem shiftBy_of_not_covers {runs : List CaseRun} {n : Nat}
    (h : ∀ run ∈ runs, ¬ run.Covers n) : shiftBy runs n = n := by
  obtain hsame | ⟨run, hmem, hcovers, -⟩ := shiftBy_cases runs n
  · exact hsame
  · exact absurd hcovers (h run hmem)

/-- The code point with an expansion, as a run of its own. -/
def expandedRun : CaseRun := ⟨0x130, 0x130, 1, 0⟩

/-- Whether the images of `run` are code points that `other` does not cover: they are all below it or
all above it, or else its steps pass them by. -/
def CaseRun.misses (run other : CaseRun) : Bool :=
  let first := (run.first + run.shift).toNat
  let last := (run.last + run.shift).toNat
  Nat.blt last other.first || Nat.blt other.last first ||
    (Nat.ble other.first first && Nat.beq other.step 2 &&
      (Nat.beq run.step 2 || Nat.beq run.first run.last) &&
      Nat.beq ((first - other.first) % 2) 1)

/-- Whether the steps and the images of a run are what the proofs below rely on. -/
def CaseRun.isPlain (run : CaseRun) : Bool :=
  (Nat.beq run.step 1 || Nat.beq run.step 2) && Nat.ble (run.last + run.shift).toNat 0x10FFFF &&
    decide (0 ≤ run.first + run.shift)

theorem lowerRuns_isPlain : lowerRuns.all CaseRun.isPlain = true := by decide +kernel

theorem lowerRuns_miss :
    (lowerRuns.all fun run => (expandedRun :: lowerRuns).all run.misses) = true := by
  decide +kernel

theorem not_covers_of_misses {run other : CaseRun} (hplain : run.isPlain = true)
    (h : run.misses other = true) {n : Nat} (hn : run.Covers n) :
    ¬ other.Covers (n + run.shift).toNat := by
  obtain ⟨hfirst, hlast, hstep⟩ := hn
  rintro ⟨hfirst', hlast', hstep'⟩
  simp only [CaseRun.isPlain, Bool.and_eq_true, Bool.or_eq_true, Nat.beq_eq, Nat.ble_eq,
    decide_eq_true_eq] at hplain
  simp only [CaseRun.misses, Bool.and_eq_true, Bool.or_eq_true, Nat.beq_eq, Nat.ble_eq,
    Nat.blt_eq] at h
  obtain ⟨⟨-, -⟩, hpos⟩ := hplain
  obtain (h | h) | ⟨⟨⟨hlow, htwo⟩, hrun⟩, hodd⟩ := h
  · omega
  · omega
  · rw [htwo] at hstep'
    obtain hrun | hrun := hrun
    · rw [hrun] at hstep
      omega
    · omega

/-! ## Lower case twice -/

/-- A code point that is its own lower case. -/
def IsLowered (c : CodePoint) : Prop := c ≠ .ofChar 'Σ' ∧ lowerCode c = [c]

theorem toNat_ofNat {n : Nat} (h : n < 0x110000) : (CodePoint.ofNat n).toNat = n := by
  rw [CodePoint.ofNat, dif_pos h]

theorem isLowered_of_not_covers {c : CodePoint}
    (h : ∀ run ∈ expandedRun :: lowerRuns, ¬ run.Covers c.toNat) : IsLowered c := by
  have hexpanded : (c.toNat == 0x130) = false := by
    rw [beq_eq_false_iff_ne]
    intro heq
    apply h expandedRun List.mem_cons_self
    rw [heq]
    exact ⟨Nat.le_refl _, Nat.le_refl _, rfl⟩
  have hruns : ∀ run ∈ lowerRuns, ¬ run.Covers c.toNat := fun run hmem =>
    h run (List.mem_cons_of_mem _ hmem)
  have hshift := shiftBy_of_not_covers hruns
  constructor
  · rintro rfl
    exact absurd hshift (by decide +kernel)
  · rw [lowerCode]
    split_ifs with hlow hupper
    · exact absurd ⟨hupper.1, hupper.2, Nat.mod_one _⟩ (hruns ⟨0x41, 0x5A, 1, 32⟩ (.head _))
    · rfl
    · have hlookup : lowerExpansions.lookup c.toNat = none := by
        simp only [lowerExpansions, List.lookup_cons, List.lookup_nil, hexpanded]
      simp only [mapCase, hlookup, hshift]
      rw [CodePoint.ofNat, dif_pos c.lt_limit]

/-- Where the parts of a code point in lower case come from: it is its own lower case, or a run shifts
it, or they are those of the one code point with an expansion. -/
theorem mem_lowerCode {c d : CodePoint} (h : d ∈ lowerCode c) :
    (d = c ∧ lowerCode c = [c]) ∨
      (∃ run ∈ lowerRuns, run.Covers c.toNat ∧ d = .ofNat (c.toNat + run.shift).toNat) ∨
      d = .ofNat 0x69 ∨ d = .ofNat 0x307 := by
  rw [lowerCode] at h ⊢
  split_ifs at h ⊢ with hlow hupper
  · refine .inr (.inl ⟨⟨0x41, 0x5A, 1, 32⟩, .head _, ⟨hupper.1, hupper.2, Nat.mod_one _⟩, ?_⟩)
    exact List.mem_singleton.1 h
  · exact .inl ⟨List.mem_singleton.1 h, rfl⟩
  · unfold mapCase at h ⊢
    split at h
    · next codes hcodes =>
      simp only [lowerExpansions, List.lookup_cons, List.lookup_nil] at hcodes
      split at hcodes
      · cases hcodes
        exact .inr (.inr (by simpa using h))
      · cases hcodes
    · next hnone =>
      rw [List.mem_singleton] at h
      obtain hsame | ⟨run, hmem, hcovers, hshift⟩ := shiftBy_cases lowerRuns c.toNat
      · have hself : CodePoint.ofNat (shiftBy lowerRuns c.toNat) = c := by
          rw [hsame, CodePoint.ofNat, dif_pos c.lt_limit]
        rw [hself] at h ⊢
        exact .inl ⟨h, rfl⟩
      · rw [hshift] at h
        exact .inr (.inl ⟨run, hmem, hcovers, h⟩)

theorem toNat_image {run : CaseRun} (hmem : run ∈ lowerRuns) {n : Nat} (hcovers : run.Covers n) :
    (CodePoint.ofNat (n + run.shift).toNat).toNat = (n + run.shift).toNat := by
  have hplain := List.all_eq_true.1 lowerRuns_isPlain run hmem
  simp only [CaseRun.isPlain, Bool.and_eq_true, Nat.ble_eq] at hplain
  have hlast := hcovers.2.1
  exact toNat_ofNat (by omega)

theorem isLowered_of_mem_lowerCode {c d : CodePoint} (hc : c ≠ .ofChar 'Σ') (h : d ∈ lowerCode c) :
    IsLowered d := by
  obtain ⟨rfl, hself⟩ | ⟨run, hmem, hcovers, rfl⟩ | rfl | rfl := mem_lowerCode h
  · exact ⟨hc, hself⟩
  · have hplain := List.all_eq_true.1 lowerRuns_isPlain run hmem
    have hmisses := List.all_eq_true.1 (List.all_eq_true.1 lowerRuns_miss run hmem)
    apply isLowered_of_not_covers
    rw [toNat_image hmem hcovers]
    exact fun other hother => not_covers_of_misses hplain (hmisses other hother) hcovers
  · exact ⟨by decide, by decide⟩
  · exact ⟨by decide, by decide +kernel⟩

theorem isLowered_of_mem_lowerFrom {before text : Text} {d : CodePoint}
    (h : d ∈ lowerFrom before text) : IsLowered d := by
  induction text generalizing before with
  | nil => cases h
  | cons c text ih =>
    rw [lowerFrom, List.mem_append] at h
    obtain h | h := h
    · split_ifs at h with hc hfinal
      · rw [List.mem_singleton.1 h]
        exact ⟨by decide, by decide +kernel⟩
      · rw [List.mem_singleton.1 h]
        exact ⟨by decide, by decide +kernel⟩
      · exact isLowered_of_mem_lowerCode hc h
    · exact ih h

theorem lowerFrom_of_isLowered {text : Text} (h : ∀ c ∈ text, IsLowered c) (before : Text) :
    lowerFrom before text = text := by
  induction text generalizing before with
  | nil => rfl
  | cons c text ih =>
    obtain ⟨hc, hcode⟩ := h c List.mem_cons_self
    rw [lowerFrom, if_neg hc, hcode, ih fun c hc => h c (List.mem_cons_of_mem _ hc)]
    rfl

/-- **Lower case is settled after one step.** -/
theorem lower_lower (text : Text) : lower (lower text) = lower text :=
  lowerFrom_of_isLowered (fun _ hc => isLowered_of_mem_lowerFrom hc) []

end Text

namespace Members

variable {α : Type}

theorem put_of_not_mem {members : Members α} {name : Text} (h : name ∉ keys members) (value : α) :
    put members name value = members ++ [(name, value)] := by
  induction members with
  | nil => rfl
  | cons member members ih =>
    obtain ⟨key, old⟩ := member
    obtain ⟨hkey, hrest⟩ : name ≠ key ∧ name ∉ keys members := by
      simpa [keys] using h
    rw [put, if_neg hkey.symm, ih hrest]
    rfl

theorem mem_keys_put {members : Members α} {key name : Text} {value : α} :
    name ∈ keys (put members key value) ↔ name ∈ keys members ∨ name = key := by
  rw [keys_put]
  split
  · next hmem => exact ⟨.inl, fun h => h.elim id fun heq => heq ▸ hmem⟩
  · rw [List.mem_append, List.mem_singleton]

theorem mem_keys_merge {base newer : Members α} {name : Text} :
    name ∈ keys (merge base newer) ↔ name ∈ keys base ∨ name ∈ keys newer := by
  induction newer generalizing base with
  | nil => simp [merge, keys]
  | cons member newer ih =>
    have hstep : merge base (member :: newer) = merge (put base member.1 member.2) newer := rfl
    rw [hstep, ih, mem_keys_put, or_assoc]
    simp [keys]

end Members

/-! ## Header maps -/

/-- Members whose names are in lower case and distinct. -/
structure Folded (members : Members Value) : Prop where
  nodup : (Members.keys members).Nodup
  lowered : ∀ name ∈ Members.keys members, Text.lower name = name

namespace HeaderMap

variable {headers : HeaderMap} {pairs : List (Text × Value)} {name : Text}

theorem add_of_mem (h : Text.lower name ∈ Members.keys headers.members) (v : Value) :
    headers.add name v = .error ⟨name, Text.lower name⟩ := by
  rw [← Members.has_iff] at h
  simp only [add]
  rw [if_pos h]

theorem add_of_not_mem (h : Text.lower name ∉ Members.keys headers.members) (v : Value) :
    ∃ headers', headers.add name v = .ok headers' ∧
      headers'.members = headers.members ++ [(Text.lower name, v)] := by
  have hhas : ¬ Members.has headers.members (Text.lower name) = true := by
    rwa [Members.has_iff]
  refine ⟨⟨Members.put headers.members (Text.lower name) v,
    Members.nodup_keys_put _ _ _ headers.nodup⟩, ?_, Members.put_of_not_mem h v⟩
  simp only [add]
  rw [if_neg hhas]

/-- The map of pairs to which one is added. -/
theorem ofPairs_concat (pairs : List (Text × Value)) (name : Text) (v : Value) :
    ofPairs (pairs ++ [(name, v)]) = ofPairs pairs >>= fun headers => headers.add name v := by
  rw [ofPairs, List.foldlM_append]
  refine bind_congr fun headers => ?_
  rw [List.foldlM_cons]
  exact bind_pure _

/-- The members of a header map are its pairs, with their names in lower case. -/
theorem members_of_ofPairs (h : ofPairs pairs = .ok headers) :
    headers.members = pairs.map fun (name, v) => (Text.lower name, v) := by
  induction pairs using List.reverseRecOn generalizing headers with
  | nil =>
    cases h
    rfl
  | append_singleton pairs pair ih =>
    obtain ⟨name, v⟩ := pair
    rw [ofPairs_concat] at h
    cases hpairs : ofPairs pairs with
    | error e =>
      rw [hpairs] at h
      cases h
    | ok before =>
      rw [hpairs] at h
      have hadd : before.add name v = .ok headers := h
      by_cases hmem : Text.lower name ∈ Members.keys before.members
      · rw [add_of_mem hmem] at hadd
        cases hadd
      · obtain ⟨headers', hadd', hmembers⟩ := add_of_not_mem hmem v
        obtain rfl := Except.ok.inj (hadd'.symm.trans hadd)
        rw [hmembers, ih hpairs, List.map_append]
        rfl

/-- The names of a header map are those of its pairs, in lower case. -/
theorem keys_of_ofPairs (h : ofPairs pairs = .ok headers) :
    Members.keys headers.members = pairs.map fun pair => Text.lower pair.1 := by
  rw [members_of_ofPairs h, Members.keys, List.map_map]
  rfl

/-- A header map holds folded members. -/
theorem folded_of_ofPairs (h : ofPairs pairs = .ok headers) : Folded headers.members := by
  refine ⟨headers.nodup, fun name hname => ?_⟩
  rw [keys_of_ofPairs h] at hname
  obtain ⟨pair, -, rfl⟩ := List.mem_map.1 hname
  exact Text.lower_lower _

/-- Pairs whose names are distinct in lower case make a header map. -/
theorem exists_ofPairs (h : (pairs.map fun pair => Text.lower pair.1).Nodup) :
    ∃ headers, ofPairs pairs = .ok headers := by
  induction pairs using List.reverseRecOn with
  | nil => exact ⟨empty, rfl⟩
  | append_singleton pairs pair ih =>
    obtain ⟨name, v⟩ := pair
    rw [List.map_append, List.nodup_append] at h
    obtain ⟨before, hpairs⟩ := ih h.1
    have hnew : Text.lower name ∉ Members.keys before.members := by
      rw [keys_of_ofPairs hpairs]
      exact fun hmem => h.2.2 _ hmem _ (List.mem_singleton_self _) rfl
    obtain ⟨headers, hadd, -⟩ := add_of_not_mem hnew v
    exact ⟨headers, by rw [ofPairs_concat, hpairs]; exact hadd⟩

/-- Members whose names are in lower case and distinct are a header map already. -/
theorem ofPairs_of_folded {members : Members Value} (h : Folded members) :
    ∃ headers, ofPairs members = .ok headers ∧ headers.members = members := by
  have hkeys : (members.map fun pair => Text.lower pair.1) = Members.keys members :=
    List.map_congr_left fun pair hpair => h.lowered pair.1 (List.mem_map_of_mem hpair)
  obtain ⟨headers, hheaders⟩ := exists_ofPairs (hkeys ▸ h.nodup)
  refine ⟨headers, hheaders, (members_of_ofPairs hheaders).trans ?_⟩
  refine (List.map_congr_left fun pair hpair => ?_).trans (List.map_id members)
  exact Prod.ext (h.lowered pair.1 (List.mem_map_of_mem hpair)) rfl

theorem folded_merged {headers : HeaderMap} (h : Folded headers.members) (newer : Members Value) :
    Folded (headers.merged newer) := by
  refine ⟨Members.nodup_keys_merge _ _ headers.nodup, fun name hname => ?_⟩
  obtain hname | hname := Members.mem_keys_merge.1 hname
  · exact h.lowered name hname
  · obtain ⟨written, -, rfl⟩ : ∃ written ∈ newer, Text.lower written.1 = name := by
      simpa [Members.keys] using hname
    exact Text.lower_lower _

end HeaderMap

end MockApi
