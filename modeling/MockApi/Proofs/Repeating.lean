import MockApi.Proofs.Finishing
import MockApi.Proofs.Numerals

/-!
# Formulas of repetition

* `Text.FirstCut piece text before rest` : the text cut at the first occurrence of a piece;
* `CountText`, `BoundText`, `FormulaText` : the grammar of counts, of bounds and of whole formulas;
* `parse_eq_ok_iff` : a formula is read if and only if the grammar has it, with the same bounds;
* `getElem?_copies` : the items of copies that stand one after the other;
* `parse_and_expand` : which formulas are read, and what a list is that is repeated by one.
-/

namespace MockApi

namespace Text

variable {α : Type} {piece text before rest before' rest' : List α}

/-! ## The first occurrence -/

/-- The piece stands between the two parts of the text, and nowhere further in front. -/
def FirstCut (piece text before rest : List α) : Prop :=
  text = before ++ piece ++ rest ∧
    ∀ before' rest', text = before' ++ piece ++ rest' → before.length ≤ before'.length

theorem FirstCut.eq (h : FirstCut piece text before rest) (h' : FirstCut piece text before' rest') :
    before = before' ∧ rest = rest' := by
  have htexts := h.1.symm.trans h'.1
  rw [List.append_assoc, List.append_assoc] at htexts
  obtain ⟨hbefore, hbehind⟩ :=
    List.append_inj htexts (Nat.le_antisymm (h.2 _ _ h'.1) (h'.2 _ _ h.1))
  exact ⟨hbefore, List.append_cancel_left hbehind⟩

variable [DecidableEq α]

theorem length_le_of_splitAtFirst (h : splitAtFirst piece text = some (before, rest))
    (htext : text = before' ++ piece ++ rest') : before.length ≤ before'.length := by
  induction text generalizing before before' with
  | nil =>
    obtain ⟨_, -, heq⟩ := Option.map_eq_some_iff.1 h
    cases heq
    exact Nat.zero_le _
  | cons c text ih =>
    rw [splitAtFirst] at h
    split at h
    · cases h
      exact Nat.zero_le _
    · next hnone =>
      obtain ⟨⟨before, rest⟩, hsplit, heq⟩ := Option.map_eq_some_iff.1 h
      cases heq
      cases before' with
      | nil => exact absurd ⟨rest', htext.symm⟩ (after?_eq_none_iff.1 hnone)
      | cons d before' => exact Nat.succ_le_succ (ih hsplit (List.cons.inj htext).2)

theorem firstCut_of_splitAtFirst (h : splitAtFirst piece text = some (before, rest)) :
    FirstCut piece text before rest :=
  ⟨eq_append_of_splitAtFirst h, fun _ _ => length_le_of_splitAtFirst h⟩

theorem splitAtFirst_eq_some_iff :
    splitAtFirst piece text = some (before, rest) ↔ FirstCut piece text before rest := by
  refine ⟨firstCut_of_splitAtFirst, fun hfirst => ?_⟩
  cases hsplit : splitAtFirst piece text with
  | none => exact absurd ⟨before, rest, hfirst.1.symm⟩ (splitAtFirst_eq_none_iff.1 hsplit)
  | some cut =>
    obtain ⟨rfl, rfl⟩ := hfirst.eq (firstCut_of_splitAtFirst hsplit)
    rfl

/-! ## Blanks around a text -/

theorem isAllBlank_iff {text : Text} : isAllBlank text = true ↔ ∀ c ∈ text, isBlank c = true :=
  List.all_eq_true

theorem exists_blanks_around (text : Text) : ∃ before after,
    isAllBlank before = true ∧ isAllBlank after = true ∧ text = before ++ strip text ++ after := by
  refine ⟨text.takeWhile isBlank, (text.dropWhile isBlank).rtakeWhile isBlank, ?_, ?_, ?_⟩
  · exact isAllBlank_iff.2 fun c hc => List.mem_takeWhile_imp hc
  · exact isAllBlank_iff.2 fun c hc => List.mem_rtakeWhile_imp hc
  · have hinner : strip text ++ (text.dropWhile isBlank).rtakeWhile isBlank = text.dropWhile isBlank :=
      List.rdropWhile_append_rtakeWhile ..
    rw [List.append_assoc, hinner, List.takeWhile_append_dropWhile]

/-- Blanks around what has none of them are stripped. -/
theorem strip_blanks_around {before core after : Text} (hbefore : isAllBlank before = true)
    (hafter : isAllBlank after = true) (hne : core ≠ []) (hcore : ∀ c ∈ core, isBlank c = false) :
    strip (before ++ core ++ after) = core := by
  have hkeep : ∀ t : Text, (∀ c ∈ t, isBlank c = false) → t.dropWhile isBlank = t := by
    intro t ht
    rw [List.dropWhile_eq_self_iff]
    intro hlength
    simp [ht]
  have hfront : (before ++ core ++ after).dropWhile isBlank = core ++ after := by
    obtain ⟨c, core, rfl⟩ := List.exists_cons_of_ne_nil hne
    rw [List.append_assoc, List.dropWhile_append_of_pos (isAllBlank_iff.1 hbefore), List.cons_append,
      List.dropWhile_cons_of_neg]
    simp [hcore c List.mem_cons_self]
  have hback : (core ++ after).reverse.dropWhile isBlank = core.reverse := by
    have hblank : ∀ c ∈ after.reverse, isBlank c = true := by simpa using isAllBlank_iff.1 hafter
    rw [List.reverse_append, List.dropWhile_append_of_pos hblank, hkeep core.reverse (by simpa using hcore)]
  rw [strip, hfront, hback, List.reverse_reverse]

end Text

namespace Repeat

open Text (FirstCut isAllBlank isAllAsciiDigits digitsValue strip)

/-! ## The grammar -/

/-- A count: ASCII digits, at least one and not more than are converted, with blanks around them. -/
inductive CountText : Text → Nat → Prop
  | mk {before digits after : Text} (hbefore : isAllBlank before = true) (hdigits : IsDigits digits)
      (hne : digits ≠ []) (hlength : digits.length ≤ maxIntegerDigits)
      (hafter : isAllBlank after = true) :
      CountText (before ++ digits ++ after) (digitsValue (asciiDigits digits))

/-- A bound: a count, or blanks for the length of the list. -/
inductive BoundText (length : Nat) : Text → Nat → Prop
  | omitted {text : Text} (hblank : isAllBlank text = true) : BoundText length text length
  | count {text : Text} {n : Nat} (hcount : CountText text n) : BoundText length text n

/-- A formula with its bounds: a count, or two bounds in order with the first two points that stand
side by side between them. -/
inductive FormulaText (length : Nat) : Text → Nat → Nat → Prop
  | count {text : Text} {n : Nat} (hcount : CountText text n) : FormulaText length text n n
  | range {text before after : Text} {low high : Nat} (hcut : FirstCut ".." text before after)
      (hlow : BoundText length before low) (hhigh : BoundText length after high) (hle : low ≤ high) :
      FormulaText length text low high

variable {formula text : Text} {length low high n : Nat} {items : List Value} {chance : Chance}

/-! ## Counts and bounds -/

theorem isAllAsciiDigits_iff : isAllAsciiDigits text = true ↔ text ≠ [] ∧ IsDigits text := by
  simp [isAllAsciiDigits, IsDigits]

theorem CountText.strip_eq (h : CountText text n) : ∃ digits, strip text = digits ∧ IsDigits digits ∧
    digits ≠ [] ∧ digits.length ≤ maxIntegerDigits ∧ n = digitsValue (asciiDigits digits) := by
  obtain ⟨hbefore, hdigits, hne, hlength, hafter⟩ := h
  exact ⟨_, Text.strip_blanks_around hbefore hafter hne fun c hc => isBlank_of_isAsciiDigit (hdigits c hc),
    hdigits, hne, hlength, rfl⟩

/-- What stands in a count are blanks and digits, and at least one digit. -/
theorem CountText.mem (h : CountText text n) :
    (∀ c ∈ text, Text.isBlank c = true ∨ Text.isAsciiDigit c = true) ∧
      ∃ c ∈ text, Text.isBlank c = false := by
  obtain ⟨hbefore, hdigits, hne, -, hafter⟩ := h
  rw [Text.isAllBlank_iff] at hbefore hafter
  constructor
  · intro c hc
    obtain hc | hc := List.mem_append.1 hc
    · exact (List.mem_append.1 hc).imp (hbefore c) (hdigits c)
    · exact .inl (hafter c hc)
  · obtain ⟨c, hc⟩ := List.exists_mem_of_ne_nil _ hne
    exact ⟨c, by simp [hc], isBlank_of_isAsciiDigit (hdigits c hc)⟩

theorem parseCount_eq_ok_iff : parseCount text = .ok n ↔ CountText text n := by
  constructor
  · intro h
    rw [parseCount] at h
    split at h
    · next hall =>
      obtain ⟨hne, hdigits⟩ := isAllAsciiDigits_iff.1 hall
      obtain ⟨before, after, hbefore, hafter, htext⟩ := Text.exists_blanks_around text
      by_cases hlength : (strip text).length ≤ maxIntegerDigits
      · rw [readInteger_of_isAsciiDigit hdigits hne hlength] at h
        cases h
        have hcount := CountText.mk hbefore hdigits hne hlength hafter
        rwa [← htext] at hcount
      · rw [readInteger_of_long hdigits (Nat.lt_of_not_le hlength)] at h
        cases h
    · cases h
  · intro h
    obtain ⟨digits, hstrip, hdigits, hne, hlength, rfl⟩ := h.strip_eq
    rw [parseCount, hstrip, if_pos (isAllAsciiDigits_iff.2 ⟨hne, hdigits⟩),
      readInteger_of_isAsciiDigit hdigits hne hlength]
    rfl

theorem parseBound_eq_ok_iff : parseBound length text = .ok n ↔ BoundText length text n := by
  rw [parseBound]
  split
  · next hblank =>
    constructor
    · rintro h
      cases h
      exact .omitted hblank
    · intro h
      cases h with
      | omitted => rfl
      | count hcount =>
        obtain ⟨c, hc, hnot⟩ := hcount.mem.2
        rw [Text.isAllBlank_iff.1 hblank c hc] at hnot
        cases hnot
  · next hblank =>
    rw [parseCount_eq_ok_iff]
    constructor
    · exact .count
    · intro h
      cases h with
      | omitted hall => exact absurd hall hblank
      | count hcount => exact hcount

/-! ## Formulas -/

/-- In a count there are no points. -/
theorem CountText.not_infix (h : CountText text n) : ¬ ((".." : Text) <:+: text) := by
  intro hinfix
  have hpoint : CodePoint.ofChar '.' ∈ text := hinfix.mem (by decide)
  exact absurd (h.mem.1 _ hpoint) (by decide)

/-- **The formulas that are read** are those of the grammar, and the bounds are the ones it gives. -/
theorem parse_eq_ok_iff : (∃ bounds, parse formula length = .ok bounds ∧ bounds.low = low ∧
    bounds.high = high) ↔ FormulaText length formula low high := by
  constructor
  · rintro ⟨bounds, h, rfl, rfl⟩
    rw [parse] at h
    split at h
    · obtain ⟨count, hcount, hbounds⟩ := ok_of_bind h
      cases hbounds
      exact .count (parseCount_eq_ok_iff.1 hcount)
    · next before after hsplit =>
      obtain ⟨low, hlow, h⟩ := ok_of_bind h
      obtain ⟨high, hhigh, h⟩ := ok_of_bind h
      split at h
      · next hle =>
        cases h
        exact .range (Text.firstCut_of_splitAtFirst hsplit) (parseBound_eq_ok_iff.1 hlow)
          (parseBound_eq_ok_iff.1 hhigh) hle
      · cases h
  · intro h
    rw [parse]
    cases h with
    | count hcount =>
      rw [Text.splitAtFirst_eq_none_iff.2 hcount.not_infix]
      exact ⟨⟨_, _, Nat.le_refl _⟩, by rw [parseCount_eq_ok_iff.2 hcount]; rfl, rfl, rfl⟩
    | range hcut hlow hhigh hle =>
      rw [Text.splitAtFirst_eq_some_iff.2 hcut]
      refine ⟨⟨_, _, hle⟩, ?_, rfl, rfl⟩
      simp only [parseBound_eq_ok_iff.2 hlow, parseBound_eq_ok_iff.2 hhigh, bind, Except.bind]
      rw [dif_pos hle]
      rfl

/-! ## Copies -/

/-- The items of copies are those of the list over and over, in whole lists. -/
theorem getElem?_copies {count i : Nat} (h : i < items.length * count) :
    (copies count items)[i]? = items[i % items.length]? := by
  induction count generalizing i with
  | zero => cases h
  | succ count ih =>
    rw [copies_succ]
    by_cases hfirst : i < items.length
    · rw [List.getElem?_append_left hfirst, Nat.mod_eq_of_lt hfirst]
    · rw [Nat.not_lt] at hfirst
      rw [Nat.mul_succ] at h
      rw [List.getElem?_append_right hfirst, ih (by omega), Nat.mod_eq_sub_mod hfirst]

theorem expand_of_parse {bounds : Bounds} (h : parse formula items.length = .ok bounds) :
    expand items formula chance =
      .ok (copies (chance.pick bounds.low bounds.high).1 items,
        (chance.pick bounds.low bounds.high).2) := by
  rw [expand, h]
  rfl

/-- **Repetition.** The formulas that are read are those of the grammar, for every length. A list is
repeated by such a formula of its own length: there is one draw within the bounds, and there are as many
whole copies of the list as were drawn. By any other formula it is not repeated. -/
theorem parse_and_expand (formula : Text) :
    (∀ length low high, (∃ bounds, parse formula length = .ok bounds ∧ bounds.low = low ∧
      bounds.high = high) ↔ FormulaText length formula low high) ∧
    ∀ (items : List Value) (chance : Chance),
      (∀ low high, FormulaText items.length formula low high → ∃ count chance' repeated,
        chance.pick low high = (count, chance') ∧ low ≤ count ∧ count ≤ high ∧
        chance'.asked = chance.asked ++ [(low, high)] ∧
        expand items formula chance = .ok (repeated, chance') ∧
        repeated.length = items.length * count ∧
        ∀ i < items.length * count, repeated[i]? = items[i % items.length]?) ∧
      ((∀ low high, ¬ FormulaText items.length formula low high) →
        ∃ fault, parse formula items.length = .error fault ∧
          expand items formula chance = .error fault) := by
  refine ⟨fun _ _ _ => parse_eq_ok_iff, fun items chance => ⟨fun low high h => ?_, fun hnone => ?_⟩⟩
  · obtain ⟨bounds, hparse, rfl, rfl⟩ := parse_eq_ok_iff.2 h
    exact ⟨_, _, _, rfl, chance.low_le_pick _ _, chance.pick_le_high _ _ bounds.low_le_high,
      List.reverse_cons, expand_of_parse hparse, length_copies _ _, fun i hi => getElem?_copies hi⟩
  · cases hparse : parse formula items.length with
    | ok bounds => exact absurd (parse_eq_ok_iff.1 ⟨bounds, hparse, rfl, rfl⟩) (hnone _ _)
    | error fault => exact ⟨fault, rfl, by rw [expand, hparse]; rfl⟩

/-- The bound that ` 1 .. ` leaves out is the length of the list. By `1...5` nothing is repeated: it is
cut at its first two points, and what is behind them is no count. -/
theorem parse_and_expand_blank_bound :
    let items : List Value := [.text "a", .text "b"]
    let chance := Chance.ofDraws [1]
    (FormulaText items.length " 1 .. " 1 2 ∧ ∃ count chance' repeated,
      chance.pick 1 2 = (count, chance') ∧ 1 ≤ count ∧ count ≤ 2 ∧
      chance'.asked = chance.asked ++ [(1, 2)] ∧
      expand items " 1 .. " chance = .ok (repeated, chance') ∧
      repeated.length = items.length * count ∧
      ∀ i < items.length * count, repeated[i]? = items[i % items.length]?) ∧
    (∀ low high, ¬ FormulaText items.length "1...5" low high) ∧
      ∃ fault, parse "1...5" items.length = .error fault ∧
        expand items "1...5" chance = .error fault := by
  intro items chance
  have hbounds : parse " 1 .. " 2 = .ok ⟨1, 2, by decide⟩ := by decide
  have hformula : FormulaText items.length " 1 .. " 1 2 :=
    ((parse_and_expand " 1 .. ").1 2 1 2).1 ⟨_, hbounds, rfl, rfl⟩
  have hfault : parse "1...5" 2 = .error (.invalidNumber ".5") := by decide
  have hnone : ∀ low high, ¬ FormulaText items.length "1...5" low high := by
    intro low high h
    obtain ⟨bounds, hparse, -⟩ := ((parse_and_expand "1...5").1 2 low high).2 h
    rw [hfault] at hparse
    cases hparse
  exact ⟨⟨hformula, ((parse_and_expand " 1 .. ").2 items chance).1 1 2 hformula⟩, hnone,
    ((parse_and_expand "1...5").2 items chance).2 hnone⟩

end Repeat

end MockApi
