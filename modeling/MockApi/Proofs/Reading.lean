import MockApi.Proofs.Grammar

/-!
# Reading documents by the grammar

* `denotes_of_readValue`, `overruns_of_readValue` : what the reader returns, or stops at, stands in
  the text;
* `Denotes.read`, `Overruns.stops` : what stands in the text is read, with enough fuel;
* `readDocument_eq_ok_iff`, `readDocument_eq_long_iff` : of a whole text the reader returns the value
  that the grammar gives it, and it stops at an integer that is too long exactly where one stands.
-/

namespace MockApi.Json

variable {dialect : Dialect} {text rest after : List Char} {v : Value} {items : List Value}
  {pairs : List (Text × Value)} {fuel n : Nat}

/-! ## What the reader returns stands in the text -/

mutual

theorem denotes_of_readValue : ∀ {fuel text v after},
    readValue dialect fuel text = .ok (v, after) → Denotes dialect text v after
  | 0, _, _, _, h => by cases h
  | fuel + 1, text, v, after, h => by
    rw [readValue.eq_def] at h
    dsimp only at h
    split at h
    · obtain ⟨⟨s, rest⟩, hs, h⟩ := bind_eq_ok_iff.1 h
      cases h
      exact .text hs
    · split at h
      · next hclose =>
        cases h
        exact .emptyList hclose
      · obtain ⟨⟨items, rest⟩, hitems, h⟩ := bind_eq_ok_iff.1 h
        cases h
        exact .list (denotesItems_of_readItems hitems)
    · split at h
      · next hclose =>
        cases h
        exact .emptyObject hclose
      · obtain ⟨⟨pairs, rest⟩, hpairs, h⟩ := bind_eq_ok_iff.1 h
        cases h
        exact .object (denotesMembers_of_readMembers hpairs)
    · exact .scalar h

theorem denotesItems_of_readItems : ∀ {fuel text items after},
    readItems dialect fuel text = .ok (items, after) → DenotesItems dialect text items after
  | 0, _, _, _, h => by cases h
  | fuel + 1, text, items, after, h => by
    rw [readItems] at h
    obtain ⟨⟨v, rest⟩, hv, h⟩ := bind_eq_ok_iff.1 h
    dsimp only at h
    split at h
    · next hclose =>
      cases h
      exact .last (denotes_of_readValue hv) hclose
    · next hcomma =>
      obtain ⟨⟨tail, rest⟩, htail, h⟩ := bind_eq_ok_iff.1 h
      cases h
      exact .more (denotes_of_readValue hv) hcomma (denotesItems_of_readItems htail)
    · cases h

theorem denotesMembers_of_readMembers : ∀ {fuel text pairs after},
    readMembers dialect fuel text = .ok (pairs, after) → DenotesMembers dialect text pairs after
  | 0, _, _, _, h => by cases h
  | fuel + 1, text, pairs, after, h => by
    rw [readMembers.eq_def] at h
    dsimp only at h
    split at h
    · obtain ⟨⟨key, colon⟩, hkey, h⟩ := bind_eq_ok_iff.1 h
      dsimp only at h
      split at h
      · next hcolon =>
        obtain ⟨⟨v, rest⟩, hv, h⟩ := bind_eq_ok_iff.1 h
        dsimp only at h
        split at h
        · next hclose =>
          cases h
          exact .last hkey hcolon (denotes_of_readValue hv) hclose
        · next hcomma =>
          obtain ⟨⟨others, rest⟩, hothers, h⟩ := bind_eq_ok_iff.1 h
          cases h
          exact .more hkey hcolon (denotes_of_readValue hv) hcomma
            (denotesMembers_of_readMembers hothers)
        · cases h
      · cases h
    · cases h

end

mutual

theorem overruns_of_readValue : ∀ {fuel text},
    readValue dialect fuel text = .error (.longInteger n) → Overruns dialect text n
  | 0, _, h => by cases h
  | fuel + 1, text, h => by
    rw [readValue.eq_def] at h
    dsimp only at h
    split at h
    · obtain hs | ⟨_, _, h⟩ := bind_eq_error_iff.1 h
      · exact absurd hs passes_readText.ne_long
      · cases h
    · split at h
      · cases h
      · obtain hitems | ⟨_, _, h⟩ := bind_eq_error_iff.1 h
        · exact .list (overrunsItems_of_readItems hitems)
        · cases h
    · split at h
      · cases h
      · obtain hpairs | ⟨_, _, h⟩ := bind_eq_error_iff.1 h
        · exact .object (overrunsMembers_of_readMembers hpairs)
        · cases h
    · exact .numeral (readScalar_eq_long_iff.1 h)

theorem overrunsItems_of_readItems : ∀ {fuel text},
    readItems dialect fuel text = .error (.longInteger n) → OverrunsItems dialect text n
  | 0, _, h => by cases h
  | fuel + 1, text, h => by
    rw [readItems] at h
    obtain hv | ⟨⟨v, rest⟩, hv, h⟩ := bind_eq_error_iff.1 h
    · exact .here (overruns_of_readValue hv)
    · dsimp only at h
      split at h
      · cases h
      · next hcomma =>
        obtain htail | ⟨_, _, h⟩ := bind_eq_error_iff.1 h
        · exact .later (denotes_of_readValue hv) hcomma (overrunsItems_of_readItems htail)
        · cases h
      · cases h

theorem overrunsMembers_of_readMembers : ∀ {fuel text},
    readMembers dialect fuel text = .error (.longInteger n) → OverrunsMembers dialect text n
  | 0, _, h => by cases h
  | fuel + 1, text, h => by
    rw [readMembers.eq_def] at h
    dsimp only at h
    split at h
    · obtain hkey | ⟨⟨key, colon⟩, hkey, h⟩ := bind_eq_error_iff.1 h
      · exact absurd hkey passes_readText.ne_long
      · dsimp only at h
        split at h
        · next hcolon =>
          obtain hv | ⟨⟨v, rest⟩, hv, h⟩ := bind_eq_error_iff.1 h
          · exact .here hkey hcolon (overruns_of_readValue hv)
          · dsimp only at h
            split at h
            · cases h
            · next hcomma =>
              obtain hothers | ⟨_, _, h⟩ := bind_eq_error_iff.1 h
              · exact .later hkey hcolon (denotes_of_readValue hv) hcomma
                  (overrunsMembers_of_readMembers hothers)
              · cases h
            · cases h
        · cases h
    · cases h

end

/-! ## What stands in the text is read -/

mutual

theorem Denotes.length_lt : ∀ {text v after},
    Denotes dialect text v after → after.length < text.length
  | _, _, _, .text h => Nat.lt_succ_of_lt (passes_ok.1 (h ▸ passes_readText))
  | _, _, _, .scalar h => length_lt_of_readScalar h
  | _, _, _, .emptyList h => Nat.lt_succ_of_lt (length_lt_of_skipGaps h)
  | _, _, _, .list h => Nat.lt_succ_of_lt (Nat.lt_of_lt_of_le h.length_lt (length_skipGaps_le _))
  | _, _, _, .emptyObject h => Nat.lt_succ_of_lt (length_lt_of_skipGaps h)
  | _, _, _, .object h => Nat.lt_succ_of_lt (Nat.lt_of_lt_of_le h.length_lt (length_skipGaps_le _))

theorem DenotesItems.length_lt : ∀ {text items after},
    DenotesItems dialect text items after → after.length < text.length
  | _, _, _, .last h hclose => Nat.lt_trans (length_lt_of_skipGaps hclose) h.length_lt
  | _, _, _, .more h hcomma hitems => by
    have hv := h.length_lt
    have hnext := length_skipGaps_lt hcomma
    have htail := hitems.length_lt
    omega

theorem DenotesMembers.length_lt : ∀ {text pairs after},
    DenotesMembers dialect text pairs after → after.length < text.length
  | _, _, _, .last hkey hcolon h hclose => by
    have hinner := length_lt_of_key hkey hcolon
    have hv := h.length_lt
    have hafter := length_lt_of_skipGaps hclose
    simp only [List.length_cons]
    omega
  | _, _, _, .more hkey hcolon h hcomma hpairs => by
    have hinner := length_lt_of_key hkey hcolon
    have hv := h.length_lt
    have hnext := length_skipGaps_lt hcomma
    have htail := hpairs.length_lt
    simp only [List.length_cons]
    omega

end

/-- Where a word or a numeral stands, or a numeral that is too long, no text, list or object does. -/
theorem readValue_of_scalar
    (h : ∀ complaint left, readScalar dialect text ≠ .error (.malformed complaint left)) :
    readValue dialect (fuel + 1) text = readScalar dialect text := by
  rw [readValue.eq_def]
  dsimp only
  split
  · exact absurd (readScalar_of_mark (by simp)) (h _ _)
  · exact absurd (readScalar_of_mark (by simp)) (h _ _)
  · exact absurd (readScalar_of_mark (by simp)) (h _ _)
  · rfl

theorem readValue_list (h : ∀ after, skipGaps rest ≠ ']' :: after) :
    readValue dialect (fuel + 1) ('[' :: rest) = (do
      let (items, after) ← readItems dialect fuel (skipGaps rest)
      return (.list items, after)) := by
  rw [readValue]
  split
  · next hclose => exact absurd hclose (h _)
  · rfl

theorem readValue_object (h : ∀ after, skipGaps rest ≠ '}' :: after) :
    readValue dialect (fuel + 1) ('{' :: rest) = (do
      let (pairs, after) ← readMembers dialect fuel (skipGaps rest)
      return (.object (Members.ofPairs pairs), after)) := by
  rw [readValue]
  split
  · next hclose => exact absurd hclose (h _)
  · rfl

theorem not_denotes_of_close : ¬ Denotes dialect (']' :: rest) v after := by
  rintro (_ | h)
  rw [readScalar_of_mark (by simp)] at h
  cases h

theorem DenotesItems.not_close (h : DenotesItems dialect text items after) (rest : List Char) :
    text ≠ ']' :: rest := by
  rintro rfl
  cases h with
  | last h => exact not_denotes_of_close h
  | more h => exact not_denotes_of_close h

theorem DenotesMembers.not_close (h : DenotesMembers dialect text pairs after) (rest : List Char) :
    text ≠ '}' :: rest := by
  rintro rfl
  cases h

-- Each step from a list or an object to its items or members passes a character, and each one from
-- there to a value passes none: so a value of `k` characters takes `2 * k - 1` steps at most, and
-- items or members of as many characters take `2 * k`.
mutual

theorem Denotes.read : ∀ {text v after}, Denotes dialect text v after →
    ∀ fuel, 2 * text.length ≤ fuel + 1 → readValue dialect fuel text = .ok (v, after)
  | _, _, _, .text h, fuel + 1, _ => by simp [readValue, h, bind, Except.bind, pure, Except.pure]
  | _, _, _, .scalar h, fuel + 1, _ => by rw [readValue_of_scalar (by simp [h]), h]
  | _, _, _, .emptyList h, fuel + 1, _ => by simp [readValue, h]
  | '[' :: rest, _, _, .list h, fuel + 1, hfuel => by
    have hshort := length_skipGaps_le rest
    simp only [List.length_cons] at hfuel
    rw [readValue_list h.not_close, h.read fuel (by omega)]
    rfl
  | _, _, _, .emptyObject h, fuel + 1, _ => by simp [readValue, h]
  | '{' :: rest, _, _, .object h, fuel + 1, hfuel => by
    have hshort := length_skipGaps_le rest
    simp only [List.length_cons] at hfuel
    rw [readValue_object h.not_close, h.read fuel (by omega)]
    rfl
  | _, _, _, h, 0, hfuel => by
    have := h.length_lt
    omega

theorem DenotesItems.read : ∀ {text items after}, DenotesItems dialect text items after →
    ∀ fuel, 2 * text.length ≤ fuel → readItems dialect fuel text = .ok (items, after)
  | _, _, _, .last h hclose, fuel + 1, hfuel => by
    simp [readItems, h.read fuel (by omega), hclose, bind, Except.bind, pure, Except.pure]
  | _, _, _, .more h hcomma hitems, fuel + 1, hfuel => by
    have hv := h.length_lt
    have hnext := length_skipGaps_lt hcomma
    simp [readItems, h.read fuel (by omega), hcomma, hitems.read fuel (by omega), bind, Except.bind,
      pure, Except.pure]
  | _, _, _, h, 0, hfuel => by
    have := h.length_lt
    omega

theorem DenotesMembers.read : ∀ {text pairs after}, DenotesMembers dialect text pairs after →
    ∀ fuel, 2 * text.length ≤ fuel → readMembers dialect fuel text = .ok (pairs, after)
  | _, _, _, .last hkey hcolon h hclose, fuel + 1, hfuel => by
    have hinner := length_lt_of_key hkey hcolon
    simp only [List.length_cons] at hfuel
    simp [readMembers, hkey, hcolon, h.read fuel (by omega), hclose, bind, Except.bind, pure,
      Except.pure]
  | _, _, _, .more hkey hcolon h hcomma hpairs, fuel + 1, hfuel => by
    have hinner := length_lt_of_key hkey hcolon
    have hv := h.length_lt
    have hnext := length_skipGaps_lt hcomma
    simp only [List.length_cons] at hfuel
    simp [readMembers, hkey, hcolon, h.read fuel (by omega), hcomma, hpairs.read fuel (by omega),
      bind, Except.bind, pure, Except.pure]
  | _, _, _, h, 0, hfuel => by
    have := h.length_lt
    omega

end

/-! ## The reader stops at an integer that is too long -/

theorem LongWhole.pos (h : LongWhole dialect text n) : 0 < text.length := by
  obtain ⟨digits, rest, hwhole, -⟩ := h
  exact Nat.zero_lt_of_lt (length_lt_of_wholeDigits? hwhole)

theorem LongNumeral.pos (h : LongNumeral dialect text n) : 0 < text.length := by
  obtain h | ⟨rest, rfl, -⟩ := h
  · exact h.pos
  · exact Nat.succ_pos _

mutual

theorem Overruns.pos : ∀ {text}, Overruns dialect text n → 0 < text.length
  | _, .numeral h => h.pos
  | _, .list _ => Nat.succ_pos _
  | _, .object _ => Nat.succ_pos _

theorem OverrunsItems.pos : ∀ {text}, OverrunsItems dialect text n → 0 < text.length
  | _, .here h => h.pos
  | _, .later h _ _ => Nat.zero_lt_of_lt h.length_lt
end

theorem not_overruns_of_close : ¬ Overruns dialect (']' :: rest) n := by
  rintro (h | _ | _)
  rw [← readScalar_eq_long_iff, readScalar_of_mark (by simp)] at h
  cases h

theorem OverrunsItems.not_close (h : OverrunsItems dialect text n) (rest : List Char) :
    text ≠ ']' :: rest := by
  rintro rfl
  cases h with
  | here h => exact not_overruns_of_close h
  | later h => exact not_denotes_of_close h

theorem OverrunsMembers.not_close (h : OverrunsMembers dialect text n) (rest : List Char) :
    text ≠ '}' :: rest := by
  rintro rfl
  cases h

mutual

theorem Overruns.stops : ∀ {text}, Overruns dialect text n →
    ∀ fuel, 2 * text.length ≤ fuel + 1 → readValue dialect fuel text = .error (.longInteger n)
  | _, .numeral h, fuel + 1, _ => by
    have hscalar := readScalar_eq_long_iff.2 h
    rw [readValue_of_scalar (by simp [hscalar]), hscalar]
  | '[' :: rest, .list h, fuel + 1, hfuel => by
    have hshort := length_skipGaps_le rest
    simp only [List.length_cons] at hfuel
    rw [readValue_list h.not_close, h.stops fuel (by omega)]
    rfl
  | '{' :: rest, .object h, fuel + 1, hfuel => by
    have hshort := length_skipGaps_le rest
    simp only [List.length_cons] at hfuel
    rw [readValue_object h.not_close, h.stops fuel (by omega)]
    rfl
  | _, h, 0, hfuel => by
    have := h.pos
    omega

theorem OverrunsItems.stops : ∀ {text}, OverrunsItems dialect text n →
    ∀ fuel, 2 * text.length ≤ fuel → readItems dialect fuel text = .error (.longInteger n)
  | _, .here h, fuel + 1, hfuel => by
    simp [readItems, h.stops fuel (by omega), bind, Except.bind]
  | _, .later h hcomma hitems, fuel + 1, hfuel => by
    have hv := h.length_lt
    have hnext := length_skipGaps_lt hcomma
    simp [readItems, h.read fuel (by omega), hcomma, hitems.stops fuel (by omega), bind, Except.bind]
  | _, h, 0, hfuel => by
    have := h.pos
    omega

theorem OverrunsMembers.stops : ∀ {text}, OverrunsMembers dialect text n →
    ∀ fuel, 2 * text.length ≤ fuel → readMembers dialect fuel text = .error (.longInteger n)
  | _, .here hkey hcolon h, fuel + 1, hfuel => by
    have hinner := length_lt_of_key hkey hcolon
    simp only [List.length_cons] at hfuel
    simp [readMembers, hkey, hcolon, h.stops fuel (by omega), bind, Except.bind]
  | _, .later hkey hcolon h hcomma hpairs, fuel + 1, hfuel => by
    have hinner := length_lt_of_key hkey hcolon
    have hv := h.length_lt
    have hnext := length_skipGaps_lt hcomma
    simp only [List.length_cons] at hfuel
    simp [readMembers, hkey, hcolon, h.read fuel (by omega), hcomma, hpairs.stops fuel (by omega),
      bind, Except.bind]

end

/-! ## Documents -/

theorem fuel_suffices (text : List Char) :
    2 * (skipGaps text).length ≤ 2 * text.length + 2 + 1 := by
  have := length_skipGaps_le text
  omega

theorem readDocument_eq_ok_iff : readDocument dialect text = .ok v ↔ IsDocument dialect text v := by
  unfold readDocument IsDocument
  split
  · next hmark => simp [hmark, stop]
  · next hmark =>
    rw [bind_eq_ok_iff]
    constructor
    · rintro ⟨⟨v', rest⟩, hv, h⟩
      dsimp only at h
      split at h
      · next hend =>
        cases h
        exact ⟨hmark, rest, denotes_of_readValue hv, hend⟩
      · cases h
    · rintro ⟨-, rest, h, hend⟩
      refine ⟨(v, rest), h.read _ (fuel_suffices text), ?_⟩
      simp [hend, pure, Except.pure]

theorem readDocument_eq_long_iff :
    readDocument dialect text = .error (.longInteger n) ↔ HoldsLong dialect text n := by
  unfold readDocument HoldsLong
  split
  · next hmark => simp [hmark, stop]
  · next hmark =>
    rw [bind_eq_error_iff]
    constructor
    · rintro (hv | ⟨⟨v, rest⟩, -, h⟩)
      · exact ⟨hmark, overruns_of_readValue hv⟩
      · dsimp only at h
        split at h <;> cases h
    · rintro ⟨-, h⟩
      exact .inl (h.stops _ (fuel_suffices text))

/-- A text is a document for one value at most. -/
theorem IsDocument.unique {v' : Value} (h : IsDocument dialect text v)
    (h' : IsDocument dialect text v') : v = v' := by
  rw [← readDocument_eq_ok_iff] at h h'
  exact Except.ok.inj (h.symm.trans h')

theorem read_eq_ok_iff {text : String} : read text = .ok v ↔ IsDocument .standard text.toList v := by
  rw [← readDocument_eq_ok_iff, read, readIn]
  cases readDocument .standard text.toList with
  | ok v' => constructor <;> rintro ⟨⟩ <;> rfl
  | error s => constructor <;> nofun

theorem read_eq_long_iff {text : String} :
    read text = .error (.longInteger n) ↔ HoldsLong .standard text.toList n := by
  rw [← readDocument_eq_long_iff, read, readIn]
  cases readDocument .standard text.toList with
  | ok v => constructor <;> nofun
  | error s =>
    cases s with
    | malformed complaint left => constructor <;> nofun
    | longInteger digits => constructor <;> rintro ⟨⟩ <;> rfl

end MockApi.Json
