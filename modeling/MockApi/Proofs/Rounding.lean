import Mathlib.Algebra.Order.Field.Power
import Mathlib.Algebra.Order.Ring.Abs
import Mathlib.Tactic.FieldSimp
import Mathlib.Tactic.Linarith
import Mathlib.Tactic.NormNum
import Mathlib.Tactic.Positivity
import Mathlib.Tactic.Ring
import MockApi.Number.Double

/-!
# Rounding to the nearest double

* `Double.Fits` : the finite doubles, each with the largest significand that the bounds allow;
* `Double.IsNearest` : no double is nearer to a number, and of two that are as near the significand is
  even;
* `Double.overflowBound` : from where on a number is too large for a finite double;
* `isNearest_nearest`, `nearest_of_overflowBound_le` : a ratio is rounded to the nearest double, or to
  an infinity if it is too large;
* `isNearest_ofDecimal`, `ofDecimal_of_overflowBound_le` : the same of a decimal mantissa and exponent.

A number is counted in units of its grid, so that its significand is the integer next to it and every
double but the smaller ones is an integer too.
-/

namespace MockApi.Double

/-! ## The nearest double -/

def signed (negative : Bool) (size : ℚ) : ℚ := if negative then -size else size

/-- A finite double, with the largest significand that the bounds allow. -/
def Fits : Double → Prop
  | .finite _ significand exponent =>
    significand < 2 ^ 53 ∧ minExponent ≤ exponent ∧ exponent ≤ maxExponent ∧
      (2 ^ 52 ≤ significand ∨ exponent = minExponent)
  | _ => False

/-- A finite double of even significand. -/
def IsEven : Double → Prop
  | .finite _ significand _ => Even significand
  | _ => False

/-- The double is nearest to the number: no other is nearer, and if one of another value is as near
then the significand is even. -/
structure IsNearest (x : Double) (r : ℚ) : Prop where
  fits : x.Fits
  le : ∀ y : Double, y.Fits → |r - x.toRat| ≤ |r - y.toRat|
  even : ∀ y : Double, y.Fits → |r - y.toRat| = |r - x.toRat| → y.toRat = x.toRat ∨ x.IsEven

/-- Half way from the greatest finite double to the next power of two. A number of this size would go
to the even significand, and so it is too large already. -/
def overflowBound : ℚ := 2 ^ 1024 - 2 ^ 970

variable {x y : Double} {r s : ℚ} {e : ℤ} {k num den : ℕ}

/-! ## Signs -/

theorem abs_signed (negative : Bool) (r : ℚ) : |signed negative r| = |r| := by
  cases negative with
  | false => rfl
  | true => exact abs_neg r

protected theorem neg_neg (x : Double) : x.neg.neg = x := by
  cases x <;> simp [neg]

theorem toRat_neg (x : Double) : x.neg.toRat = -x.toRat := by
  cases x with
  | finite negative significand exponent => cases negative <;> simp [neg, toRat]
  | infinite negative => rfl
  | nan => rfl

theorem Fits.neg (h : x.Fits) : x.neg.Fits := by
  cases x with
  | finite negative significand exponent => exact h
  | _ => cases h

theorem IsEven.neg (h : x.IsEven) : x.neg.IsEven := by
  cases x with
  | finite negative significand exponent => exact h
  | _ => cases h

theorem IsNearest.isFinite (h : IsNearest x r) : x.isFinite = true := by
  have hfits := h.fits
  cases x with
  | finite negative significand exponent => rfl
  | _ => cases hfits

theorem IsNearest.neg (h : IsNearest x r) : IsNearest x.neg (-r) := by
  have habs : ∀ y : Double, |-r - y.toRat| = |r - y.neg.toRat| := fun y => by
    rw [toRat_neg, ← abs_neg]
    ring_nf
  refine ⟨h.fits.neg, fun y hy => ?_, fun y hy heq => ?_⟩
  · rw [habs, habs, Double.neg_neg]
    exact h.le _ hy.neg
  · rw [habs, habs, Double.neg_neg] at heq
    refine (h.even _ hy.neg heq).imp (fun hvalue => ?_) .neg
    rw [toRat_neg, ← hvalue, toRat_neg, neg_neg]

/-! ## Scaling -/

theorem scaled_div (num den : ℕ) (e : ℤ) :
    (scaledNum num e : ℚ) / scaledDen den e = num / den / 2 ^ e := by
  obtain ⟨n, rfl | rfl⟩ := Int.eq_nat_or_neg e
  · simp [scaledNum, scaledDen, div_div]
  · simp [scaledNum, scaledDen, zpow_neg, mul_div_right_comm]

theorem toRat_finite (negative : Bool) (significand : ℕ) (e : ℤ) :
    (finite negative significand e).toRat = signed negative (significand * 2 ^ e) := by
  have hsize : (mkRat (scaledNum significand (-e)) (scaledDen 1 (-e)) : ℚ) = significand * 2 ^ e := by
    rw [Rat.mkRat_eq_div]
    simpa using scaled_div significand 1 (-e)
  simp only [toRat, hsize]
  rfl

/-- The number of units of its grid that a positive number is: small enough for a significand, and as
large as those of full size are unless the grid is the finest one. -/
structure Scaled (s : ℚ) (e : ℤ) : Prop where
  le : minExponent ≤ e
  lt : s < 2 ^ 53
  normal : 2 ^ 52 ≤ s ∨ e = minExponent

theorem div_zpow_sub_one (r : ℚ) (e : ℤ) : r / 2 ^ (e - 1) = 2 * (r / 2 ^ e) := by
  rw [zpow_sub_one₀ (by norm_num)]
  field_simp

/-- The logarithms tell the size of a ratio up to a factor of two on either side. -/
theorem ratio_bounds (hnum : 0 < num) (hden : 0 < den) :
    (2 : ℚ) ^ 51 < num / den / 2 ^ ((num.log2 : ℤ) - den.log2 - 52) ∧
      (num / den / 2 ^ ((num.log2 : ℤ) - den.log2 - 52) : ℚ) < 2 ^ 53 := by
  have hnumLow : (2 : ℚ) ^ num.log2 ≤ num := by exact_mod_cast Nat.log2_self_le hnum.ne'
  have hnumHigh : (num : ℚ) < 2 ^ (num.log2 + 1) := by exact_mod_cast Nat.lt_log2_self
  have hdenLow : (2 : ℚ) ^ den.log2 ≤ den := by exact_mod_cast Nat.log2_self_le hden.ne'
  have hdenHigh : (den : ℚ) < 2 ^ (den.log2 + 1) := by exact_mod_cast Nat.lt_log2_self
  have hpos : (0 : ℚ) < den := by exact_mod_cast hden
  have hscale : (2 : ℚ) ^ ((num.log2 : ℤ) - den.log2 - 52) = 2 ^ num.log2 / 2 ^ den.log2 / 2 ^ 52 := by
    rw [zpow_sub₀ (by norm_num), zpow_sub₀ (by norm_num)]
    rfl
  rw [hscale]
  constructor
  · rw [lt_div_iff₀ (by positivity), lt_div_iff₀ hpos]
    calc (2 : ℚ) ^ 51 * (2 ^ num.log2 / 2 ^ den.log2 / 2 ^ 52) * den
        < 2 ^ 51 * (2 ^ num.log2 / 2 ^ den.log2 / 2 ^ 52) * 2 ^ (den.log2 + 1) := by gcongr
      _ = 2 ^ num.log2 := by
        field_simp
        ring
      _ ≤ num := hnumLow
  · rw [div_lt_iff₀ (by positivity), div_lt_iff₀ hpos]
    calc (num : ℚ) < 2 ^ (num.log2 + 1) := hnumHigh
      _ = 2 ^ 53 * (2 ^ num.log2 / 2 ^ den.log2 / 2 ^ 52) * 2 ^ den.log2 := by
        field_simp
        ring
      _ ≤ 2 ^ 53 * (2 ^ num.log2 / 2 ^ den.log2 / 2 ^ 52) * den := by gcongr

theorem scaledNum_lt_iff (hden : 0 < den) (e : ℤ) :
    scaledNum num e < Nat.pow 2 52 * scaledDen den e ↔ (num / den / 2 ^ e : ℚ) < 2 ^ 52 := by
  have hpos : (0 : ℚ) < scaledDen den e := by
    exact_mod_cast Nat.mul_pos hden (Nat.pow_pos (by decide))
  rw [← scaled_div, div_lt_iff₀ hpos]
  exact_mod_cast Iff.rfl

/-- **The exponent chosen for a ratio is that of its grid.** -/
theorem scaled_exponentOf (hnum : 0 < num) (hden : 0 < den) :
    Scaled (num / den / 2 ^ exponentOf num den) (exponentOf num den) := by
  obtain ⟨hlow, hhigh⟩ := ratio_bounds hnum hden
  unfold exponentOf
  generalize (num.log2 : ℤ) - den.log2 - 52 = guess at hlow hhigh
  obtain ⟨exact, hexact, hnormal, hlt⟩ : ∃ exact : ℤ,
      (if scaledNum num guess < Nat.pow 2 52 * scaledDen den guess then guess - 1 else guess) = exact ∧
        (2 : ℚ) ^ 52 ≤ num / den / 2 ^ exact ∧ (num / den / 2 ^ exact : ℚ) < 2 ^ 53 := by
    refine ⟨_, rfl, ?_⟩
    split
    · next h =>
      rw [scaledNum_lt_iff hden] at h
      rw [div_zpow_sub_one]
      constructor <;> linarith
    · next h =>
      rw [scaledNum_lt_iff hden, not_lt] at h
      exact ⟨h, hhigh⟩
  simp only [hexact]
  rcases le_total minExponent exact with hle | hle
  · rw [max_eq_left hle]
    exact ⟨hle, hlt, .inl hnormal⟩
  · rw [max_eq_right hle]
    refine ⟨le_rfl, lt_of_le_of_lt ?_ hlt, .inr rfl⟩
    gcongr
    norm_num

/-! ## The nearest integer -/

/-- The integer is nearest to the number, and even if it is half way between two. -/
structure RoundsTo (s : ℚ) (k : ℕ) : Prop where
  le : |s - k| ≤ 1 / 2
  even : |s - k| = 1 / 2 → Even k

theorem roundsTo_roundQuotient (num : ℕ) (hden : 0 < den) :
    RoundsTo (num / den) (roundQuotient num den) := by
  have hpos : (0 : ℚ) < den := by exact_mod_cast hden
  have hsplit : (num / den : ℚ) = (num / den : ℕ) + (num % den : ℕ) / den := by
    have h : (num : ℚ) = den * (num / den : ℕ) + (num % den : ℕ) := by
      exact_mod_cast (Nat.div_add_mod num den).symm
    rw [div_eq_iff hpos.ne', add_mul, div_mul_cancel₀ _ hpos.ne', mul_comm, ← h]
  have hnonneg : (0 : ℚ) ≤ (num % den : ℕ) / den := by positivity
  have hlt : ((num % den : ℕ) / den : ℚ) < 1 := by
    rw [div_lt_one hpos]
    exact_mod_cast Nat.mod_lt num hden
  have habove : den < 2 * (num % den) ↔ (1 / 2 : ℚ) < (num % den : ℕ) / den := by
    rw [lt_div_iff₀ hpos, div_mul_eq_mul_div, one_mul, div_lt_iff₀ (by norm_num), mul_comm _ (2 : ℚ)]
    exact_mod_cast Iff.rfl
  have hhalf : den = 2 * (num % den) ↔ ((num % den : ℕ) / den : ℚ) = 1 / 2 := by
    rw [div_eq_iff hpos.ne', div_mul_eq_mul_div, one_mul, eq_div_iff (by norm_num), mul_comm _ (2 : ℚ),
      eq_comm]
    exact_mod_cast Iff.rfl
  simp only [roundQuotient, habove, hhalf, hsplit]
  generalize ((num % den : ℕ) / den : ℚ) = part at hnonneg hlt
  generalize num / den = q
  split
  · next h =>
    have hsize : |(q : ℚ) + part - (q + 1 : ℕ)| = 1 - part := by
      push_cast
      rw [abs_of_nonpos] <;> linarith
    rcases h with h | ⟨h, hodd⟩
    · exact ⟨by linarith, fun heq => by linarith⟩
    · exact ⟨by linarith, fun _ => Nat.even_add_one.2 (Nat.not_even_iff.2 hodd)⟩
  · next h =>
    rw [not_or, not_lt, not_and] at h
    have hsize : |(q : ℚ) + part - q| = part := by
      rw [add_sub_cancel_left, abs_of_nonneg hnonneg]
    refine ⟨hsize.trans_le h.1, fun heq => Nat.not_odd_iff_even.1 fun hodd => ?_⟩
    exact h.2 (hsize.symm.trans heq) (Nat.odd_iff.1 hodd)

/-- Another integer is at least as far as the half unit that the nearest is within. -/
theorem half_le_of_ne (h : RoundsTo s k) {j : ℤ} (hne : j ≠ k) : 1 / 2 ≤ |s - j| := by
  have hstep : (1 : ℚ) ≤ |(j : ℚ) - k| := by
    exact_mod_cast Int.one_le_abs (sub_ne_zero.2 hne)
  have htriangle : |(j : ℚ) - k| ≤ |(j : ℚ) - s| + |s - k| := abs_sub_le _ _ _
  rw [abs_sub_comm (j : ℚ) s] at htriangle
  linarith [h.le]

theorem RoundsTo.le_int (h : RoundsTo s k) (j : ℤ) : |s - k| ≤ |s - j| := by
  by_cases hne : j = k
  · subst hne
    exact le_rfl
  · exact h.le.trans (half_le_of_ne h hne)

theorem RoundsTo.even_of_eq (h : RoundsTo s k) {j : ℤ} (heq : |s - j| = |s - k|) : j = k ∨ Even k := by
  by_cases hne : j = k
  · exact .inl hne
  · exact .inr (h.even (le_antisymm h.le (heq ▸ half_le_of_ne h hne)))

/-! ## The grid of a number -/

/-- On the grid of a number every double is an integer, or smaller than the significands of full size. -/
theorem int_or_small (hs : Scaled s e) (hy : y.Fits) :
    (∃ j : ℤ, y.toRat = j * 2 ^ e) ∨ 2 ^ 52 ≤ s ∧ y.toRat < 2 ^ 52 * 2 ^ e := by
  cases y with
  | infinite negative => cases hy
  | nan => cases hy
  | finite negative significand exponent =>
    obtain ⟨hsignificand, hmin, hmax, -⟩ := hy
    rw [toRat_finite]
    rcases le_or_gt e exponent with hle | hlt
    · obtain ⟨n, hn⟩ := Int.eq_ofNat_of_zero_le (sub_nonneg.2 hle)
      refine .inl ⟨if negative then -(significand * 2 ^ n : ℕ) else (significand * 2 ^ n : ℕ), ?_⟩
      rw [show exponent = e + n by omega, zpow_add₀ (by norm_num), zpow_natCast]
      cases negative <;> simp [signed] <;> ring
    · refine .inr ⟨hs.normal.resolve_right (by omega), ?_⟩
      calc signed negative (significand * 2 ^ exponent)
          ≤ |signed negative (significand * 2 ^ exponent)| := le_abs_self _
        _ = significand * 2 ^ exponent := by rw [abs_signed, abs_of_nonneg (by positivity)]
        _ < 2 ^ 53 * 2 ^ exponent := by
          gcongr
          exact_mod_cast hsignificand
        _ = 2 ^ 52 * 2 ^ (exponent + 1) := by
          rw [zpow_add_one₀ (by norm_num)]
          ring
        _ ≤ 2 ^ 52 * 2 ^ e := by
          gcongr
          · norm_num
          · omega

/-- **A double of the integer next to a number on its grid is nearest to it.** -/
theorem isNearest_of_roundsTo (hs : Scaled s e) (hk : RoundsTo s k) (hfits : x.Fits)
    (hvalue : x.toRat = k * 2 ^ e) (heven : Even k → x.IsEven) : IsNearest x (s * 2 ^ e) := by
  have hpos : (0 : ℚ) < 2 ^ e := by positivity
  have hscaled : ∀ t : ℚ, |s * 2 ^ e - t * 2 ^ e| = |s - t| * 2 ^ e := fun t => by
    rw [← sub_mul, abs_mul, abs_of_pos hpos]
  -- A double off the grid lies below `2 ^ 52` units, which is itself on the grid and no nearer.
  have hsmall : ∀ y : Double, 2 ^ 52 ≤ s → y.toRat < 2 ^ 52 * 2 ^ e →
      |s * 2 ^ e - x.toRat| < |s * 2 ^ e - y.toRat| := by
    intro y hnormal hy
    have hle : |s - k| ≤ s - 2 ^ 52 := by
      have h := hk.le_int (2 ^ 52)
      rwa [Int.cast_pow, Int.cast_ofNat, abs_of_nonneg (sub_nonneg.2 hnormal)] at h
    calc |s * 2 ^ e - x.toRat| = |s - k| * 2 ^ e := by rw [hvalue, hscaled]
      _ ≤ (s - 2 ^ 52) * 2 ^ e := by gcongr
      _ < s * 2 ^ e - y.toRat := by linarith
      _ ≤ |s * 2 ^ e - y.toRat| := le_abs_self _
  refine ⟨hfits, fun y hy => ?_, fun y hy heq => ?_⟩
  · rcases int_or_small hs hy with ⟨j, hj⟩ | ⟨hnormal, hlt⟩
    · rw [hvalue, hj, hscaled, hscaled]
      exact mul_le_mul_of_nonneg_right (hk.le_int j) hpos.le
    · exact (hsmall y hnormal hlt).le
  · rcases int_or_small hs hy with ⟨j, hj⟩ | ⟨hnormal, hlt⟩
    · rw [hvalue, hj, hscaled, hscaled] at heq
      refine (hk.even_of_eq (mul_right_cancel₀ hpos.ne' heq)).imp (fun h => ?_) heven
      rw [hvalue, hj, h]
      rfl
    · exact absurd heq (hsmall y hnormal hlt).ne'

/-! ## Rounding a ratio -/

theorem RoundsTo.le_of_lt (h : RoundsTo s k) {n : ℕ} (hs : s < n) : k ≤ n := by
  have hlow := (abs_le.1 h.le).1
  have hlt : (k : ℚ) < n + 1 := by linarith
  exact Nat.lt_succ_iff.1 (by exact_mod_cast hlt)

theorem RoundsTo.ge_of_le (h : RoundsTo s k) {n : ℕ} (hs : n ≤ s) : n ≤ k := by
  have hhigh := (abs_le.1 h.le).2
  have hlt : (n : ℚ) < k + 1 := by linarith
  exact Nat.lt_succ_iff.1 (by exact_mod_cast hlt)

/-- Below an even integer only the last half unit is rounded up to it. -/
theorem RoundsTo.eq_iff_of_lt (h : RoundsTo s k) {n : ℕ} (heven : Even n) (hs : s < n) :
    k = n ↔ (n : ℚ) - 1 / 2 ≤ s := by
  constructor
  · rintro rfl
    linarith [(abs_le.1 h.le).1]
  · intro hlow
    refine le_antisymm (h.le_of_lt hs) (not_lt.1 fun hlt => ?_)
    have hstep : (k : ℚ) + 1 ≤ n := by exact_mod_cast hlt
    have hhigh := (abs_le.1 h.le).2
    have hodd : k + 1 = n := by exact_mod_cast (by linarith : (k : ℚ) + 1 = n)
    have htie : |s - k| = 1 / 2 := le_antisymm h.le (by rw [abs_of_nonneg] <;> linarith)
    rw [← hodd, Nat.even_add_one] at heven
    exact heven (h.even htie)

theorem overflowBound_eq : overflowBound = (2 ^ 53 - 1 / 2) * 2 ^ maxExponent := by
  rw [overflowBound, maxExponent, show (971 : ℤ) = (970 : ℕ) + 1 by norm_num,
    zpow_add_one₀ (by norm_num), zpow_natCast, show 1024 = 54 + 970 by norm_num, pow_add]
  generalize (2 : ℚ) ^ 970 = unit
  ring

/-- **A number is too large exactly if it needs a greater exponent**, be it for its grid or for the
carry into the next one. -/
theorem overflowBound_le_iff (hs : Scaled s e) (hk : RoundsTo s k) :
    overflowBound ≤ s * 2 ^ e ↔ maxExponent < e ∨ maxExponent = e ∧ k = 2 ^ 53 := by
  rw [overflowBound_eq]
  rcases lt_trichotomy maxExponent e with hlt | heq | hgt
  · have hnormal : 2 ^ 52 ≤ s := hs.normal.resolve_right (ne_of_gt (lt_trans (by decide) hlt))
    refine iff_of_true ?_ (.inl hlt)
    calc ((2 : ℚ) ^ 53 - 1 / 2) * 2 ^ maxExponent ≤ 2 ^ 53 * 2 ^ maxExponent := by
          gcongr
          norm_num
      _ = 2 ^ 52 * 2 ^ (maxExponent + 1) := by
        rw [zpow_add_one₀ (by norm_num)]
        ring
      _ ≤ s * 2 ^ e := by
        gcongr
        · norm_num
        · omega
  · subst heq
    have hcarry := hk.eq_iff_of_lt (n := 2 ^ 53) (by decide) (by exact_mod_cast hs.lt)
    rw [mul_le_mul_iff_left₀ (by positivity), or_iff_right (lt_irrefl _), and_iff_right rfl, hcarry]
    push_cast
    rfl
  · refine iff_of_false (not_le.2 ?_) (by omega)
    calc s * 2 ^ e < 2 ^ 53 * 2 ^ e := by
          gcongr
          exact hs.lt
      _ ≤ 2 ^ 53 * 2 ^ (maxExponent - 1) := by
        gcongr
        · norm_num
        · omega
      _ = 2 ^ 52 * 2 ^ maxExponent := by
        rw [zpow_sub_one₀ (by norm_num)]
        ring
      _ < (2 ^ 53 - 1 / 2) * 2 ^ maxExponent := by
        gcongr
        norm_num

/-- The double of a significand on a grid, with the carry into the next grid. -/
theorem exists_finite (hs : Scaled s e) (hk : RoundsTo s k) (hbound : s * 2 ^ e < overflowBound) :
    (k = 2 ^ 53 → e < maxExponent ∧ IsNearest (finite false (2 ^ 52) (e + 1)) (s * 2 ^ e)) ∧
      (k ≠ 2 ^ 53 → e ≤ maxExponent ∧ IsNearest (finite false k e) (s * 2 ^ e)) := by
  have hexponent := (not_congr (overflowBound_le_iff hs hk)).1 (not_le.2 hbound)
  rw [not_or, not_lt, not_and] at hexponent
  have hmin := hs.le
  constructor
  · intro hcarry
    have hlt : e < maxExponent := lt_of_le_of_ne hexponent.1 fun h => hexponent.2 h.symm hcarry
    refine ⟨hlt, isNearest_of_roundsTo hs hk ⟨by decide, by omega, by omega, .inl le_rfl⟩ ?_ fun _ => ?_⟩
    · rw [toRat_finite, hcarry, zpow_add_one₀ (by norm_num)]
      simp only [signed, Bool.false_eq_true, if_false]
      push_cast
      ring
    · exact ⟨2 ^ 51, by norm_num⟩
  · intro hcarry
    have hle : k ≤ 2 ^ 53 := hk.le_of_lt (by exact_mod_cast hs.lt)
    refine ⟨hexponent.1, isNearest_of_roundsTo hs hk ⟨by omega, hmin, hexponent.1, ?_⟩ ?_ id⟩
    · exact hs.normal.imp_left fun h => hk.ge_of_le (by exact_mod_cast h)
    · rw [toRat_finite]
      rfl

/-- Zero is nearest to a number of at most half the least positive double. -/
theorem isNearest_zero (hr : 0 ≤ r) (hsmall : r ≤ 2 ^ (-1075 : ℤ)) : IsNearest (zero false) r := by
  have hunit : (2 : ℚ) ^ minExponent = 2 * 2 ^ (-1075 : ℤ) := by
    rw [← zpow_one_add₀ (by norm_num)]
    rfl
  have hpos : (0 : ℚ) < 2 ^ minExponent := by positivity
  have hhalf : r / 2 ^ minExponent ≤ 1 / 2 := by
    rw [div_le_iff₀ hpos, hunit]
    linarith
  have hs : Scaled (r / 2 ^ minExponent) minExponent := ⟨le_rfl, hhalf.trans_lt (by norm_num), .inr rfl⟩
  have hk : RoundsTo (r / 2 ^ minExponent) 0 := by
    refine ⟨?_, fun _ => Even.zero⟩
    rwa [Nat.cast_zero, sub_zero, abs_of_nonneg (by positivity)]
  have h := isNearest_of_roundsTo (x := zero false) hs hk ⟨by decide, le_rfl, by decide, .inr rfl⟩
    (by rw [zero, toRat_finite]; rfl) id
  rwa [div_mul_cancel₀ _ hpos.ne'] at h

theorem nearest_true (num den : ℕ) : nearest true num den = (nearest false num den).neg := by
  simp only [nearest]
  split_ifs <;> rfl

theorem isNegative_nearest (negative : Bool) (num den : ℕ) :
    (nearest negative num den).isNegative = negative := by
  simp only [nearest]
  split_ifs <;> rfl

theorem roundsTo_scaled (hden : 0 < den) (e : ℤ) :
    RoundsTo (num / den / 2 ^ e) (roundQuotient (scaledNum num e) (scaledDen den e)) := by
  rw [← scaled_div]
  exact roundsTo_roundQuotient _ (Nat.mul_pos hden (Nat.pow_pos (by decide)))

theorem isNearest_nearest_false (hden : 0 < den) (hbound : (num / den : ℚ) < overflowBound) :
    IsNearest (nearest false num den) (num / den) := by
  unfold nearest
  split
  · next hzero =>
    rw [hzero, Nat.cast_zero, zero_div]
    exact isNearest_zero le_rfl (by positivity)
  · next hnum =>
    have hs := scaled_exponentOf (Nat.pos_of_ne_zero hnum) hden
    have hpos : (0 : ℚ) < 2 ^ exponentOf num den := by positivity
    have hexists := exists_finite hs (roundsTo_scaled hden _) (by rwa [div_mul_cancel₀ _ hpos.ne'])
    rw [div_mul_cancel₀ _ hpos.ne'] at hexists
    dsimp only
    split
    · next hcarry =>
      obtain ⟨hlt, hnearest⟩ := hexists.1 hcarry
      rwa [if_neg (not_le.2 hlt)]
    · next hcarry =>
      obtain ⟨hle, hnearest⟩ := hexists.2 hcarry
      rwa [if_neg (not_lt.2 hle)]

/-- **A ratio below the bound is rounded to the nearest double.** -/
theorem isNearest_nearest (negative : Bool) (hden : 0 < den) (hbound : (num / den : ℚ) < overflowBound) :
    IsNearest (nearest negative num den) (signed negative (num / den)) := by
  cases negative with
  | false => exact isNearest_nearest_false hden hbound
  | true =>
    rw [nearest_true]
    exact (isNearest_nearest_false hden hbound).neg

theorem two_pow_lt_overflowBound : 2 ^ 52 < overflowBound := by
  rw [overflowBound_eq]
  calc (2 : ℚ) ^ 52 < 2 ^ 53 - 1 / 2 := by norm_num
    _ ≤ (2 ^ 53 - 1 / 2) * 2 ^ maxExponent :=
      le_mul_of_one_le_right (by norm_num) (one_le_zpow₀ (by norm_num) (by decide))

/-- **A ratio from the bound on is rounded to an infinity.** -/
theorem nearest_of_overflowBound_le (negative : Bool) (hden : 0 < den)
    (hbound : overflowBound ≤ (num / den : ℚ)) : nearest negative num den = .infinite negative := by
  have hnum : num ≠ 0 := by
    rintro rfl
    rw [Nat.cast_zero, zero_div] at hbound
    exact absurd ((by positivity : (0 : ℚ) < 2 ^ 52).trans two_pow_lt_overflowBound) (not_lt.2 hbound)
  have hs := scaled_exponentOf (Nat.pos_of_ne_zero hnum) hden
  have hpos : (0 : ℚ) < 2 ^ exponentOf num den := by positivity
  have hexponent := (overflowBound_le_iff hs (roundsTo_scaled hden _)).1
    (by rwa [div_mul_cancel₀ _ hpos.ne'])
  simp only [nearest, if_neg hnum]
  split
  · rw [if_pos (hexponent.elim le_of_lt fun h => h.1.le)]
  · next hcarry => rw [if_pos (hexponent.resolve_right fun h => hcarry h.2)]

/-! ## Rounding a decimal mantissa and exponent -/

theorem fewestDigits_spec (bits : ℕ) : 10 ^ fewestDigits bits ≤ 2 ^ bits := by
  refine (Nat.pow_le_pow_iff_left (n := 10) (by decide)).1 ?_
  calc (10 ^ fewestDigits bits) ^ 10 = 10 ^ (fewestDigits bits * 10) := (pow_mul _ _ _).symm
    _ ≤ 10 ^ (3 * bits) := Nat.pow_le_pow_right (by decide) (by unfold fewestDigits; omega)
    _ = (10 ^ 3) ^ bits := pow_mul _ _ _
    _ ≤ (2 ^ 10) ^ bits := Nat.pow_le_pow_left (by decide) _
    _ = (2 ^ bits) ^ 10 := pow_right_comm _ _ _

theorem mostDigits_spec (bits : ℕ) : 2 ^ bits ≤ 10 ^ mostDigits bits := by
  refine (Nat.pow_le_pow_iff_left (n := 13) (by decide)).1 ?_
  calc (2 ^ bits) ^ 13 = (2 ^ 13) ^ bits := pow_right_comm _ _ _
    _ ≤ (10 ^ 4) ^ bits := Nat.pow_le_pow_left (by decide) _
    _ = 10 ^ (4 * bits) := (pow_mul _ _ _).symm
    _ ≤ 10 ^ (mostDigits bits * 13) := Nat.pow_le_pow_right (by decide) (by unfold mostDigits; omega)
    _ = (10 ^ mostDigits bits) ^ 13 := pow_mul _ _ _

theorem two_zpow_le (bits digits : ℕ) (h : mostDigits bits ≤ digits) :
    (2 : ℚ) ^ (bits : ℤ) ≤ 10 ^ (digits : ℤ) := by
  rw [zpow_natCast, zpow_natCast]
  exact_mod_cast (mostDigits_spec bits).trans (Nat.pow_le_pow_right (by decide) h)

/-- The number of digits of a mantissa, between the two estimates of it. -/
theorem mantissa_bounds {mantissa : ℕ} (h : mantissa ≠ 0) :
    10 ^ fewestDigits mantissa.log2 ≤ mantissa ∧ mantissa < 10 ^ mostDigits (mantissa.log2 + 1) :=
  ⟨(fewestDigits_spec _).trans (Nat.log2_self_le h), Nat.lt_log2_self.trans_le (mostDigits_spec _)⟩

theorem decimal_ratio (mantissa : ℕ) (exponent : ℤ) :
    ((mantissa * Nat.pow 10 exponent.toNat : ℕ) / (Nat.pow 10 (-exponent).toNat : ℕ) : ℚ) =
      mantissa * 10 ^ exponent := by
  obtain ⟨n, rfl | rfl⟩ := Int.eq_nat_or_neg exponent
  · simp
  · simp [zpow_neg, div_eq_mul_inv]

/-- What is told to be far too small is at most half the least positive double. -/
theorem decimal_small {mantissa : ℕ} {exponent : ℤ}
    (h : mantissa = 0 ∨ mostDigits (mantissa.log2 + 1) + exponent < -340) :
    (mantissa * 10 ^ exponent : ℚ) ≤ 2 ^ (-1075 : ℤ) := by
  by_cases hzero : mantissa = 0
  · rw [hzero, Nat.cast_zero, zero_mul]
    positivity
  · have hdigits := h.resolve_left hzero
    have hmost : (mantissa : ℚ) ≤ 10 ^ mostDigits (mantissa.log2 + 1) := by
      exact_mod_cast (mantissa_bounds hzero).2.le
    calc (mantissa * 10 ^ exponent : ℚ)
        ≤ 10 ^ mostDigits (mantissa.log2 + 1) * 10 ^ exponent := by gcongr
      _ = 10 ^ (mostDigits (mantissa.log2 + 1) + exponent) := by
        rw [zpow_add₀ (by norm_num), zpow_natCast]
      _ ≤ 10 ^ (-341 : ℤ) := by
        gcongr
        · norm_num
        · omega
      _ ≤ 2 ^ (-1075 : ℤ) := by
        rw [zpow_neg, zpow_neg]
        exact inv_anti₀ (by positivity) (two_zpow_le 1075 341 (by decide))

/-- What is told to be far too large is beyond the bound. -/
theorem decimal_large {mantissa : ℕ} {exponent : ℤ} (hzero : mantissa ≠ 0)
    (h : 320 < fewestDigits mantissa.log2 + exponent) :
    overflowBound ≤ (mantissa * 10 ^ exponent : ℚ) := by
  have hfewest : (10 : ℚ) ^ fewestDigits mantissa.log2 ≤ mantissa := by
    exact_mod_cast (mantissa_bounds hzero).1
  calc overflowBound ≤ 2 ^ 1024 := sub_le_self _ (by positivity)
    _ ≤ 10 ^ (321 : ℤ) := two_zpow_le 1024 321 (by decide)
    _ ≤ 10 ^ (fewestDigits mantissa.log2 + exponent) := by
      gcongr
      · norm_num
      · omega
    _ = 10 ^ fewestDigits mantissa.log2 * 10 ^ exponent := by
      rw [zpow_add₀ (by norm_num), zpow_natCast]
    _ ≤ mantissa * 10 ^ exponent := by gcongr

variable {mantissa : ℕ} {exponent : ℤ}

/-- **A decimal below the bound is rounded to the nearest double**, however many digits it has. -/
theorem isNearest_ofDecimal (negative : Bool) (hbound : (mantissa * 10 ^ exponent : ℚ) < overflowBound) :
    IsNearest (ofDecimal negative mantissa exponent) (signed negative (mantissa * 10 ^ exponent)) := by
  simp only [ofDecimal]
  split
  · next hsmall =>
    have hzero := isNearest_zero (by positivity) (decimal_small hsmall)
    cases negative with
    | false => exact hzero
    | true => exact hzero.neg
  · next hsmall =>
    rw [not_or] at hsmall
    rw [if_neg fun hlarge => absurd hbound (not_lt.2 (decimal_large hsmall.1 hlarge)), ← decimal_ratio]
    rw [← decimal_ratio] at hbound
    exact isNearest_nearest negative (Nat.pow_pos (by decide)) hbound

/-- **A decimal from the bound on is rounded to an infinity.** -/
theorem ofDecimal_of_overflowBound_le (negative : Bool)
    (hbound : overflowBound ≤ (mantissa * 10 ^ exponent : ℚ)) :
    ofDecimal negative mantissa exponent = .infinite negative := by
  simp only [ofDecimal]
  split
  · next hsmall =>
    have hone : (2 : ℚ) ^ (-1075 : ℤ) ≤ 1 := zpow_le_one_of_nonpos₀ (by norm_num) (by decide)
    have hlow : overflowBound ≤ 1 := hbound.trans ((decimal_small hsmall).trans hone)
    exact absurd (two_pow_lt_overflowBound.trans_le hlow) (by norm_num)
  · split
    · rfl
    · rw [← decimal_ratio] at hbound
      exact nearest_of_overflowBound_le negative (Nat.pow_pos (by decide)) hbound

theorem isNegative_ofDecimal (negative : Bool) (mantissa : ℕ) (exponent : ℤ) :
    (ofDecimal negative mantissa exponent).isNegative = negative := by
  simp only [ofDecimal]
  split
  · rfl
  · split
    · rfl
    · exact isNegative_nearest _ _ _

end MockApi.Double
