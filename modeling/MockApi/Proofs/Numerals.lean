import Mathlib.Data.List.DropRight
import MockApi.Cast
import MockApi.Proofs.Integer
import MockApi.Proofs.Rounding

/-!
# The numerals that a cast reads

* `IntegerNumeral` : an optional sign and ASCII digits, not too many;
* `DecimalNumeral` : an optional sign, digits with an optional point and an optional exponent;
* `readInteger_eq_ok_iff`, `decimalNumeral?_eq_some_iff` : in plain text the two readers read exactly these;
* `cast_number_text` : what a cast to a number makes of a text.
-/

namespace MockApi

open Text (isAsciiDigit digitsValue strip)
open Double (overflowBound signed)

/-! ## The grammar -/

def IsDigits (text : Text) : Prop := ∀ c ∈ text, isAsciiDigit c = true

/-- An optional sign, and whether it is a minus. -/
inductive SignText : Text → Bool → Prop
  | absent : SignText [] false
  | plus : SignText "+" false
  | minus : SignText "-" true

def withSign (negative : Bool) (n : Int) : Int := if negative then -n else n

/-- An optional sign and ASCII digits, at least one and not more than are converted. -/
inductive IntegerNumeral : Text → Int → Prop
  | mk {sign digits : Text} {negative : Bool} (hsign : SignText sign negative) (hdigits : IsDigits digits)
      (hne : digits ≠ []) (hlength : digits.length ≤ maxIntegerDigits) :
      IntegerNumeral (sign ++ digits) (withSign negative (digitsValue (asciiDigits digits)))

/-- Digits with an optional point, at least one digit in all, and the digits before and after the point. -/
inductive MantissaText : Text → Text → Text → Prop
  | whole {whole : Text} (hwhole : IsDigits whole) (hne : whole ≠ []) : MantissaText whole whole []
  | pointed {whole fraction : Text} (hwhole : IsDigits whole) (hfraction : IsDigits fraction)
      (hne : ¬ (whole = [] ∧ fraction = [])) :
      MantissaText (whole ++ .ofChar '.' :: fraction) whole fraction

/-- An optional exponent: `e` in either case, an optional sign and digits. -/
inductive ExponentText : Text → Int → Prop
  | absent : ExponentText [] 0
  | present {mark : CodePoint} {sign digits : Text} {negative : Bool} (hmark : mark = 'e' ∨ mark = 'E')
      (hsign : SignText sign negative) (hdigits : IsDigits digits) (hne : digits ≠ []) :
      ExponentText (mark :: (sign ++ digits)) (withSign negative (digitsValue (asciiDigits digits)))

/-- A mantissa and an optional exponent, with the integer of all digits and the power of ten of the
last one. -/
inductive UnsignedDecimal : Text → Nat → Int → Prop
  | mk {mantissa whole fraction tail : Text} {exponent : Int}
      (hmantissa : MantissaText mantissa whole fraction) (hexponent : ExponentText tail exponent) :
      UnsignedDecimal (mantissa ++ tail) (digitsValue (asciiDigits (whole ++ fraction)))
        (exponent - fraction.length)

/-- An optional sign and an unsigned decimal, with its exact value. -/
inductive DecimalNumeral : Text → Bool → ℚ → Prop
  | mk {sign numeral : Text} {negative : Bool} {mantissa : Nat} {exponent : Int}
      (hsign : SignText sign negative) (hnumeral : UnsignedDecimal numeral mantissa exponent) :
      DecimalNumeral (sign ++ numeral) negative (signed negative (mantissa * 10 ^ exponent))

/-- ASCII text without an underscore. -/
def IsPlain (text : Text) : Prop := ∀ c ∈ text, c.toNat < 0x80 ∧ c ≠ .ofChar '_'

variable {text sign digits rest : Text} {negative : Bool} {c : CodePoint}

/-! ## Plain text -/

theorem isPlain_append {text rest : Text} : IsPlain (text ++ rest) ↔ IsPlain text ∧ IsPlain rest :=
  List.forall_mem_append

theorem isPlain_cons : IsPlain (c :: rest) ↔ (c.toNat < 0x80 ∧ c ≠ .ofChar '_') ∧ IsPlain rest :=
  List.forall_mem_cons

theorem IsDigits.isPlain (h : IsDigits text) : IsPlain text := fun c hc =>
  ⟨by have := range_of_isAsciiDigit (h c hc); omega, ne_of_isAsciiDigit (h c hc) (by decide)⟩

theorem SignText.isPlain (h : SignText sign negative) : IsPlain sign := by
  cases h <;> unfold IsPlain <;> decide

theorem SignText.not_isBlank (h : SignText sign negative) : ∀ c ∈ sign, Text.isBlank c = false := by
  cases h <;> decide

theorem IntegerNumeral.isPlain {n : Int} (h : IntegerNumeral text n) : IsPlain text := by
  obtain ⟨hsign, hdigits, -, -⟩ := h
  exact isPlain_append.2 ⟨hsign.isPlain, hdigits.isPlain⟩

theorem MantissaText.isPlain {whole fraction : Text} (h : MantissaText text whole fraction) :
    IsPlain text := by
  cases h with
  | whole hwhole => exact hwhole.isPlain
  | pointed hwhole hfraction =>
    exact isPlain_append.2 ⟨hwhole.isPlain, isPlain_cons.2 ⟨by decide, hfraction.isPlain⟩⟩

theorem ExponentText.isPlain {exponent : Int} (h : ExponentText text exponent) : IsPlain text := by
  cases h with
  | absent => exact nofun
  | present hmark hsign hdigits =>
    refine isPlain_cons.2 ⟨?_, isPlain_append.2 ⟨hsign.isPlain, hdigits.isPlain⟩⟩
    rcases hmark with rfl | rfl <;> decide

theorem DecimalNumeral.isPlain {r : ℚ} (h : DecimalNumeral text negative r) : IsPlain text := by
  obtain ⟨hsign, ⟨hmantissa, hexponent⟩⟩ := h
  exact isPlain_append.2 ⟨hsign.isPlain, isPlain_append.2 ⟨hmantissa.isPlain, hexponent.isPlain⟩⟩

theorem decimalValue?_of_not_isAsciiDigit (hplain : c.toNat < 0x80) (h : isAsciiDigit c = false) :
    Text.decimalValue? c = none := by
  rw [Text.decimalValue?, if_pos hplain, Text.asciiDigitValue?, if_neg (by simp [h])]

/-! ## Signs and digits -/

/-- What comes first in the rest of a numeral is no sign. -/
def Unsigned (text : Text) : Prop := text.head? ≠ some (.ofChar '-') ∧ text.head? ≠ some (.ofChar '+')

theorem signOf_append (h : SignText sign negative) (hrest : Unsigned rest) :
    signOf (sign ++ rest) = (negative, rest) := by
  cases h with
  | absent => rw [List.nil_append, signOf, if_neg hrest.1, if_neg hrest.2]
  | plus => rfl
  | minus => rfl

theorem exists_signText (text : Text) : ∃ sign negative rest,
    text = sign ++ rest ∧ SignText sign negative ∧ signOf text = (negative, rest) := by
  rw [signOf]
  split
  · next h => exact ⟨_, _, _, (List.cons_head?_tail h).symm, .minus, rfl⟩
  · split
    · next h => exact ⟨_, _, _, (List.cons_head?_tail h).symm, .plus, rfl⟩
    · exact ⟨[], _, _, rfl, .absent, rfl⟩

theorem unsigned_append (h : IsDigits digits) (hrest : Unsigned rest) : Unsigned (digits ++ rest) := by
  cases digits with
  | nil => exact hrest
  | cons c digits =>
    have hc := h c (by simp)
    have hminus : c ≠ .ofChar '-' := ne_of_isAsciiDigit hc (by decide)
    have hplus : c ≠ .ofChar '+' := ne_of_isAsciiDigit hc (by decide)
    simp [Unsigned, hminus, hplus]

theorem IsDigits.unsigned (h : IsDigits digits) : Unsigned digits := by
  have happend : Unsigned (digits ++ []) := unsigned_append h ⟨nofun, nofun⟩
  rwa [List.append_nil] at happend

/-- Plain text starts with digits, and the run of digits ends where they do. -/
theorem exists_digitRun (hplain : IsPlain text) :
    ∃ digits rest, text = digits ++ rest ∧ IsDigits digits ∧ digitRun text = (asciiDigits digits, rest) := by
  refine ⟨text.takeWhile isAsciiDigit, text.dropWhile isAsciiDigit, List.takeWhile_append_dropWhile.symm,
    fun c hc => List.mem_takeWhile_imp hc, ?_⟩
  have hrest : ∀ c ∈ (text.dropWhile isAsciiDigit).head?, Text.decimalValue? c = none ∧ c ≠ .ofChar '_' := by
    intro c hc
    have hmem : c ∈ text := (List.dropWhile_suffix _).mem (List.mem_of_mem_head? hc)
    have hnot : isAsciiDigit c = false := by
      have h := List.head?_dropWhile_not isAsciiDigit text
      rw [hc] at h
      simpa using h
    exact ⟨decimalValue?_of_not_isAsciiDigit (hplain c hmem).1 hnot, (hplain c hmem).2⟩
  have hrun : digitRun (text.takeWhile isAsciiDigit ++ text.dropWhile isAsciiDigit) =
      (asciiDigits (text.takeWhile isAsciiDigit), text.dropWhile isAsciiDigit) :=
    digitRun_append (fun c hc => List.mem_takeWhile_imp hc) hrest
  rwa [List.takeWhile_append_dropWhile] at hrun

theorem asciiDigits_eq_nil : asciiDigits text = [] ↔ text = [] := List.map_eq_nil_iff

theorem length_asciiDigits (text : Text) : (asciiDigits text).length = text.length := List.length_map _

theorem asciiDigits_append (text rest : Text) :
    asciiDigits (text ++ rest) = asciiDigits text ++ asciiDigits rest :=
  List.map_append

/-! ## Integers -/

theorem strip_strip (text : Text) : strip (strip text) = strip text := by
  have hfront : (strip text).dropWhile Text.isBlank = strip text := by
    have hprefix : strip text <+: text.dropWhile Text.isBlank := List.rdropWhile_prefix _ _
    cases hstrip : strip text with
    | nil => rfl
    | cons c rest =>
      obtain ⟨behind, hbehind⟩ := hstrip ▸ hprefix
      have hhead := List.head?_dropWhile_not Text.isBlank text
      rw [← hbehind, List.cons_append] at hhead
      rw [List.dropWhile_cons_of_neg (by simpa using hhead)]
  have hback : (strip text).rdropWhile Text.isBlank = strip text := List.rdropWhile_idempotent _ _
  calc strip (strip text) = ((strip text).dropWhile Text.isBlank).rdropWhile Text.isBlank := rfl
    _ = strip text := by rw [hfront, hback]

/-- **The integer numerals are what is read as an integer** of plain text. -/
theorem readInteger_eq_ok_iff {n : Int} (hplain : IsPlain text) (hstrip : strip text = text) :
    readInteger text = .ok n ↔ IntegerNumeral text n := by
  constructor
  · intro h
    obtain ⟨sign, negative, numeral, rfl, hsign, hsignOf⟩ := exists_signText text
    obtain ⟨digits, rest, rfl, hdigits, hrun⟩ := exists_digitRun (isPlain_append.1 hplain).2
    simp only [readInteger, hstrip, hsignOf, hrun] at h
    split at h
    · cases h
    · next hne =>
      rw [not_or, asciiDigits_eq_nil] at hne
      split at h
      · cases h
      · next hlength =>
        split at h
        · cases h
        · next hend =>
          rw [not_not] at hend
          rw [length_asciiDigits, not_lt] at hlength
          cases h
          rw [hend, List.append_nil]
          exact .mk hsign hdigits hne.1 hlength
  · rintro ⟨hsign, hdigits, hne, hlength⟩
    simp only [readInteger, hstrip, signOf_append hsign hdigits.unsigned, digitRun_of_isAsciiDigit hdigits]
    rw [if_neg (by simpa [asciiDigits_eq_nil] using hne), if_neg (by rwa [length_asciiDigits, not_lt]),
      if_neg (by simp)]
    rfl

theorem IntegerNumeral.strip_eq {n : Int} (h : IntegerNumeral text n) : strip text = text := by
  obtain ⟨hsign, hdigits, -, -⟩ := h
  exact strip_of_not_isBlank
    (List.forall_mem_append.2 ⟨hsign.not_isBlank, fun c hc => isBlank_of_isAsciiDigit (hdigits c hc)⟩)

/-- An integer that is not too long is a numeral when it is written out. -/
theorem integerNumeral_toString {n : Int} (h : n.natAbs < 10 ^ maxIntegerDigits) :
    IntegerNumeral (toString n) n := by
  have hdigits : IsDigits (Path.indexText n.natAbs) := fun c hc => Path.isAsciiDigit_of_mem_indexText hc
  have hne := Path.indexText_ne_nil n.natAbs
  have hlength := Path.length_indexText_le h
  cases n with
  | ofNat m =>
    have hnumeral := IntegerNumeral.mk .absent hdigits hne hlength
    rw [Path.digitsValue_indexText] at hnumeral
    exact hnumeral
  | negSucc m =>
    have hnumeral := IntegerNumeral.mk .minus hdigits hne hlength
    rw [Path.digitsValue_indexText] at hnumeral
    have htext : toString (Int.negSucc m) = "-" ++ toString (m + 1) := rfl
    rw [htext, Text.ofString_append]
    exact hnumeral

/-! ## Decimals -/

theorem exponentPart?_eq_some_iff {exponent : Int} (hplain : IsPlain text) :
    exponentPart? text = some exponent ↔ ExponentText text exponent := by
  constructor
  · intro h
    cases text with
    | nil =>
      cases h
      exact .absent
    | cons mark tail =>
      obtain ⟨sign, negative, numeral, rfl, hsign, hsignOf⟩ := exists_signText tail
      have hnumeral := (isPlain_append.1 (isPlain_cons.1 hplain).2).2
      obtain ⟨digits, rest, rfl, hdigits, hrun⟩ := exists_digitRun hnumeral
      simp only [exponentPart?, hsignOf, hrun] at h
      split at h
      · next hmark =>
        split at h
        · cases h
        · next hne =>
          rw [not_or, asciiDigits_eq_nil, not_not] at hne
          cases h
          rw [hne.2, List.append_nil]
          exact .present hmark hsign hdigits hne.1
      · cases h
  · intro h
    cases h with
    | absent => rfl
    | present hmark hsign hdigits hne =>
      simp only [exponentPart?, signOf_append hsign hdigits.unsigned, digitRun_of_isAsciiDigit hdigits]
      rw [if_pos hmark, if_neg (by simpa [asciiDigits_eq_nil] using hne)]
      rfl

/-- An exponent part begins with no digit, underscore, point or sign. -/
theorem ExponentText.head (h : ExponentText rest exponent) :
    (∀ c ∈ rest.head?, Text.decimalValue? c = none ∧ c ≠ .ofChar '_') ∧
      rest.head? ≠ some (.ofChar '.') ∧ Unsigned rest := by
  cases h with
  | absent => exact ⟨nofun, nofun, nofun, nofun⟩
  | present hmark hsign hdigits hne =>
    rw [Unsigned, List.head?_cons]
    rcases hmark with rfl | rfl <;> decide

theorem decimalNumeral?_whole {whole : List Nat} (hrun : digitRun text = (whole, rest))
    (hpoint : rest.head? ≠ some (.ofChar '.')) :
    decimalNumeral? text =
      if whole = [] then none
      else (exponentPart? rest).map fun exponent => (digitsValue whole, exponent) := by
  have hnone : ¬ (rest.head? = some (.ofChar '.') ∧ rest.tail.head? ≠ some (.ofChar '_')) :=
    fun h => hpoint h.1
  simp only [decimalNumeral?, hrun, if_neg hnone]
  simp

theorem decimalNumeral?_pointed {whole fraction : List Nat} {rest' : Text}
    (hrun : digitRun text = (whole, .ofChar '.' :: rest)) (hrest : rest.head? ≠ some (.ofChar '_'))
    (hrun' : digitRun rest = (fraction, rest')) :
    decimalNumeral? text =
      if whole = [] ∧ fraction = [] then none
      else (exponentPart? rest').map fun exponent : Int =>
        (digitsValue (whole ++ fraction), exponent - fraction.length) := by
  simp only [decimalNumeral?, hrun, List.head?_cons, List.tail_cons, ne_eq, hrest,
    not_false_eq_true, and_self, if_true, hrun']

theorem IsPlain.head?_ne (h : IsPlain text) : text.head? ≠ some (.ofChar '_') := fun hhead =>
  (h _ (List.mem_of_mem_head? hhead)).2 rfl

/-- **The unsigned decimals are what is read as a mantissa and an exponent** of plain text. -/
theorem decimalNumeral?_eq_some_iff {mantissa : Nat} {exponent : Int} (hplain : IsPlain text) :
    decimalNumeral? text = some (mantissa, exponent) ↔ UnsignedDecimal text mantissa exponent := by
  constructor
  · intro h
    obtain ⟨whole, rest, rfl, hwhole, hrun⟩ := exists_digitRun hplain
    have hrest := (isPlain_append.1 hplain).2
    by_cases hpoint : rest.head? = some (.ofChar '.')
    · obtain ⟨tail, rfl⟩ : ∃ tail, rest = .ofChar '.' :: tail := ⟨_, (List.cons_head?_tail hpoint).symm⟩
      have htail := (isPlain_cons.1 hrest).2
      obtain ⟨fraction, rest', rfl, hfraction, hrun'⟩ := exists_digitRun htail
      rw [decimalNumeral?_pointed hrun htail.head?_ne hrun'] at h
      split at h
      · cases h
      · next hne =>
        rw [asciiDigits_eq_nil, asciiDigits_eq_nil] at hne
        obtain ⟨power, hpower, hvalue⟩ := Option.map_eq_some_iff.1 h
        rw [exponentPart?_eq_some_iff (isPlain_append.1 htail).2] at hpower
        cases hvalue
        rw [← asciiDigits_append, length_asciiDigits]
        have hnumeral := UnsignedDecimal.mk (.pointed hwhole hfraction hne) hpower
        rwa [List.append_assoc] at hnumeral
    · rw [decimalNumeral?_whole hrun hpoint] at h
      split at h
      · cases h
      · next hne =>
        rw [asciiDigits_eq_nil] at hne
        obtain ⟨power, hpower, hvalue⟩ := Option.map_eq_some_iff.1 h
        rw [exponentPart?_eq_some_iff hrest] at hpower
        cases hvalue
        have hnumeral := UnsignedDecimal.mk (.whole hwhole hne) hpower
        rwa [List.append_nil, List.length_nil, Int.natCast_zero, Int.sub_zero] at hnumeral
  · rintro ⟨hmantissa, hexponent⟩
    obtain ⟨htail, hpoint, -⟩ := hexponent.head
    have hpower := (exponentPart?_eq_some_iff hexponent.isPlain).2 hexponent
    cases hmantissa with
    | whole hwhole hne =>
      rw [decimalNumeral?_whole (digitRun_append hwhole htail) hpoint,
        if_neg (by rwa [asciiDigits_eq_nil]), hpower]
      simp
    | pointed hwhole hfraction hne =>
      have hafter := (isPlain_append.2 ⟨hfraction.isPlain, hexponent.isPlain⟩).head?_ne
      rw [List.append_assoc, List.cons_append]
      rw [decimalNumeral?_pointed (digitRun_append hwhole (by rintro c ⟨⟩; decide)) hafter
        (digitRun_append hfraction htail), if_neg (by rwa [asciiDigits_eq_nil, asciiDigits_eq_nil]), hpower,
        asciiDigits_append, length_asciiDigits]
      rfl

theorem UnsignedDecimal.unsigned {mantissa : Nat} {exponent : Int}
    (h : UnsignedDecimal text mantissa exponent) : Unsigned text := by
  obtain ⟨hmantissa, hexponent⟩ := h
  cases hmantissa with
  | whole hwhole hne => exact unsigned_append hwhole hexponent.head.2.2
  | pointed hwhole hfraction hne =>
    rw [List.append_assoc, List.cons_append]
    refine unsigned_append hwhole ?_
    rw [Unsigned, List.head?_cons]
    decide

/-- A numeral is read as the decimal that it is, rounded. -/
theorem DecimalNumeral.readDouble? {r : ℚ} (h : DecimalNumeral text negative r) (hstrip : strip text = text) :
    ∃ (mantissa : Nat) (exponent : Int), r = signed negative (mantissa * 10 ^ exponent) ∧
      MockApi.readDouble? text = some (.ofDecimal negative mantissa exponent) := by
  have hplain := h.isPlain
  obtain ⟨hsign, hnumeral⟩ := h
  have hread := (decimalNumeral?_eq_some_iff (isPlain_append.1 hplain).2).2 hnumeral
  refine ⟨_, _, rfl, ?_⟩
  simp only [MockApi.readDouble?, hstrip, signOf_append hsign hnumeral.unsigned, hread]

/-- A finite double is read of a decimal only, as the other words have none. -/
theorem decimalNumeral_of_readDouble? {x : Double} (hplain : IsPlain text) (hstrip : strip text = text)
    (hread : readDouble? text = some x) (hfinite : x.isFinite = true) :
    ∃ (negative : Bool) (mantissa : Nat) (exponent : Int),
      DecimalNumeral text negative (signed negative (mantissa * 10 ^ exponent)) ∧
        x = .ofDecimal negative mantissa exponent := by
  obtain ⟨sign, negative, numeral, rfl, hsign, hsignOf⟩ := exists_signText text
  simp only [readDouble?, hstrip, hsignOf] at hread
  split at hread
  · next mantissa exponent hdecimal =>
    rw [decimalNumeral?_eq_some_iff (isPlain_append.1 hplain).2] at hdecimal
    cases hread
    exact ⟨negative, mantissa, exponent, .mk hsign hdecimal, rfl⟩
  · split at hread
    · cases hread
      cases hfinite
    · split at hread
      · cases hread
        cases hfinite
      · cases hread

/-! ## What a cast reads -/

theorem all_eq_true_iff_isPlain :
    (text.all fun c => c.toNat < 0x80 && c ≠ .ofChar '_') = true ↔ IsPlain text := by
  simp [IsPlain]

theorem plainNumber?_of_integerNumeral {n : Int} (h : IntegerNumeral (strip text) n) :
    plainNumber? text = some (.int n) := by
  simp only [plainNumber?, if_pos (all_eq_true_iff_isPlain.2 h.isPlain),
    (readInteger_eq_ok_iff h.isPlain (strip_strip text)).2 h]

/-- Plain text that is no integer is read as a double. -/
theorem plainNumber?_of_not_integerNumeral (hplain : IsPlain (strip text))
    (hnone : ¬ ∃ n, IntegerNumeral (strip text) n) :
    plainNumber? text =
      match readDouble? (strip text) with
      | some x => if x.isFinite then some (.float x) else none
      | none => none := by
  simp only [plainNumber?, if_pos (all_eq_true_iff_isPlain.2 hplain)]
  split
  · next n hread => exact absurd ⟨n, (readInteger_eq_ok_iff hplain (strip_strip text)).1 hread⟩ hnone
  · rfl

theorem plainNumber?_of_decimalNumeral {r : ℚ} (hnone : ¬ ∃ n, IntegerNumeral (strip text) n)
    (h : DecimalNumeral (strip text) negative r) (hbound : |r| < overflowBound) :
    ∃ x : Double, plainNumber? text = some (.float x) ∧ x.IsNearest r ∧ x.isNegative = negative := by
  obtain ⟨mantissa, exponent, rfl, hread⟩ := h.readDouble? (strip_strip text)
  have hsize : (mantissa * 10 ^ exponent : ℚ) < overflowBound := by
    rw [Double.abs_signed] at hbound
    exact (le_abs_self _).trans_lt hbound
  have hnearest := Double.isNearest_ofDecimal negative hsize
  refine ⟨_, ?_, hnearest, Double.isNegative_ofDecimal _ _ _⟩
  rw [plainNumber?_of_not_integerNumeral h.isPlain hnone, hread]
  simp only [hnearest.isFinite, if_true]

theorem plainNumber?_eq_none (hnone : ¬ ∃ n, IntegerNumeral (strip text) n)
    (h : ¬ ∃ negative r, DecimalNumeral (strip text) negative r ∧ |r| < overflowBound) :
    plainNumber? text = none := by
  by_cases hplain : IsPlain (strip text)
  · rw [plainNumber?_of_not_integerNumeral hplain hnone]
    split
    · next x hread =>
      split
      · next hfinite =>
        obtain ⟨negative, mantissa, exponent, hnumeral, rfl⟩ :=
          decimalNumeral_of_readDouble? hplain (strip_strip text) hread hfinite
        refine absurd ⟨negative, _, hnumeral, not_le.1 fun hbound => ?_⟩ h
        rw [Double.abs_signed, abs_of_nonneg (by positivity)] at hbound
        rw [Double.ofDecimal_of_overflowBound_le negative hbound] at hfinite
        cases hfinite
      · rfl
    · rfl
  · rw [plainNumber?, if_neg (mt all_eq_true_iff_isPlain.1 hplain)]

/-- **A cast to a number reads exactly the plain numerals.** Without the blanks around it, an optional
sign with at most 4300 ASCII digits is that integer; any other decimal numeral is the double nearest to
it, with its sign, unless that is an infinity; and in every other case a diagnostic quotes the whole
text. -/
theorem cast_number_text (text : Text) :
    (∀ n, IntegerNumeral (strip text) n → CastKind.number.apply (.text text) = .int n) ∧
      ((¬ ∃ n, IntegerNumeral (strip text) n) →
        (∀ negative r, DecimalNumeral (strip text) negative r → |r| < overflowBound →
          ∃ x : Double, CastKind.number.apply (.text text) = .float x ∧ x.IsNearest r ∧
            x.isNegative = negative) ∧
        ((¬ ∃ negative r, DecimalNumeral (strip text) negative r ∧ |r| < overflowBound) →
          CastKind.number.apply (.text text) = .text ("<\"" ++ text ++ "\" is not a number>"))) := by
  have hcast : CastKind.number.apply (.text text) =
      (plainNumber? text).getD (.text ("<\"" ++ text ++ "\" is not a number>")) := by
    simp only [CastKind.apply, Value.isNull, Bool.false_eq_true, if_false, castNumber, Value.written,
      unreadableDiagnostic, List.append_assoc]
    rfl
  rw [hcast]
  refine ⟨fun n h => ?_, fun hnone => ⟨fun negative r h hbound => ?_, fun h => ?_⟩⟩
  · rw [plainNumber?_of_integerNumeral h]
    rfl
  · obtain ⟨x, hx, hnearest, hsign⟩ := plainNumber?_of_decimalNumeral hnone h hbound
    rw [hx]
    exact ⟨x, rfl, hnearest, hsign⟩
  · rw [plainNumber?_eq_none hnone h]
    rfl

/-- An integer between blanks, a decimal with a point and an exponent, and a text with an underscore. -/
theorem cast_number_text_readings :
    (IntegerNumeral (strip " -007 ") (-7) ∧ CastKind.number.apply (.text " -007 ") = .int (-7)) ∧
      ((¬ ∃ n, IntegerNumeral (strip "+1.5e3") n) ∧
        DecimalNumeral (strip "+1.5e3") false (15 * 10 ^ (2 : ℤ)) ∧
        ∃ x : Double, CastKind.number.apply (.text "+1.5e3") = .float x ∧
          x.IsNearest (15 * 10 ^ (2 : ℤ)) ∧ x.isNegative = false) ∧
      CastKind.number.apply (.text "1_000") = .text "<\"1_000\" is not a number>" := by
  have hinteger : IntegerNumeral (strip " -007 ") (-7) :=
    (readInteger_eq_ok_iff (by unfold IsPlain; decide) rfl).1 rfl
  have hnone : ¬ ∃ n, IntegerNumeral (strip "+1.5e3") n := by
    rintro ⟨n, h⟩
    have hread : readInteger (strip "+1.5e3") = .error (.malformed "+1.5e3") := rfl
    rw [(readInteger_eq_ok_iff h.isPlain rfl).2 h] at hread
    cases hread
  have hunsigned : UnsignedDecimal "1.5e3" 15 2 :=
    (decimalNumeral?_eq_some_iff (by unfold IsPlain; decide)).1 rfl
  have hdecimal : DecimalNumeral (strip "+1.5e3") false (15 * 10 ^ (2 : ℤ)) := .mk .plus hunsigned
  have hbound : |(15 * 10 ^ (2 : ℤ) : ℚ)| < overflowBound :=
    lt_trans (by norm_num) Double.two_pow_lt_overflowBound
  have hnot : ¬ IsPlain (strip "1_000") := by
    unfold IsPlain
    decide
  refine ⟨⟨hinteger, (cast_number_text _).1 _ hinteger⟩, ⟨hnone, hdecimal, ?_⟩, ?_⟩
  · exact ((cast_number_text _).2 hnone).1 _ _ hdecimal hbound
  · exact ((cast_number_text _).2 fun ⟨_, h⟩ => hnot h.isPlain).2 fun ⟨_, _, h, _⟩ => hnot h.isPlain

end MockApi
