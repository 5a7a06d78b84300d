import Mathlib.Algebra.Group.Nat.Defs
import MockApi.Path.Basic

/-!
# Integers and indices in ASCII digits

* `digitRun_append` : a run of ASCII digits ends where they do;
* `readInteger_of_isAsciiDigit` : a numeral of ASCII digits that is not too long is read;
* `natAbs_lt_of_readInteger` : an integer that is read has no more digits than are converted;
* `indexOf?_of_isAsciiDigit`, `indexOf?_of_long` : such a segment is an index, and one that is too long
  is none;
* `indexOf?_indexText` : an index is read back from its text.
-/

namespace MockApi

open Text (isAsciiDigit)

def asciiDigits (text : Text) : List Nat := text.map fun c => c.toNat - 0x30

theorem range_of_isAsciiDigit {c : CodePoint} (h : isAsciiDigit c = true) :
    0x30 ≤ c.toNat ∧ c.toNat ≤ 0x39 := by
  simpa [isAsciiDigit] using h

theorem decimalValue?_of_isAsciiDigit {c : CodePoint} (h : isAsciiDigit c = true) :
    Text.decimalValue? c = some (c.toNat - 0x30) := by
  have hrange := range_of_isAsciiDigit h
  have hascii : c.toNat < 0x80 := by omega
  rw [Text.decimalValue?, if_pos hascii, Text.asciiDigitValue?, if_pos h]

theorem isDigit_of_isAsciiDigit {c : CodePoint} (h : isAsciiDigit c = true) :
    Text.isDigit c = true := by
  simp [Text.isDigit, decimalValue?_of_isAsciiDigit h]

theorem ne_of_isAsciiDigit {c : CodePoint} (h : isAsciiDigit c = true) {d : Char}
    (hd : isAsciiDigit (.ofChar d) = false) : c ≠ .ofChar d := by
  rintro rfl
  rw [hd] at h
  cases h

theorem isBlank_of_isAsciiDigit {c : CodePoint} (h : isAsciiDigit c = true) :
    Text.isBlank c = false := by
  have hrange := range_of_isAsciiDigit h
  rw [← Bool.not_eq_true]
  intro hblank
  obtain ⟨range, hmem, hlow, hhigh⟩ := Text.exists_of_inRanges hblank
  have hapart : ∀ range ∈ Text.blankRanges, range.2 < 0x30 ∨ 0x39 < range.1 := by decide
  have := hapart range hmem
  omega

theorem strip_of_not_isBlank {text : Text} (h : ∀ c ∈ text, Text.isBlank c = false) :
    Text.strip text = text := by
  have hkeep : ∀ t : Text, (∀ c ∈ t, Text.isBlank c = false) → t.dropWhile Text.isBlank = t := by
    intro t ht
    cases t with
    | nil => rfl
    | cons c t =>
      rw [List.dropWhile_cons_of_neg]
      simp [ht c (by simp)]
  rw [Text.strip, hkeep text h, hkeep text.reverse (by simpa using h), List.reverse_reverse]

theorem strip_of_isAsciiDigit {text : Text} (h : ∀ c ∈ text, isAsciiDigit c = true) :
    Text.strip text = text :=
  strip_of_not_isBlank fun c hc => isBlank_of_isAsciiDigit (h c hc)

theorem digitRun_cons {c : CodePoint} {d : Nat} {rest : Text} (hd : Text.decimalValue? c = some d)
    (hrest : rest.head? ≠ some (.ofChar '_')) :
    digitRun (c :: rest) = (d :: (digitRun rest).1, (digitRun rest).2) := by
  match rest, hrest with
  | [], _ => simp [digitRun, hd]
  | [u], _ => simp [digitRun, hd]
  | u :: c' :: rest', hrest =>
    have hu : u ≠ CodePoint.ofChar '_' := by simpa using hrest
    rw [digitRun, hd]
    simp only [if_neg hu]

/-- A run of digits ends before what is neither a digit nor an underscore. -/
theorem digitRun_append {digits rest : Text} (h : ∀ c ∈ digits, isAsciiDigit c = true)
    (hrest : ∀ c ∈ rest.head?, Text.decimalValue? c = none ∧ c ≠ .ofChar '_') :
    digitRun (digits ++ rest) = (asciiDigits digits, rest) := by
  induction digits with
  | nil =>
    cases rest with
    | nil => rfl
    | cons c rest => simp [digitRun, asciiDigits, hrest c rfl]
  | cons c digits ih =>
    have hdigits : ∀ d ∈ digits, isAsciiDigit d = true := fun d hd => h d (by simp [hd])
    have hnext : (digits ++ rest).head? ≠ some (.ofChar '_') := by
      cases digits with
      | nil => exact fun hunder => (hrest _ hunder).2 rfl
      | cons u digits =>
        rw [List.cons_append, List.head?_cons, Ne, Option.some_inj]
        exact ne_of_isAsciiDigit (hdigits u (by simp)) (by decide)
    rw [List.cons_append, digitRun_cons (decimalValue?_of_isAsciiDigit (h c (by simp))) hnext, ih hdigits]
    rfl

theorem digitRun_of_isAsciiDigit {text : Text} (h : ∀ c ∈ text, isAsciiDigit c = true) :
    digitRun text = (asciiDigits text, []) := by
  have hrun : digitRun (text ++ []) = (asciiDigits text, []) := digitRun_append h nofun
  rwa [List.append_nil] at hrun

theorem signOf_of_isAsciiDigit {text : Text} (h : ∀ c ∈ text, isAsciiDigit c = true) :
    signOf text = (false, text) := by
  cases text with
  | nil => rfl
  | cons c text =>
    have hc := h c (by simp)
    have hminus : c ≠ CodePoint.ofChar '-' := ne_of_isAsciiDigit hc (by decide)
    have hplus : c ≠ CodePoint.ofChar '+' := ne_of_isAsciiDigit hc (by decide)
    simp [signOf, hminus, hplus]

theorem readInteger_of_isAsciiDigit {text : Text} (h : ∀ c ∈ text, isAsciiDigit c = true)
    (hne : text ≠ []) (hlength : text.length ≤ maxIntegerDigits) :
    readInteger text = .ok (Text.digitsValue (asciiDigits text)) := by
  have hdigits : asciiDigits text ≠ [] := by simpa [asciiDigits] using hne
  have hshort : ¬ maxIntegerDigits < (asciiDigits text).length := by
    simpa [asciiDigits] using hlength
  simp only [readInteger, strip_of_isAsciiDigit h, signOf_of_isAsciiDigit h,
    digitRun_of_isAsciiDigit h]
  simp [hdigits, hshort]

theorem readInteger_of_long {text : Text} (h : ∀ c ∈ text, isAsciiDigit c = true)
    (hlength : maxIntegerDigits < text.length) : readInteger text = .error (.tooLong text.length) := by
  have hne : text ≠ [] := List.ne_nil_of_length_pos (Nat.zero_lt_of_lt hlength)
  have hcount : (asciiDigits text).length = text.length := by simp [asciiDigits]
  have hdigits : asciiDigits text ≠ [] := by simpa [asciiDigits] using hne
  simp only [readInteger, strip_of_isAsciiDigit h, signOf_of_isAsciiDigit h,
    digitRun_of_isAsciiDigit h]
  simp [hdigits, hcount, hlength]

theorem isAllDigits_of_isAsciiDigit {text : Text} (h : ∀ c ∈ text, isAsciiDigit c = true)
    (hne : text ≠ []) : Text.isAllDigits text = true := by
  rw [Text.isAllDigits, Bool.and_eq_true, List.all_eq_true]
  exact ⟨by simpa using hne, fun c hc => isDigit_of_isAsciiDigit (h c hc)⟩

/-! ## How large an integer that is read can be -/

theorem decimalValue?_lt {c : CodePoint} {d : Nat} (h : Text.decimalValue? c = some d) : d < 10 := by
  unfold Text.decimalValue? at h
  split at h
  · unfold Text.asciiDigitValue? at h
    split at h
    · next hdigit =>
      have hrange := range_of_isAsciiDigit hdigit
      cases h
      omega
    · cases h
  · obtain ⟨base, hbase, rfl⟩ := Option.map_eq_some_iff.1 h
    have hrange : base ≤ c.toNat ∧ c.toNat ≤ base + 9 := by
      simpa using List.find?_some hbase
    omega

theorem digitRun_lt {text : Text} : ∀ d ∈ (digitRun text).1, d < 10 := by
  fun_induction digitRun text with
  | case1 => exact nofun
  | case2 => exact nofun
  | case3 c d hd c' rest' _ ds rest hrun ih =>
    rw [hrun] at ih
    exact List.forall_mem_cons.2 ⟨decimalValue?_lt hd, ih⟩
  | case4 c d hd c' rest' _ => exact List.forall_mem_cons.2 ⟨decimalValue?_lt hd, nofun⟩
  | case5 c d hd u c' rest' _ ds rest hrun ih =>
    rw [hrun] at ih
    exact List.forall_mem_cons.2 ⟨decimalValue?_lt hd, ih⟩
  | case6 c d hd text' _ ds rest hrun ih =>
    rw [hrun] at ih
    exact List.forall_mem_cons.2 ⟨decimalValue?_lt hd, ih⟩

theorem digitsValue_lt {digits : List Nat} (h : ∀ d ∈ digits, d < 10) :
    Text.digitsValue digits < 10 ^ digits.length := by
  have hfold : ∀ n, digits.foldl (fun n d => 10 * n + d) n < (n + 1) * 10 ^ digits.length := by
    induction digits with
    | nil =>
      intro n
      simp
    | cons d digits ih =>
      rw [List.forall_mem_cons] at h
      intro n
      calc (d :: digits).foldl (fun n d => 10 * n + d) n
          < (10 * n + d + 1) * 10 ^ digits.length := ih h.2 (10 * n + d)
        _ ≤ ((n + 1) * 10) * 10 ^ digits.length := Nat.mul_le_mul_right _ (by omega)
        _ = (n + 1) * 10 ^ (d :: digits).length := by rw [List.length_cons, pow_succ', Nat.mul_assoc]
  simpa [Text.digitsValue] using hfold 0

/-- An integer that is read has no more digits than are converted. -/
theorem natAbs_lt_of_readInteger {text : Text} {n : Int} (h : readInteger text = .ok n) :
    n.natAbs < 10 ^ maxIntegerDigits := by
  unfold readInteger at h
  dsimp only at h
  split at h
  · cases h
  · split at h
    · cases h
    · next hlength =>
      split at h
      · cases h
      · cases h
        have hdigits : ∀ d ∈ (digitRun (signOf (Text.strip text)).2).1, d < 10 := digitRun_lt
        have hvalue := digitsValue_lt hdigits
        have hpow := Nat.pow_le_pow_right (n := 10) (by decide) (Nat.le_of_not_lt hlength)
        split <;> omega

/-! ## Indices -/

namespace Path

theorem indexOf?_of_isAsciiDigit {segment : Text} (h : ∀ c ∈ segment, isAsciiDigit c = true)
    (hne : segment ≠ []) (hlength : segment.length ≤ maxIntegerDigits) :
    indexOf? segment = .ok (some (Text.digitsValue (asciiDigits segment))) := by
  rw [indexOf?, if_pos (isAllDigits_of_isAsciiDigit h hne), readInteger_of_isAsciiDigit h hne hlength]
  rfl

/-- A segment of more digits than are converted is no index on a list. -/
theorem indexOf?_of_long {segment : Text} (h : ∀ c ∈ segment, isAsciiDigit c = true)
    (hlength : maxIntegerDigits < segment.length) :
    indexOf? segment = .error (.tooLong segment.length) := by
  have hne : segment ≠ [] := List.ne_nil_of_length_pos (Nat.zero_lt_of_lt hlength)
  rw [indexOf?, if_pos (isAllDigits_of_isAsciiDigit h hne), readInteger_of_long h hlength]
  rfl

theorem indexText_eq (i : Nat) : indexText i = Text.ofChars (Nat.toDigits 10 i) := by
  rw [indexText, Text.ofString, Nat.toString_eq_repr, Nat.toList_repr]

theorem isAsciiDigit_of_mem_indexText {i : Nat} {c : CodePoint} (h : c ∈ indexText i) :
    isAsciiDigit c = true := by
  rw [indexText_eq, Text.ofChars, List.mem_map] at h
  obtain ⟨d, hd, rfl⟩ := h
  have hdigit := Nat.isDigit_of_mem_toDigits (by decide) (by decide) hd
  simp only [Char.isDigit, Bool.and_eq_true, decide_eq_true_eq, ge_iff_le,
    UInt32.le_iff_toNat_le] at hdigit
  rw [isAsciiDigit, Bool.and_eq_true, decide_eq_true_eq, decide_eq_true_eq]
  exact hdigit

theorem indexText_ne_nil (i : Nat) : indexText i ≠ [] := by
  simp [indexText_eq, Text.ofChars, Nat.toDigits_ne_nil]

theorem digitsValue_indexText (i : Nat) : Text.digitsValue (asciiDigits (indexText i)) = i := by
  have hfold : ∀ (cs : List Char) (n : Nat),
      (asciiDigits (Text.ofChars cs)).foldl (fun n d => 10 * n + d) n = Nat.ofDigitChars 10 cs n := by
    intro cs
    induction cs with
    | nil => intro n; rfl
    | cons c cs ih =>
      intro n
      rw [Nat.ofDigitChars_cons, ← ih]
      rfl
  rw [indexText_eq, Text.digitsValue, hfold, Nat.ofDigitChars_ten_toDigits]

theorem length_indexText_le {i : Nat} (h : i < 10 ^ maxIntegerDigits) :
    (indexText i).length ≤ maxIntegerDigits := by
  rw [indexText_eq, Text.ofChars, List.length_map]
  exact (Nat.length_toDigits_le_iff (by decide) (by decide)).2 h

/-- **An index is read back from its text**, unless it has too many digits. -/
theorem indexOf?_indexText {i : Nat} (h : i < 10 ^ maxIntegerDigits) :
    indexOf? (indexText i) = .ok (some i) := by
  rw [indexOf?_of_isAsciiDigit (fun c hc => isAsciiDigit_of_mem_indexText hc) (indexText_ne_nil i)
    (length_indexText_le h), digitsValue_indexText]

theorem indexText_ne_wildcard (i : Nat) : indexText i ≠ wildcard := by
  intro h
  have hmem : CodePoint.ofChar '*' ∈ indexText i := by
    rw [h]
    decide
  exact absurd (isAsciiDigit_of_mem_indexText hmem) (by decide)

end Path

end MockApi
