/-!
# Texts

* `CodePoint` : a character, or one half of a pair that stands for a character;
* `Text` : a sequence of code points;
* `Text.ofString`, `Text.string?` : the texts without a half that stands alone are the strings;
* `Text.lossy` : a text as a string, with three U+FFFD for each half.

A document may write a half of a pair on its own, so the text it holds is more than a string.
-/

namespace MockApi

/-- A code point of Unicode: a character, or one half of a pair. -/
structure CodePoint where
  toNat : Nat
  lt_limit : toNat < 0x110000
  deriving DecidableEq, Repr

namespace CodePoint

theorem toNat_lt_limit (c : Char) : c.toNat < 0x110000 := by
  have := c.valid
  simp only [UInt32.isValidChar, Nat.isValidChar] at this
  simp only [Char.toNat]
  omega

def ofChar (c : Char) : CodePoint := ⟨c.toNat, toNat_lt_limit c⟩

instance : Coe Char CodePoint := ⟨ofChar⟩

@[simp] theorem toNat_ofChar (c : Char) : (ofChar c).toNat = c.toNat := rfl

/-- The code point of a number, or U+FFFD if there is none. -/
def ofNat (n : Nat) : CodePoint := if h : n < 0x110000 then ⟨n, h⟩ else ofChar '\uFFFD'

/-- Whether a code point is one half of a pair. -/
def isHalf (c : CodePoint) : Bool := 0xD800 ≤ c.toNat && c.toNat < 0xE000

def char? (c : CodePoint) : Option Char := if c.isHalf then none else some (Char.ofNat c.toNat)

theorem isHalf_ofChar (c : Char) : (ofChar c).isHalf = false := by
  have := c.valid
  simp only [UInt32.isValidChar, Nat.isValidChar] at this
  apply Bool.eq_false_iff.2
  intro h
  rw [isHalf, Bool.and_eq_true] at h
  have low : 0xD800 ≤ c.val.toNat := of_decide_eq_true h.1
  have high : c.val.toNat < 0xE000 := of_decide_eq_true h.2
  omega

@[simp] theorem char?_ofChar (c : Char) : (ofChar c).char? = some c := by
  unfold char?
  rw [isHalf_ofChar]
  simp [Char.ofNat_toNat]

theorem eq_ofChar_of_char? {c : CodePoint} {d : Char} (h : c.char? = some d) : c = ofChar d := by
  unfold char? at h
  split at h
  · cases h
  · next hhalf =>
    have hlimit := c.lt_limit
    rw [Bool.not_eq_true, isHalf, Bool.and_eq_false_iff, decide_eq_false_iff_not,
      decide_eq_false_iff_not] at hhalf
    have hvalid : c.toNat.isValidChar := by
      unfold Nat.isValidChar
      omega
    cases h
    rw [Char.ofNat, dif_pos hvalid]
    rfl

theorem ofChar_injective {c d : Char} (h : ofChar c = ofChar d) : c = d := by
  have := congrArg char? h
  simpa using this

end CodePoint

/-- A sequence of code points. -/
abbrev Text := List CodePoint

namespace Text

def ofChars (cs : List Char) : Text := cs.map .ofChar

def ofString (s : String) : Text := ofChars s.toList

instance : Coe String Text := ⟨ofString⟩

/-- The string of a text, unless a half stands alone in it. -/
def string? (t : Text) : Option String := (t.mapM CodePoint.char?).map String.ofList

/-- A text as a string, with U+FFFD for each of the three bytes that a half would have. -/
def lossy (t : Text) : String :=
  String.ofList (t.flatMap fun c => c.char?.elim (List.replicate 3 '\uFFFD') fun d => [d])

@[simp] theorem lossy_ofString (s : String) : lossy (ofString s) = s := by
  simp [lossy, ofString, ofChars, List.flatMap_map]

@[simp] theorem string?_ofString (s : String) : string? (ofString s) = some s := by
  have (cs : List Char) : (cs.map CodePoint.ofChar).mapM CodePoint.char? = some cs := by
    induction cs with
    | nil => rfl
    | cons c cs ih => simp [ih]
  simp [string?, ofString, ofChars, this]

theorem ofString_append (s t : String) : ofString (s ++ t) = ofString s ++ ofString t := by
  simp [ofString, ofChars]

theorem ofString_injective {s t : String} (h : ofString s = ofString t) : s = t := by
  rw [← lossy_ofString s, h, lossy_ofString]

end Text

end MockApi
