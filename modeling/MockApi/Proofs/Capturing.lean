import Mathlib.Data.List.Basic
import MockApi.Proofs.Lookup

/-!
# Which names a text has

The names that are read off a text are those that stand in braces in it, each as often as it does and
in the order of their places.

* `Text.DiffersInCase` : two characters that differ only in case;
* `IsNameCharacter`, `isNameCode_iff` : the characters of names, by the case mappings;
* `StandsAt text i name` : a name stands in braces at a position of a text;
* `places` : the placeholders of a text with their positions;
* `pieces_append_hole` : what stands in braces is cut out, wherever it stands;
* `names_exact` : the names are exactly what stands in braces, in order, and nothing is lost between.
-/

namespace MockApi

/-! ## Characters that differ only in case -/

namespace Text

/-- Two code points that are the same but for their case: their lower cases start alike, or they have
the same upper case. -/
def DiffersInCase (c d : CodePoint) : Prop :=
  (lowerCode c).head? = (lowerCode d).head? ∨ upperCode c = upperCode d

/-- The code points beyond ASCII that have an ASCII letter as their other case. -/
def foldedIntoAscii : List Nat := [0x130, 0x131, 0x17F, 0x212A]

/-- Whether a run keeps out of ASCII: it is in ASCII itself, or all its images are beyond it, or it has
one code point only, which is known. -/
def CaseRun.keepsOut (run : CaseRun) : Bool :=
  Nat.blt run.last 0x80 || decide (0x80 ≤ run.first + run.shift) ||
    (Nat.beq run.first run.last && foldedIntoAscii.contains run.first)

theorem lowerRuns_keepOut : lowerRuns.all CaseRun.keepsOut = true := by decide +kernel

theorem upperRuns_keepOut : upperRuns.all CaseRun.keepsOut = true := by decide +kernel

theorem upperExpansions_long : (upperExpansions.all fun e => Nat.blt 1 e.2.length) = true := by
  decide +kernel

theorem mem_foldedIntoAscii_of_shiftBy {runs : List CaseRun}
    (hruns : runs.all CaseRun.keepsOut = true) {n : Nat} (hn : 0x80 ≤ n)
    (h : shiftBy runs n < 0x80) : n ∈ foldedIntoAscii := by
  obtain hsame | ⟨run, hmem, ⟨hfirst, hlast, -⟩, hshift⟩ := shiftBy_cases runs n
  · omega
  · have hrun := List.all_eq_true.1 hruns run hmem
    simp only [CaseRun.keepsOut, Bool.or_eq_true, Bool.and_eq_true, Nat.blt_eq, Nat.beq_eq,
      decide_eq_true_eq, List.contains_iff_mem] at hrun
    obtain (hlow | himage) | ⟨halone, hknown⟩ := hrun
    · omega
    · omega
    · have hfirst : n = run.first := by omega
      rwa [hfirst]

theorem toNat_lt_of_toNat_ofNat {n : Nat} (h : (CodePoint.ofNat n).toNat < 0x80) : n < 0x80 := by
  unfold CodePoint.ofNat at h
  split at h
  · exact h
  · exact absurd h (by decide)

/-- Beyond ASCII, only those four have an ASCII letter as their other case. -/
theorem mem_foldedIntoAscii {c e : CodePoint} (hc : 0x80 ≤ c.toNat) (he : e.toNat < 0x80)
    (h : (lowerCode c).head? = some e ∨ upperCode c = [e]) : c.toNat ∈ foldedIntoAscii := by
  have hascii : ¬ c.toNat < 0x80 := by omega
  simp only [lowerCode, upperCode, if_neg hascii, mapCase] at h
  obtain h | h := h
  · split at h
    · next codes hlookup =>
      simp only [lowerExpansions, List.lookup_cons, List.lookup_nil] at hlookup
      split at hlookup
      · next hexpanded =>
        rw [beq_iff_eq.1 hexpanded]
        decide
      · cases hlookup
    · cases h
      exact mem_foldedIntoAscii_of_shiftBy lowerRuns_keepOut hc (toNat_lt_of_toNat_ofNat he)
  · split at h
    · next codes hlookup =>
      obtain ⟨before, after, hentry, -⟩ := List.lookup_eq_some_iff.1 hlookup
      have hlong := List.all_eq_true.1 upperExpansions_long (c.toNat, codes) (by simp [hentry])
      have hlength := congrArg List.length h
      simp only [List.length_map, List.length_singleton] at hlength
      rw [hlength] at hlong
      cases hlong
    · cases h
      exact mem_foldedIntoAscii_of_shiftBy upperRuns_keepOut hc (toNat_lt_of_toNat_ofNat he)

def isLetterNumber (n : Nat) : Bool := (0x41 ≤ n && n ≤ 0x5A) || (0x61 ≤ n && n ≤ 0x7A)

/-- The two cases of an ASCII letter are ASCII letters. -/
theorem cases_of_isLetterNumber {d : CodePoint} (h : isLetterNumber d.toNat = true) :
    ∃ low high : CodePoint, lowerCode d = [low] ∧ upperCode d = [high] ∧
      isLetterNumber low.toNat = true ∧ isLetterNumber high.toNat = true := by
  simp only [isLetterNumber, Bool.or_eq_true, Bool.and_eq_true, decide_eq_true_eq] at h
  have hascii : d.toNat < 0x80 := by omega
  simp only [lowerCode, upperCode, if_pos hascii]
  by_cases hupper : 0x41 ≤ d.toNat ∧ d.toNat ≤ 0x5A
  · have hlower : ¬ (0x61 ≤ d.toNat ∧ d.toNat ≤ 0x7A) := by omega
    refine ⟨_, _, if_pos hupper, if_neg hlower, ?_⟩
    rw [toNat_ofNat (by omega)]
    simp only [isLetterNumber, Bool.or_eq_true, Bool.and_eq_true, decide_eq_true_eq]
    omega
  · have hlower : 0x61 ≤ d.toNat ∧ d.toNat ≤ 0x7A := by omega
    refine ⟨_, _, if_neg hupper, if_pos hlower, ?_⟩
    rw [toNat_ofNat (by omega)]
    simp only [isLetterNumber, Bool.or_eq_true, Bool.and_eq_true, decide_eq_true_eq]
    omega

/-- What has an ASCII letter as its other case is one itself or one of four. -/
theorem isLetterNumber_of_differsInCase {c d : CodePoint} (hd : isLetterNumber d.toNat = true)
    (h : DiffersInCase c d) : isLetterNumber c.toNat = true ∨ c.toNat ∈ foldedIntoAscii := by
  obtain ⟨low, high, hlow, hhigh, hlowLetter, hhighLetter⟩ := cases_of_isLetterNumber hd
  rw [DiffersInCase, hlow, hhigh, List.head?_cons] at h
  simp only [isLetterNumber, Bool.or_eq_true, Bool.and_eq_true, decide_eq_true_eq] at hlowLetter hhighLetter ⊢
  by_cases hascii : c.toNat < 0x80
  · left
    simp only [lowerCode, upperCode, if_pos hascii] at h
    obtain h | h := h
    · split at h
      · omega
      · cases h
        omega
    · split at h
      · omega
      · cases h
        omega
  · right
    obtain h | h := h
    · exact mem_foldedIntoAscii (by omega) (by omega) (.inl h)
    · exact mem_foldedIntoAscii (by omega) (by omega) (.inr h)

end Text

namespace Placeholder

/-! ## The characters of names -/

/-- A character that names are made of: an ASCII letter or digit, a point, a hyphen or an underscore,
or what differs from an ASCII letter only in case. -/
def IsNameCharacter (c : CodePoint) : Prop :=
  ∃ d : Char, (c = d ∧ (d.isAlphanum = true ∨ d = '.' ∨ d = '-' ∨ d = '_')) ∨
    (d.isAlpha = true ∧ Text.DiffersInCase c d)

theorem isLetterNumber_of_isAlpha {d : Char} (h : d.isAlpha = true) :
    Text.isLetterNumber (CodePoint.ofChar d).toNat = true := by
  simp only [Text.isLetterNumber, Bool.or_eq_true, Bool.and_eq_true, decide_eq_true_eq]
  obtain hupper | hlower : d.isUpper = true ∨ d.isLower = true := Bool.or_eq_true_iff.1 h
  · exact .inl (of_decide_eq_true hupper)
  · obtain ⟨hlow, hhigh⟩ := Bool.and_eq_true_iff.1 hlower
    exact .inr ⟨of_decide_eq_true hlow, of_decide_eq_true hhigh⟩

theorem isNameCode_of_isLetterNumber {c : CodePoint} (h : Text.isLetterNumber c.toNat = true) :
    isNameCode c = true := by
  have hall : ∀ n : Fin 0x80, Text.isLetterNumber n.1 = true →
      isNameCode ⟨n.1, Nat.lt_trans n.2 (by decide)⟩ = true := by decide +kernel
  have hascii : c.toNat < 0x80 := by
    simp only [Text.isLetterNumber, Bool.or_eq_true, Bool.and_eq_true, decide_eq_true_eq] at h
    omega
  exact hall ⟨c.toNat, hascii⟩ h

theorem isNameCode_of_mem_foldedIntoAscii {c : CodePoint} (h : c.toNat ∈ Text.foldedIntoAscii) :
    isNameCode c = true := by
  have hall : ∀ n ∈ Text.foldedIntoAscii, ∀ hn, isNameCode ⟨n, hn⟩ = true := by decide +kernel
  exact hall c.toNat h c.lt_limit

/-- **The class of characters is the one that the case mappings give.** -/
theorem isNameCode_iff {c : CodePoint} : isNameCode c = true ↔ IsNameCharacter c := by
  constructor
  · intro h
    obtain ⟨d, hd, hname⟩ := (Option.any_eq_true _ _).1 h
    obtain rfl := CodePoint.eq_ofChar_of_char? hd
    simp only [Bool.or_eq_true, decide_eq_true_eq] at hname
    obtain ((((((hname | hname) | hname) | hname) | rfl) | rfl) | rfl) | rfl := hname
    · exact ⟨d, .inl ⟨rfl, .inl hname⟩⟩
    · exact ⟨d, .inl ⟨rfl, .inr (.inl hname)⟩⟩
    · exact ⟨d, .inl ⟨rfl, .inr (.inr (.inl hname))⟩⟩
    · exact ⟨d, .inl ⟨rfl, .inr (.inr (.inr hname))⟩⟩
    · exact ⟨'s', .inr ⟨by decide, .inr (by decide +kernel)⟩⟩
    · exact ⟨'k', .inr ⟨by decide, .inl (by decide +kernel)⟩⟩
    · exact ⟨'i', .inr ⟨by decide, .inl (by decide +kernel)⟩⟩
    · exact ⟨'i', .inr ⟨by decide, .inr (by decide +kernel)⟩⟩
  · rintro ⟨d, ⟨rfl, hd⟩ | ⟨hd, hcase⟩⟩
    · obtain hd | rfl | rfl | rfl := hd <;> simp [isNameCode, *]
    · obtain hletter | hknown :=
        Text.isLetterNumber_of_differsInCase (isLetterNumber_of_isAlpha hd) hcase
      · exact isNameCode_of_isLetterNumber hletter
      · exact isNameCode_of_mem_foldedIntoAscii hknown

/-! ## Places -/

/-- A name stands in braces at a position of a text. -/
structure StandsAt (text : Text) (i : Nat) (name : Text) : Prop where
  ne_nil : name ≠ []
  characters : ∀ c ∈ name, IsNameCharacter c
  place : ∃ before after, before.length = i ∧ text = before ++ (Piece.hole name).source ++ after

/-- The placeholders among pieces with their positions, where the first piece is at `i`. -/
def placesFrom : (i : Nat) → List Piece → List (Nat × Text)
  | _, [] => []
  | i, .literal text :: rest => placesFrom (i + (Piece.literal text).source.length) rest
  | i, .hole name :: rest => (i, name) :: placesFrom (i + (Piece.hole name).source.length) rest

def places (text : Text) : List (Nat × Text) := placesFrom 0 (pieces text)

variable {text name : Text} {ps : List Piece}

theorem map_snd_placesFrom (i : Nat) (ps : List Piece) :
    (placesFrom i ps).map Prod.snd = ps.filterMap Piece.name? := by
  induction ps generalizing i with
  | nil => rfl
  | cons piece ps ih => cases piece <;> simp [placesFrom, List.filterMap_cons, Piece.name?, ih]

theorem placesFrom_append (i : Nat) (before after : List Piece) :
    placesFrom i (before ++ after) =
      placesFrom i before ++ placesFrom (i + (before.flatMap Piece.source).length) after := by
  induction before generalizing i with
  | nil => rfl
  | cons piece before ih => cases piece <;> simp [placesFrom, ih, Nat.add_assoc]

theorem mem_placesFrom {i j : Nat} : (j, name) ∈ placesFrom i ps ↔
    ∃ before after, ps = before ++ .hole name :: after ∧
      j = i + (before.flatMap Piece.source).length := by
  constructor
  · intro h
    induction ps generalizing i with
    | nil => cases h
    | cons piece ps ih =>
      cases piece with
      | literal text =>
        obtain ⟨before, after, rfl, rfl⟩ := ih h
        exact ⟨.literal text :: before, after, rfl, by simp [Nat.add_assoc]⟩
      | hole name' =>
        obtain heq | h := List.mem_cons.1 h
        · cases heq
          exact ⟨[], ps, rfl, rfl⟩
        · obtain ⟨before, after, rfl, rfl⟩ := ih h
          exact ⟨.hole name' :: before, after, rfl, by simp [Nat.add_assoc]⟩
  · rintro ⟨before, after, rfl, rfl⟩
    simp [placesFrom_append, placesFrom]

theorem le_of_mem_placesFrom {i : Nat} {place : Nat × Text} (h : place ∈ placesFrom i ps) :
    i ≤ place.1 := by
  obtain ⟨before, after, -, hplace⟩ := mem_placesFrom.1 h
  omega

/-- A placeholder is behind the ones before it as a whole. -/
theorem pairwise_placesFrom (i : Nat) (ps : List Piece) : (placesFrom i ps).Pairwise fun a b =>
    a.1 + (Piece.hole a.2).source.length ≤ b.1 := by
  induction ps generalizing i with
  | nil => exact .nil
  | cons piece ps ih =>
    cases piece with
    | literal text => exact ih _
    | hole name => exact .cons (fun _ hplace => le_of_mem_placesFrom hplace) (ih _)

/-! ## What stands in braces is cut out -/

theorem scan_append_brace (opened : Option Text) (before rest : Text) :
    scan opened (before ++ .ofChar '{' :: rest) = scan opened before ++ scan (some []) rest := by
  have hbrace : ¬ isNameCode (.ofChar '{') = true := by decide
  have hopen : ¬ CodePoint.ofChar '{' = .ofChar '}' := by decide
  induction before generalizing opened with
  | nil => cases opened <;> simp [scan, hbrace, hopen]
  | cons c before ih =>
    cases opened with
    | none => by_cases hc : c = '{' <;> simp [scan, hc, ih]
    | some passed =>
      simp only [List.cons_append, scan]
      split_ifs <;> simp [ih]

/-- **What stands in braces is cut out**, wherever it stands. -/
theorem pieces_append_hole (hne : name ≠ []) (hname : ∀ c ∈ name, isNameCode c = true)
    (before after : Text) :
    pieces (before ++ (Piece.hole name).source ++ after) =
      pieces before ++ .hole name :: pieces after := by
  have hbrace : ¬ isNameCode (.ofChar '}') = true := by decide
  have hhole : scan (some []) (name ++ .ofChar '}' :: after) = .hole name :: pieces after := by
    rw [scan_append hname, scan, if_neg hbrace, if_pos ⟨rfl, by simpa using hne⟩]
    simp [pieces]
  rw [pieces, Piece.source, List.append_assoc, List.cons_append, List.cons_append,
    scan_append_brace, List.append_assoc]
  exact congrArg (pieces before ++ ·) hhole

theorem mem_places_iff {i : Nat} : (i, name) ∈ places text ↔ StandsAt text i name := by
  rw [places, mem_placesFrom]
  constructor
  · rintro ⟨before, after, hpieces, rfl⟩
    have hhole : .hole name ∈ pieces text := by simp [hpieces]
    obtain ⟨hne, hname⟩ := isNameCode_of_hole_mem hhole
    refine ⟨hne, fun c hc => isNameCode_iff.1 (hname c hc), before.flatMap Piece.source,
      after.flatMap Piece.source, by simp, ?_⟩
    rw [← source_pieces text, hpieces]
    simp
  · rintro ⟨hne, hname, before, after, rfl, rfl⟩
    have hcodes : ∀ c ∈ name, isNameCode c = true := fun c hc => isNameCode_iff.2 (hname c hc)
    refine ⟨pieces before, pieces after, pieces_append_hole hne hcodes before after, ?_⟩
    rw [source_pieces, Nat.zero_add]

/-- **The names of a text are exactly what stands in braces in it**, in the order of their positions:
each occurrence is found, none reaches into another one, and the text is made of the occurrences and
what is between them. -/
theorem names_exact (text : Text) :
    names text = (places text).map Prod.snd ∧
      (∀ i name, (i, name) ∈ places text ↔ StandsAt text i name) ∧
      ((places text).Pairwise fun a b => a.1 + (Piece.hole a.2).source.length ≤ b.1) ∧
      (pieces text).flatMap Piece.source = text :=
  ⟨(map_snd_placesFrom 0 (pieces text)).symm, fun _ _ => mem_places_iff,
    pairwise_placesFrom 0 (pieces text), source_pieces text⟩

/-- A brace in front of an occurrence, one behind it that opens nothing, and braces around what is no name. -/
example : names "\x7b\x7ba\x7d\x7d \x7bb c\x7d\x7bd.1\x7d\x7b\x7d\x7b" = ["a", "d.1"] := by decide +kernel

end Placeholder
end MockApi
