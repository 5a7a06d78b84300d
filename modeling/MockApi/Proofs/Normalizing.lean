import MockApi.Proofs.FieldAccess
import MockApi.Text.NormalForm

/-!
# Normal forms of identifiers

The normal form of an identifier is no numeral: what the first character stands for has some code point
that is no digit, and such a code point stays, or becomes another one, when marks are put in order and
code points are put together.

* `NoDigit n`, `AnyLetter codes` : a code point that is no digit, and a list with such a code point;
* `holdsNoDigit`, `holdsNoStart` : ranges without digits, and without characters that start an
  identifier;
* `readEntries` : the entries of a line of a table, read from left to right;
* `isAllDigits_normalForm` : the normal form of an identifier is no numeral.
-/

namespace MockApi.Text

variable {n : Nat} {c : Char} {range : Nat × Nat} {codes : List Nat}

def NoDigit (n : Nat) : Prop := ∀ digits ∈ digitRanges, ¬(digits.1 ≤ n ∧ n ≤ digits.2)

/-- Some code point of these is no digit. -/
def AnyLetter (codes : List Nat) : Prop := ∃ code ∈ codes, NoDigit code

/-! ## Ranges without digits -/

/-- Long ranges without digits, which hold most images; what is in them is compared with no digits. -/
def plainRanges : List (Nat × Nat) :=
  [(0x3A, 0xB1), (0xBA, 0x65F), (0x2793, 0xA61F), (0x66A, 0x6EF), (0x109A, 0x1368),
    (0x1C5A, 0x206F), (0x20000, 0x2FFFF)]

theorem plainRanges_areApart_digitRanges :
    (plainRanges.all fun plain => digitRanges.all (areApart plain)) = true := by
  decide +kernel

def holdsNoDigit (range : Nat × Nat) : Bool :=
  (plainRanges.any fun plain => Nat.ble plain.1 range.1 && Nat.ble range.2 plain.2) ||
    digitRanges.all (areApart range)

/-- Whether no character that starts an identifier is in a range. -/
def holdsNoStart (range : Nat × Nat) : Bool := identifierStartRanges.all (areApart range)

theorem not_mem_of_areApart {other : Nat × Nat} (h : areApart range other = true)
    (hn : range.1 ≤ n ∧ n ≤ range.2) : ¬(other.1 ≤ n ∧ n ≤ other.2) := by
  simp only [areApart, Bool.or_eq_true, Nat.blt_eq] at h
  omega

theorem noDigit_of_all (h : digitRanges.all (areApart range) = true)
    (hn : range.1 ≤ n ∧ n ≤ range.2) : NoDigit n :=
  fun digits hdigits => not_mem_of_areApart (List.all_eq_true.1 h digits hdigits) hn

theorem noDigit_of_holdsNoDigit (h : holdsNoDigit range = true)
    (hn : range.1 ≤ n ∧ n ≤ range.2) : NoDigit n := by
  obtain h | h := Bool.or_eq_true_iff.1 h
  · obtain ⟨plain, hplain, hinside⟩ := List.any_eq_true.1 h
    rw [Bool.and_eq_true, Nat.ble_eq, Nat.ble_eq] at hinside
    have hapart := List.all_eq_true.1 plainRanges_areApart_digitRanges plain hplain
    exact noDigit_of_all hapart ⟨by omega, by omega⟩
  · exact noDigit_of_all h hn

theorem noDigit_of_isIdentifierStart (h : isIdentifierStart c = true) : NoDigit c.toNat := by
  obtain ⟨starts, hstarts, hc⟩ := exists_of_isIdentifierStart h
  exact noDigit_of_all
    (List.all_eq_true.1 identifierStartRanges_areApart_digitRanges starts hstarts) hc

theorem not_mem_of_holdsNoStart (h : holdsNoStart range = true) (hc : isIdentifierStart c = true) :
    ¬(range.1 ≤ c.toNat ∧ c.toNat ≤ range.2) := by
  intro hrange
  obtain ⟨starts, hstarts, hmem⟩ := exists_of_isIdentifierStart hc
  exact not_mem_of_areApart (List.all_eq_true.1 h starts hstarts) hrange hmem

theorem not_isDigit_of_noDigit (h : NoDigit c.toNat) : isDigit (.ofChar c) = false := by
  rw [← Bool.not_eq_true]
  intro hdigit
  obtain ⟨digits, hdigits, hrange⟩ := exists_of_isDigit hdigit
  rw [CodePoint.toNat_ofChar] at hrange
  exact h digits hdigits hrange

/-! ## Tables -/

/-- Puts a number in front of the first entry. -/
def pushNumber (n : Nat) : List (List Nat) → List (List Nat)
  | [] => [[n]]
  | entry :: entries => (n :: entry) :: entries

/-- The entries of a line, read from left to right; `n` is the number that its last digits denote. -/
def readEntries : List Char → Nat → List (List Nat)
  | [], n => [[n]]
  | c :: rest, n =>
    match hexValue? c with
    | some d => readEntries rest (16 * n + d)
    | none =>
      if c = ',' then [n] :: readEntries rest 0
      else if c = ' ' then pushNumber n (readEntries rest 0)
      else readEntries rest n

/-- The number that hexadecimal digits denote behind others that denote `n`. -/
def numberFrom (n : Nat) (digits : List Char) : Nat :=
  (digits.filterMap hexValue?).foldl (fun n d => 16 * n + d) n

theorem fields_cons_of_ne {separator : Char} (h : c ≠ separator) {rest piece : List Char}
    {pieces : List (List Char)} (hrest : fields separator rest = piece :: pieces) :
    fields separator (c :: rest) = (c :: piece) :: pieces := by
  rw [fields, if_neg h, hrest]

/-- The first number of the first entry has the digits read so far in front. -/
theorem readEntries_eq (line : List Char) (n : Nat) :
    ∃ entry entries number numbers, fields ',' line = entry :: entries ∧
      fields ' ' entry = number :: numbers ∧
      readEntries line n = (numberFrom n number :: numbers.map numberOfHex) ::
        entries.map fun entry => (fields ' ' entry).map numberOfHex := by
  induction line generalizing n with
  | nil => exact ⟨[], [], [], [], rfl, rfl, rfl⟩
  | cons c rest ih =>
    rw [readEntries]
    cases hvalue : hexValue? c with
    | some d =>
      obtain ⟨entry, entries, number, numbers, hentries, hnumbers, hread⟩ := ih (16 * n + d)
      have hcomma : c ≠ ',' := by
        rintro rfl
        cases hvalue
      have hblank : c ≠ ' ' := by
        rintro rfl
        cases hvalue
      refine ⟨c :: entry, entries, c :: number, numbers, fields_cons_of_ne hcomma hentries,
        fields_cons_of_ne hblank hnumbers, ?_⟩
      dsimp only
      rw [hread, numberFrom, numberFrom, List.filterMap_cons_some hvalue, List.foldl_cons]
    | none =>
      dsimp only
      split
      · next hcomma =>
        subst hcomma
        obtain ⟨entry, entries, number, numbers, hentries, hnumbers, hread⟩ := ih 0
        refine ⟨[], entry :: entries, [], [], by rw [fields, if_pos rfl, hentries], rfl, ?_⟩
        rw [hread, List.map_cons, hnumbers]
        rfl
      · next hcomma =>
        split
        · next hblank =>
          subst hblank
          obtain ⟨entry, entries, number, numbers, hentries, hnumbers, hread⟩ := ih 0
          refine ⟨' ' :: entry, entries, [], number :: numbers, fields_cons_of_ne hcomma hentries,
            by rw [fields, if_pos rfl, hnumbers], ?_⟩
          rw [hread]
          rfl
        · next hblank =>
          obtain ⟨entry, entries, number, numbers, hentries, hnumbers, hread⟩ := ih n
          refine ⟨c :: entry, entries, c :: number, numbers, fields_cons_of_ne hcomma hentries,
            fields_cons_of_ne hblank hnumbers, ?_⟩
          rw [hread, numberFrom, numberFrom, List.filterMap_cons_none hvalue]

theorem tableEntries_ofList (line : List Char) :
    tableEntries (String.ofList line) = readEntries line 0 := by
  obtain ⟨entry, entries, number, numbers, hentries, hnumbers, hread⟩ := readEntries_eq line 0
  rw [hread, tableEntries, String.toList_ofList, hentries, List.map_cons, hnumbers]
  rfl

/-- The lines of a table with their characters. Tables are checked by these, as it takes the kernel long
to take strings apart. -/
inductive Spelled : List String → List (List Char) → Prop
  | nil : Spelled [] []
  | cons {line : List Char} {table : List String} {lines : List (List Char)} :
    Spelled table lines → Spelled (String.ofList line :: table) (line :: lines)

/-- What holds of the entries of all lines, given by their characters, holds of the entries of the
table. -/
theorem forall_entries {table : List String} {lines : List (List Char)} {P : List Nat → Bool}
    (htable : Spelled table lines)
    (hlines : (lines.all fun line => (readEntries line 0).all P) = true) :
    ∀ line ∈ table, ∀ entry ∈ tableEntries line, P entry = true := by
  induction htable with
  | nil => exact nofun
  | cons _ ih =>
    rw [List.all_cons, Bool.and_eq_true] at hlines
    rw [List.forall_mem_cons, tableEntries_ofList]
    exact ⟨List.all_eq_true.1 hlines.1, ih hlines.2⟩

theorem exists_entry_of_fromTable? {β : Type} {select : List Nat → Option β}
    {table : List String} {b : β} (h : fromTable? select table = some b) :
    ∃ line ∈ table, ∃ entry ∈ tableEntries line, select entry = some b := by
  obtain ⟨line, hline, hentries⟩ := List.exists_of_findSome?_eq_some h
  obtain ⟨entry, hentry, hselect⟩ := List.exists_of_findSome?_eq_some hentries
  exact ⟨line, hline, entry, hentry, hselect⟩

/-- Whether an entry of `singleImages` maps nothing that starts an identifier to a digit. The run of
full-width characters has both letters and digits, so the digits are looked at one range after the
other. -/
def singleKeepsLetter : List Nat → Bool
  | [first, last, image] =>
    let images := (image, image + (last - first))
    holdsNoDigit images || digitRanges.all fun digits =>
      areApart images digits ||
        holdsNoStart (first + (digits.1 - image), min last (first + (digits.2 - image)))
  | _ => true

/-- Whether an entry of `longImages` maps nothing that starts an identifier to digits only. -/
def longKeepsLetter : List Nat → Bool
  | code :: image => image.any (fun n => holdsNoDigit (n, n)) || holdsNoStart (code, code)
  | [] => true

/-- Whether an entry of `compositions` makes no digit. -/
def makesLetter : List Nat → Bool
  | [_, _, whole] => holdsNoDigit (whole, whole)
  | _ => true

set_option maxRecDepth 8000 in
theorem singleImages_keep_letters :
    ∀ line ∈ singleImages, ∀ entry ∈ tableEntries line, singleKeepsLetter entry = true := by
  apply forall_entries
  · unfold singleImages
    dsimp only
    repeat apply Spelled.cons
    exact .nil
  · decide +kernel

set_option maxRecDepth 8000 in
theorem longImages_keep_letters :
    ∀ line ∈ longImages, ∀ entry ∈ tableEntries line, longKeepsLetter entry = true := by
  apply forall_entries
  · unfold longImages
    dsimp only
    repeat apply Spelled.cons
    exact .nil
  · decide +kernel

set_option maxRecDepth 8000 in
theorem compositions_make_letters :
    ∀ line ∈ compositions, ∀ entry ∈ tableEntries line, makesLetter entry = true := by
  apply forall_entries
  · unfold compositions
    dsimp only
    repeat apply Spelled.cons
    exact .nil
  · decide +kernel

/-! ## Taking apart -/

theorem anyLetter_of_singleImage? {entry image : List Nat} (hentry : singleKeepsLetter entry = true)
    (hc : isIdentifierStart c = true) (h : singleImage? c.toNat entry = some image) :
    AnyLetter image := by
  unfold singleImage? at h
  split at h
  · next first last start =>
    split at h
    · next hrange =>
      cases h
      refine ⟨_, List.mem_singleton_self _, ?_⟩
      obtain hno | hall := Bool.or_eq_true_iff.1 hentry
      · exact noDigit_of_holdsNoDigit hno (by dsimp only; omega)
      · intro digits hdigits hmem
        obtain hapart | hno := Bool.or_eq_true_iff.1 (List.all_eq_true.1 hall digits hdigits)
        · exact not_mem_of_areApart hapart (by dsimp only; omega) hmem
        · exact not_mem_of_holdsNoStart hno hc (by dsimp only; omega)
    · cases h
  · cases h

theorem anyLetter_of_longImage? {entry image : List Nat} (hentry : longKeepsLetter entry = true)
    (hc : isIdentifierStart c = true) (h : longImage? c.toNat entry = some image) :
    AnyLetter image := by
  unfold longImage? at h
  split at h
  · next code rest =>
    split at h
    · next hcode =>
      cases h
      obtain hany | hno := Bool.or_eq_true_iff.1 hentry
      · obtain ⟨n, hn, hno⟩ := List.any_eq_true.1 hany
        exact ⟨n, hn, noDigit_of_holdsNoDigit hno ⟨Nat.le_refl _, Nat.le_refl _⟩⟩
      · exact absurd ⟨Nat.le_of_eq hcode, Nat.le_of_eq hcode.symm⟩ (not_mem_of_holdsNoStart hno hc)
    · cases h
  · cases h

theorem anyLetter_lettersOf {syllable : Nat} (h : isSyllable syllable = true) :
    AnyLetter (lettersOf syllable) := by
  refine ⟨leadBase + (syllable - syllableBase) / (vowelCount * tailCount), ?_, ?_⟩
  · simp only [lettersOf]
    split <;> simp
  · have hlead : (syllable - syllableBase) / (vowelCount * tailCount) < leadCount := by
      simp only [isSyllable, Bool.and_eq_true, decide_eq_true_eq] at h
      rw [Nat.div_lt_iff_lt_mul (by decide), ← Nat.mul_assoc]
      omega
    have hleads : holdsNoDigit (leadBase, leadBase + leadCount) = true := by decide
    exact noDigit_of_holdsNoDigit hleads
      ⟨Nat.le_add_right _ _, Nat.add_le_add_left (Nat.le_of_lt hlead) _⟩

/-- What a character that starts an identifier stands for is not made of digits only. -/
theorem anyLetter_imageOf (hc : isIdentifierStart c = true) : AnyLetter (imageOf c.toNat) := by
  have hsame : AnyLetter [c.toNat] :=
    ⟨_, List.mem_singleton_self _, noDigit_of_isIdentifierStart hc⟩
  unfold imageOf
  split
  · exact hsame
  · split
    · next hsyllable => exact anyLetter_lettersOf hsyllable
    · cases hsingle : fromTable? (singleImage? c.toNat) singleImages with
      | some image =>
        obtain ⟨line, hline, entry, hentry, himage⟩ := exists_entry_of_fromTable? hsingle
        exact anyLetter_of_singleImage? (singleImages_keep_letters line hline entry hentry) hc himage
      | none =>
        cases hlong : fromTable? (longImage? c.toNat) longImages with
        | some image =>
          obtain ⟨line, hline, entry, hentry, himage⟩ := exists_entry_of_fromTable? hlong
          exact anyLetter_of_longImage? (longImages_keep_letters line hline entry hentry) hc himage
        | none => exact hsame

/-! ## Order -/

theorem perm_placeMark (code cls : Nat) (placed : List (Nat × Nat)) :
    (placeMark code cls placed).Perm ((code, cls) :: placed) := by
  induction placed with
  | nil => exact .refl _
  | cons other rest ih =>
    rw [placeMark]
    split
    · exact (ih.cons other).trans (.swap _ _ _)
    · exact .refl _

/-- Putting marks in order loses no code point. -/
theorem perm_sortMarks (codes : List Nat) : ((sortMarks codes).map Prod.fst).Perm codes := by
  have hplaced : ∀ placed : List (Nat × Nat),
      ((codes.foldl (fun placed code => placeMark code (combiningClass code) placed)
        placed).map Prod.fst).Perm (codes ++ placed.map Prod.fst) := by
    induction codes with
    | nil => exact fun placed => .refl _
    | cons code codes ih =>
      intro placed
      refine (ih _).trans ((((perm_placeMark _ _ _).map _).append_left codes).trans ?_)
      exact List.perm_middle
  rw [sortMarks, List.map_reverse]
  exact (List.reverse_perm _).trans (by simpa using hplaced [])

/-! ## Putting together -/

theorem noDigit_of_composition? {a b whole : Nat} (h : composition? a b = some whole) :
    NoDigit whole := by
  obtain h | ⟨-, h⟩ := Option.or_eq_some_iff.1 h
  · have hsyllable : 0xAC00 ≤ whole ∧ whole ≤ 0xD7A3 := by
      unfold syllableOf? isSyllable leadBase leadCount vowelBase vowelCount syllableBase tailBase
        tailCount at h
      simp only [Bool.and_eq_true, decide_eq_true_eq] at h
      split at h
      · rw [Option.some.injEq] at h
        omega
      · split at h
        · rw [Option.some.injEq] at h
          omega
        · cases h
    have hsyllables : holdsNoDigit (0xAC00, 0xD7A3) = true := by decide +kernel
    exact noDigit_of_holdsNoDigit hsyllables hsyllable
  · obtain ⟨line, hline, entry, hentry, hwhole⟩ := exists_entry_of_fromTable? h
    have hmakes := compositions_make_letters line hline entry hentry
    unfold compositionIn? at hwhole
    split at hwhole
    · split at hwhole
      · cases hwhole
        exact noDigit_of_holdsNoDigit hmakes ⟨Nat.le_refl _, Nat.le_refl _⟩
      · cases hwhole
    · cases hwhole

theorem anyLetter_append {codes' : List Nat} :
    AnyLetter (codes ++ codes') ↔ AnyLetter codes ∨ AnyLetter codes' := by
  simp [AnyLetter, or_and_right, exists_or]

/-- A letter among the code points stays there, or is put together with another one. -/
theorem anyLetter_composeFrom {base : Nat} {marks rest : List (Nat × Nat)}
    (h : AnyLetter (base :: marks.map Prod.fst ++ rest.map Prod.fst)) :
    AnyLetter (composeFrom base marks rest) := by
  induction rest generalizing base marks with
  | nil =>
    rw [composeFrom]
    simpa [AnyLetter] using h
  | cons mark rest ih =>
    obtain ⟨code, cls⟩ := mark
    rw [composeFrom]
    split
    · next whole hjoined =>
      have hwhole : NoDigit whole := by
        split at hjoined
        · exact noDigit_of_composition? hjoined
        · cases hjoined
      exact ih ⟨whole, List.mem_cons_self, hwhole⟩
    · split
      · rw [anyLetter_append]
        rw [List.map_cons, anyLetter_append] at h
        refine h.imp (fun h => ?_) fun h => ih h
        simpa [AnyLetter] using h
      · refine ih ?_
        simpa [AnyLetter, or_and_right, exists_or, or_assoc, or_left_comm] using h

theorem anyLetter_compose {codes : List (Nat × Nat)} (h : AnyLetter (codes.map Prod.fst)) :
    AnyLetter (compose codes) := by
  rw [← List.takeWhile_append_dropWhile (p := fun code => code.2 ≠ 0) (l := codes), List.map_append,
    anyLetter_append] at h
  rw [compose, anyLetter_append]
  refine h.imp_right fun h => ?_
  cases hrest : codes.dropWhile fun code => code.2 ≠ 0 with
  | nil =>
    rw [hrest] at h
    exact h
  | cons code rest =>
    rw [hrest] at h
    exact anyLetter_composeFrom h

/-! ## The normal form -/

theorem noDigit_ofNat (h : NoDigit n) : NoDigit (Char.ofNat n).toNat := by
  by_cases hvalid : n.isValidChar
  · have hn : Char.ofNat n = Char.ofNatAux n hvalid := dif_pos hvalid
    rw [hn]
    exact h
  · have hn : Char.ofNat n = '\x00' := dif_neg hvalid
    have hzero : holdsNoDigit (0, 0) = true := by decide
    rw [hn]
    exact noDigit_of_holdsNoDigit hzero ⟨Nat.le_refl 0, Nat.le_refl 0⟩

theorem isAllDigits_of_anyLetter (h : AnyLetter codes) :
    isAllDigits (ofChars (codes.map Char.ofNat)) = false := by
  obtain ⟨code, hcode, hletter⟩ := h
  rw [isAllDigits, Bool.and_eq_false_iff]
  refine .inr (List.all_eq_false.2 ⟨.ofChar (Char.ofNat code), ?_, ?_⟩)
  · exact List.mem_map_of_mem (List.mem_map_of_mem hcode)
  · rw [not_isDigit_of_noDigit (noDigit_ofNat hletter)]
    decide

/-- **The normal form of an identifier is no numeral.** -/
theorem isAllDigits_normalForm {word : List Char} (h : isIdentifier word = true) :
    isAllDigits (ofChars (normalForm word)) = false := by
  unfold normalForm
  split
  · have hword := @isAllDigits_of_isIdentifier (String.ofList word) (by simpa using h)
    simpa [ofString] using hword.1
  · cases word with
    | nil => cases h
    | cons c rest =>
      rw [isIdentifier, Bool.and_eq_true] at h
      refine isAllDigits_of_anyLetter (anyLetter_compose ?_)
      obtain ⟨code, hcode, hletter⟩ := anyLetter_imageOf h.1
      refine ⟨code, (perm_sortMarks _).mem_iff.2 ?_, hletter⟩
      exact List.mem_flatMap.2 ⟨c.toNat, List.mem_cons_self, hcode⟩

end MockApi.Text
