import MockApi.Text.CodePoint

/-!
# Ranges of code points and pieces of text

* `inRanges` : membership in a table of code point ranges;
* `splitAtFirst` : text cut at the first occurrence of a given piece;
* `fields` : text cut at every occurrence of one character;
* `joinWith`, `join` : the inverse of cutting.

Texts are cut in the same way whether they are made of characters or of code points.
-/

namespace MockApi.Text

variable {α : Type} [DecidableEq α]

/-- Whether `n` lies in one of the ranges, which are given in increasing order. -/
def inRanges : List (Nat × Nat) → Nat → Bool
  | [], _ => false
  | (first, last) :: rest, n =>
    if n < first then false else if n ≤ last then true else inRanges rest n

/-- What is left of `text` after `piece`, when it starts with it. -/
def after? : List α → List α → Option (List α)
  | [], text => some text
  | _ :: _, [] => none
  | p :: piece, c :: text => if p = c then after? piece text else none

/-- The text before and after the first occurrence of `piece`. -/
def splitAtFirst (piece : List α) : List α → Option (List α × List α)
  | [] => (after? piece []).map fun rest => ([], rest)
  | c :: text =>
    match after? piece (c :: text) with
    | some rest => some ([], rest)
    | none => (splitAtFirst piece text).map fun (before, rest) => (c :: before, rest)

/-- The pieces of `text` between the occurrences of `separator`: one more than there are
occurrences, so the empty text has one empty piece. -/
def fields (separator : α) : List α → List (List α)
  | [] => [[]]
  | c :: text =>
    if c = separator then [] :: fields separator text
    else
      match fields separator text with
      | [] => [[c]]
      | piece :: rest => (c :: piece) :: rest

/-- `fields` on strings. -/
def split (separator : Char) (text : String) : List String :=
  (fields separator text.toList).map String.ofList

/-- The pieces with `separator` between them. -/
def joinWith (separator : String) : List String → String
  | [] => ""
  | [piece] => piece
  | piece :: rest => piece ++ separator ++ joinWith separator rest

def join (separator : Text) (texts : List Text) : Text := separator.intercalate texts

theorem exists_of_inRanges {ranges : List (Nat × Nat)} {n : Nat} (h : inRanges ranges n = true) :
    ∃ range ∈ ranges, range.1 ≤ n ∧ n ≤ range.2 := by
  induction ranges with
  | nil => cases h
  | cons range rest ih =>
    rw [inRanges] at h
    split at h
    · cases h
    · split at h
      · exact ⟨range, by simp, by omega, by omega⟩
      · obtain ⟨range', hmem, hrange⟩ := ih h
        exact ⟨range', by simp [hmem], hrange⟩

theorem fields_ne_nil (separator : α) (text : List α) : fields separator text ≠ [] := by
  cases text with
  | nil => simp [fields]
  | cons c text =>
    unfold fields
    split
    · simp
    · split <;> simp

/-! ## The first occurrence of a piece -/

theorem after?_eq_some_iff {piece text rest : List α} :
    after? piece text = some rest ↔ text = piece ++ rest := by
  induction piece generalizing text with
  | nil => cases text <;> simp [after?]
  | cons p piece ih =>
    cases text with
    | nil => simp [after?]
    | cons c text =>
      by_cases h : p = c
      · subst h
        simp [after?, ih]
      · simp [after?, h, Ne.symm h]

theorem after?_append (piece rest : List α) : after? piece (piece ++ rest) = some rest :=
  after?_eq_some_iff.2 rfl

theorem after?_eq_none_iff {piece text : List α} : after? piece text = none ↔ ¬ piece <+: text := by
  rw [← Option.not_isSome_iff_eq_none, Option.isSome_iff_exists]
  simp only [after?_eq_some_iff]
  exact not_congr ⟨fun ⟨rest, h⟩ => ⟨rest, h.symm⟩, fun ⟨rest, h⟩ => ⟨rest, h.symm⟩⟩

theorem splitAtFirst_eq_none_iff {piece text : List α} :
    splitAtFirst piece text = none ↔ ¬ piece <:+: text := by
  induction text with
  | nil => simp [splitAtFirst, after?_eq_none_iff]
  | cons c text ih =>
    rw [splitAtFirst, List.infix_cons_iff, not_or, ← after?_eq_none_iff, ← ih]
    cases after? piece (c :: text) <;> simp

theorem eq_append_of_splitAtFirst {piece text before rest : List α}
    (h : splitAtFirst piece text = some (before, rest)) : text = before ++ piece ++ rest := by
  induction text generalizing before with
  | nil =>
    simp only [splitAtFirst, Option.map_eq_some_iff] at h
    obtain ⟨rest', hrest, heq⟩ := h
    cases heq
    simpa using after?_eq_some_iff.1 hrest
  | cons c text ih =>
    rw [splitAtFirst] at h
    split at h
    · next hrest =>
      cases h
      simpa using after?_eq_some_iff.1 hrest
    · rw [Option.map_eq_some_iff] at h
      obtain ⟨⟨before', rest'⟩, hsplit, heq⟩ := h
      cases heq
      simp [ih hsplit]

/-- Before its first occurrence a piece does not occur. -/
theorem not_infix_of_splitAtFirst {piece text before rest : List α} (hne : piece ≠ [])
    (h : splitAtFirst piece text = some (before, rest)) : ¬ piece <:+: before := by
  induction text generalizing before with
  | nil =>
    simp only [splitAtFirst, Option.map_eq_some_iff] at h
    obtain ⟨rest', -, heq⟩ := h
    cases heq
    simpa using hne
  | cons c text ih =>
    rw [splitAtFirst] at h
    split at h
    · cases h
      simpa using hne
    · next hnone =>
      rw [Option.map_eq_some_iff] at h
      obtain ⟨⟨before', rest'⟩, hsplit, heq⟩ := h
      cases heq
      rw [List.infix_cons_iff]
      rintro (⟨more, hmore⟩ | hinfix)
      · have htext : c :: text = piece ++ (more ++ piece ++ rest) := by
          rw [eq_append_of_splitAtFirst hsplit, ← List.append_assoc, ← List.append_assoc, hmore]
          simp
        rw [htext, after?_append] at hnone
        cases hnone
      · exact ih hsplit hinfix

/-- A piece that starts with a sign it has nowhere else occurs for the first time where it stands,
unless it occurs in what is before it: no occurrence can reach into another one. -/
theorem splitAtFirst_append {p : α} {piece before : List α} (hp : p ∉ piece)
    (hbefore : ¬ (p :: piece) <:+: before) (rest : List α) :
    splitAtFirst (p :: piece) (before ++ (p :: piece) ++ rest) = some (before, rest) := by
  induction before with
  | nil => simp [splitAtFirst, after?, after?_append]
  | cons c before ih =>
    rw [List.infix_cons_iff, not_or] at hbefore
    obtain ⟨hfirst, hinfix⟩ := hbefore
    have hnone : after? (p :: piece) (c :: (before ++ (p :: piece) ++ rest)) = none := by
      rw [← Option.not_isSome_iff_eq_none, Option.isSome_iff_exists]
      rintro ⟨rest', hrest⟩
      rw [after?_eq_some_iff, ← List.cons_append, ← List.cons_append, List.append_assoc,
        List.append_eq_append_iff] at hrest
      obtain ⟨more, hmore, htail⟩ | ⟨more, hmore, -⟩ := hrest
      · cases more with
        | nil => exact hfirst ⟨[], by simpa using hmore⟩
        | cons d more =>
          rw [List.cons_append, List.cons_append, List.cons.injEq] at htail
          obtain ⟨rfl, -⟩ := htail
          rw [List.cons_append, List.cons.injEq] at hmore
          exact hp (hmore.2 ▸ by simp)
      · exact hfirst ⟨more, hmore.symm⟩
    rw [List.cons_append, List.cons_append, splitAtFirst, hnone]
    simp only [ih hinfix, Option.map_some]

end MockApi.Text
