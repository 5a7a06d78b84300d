import MockApi.Json.Reader

/-!
# The grammar of JSON documents

* `Denotes`, `DenotesItems`, `DenotesMembers` : what the value at the start of a text is, and what
  follows it;
* `LongNumeral` : an integer with more digits than are converted stands there;
* `Overruns`, `OverrunsItems`, `OverrunsMembers` : such an integer stands within the value, and all
  before it is in order;
* `IsDocument`, `HoldsLong` : the same of a whole text;
* `Passes` : a part of a text is passed, or the text is malformed; `passes_readText` for texts in
  quotes;
* `length_lt_of_readScalar`, `readScalar_eq_long_iff` : words and numerals.

The grammar has no fuel. Texts in quotes, words and numerals are those of the reader.
-/

namespace MockApi.Json

variable {dialect : Dialect} {text rest next after start here digits : List Char} {v : Value}
  {key s : Text} {code : CodePoint} {fuel n : Nat} {negative : Bool}

/-! ## Values -/

mutual

/-- The value at the start of a text, and what follows it. -/
inductive Denotes (dialect : Dialect) : List Char → Value → List Char → Prop
  | text {s : Text} {rest after : List Char} (h : readText dialect rest = .ok (s, after)) :
    Denotes dialect ('"' :: rest) (.text s) after
  | scalar {v : Value} {text after : List Char} (h : readScalar dialect text = .ok (v, after)) :
    Denotes dialect text v after
  | emptyList {rest after : List Char} (h : skipGaps rest = ']' :: after) :
    Denotes dialect ('[' :: rest) (.list []) after
  | list {items : List Value} {rest after : List Char}
    (h : DenotesItems dialect (skipGaps rest) items after) :
    Denotes dialect ('[' :: rest) (.list items) after
  | emptyObject {rest after : List Char} (h : skipGaps rest = '}' :: after) :
    Denotes dialect ('{' :: rest) (.object []) after
  | object {pairs : List (Text × Value)} {rest after : List Char}
    (h : DenotesMembers dialect (skipGaps rest) pairs after) :
    Denotes dialect ('{' :: rest) (.object (Members.ofPairs pairs)) after

/-- The items of a list, at least one, and what follows its closing bracket. -/
inductive DenotesItems (dialect : Dialect) : List Char → List Value → List Char → Prop
  | last {v : Value} {text rest after : List Char} (h : Denotes dialect text v rest)
    (hclose : skipGaps rest = ']' :: after) : DenotesItems dialect text [v] after
  | more {v : Value} {items : List Value} {text rest next after : List Char}
    (h : Denotes dialect text v rest) (hcomma : skipGaps rest = ',' :: next)
    (hitems : DenotesItems dialect (skipGaps next) items after) :
    DenotesItems dialect text (v :: items) after

/-- The members of an object, at least one, and what follows its closing brace. -/
inductive DenotesMembers (dialect : Dialect) : List Char → List (Text × Value) → List Char → Prop
  | last {key : Text} {v : Value} {text colon inner rest after : List Char}
    (hkey : readText dialect text = .ok (key, colon)) (hcolon : skipGaps colon = ':' :: inner)
    (h : Denotes dialect (skipGaps inner) v rest) (hclose : skipGaps rest = '}' :: after) :
    DenotesMembers dialect ('"' :: text) [(key, v)] after
  | more {key : Text} {v : Value} {pairs : List (Text × Value)}
    {text colon inner rest next after : List Char}
    (hkey : readText dialect text = .ok (key, colon)) (hcolon : skipGaps colon = ':' :: inner)
    (h : Denotes dialect (skipGaps inner) v rest) (hcomma : skipGaps rest = ',' :: next)
    (hpairs : DenotesMembers dialect (skipGaps next) pairs after) :
    DenotesMembers dialect ('"' :: text) ((key, v) :: pairs) after

end

/-- A numeral of an integer with too many digits, behind its sign. -/
def LongWhole (dialect : Dialect) (text : List Char) (n : Nat) : Prop :=
  ∃ digits rest, wholeDigits? text = some (digits, rest) ∧ fractionDigits? rest = none ∧
    exponent? rest = none ∧ digits.length = n ∧ dialect.digitLimit < n

/-- A numeral of an integer with too many digits. -/
def LongNumeral (dialect : Dialect) (text : List Char) (n : Nat) : Prop :=
  LongWhole dialect text n ∨ ∃ rest, text = '-' :: rest ∧ LongWhole dialect rest n

mutual

/-- A numeral with too many digits stands in the value at the start of a text, and all before it is
in order. -/
inductive Overruns (dialect : Dialect) : List Char → Nat → Prop
  | numeral {n : Nat} {text : List Char} (h : LongNumeral dialect text n) : Overruns dialect text n
  | list {n : Nat} {rest : List Char} (h : OverrunsItems dialect (skipGaps rest) n) :
    Overruns dialect ('[' :: rest) n
  | object {n : Nat} {rest : List Char} (h : OverrunsMembers dialect (skipGaps rest) n) :
    Overruns dialect ('{' :: rest) n

@[inherit_doc Overruns]
inductive OverrunsItems (dialect : Dialect) : List Char → Nat → Prop
  | here {n : Nat} {text : List Char} (h : Overruns dialect text n) : OverrunsItems dialect text n
  | later {n : Nat} {v : Value} {text rest next : List Char} (h : Denotes dialect text v rest)
    (hcomma : skipGaps rest = ',' :: next) (hitems : OverrunsItems dialect (skipGaps next) n) :
    OverrunsItems dialect text n

@[inherit_doc Overruns]
inductive OverrunsMembers (dialect : Dialect) : List Char → Nat → Prop
  | here {n : Nat} {key : Text} {text colon inner : List Char}
    (hkey : readText dialect text = .ok (key, colon)) (hcolon : skipGaps colon = ':' :: inner)
    (h : Overruns dialect (skipGaps inner) n) : OverrunsMembers dialect ('"' :: text) n
  | later {n : Nat} {key : Text} {v : Value} {text colon inner rest next : List Char}
    (hkey : readText dialect text = .ok (key, colon)) (hcolon : skipGaps colon = ':' :: inner)
    (h : Denotes dialect (skipGaps inner) v rest) (hcomma : skipGaps rest = ',' :: next)
    (hpairs : OverrunsMembers dialect (skipGaps next) n) : OverrunsMembers dialect ('"' :: text) n

end

/-- A text is a document for a value: the value with blanks around it, and no byte order mark. -/
def IsDocument (dialect : Dialect) (text : List Char) (v : Value) : Prop :=
  text.head? ≠ some '\uFEFF' ∧ ∃ rest, Denotes dialect (skipGaps text) v rest ∧ skipGaps rest = []

/-- An integer with too many digits stands in a text, and all before it is that of a document. -/
def HoldsLong (dialect : Dialect) (text : List Char) (n : Nat) : Prop :=
  text.head? ≠ some '\uFEFF' ∧ Overruns dialect (skipGaps text) n

section Results
variable {ε α β : Type} {r : Except ε α} {f : α → Except ε β} {b : β} {e : ε}

theorem bind_eq_ok_iff : (r >>= f) = .ok b ↔ ∃ a, r = .ok a ∧ f a = .ok b := by
  cases r <;> simp [bind, Except.bind]

theorem bind_eq_error_iff :
    (r >>= f) = .error e ↔ r = .error e ∨ ∃ a, r = .ok a ∧ f a = .error e := by
  cases r <;> simp [bind, Except.bind]

end Results

/-! ## Blanks and texts -/

theorem length_skipGaps_le (text : List Char) : (skipGaps text).length ≤ text.length :=
  (List.dropWhile_suffix _).length_le

theorem length_lt_of_skipGaps {c : Char} (h : skipGaps text = c :: rest) :
    rest.length < text.length := by
  have := length_skipGaps_le text
  rw [h] at this
  exact this

theorem length_skipGaps_lt {c : Char} (h : skipGaps text = c :: rest) :
    (skipGaps rest).length < text.length :=
  Nat.lt_of_le_of_lt (length_skipGaps_le rest) (length_lt_of_skipGaps h)

/-- A part of a text is passed, or the text is malformed. -/
def Passes {α : Type} (text : List Char) : Except Stop (α × List Char) → Prop
  | .ok (_, after) => after.length < text.length
  | .error (.malformed ..) => True
  | .error (.longInteger _) => False

section Passes
variable {α β : Type} {r : Except Stop (α × List Char)}
  {f : α × List Char → Except Stop (β × List Char)} {a : α}

theorem passes_stop {complaint : Complaint} :
    Passes text (stop complaint rest : Except Stop (α × List Char)) := trivial

theorem passes_ok : Passes text (.ok (a, after)) ↔ after.length < text.length := Iff.rfl

theorem Passes.mono (h : Passes rest r) (hless : rest.length < text.length) : Passes text r := by
  match r, h with
  | .ok (_, _), h => exact Nat.lt_trans h hless
  | .error (.malformed ..), _ => trivial

theorem Passes.bind (hr : Passes text r)
    (hf : ∀ a rest, rest.length < text.length → Passes text (f (a, rest))) :
    Passes text (r >>= f) := by
  match r, hr with
  | .ok (a, rest), hr => exact hf a rest hr
  | .error (.malformed ..), _ => trivial

theorem Passes.ne_long (h : Passes text r) : r ≠ .error (.longInteger n) := by
  rintro rfl
  exact h

end Passes

theorem lowHalf_cases (text : List Char) : lowHalf text = .ok none ∨
    (∃ low after, lowHalf text = .ok (some (low, after)) ∧ after.length < text.length) ∨
      ∃ complaint left, lowHalf text = .error (.malformed complaint left) := by
  unfold lowHalf
  split
  · split
    · exact .inr (.inr ⟨_, _, rfl⟩)
    · split
      · exact .inr (.inl ⟨_, _, rfl, by simp⟩)
      · exact .inl rfl
  · exact .inl rfl

theorem passes_readEscape : Passes text (readEscape dialect start here text) := by
  unfold readEscape
  split
  · exact passes_stop
  · split
    · next a b c d e rest =>
      split
      · exact passes_stop
      · split
        · obtain h | ⟨low, after, h, hless⟩ | ⟨complaint, left, h⟩ := lowHalf_cases (e :: rest)
          · rw [h]
            simp [Passes]
          · rw [h]
            simp only [Passes, List.length_cons] at hless ⊢
            omega
          · rw [h]
            trivial
        · simp [Passes]
    · exact passes_stop
  · split
    · exact passes_stop
    · exact Nat.lt_succ_self _

theorem passes_readCodes : Passes text (readCodes dialect start fuel text) := by
  induction fuel, text using readCodes.induct with
  | case1 => exact passes_stop
  | case2 => exact passes_stop
  | case3 => exact Nat.lt_succ_self _
  | case4 fuel rest ih =>
    rw [readCodes]
    refine (passes_readEscape.mono (Nat.lt_succ_self _)).bind fun code rest' hless => ?_
    exact ((ih rest').mono hless).bind fun codes rest'' hless => hless
  | case5 fuel c rest hquote hback hlow =>
    rw [readCodes, if_pos hlow]
    · exact passes_stop
    · exact hquote
    · exact hback
  | case6 fuel c rest hquote hback hlow ih =>
    rw [readCodes, if_neg hlow]
    · exact (ih.mono (Nat.lt_succ_self _)).bind fun codes rest' hless => hless
    · exact hquote
    · exact hback

theorem passes_readText : Passes text (readText dialect text) := passes_readCodes

theorem length_lt_of_key (hkey : readText dialect text = .ok (key, rest))
    (hcolon : skipGaps rest = ':' :: next) : (skipGaps next).length < text.length :=
  Nat.lt_trans (length_skipGaps_lt hcolon) (passes_ok.1 (hkey ▸ passes_readText))

/-! ## Scalars -/

theorem length_takeDigits_le (text : List Char) : (takeDigits text).2.length ≤ text.length :=
  (List.dropWhile_suffix _).length_le

theorem length_takeDigits_lt {c : Char} (hc : c.isDigit = true) :
    (takeDigits (c :: text)).2.length < (c :: text).length := by
  rw [takeDigits, List.dropWhile_cons_of_pos hc]
  exact Nat.lt_succ_of_le (List.dropWhile_suffix _).length_le

theorem length_lt_of_wholeDigits?
    (h : wholeDigits? text = some (digits, rest)) : rest.length < text.length := by
  unfold wholeDigits? at h
  split at h
  · cases h
    exact Nat.lt_succ_self _
  · split at h
    · next hc =>
      cases h
      exact length_takeDigits_lt hc
    · cases h
  · cases h

theorem length_le_of_fractionDigits?
    (h : fractionDigits? text = some (digits, rest)) : rest.length ≤ text.length := by
  unfold fractionDigits? at h
  split at h
  · split at h
    · next hc =>
      cases h
      exact Nat.le_succ_of_le (Nat.le_of_lt (length_takeDigits_lt hc))
    · cases h
  · cases h

theorem length_le_of_exponent? {e : Int} {signed : Bool}
    (h : exponent? text = some (e, signed, rest)) : rest.length ≤ text.length := by
  unfold exponent? at h
  split at h
  · next c text =>
    split at h
    · dsimp only at h
      split at h
      · cases h
      · next digits rest' hnonempty hdigits =>
        cases h
        have hless := congrArg (·.2.length) hdigits
        dsimp only at hless
        rw [← hless]
        refine Nat.le_trans (length_takeDigits_le _) ?_
        rw [List.length_cons]
        split
        · rw [List.length_tail]
          omega
        · exact Nat.le_succ _
    · cases h
  · cases h

theorem longWhole_iff (hwhole : wholeDigits? text = some (digits, rest)) :
    LongWhole dialect text n ↔ fractionDigits? rest = none ∧ exponent? rest = none ∧
      digits.length = n ∧ dialect.digitLimit < n := by
  simp only [LongWhole, hwhole, Option.some.injEq, Prod.mk.injEq]
  constructor
  · rintro ⟨_, _, ⟨rfl, rfl⟩, h⟩
    exact h
  · exact fun h => ⟨_, _, ⟨rfl, rfl⟩, h⟩

/-- What is read of a number is a value, unless it is a whole one with too many digits. -/
theorem readNumber?_cases (dialect : Dialect) (negative : Bool)
    (hwhole : wholeDigits? text = some (digits, rest)) :
    (∃ v after, readNumber? dialect negative text = some (.ok (v, after)) ∧
      after.length < text.length ∧ ∀ n, ¬ LongWhole dialect text n) ∨
    readNumber? dialect negative text = some (.error (.longInteger digits.length)) ∧
      ∀ n, LongWhole dialect text n ↔ digits.length = n := by
  have hless := length_lt_of_wholeDigits? hwhole
  simp only [readNumber?, longWhole_iff hwhole, hwhole]
  cases hfraction : fractionDigits? rest with
  | some found =>
    obtain ⟨fraction, rest'⟩ := found
    have hless' := length_le_of_fractionDigits? hfraction
    refine .inl ?_
    cases hexponent : exponent? rest' with
    | some found =>
      have hless'' := length_le_of_exponent? hexponent
      dsimp only
      split <;> exact ⟨_, _, rfl, by omega, by simp⟩
    | none => exact ⟨_, _, rfl, Nat.lt_of_le_of_lt hless' hless, by simp⟩
  | none =>
    cases hexponent : exponent? rest with
    | some found =>
      have hless' := length_le_of_exponent? hexponent
      refine .inl ?_
      dsimp only
      split <;> exact ⟨_, _, rfl, by omega, by simp⟩
    | none =>
      dsimp only
      rw [if_neg Bool.false_ne_true]
      split
      · next hlong => exact .inr ⟨rfl, fun n => by simp; rintro rfl; exact hlong⟩
      · next hshort => exact .inl ⟨_, _, rfl, hless, by simp; omega⟩

theorem readNumber?_eq_long_iff :
    readNumber? dialect negative text = some (.error (.longInteger n)) ↔
      LongWhole dialect text n := by
  cases hwhole : wholeDigits? text with
  | none => simp [readNumber?, LongWhole, hwhole]
  | some found =>
    obtain ⟨v, after, hread, -, hshort⟩ | ⟨hread, hlong⟩ := readNumber?_cases dialect negative hwhole
    · simp [hread, hshort]
    · simp [hread, hlong]

theorem length_lt_of_readNumber? (h : readNumber? dialect negative text = some (.ok (v, after))) :
    after.length < text.length := by
  cases hwhole : wholeDigits? text with
  | none => simp [readNumber?, hwhole] at h
  | some found =>
    obtain ⟨v, after, hread, hless, -⟩ | ⟨hread, -⟩ := readNumber?_cases dialect negative hwhole
    · rw [hread] at h
      cases h
      exact hless
    · rw [hread] at h
      cases h

/-- No word starts with one of the marks that open or close a part of a document. -/
theorem readScalar_of_mark {c : Char} (hc : c ∈ ['"', '[', '{', ']']) :
    readScalar dialect (c :: rest) = stop .expectedValue (c :: rest) := by
  simp only [List.mem_cons, List.not_mem_nil, or_false] at hc
  obtain rfl | rfl | rfl | rfl := hc <;> rfl

theorem longNumeral_minus_iff : LongNumeral dialect ('-' :: rest) n ↔ LongWhole dialect rest n := by
  simp [LongNumeral, LongWhole, wholeDigits?, Char.isDigit]

theorem longNumeral_iff (h : ∀ rest, text ≠ '-' :: rest) :
    LongNumeral dialect text n ↔ LongWhole dialect text n := by
  simp [LongNumeral, h]

/-- The words are not empty, and none starts like a numeral. -/
theorem mem_words {word : String} (h : (word, v) ∈ dialect.words) (rest : List Char) :
    word.toList ≠ [] ∧ ∀ n, ¬ LongNumeral dialect (word.toList ++ rest) n := by
  have hwords : dialect.words.map Prod.fst =
    ["null", "true", "false", "NaN", "Infinity", "-Infinity"] := rfl
  have hmem : word ∈ dialect.words.map Prod.fst := List.mem_map_of_mem h
  rw [hwords] at hmem
  simp only [List.mem_cons, List.not_mem_nil, or_false] at hmem
  obtain rfl | rfl | rfl | rfl | rfl | rfl := hmem <;>
    simp [LongNumeral, LongWhole, wholeDigits?, Char.isDigit]

theorem length_lt_of_readScalar (h : readScalar dialect text = .ok (v, after)) :
    after.length < text.length := by
  unfold readScalar at h
  dsimp only at h
  split at h
  · next found hword =>
    cases h
    obtain ⟨⟨word, x⟩, hmem, hafter⟩ := List.exists_of_findSome?_eq_some hword
    obtain ⟨rest, hrest, hsame⟩ := Option.map_eq_some_iff.1 hafter
    cases hsame
    rw [Text.after?_eq_some_iff.1 hrest, List.length_append]
    exact Nat.lt_add_of_pos_left (List.length_pos_iff.2 (mem_words hmem []).1)
  · split at h
    · next hnumber =>
      subst h
      split at hnumber
      · exact Nat.lt_succ_of_lt (length_lt_of_readNumber? hnumber)
      · exact length_lt_of_readNumber? hnumber
    · cases h

theorem readScalar_eq_long_iff :
    readScalar dialect text = .error (.longInteger n) ↔ LongNumeral dialect text n := by
  unfold readScalar
  dsimp only
  split
  · next found hword =>
    obtain ⟨⟨word, x⟩, hmem, hafter⟩ := List.exists_of_findSome?_eq_some hword
    obtain ⟨rest, hrest, -⟩ := Option.map_eq_some_iff.1 hafter
    rw [Text.after?_eq_some_iff.1 hrest]
    simpa using (mem_words hmem rest).2 n
  · split
    · next hnumber =>
      split at hnumber
      · rw [longNumeral_minus_iff, ← readNumber?_eq_long_iff, hnumber, Option.some_inj]
      · next hminus =>
        rw [longNumeral_iff hminus, ← readNumber?_eq_long_iff, hnumber, Option.some_inj]
    · next hnumber =>
      split at hnumber
      · rw [longNumeral_minus_iff, ← readNumber?_eq_long_iff, hnumber]
        simp [stop]
      · next hminus =>
        rw [longNumeral_iff hminus, ← readNumber?_eq_long_iff, hnumber]
        simp [stop]

end MockApi.Json
