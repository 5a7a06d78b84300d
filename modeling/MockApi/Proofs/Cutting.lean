import Mathlib.Data.List.TakeWhile
import MockApi.Proofs.Lookup
import MockApi.Sample.Blank

/-!
# Where blanks stand

A text is cut into blanks from left to right. At a position there is at most one blank, and one that is
taken is not looked into.

* `Blank.IsName`, `Blank.Written` : what a blank looks like;
* `blankAt?_eq_some_iff` : the blank at the start of a text;
* `Blank.Cuts text ps` : a text cut at its blanks, each taken where the leftmost one starts that does not
  reach into the one before;
* `cuts_iff` : this is how `pieces` cuts a text.
-/

namespace MockApi.Blank

/-- A name: a letter or an underscore, and then letters, digits, underscores and points. -/
def IsName (name : Text) : Prop :=
  ∃ c rest, name = c :: rest ∧ isNameStart c = true ∧ ∀ d ∈ rest, isNameChar d = true

/-- A blank as it is written: a name in double braces, with blank characters around it if any. -/
def Written (source name : Text) : Prop :=
  IsName name ∧ ∃ left right : Text, (∀ c ∈ left, Text.isBlank c = true) ∧
    (∀ c ∈ right, Text.isBlank c = true) ∧
    source = "\x7b\x7b" ++ left ++ name ++ right ++ "\x7d\x7d"

/-- A text cut at its blanks from left to right. Where one starts it is taken as a whole; elsewhere one
code point is passed. -/
inductive Cuts : Text → List Piece → Prop
  | done : Cuts [] []
  | pass {c : CodePoint} {rest : Text} {ps : List Piece}
      (hnone : ∀ source name, Written source name → ¬ source <+: c :: rest) (hrest : Cuts rest ps) :
      Cuts (c :: rest) (.literal c :: ps)
  | take {source name rest : Text} {ps : List Piece} (hblank : Written source name)
      (hrest : Cuts rest ps) : Cuts (source ++ rest) (.blank source name :: ps)

variable {text source name rest : Text} {ps : List Piece}

/-! ## Characters -/

/-- Of the characters of names, each is in ASCII. -/
theorem lt_of_isNameChar {c : CodePoint} (h : isNameChar c = true) : c.toNat < 0x80 := by
  obtain ⟨d, hd, hname⟩ := (Option.any_eq_true _ _).1 h
  obtain rfl := CodePoint.eq_ofChar_of_char? hd
  rw [Bool.or_eq_true, Bool.or_eq_true, decide_eq_true_eq, decide_eq_true_eq] at hname
  obtain (halphanum | rfl) | rfl := hname
  · exact Placeholder.toNat_lt_of_isAlphanum halphanum
  · decide
  · decide

theorem not_isBlank_of_isNameChar {c : CodePoint} (h : isNameChar c = true) :
    Text.isBlank c = false := by
  have hall : ∀ n : Fin 0x80, isNameChar ⟨n.1, Nat.lt_trans n.2 (by decide)⟩ = true →
      Text.isBlank ⟨n.1, Nat.lt_trans n.2 (by decide)⟩ = false := by decide +kernel
  exact hall ⟨c.toNat, lt_of_isNameChar h⟩ h

theorem isNameChar_of_isNameStart {c : CodePoint} (h : isNameStart c = true) :
    isNameChar c = true := by
  obtain ⟨d, hd, hstart⟩ := (Option.any_eq_true _ _).1 h
  refine (Option.any_eq_true _ _).2 ⟨d, hd, ?_⟩
  simp only [Bool.or_eq_true, decide_eq_true_eq, Char.isAlphanum] at hstart ⊢
  obtain hletter | hunderscore := hstart
  · exact .inl (.inl (.inl hletter))
  · exact .inl (.inr hunderscore)

theorem IsName.isNameChar (h : IsName name) : ∀ c ∈ name, isNameChar c = true := by
  obtain ⟨c, rest, rfl, hstart, hrest⟩ := h
  exact List.forall_mem_cons.2 ⟨isNameChar_of_isNameStart hstart, hrest⟩

/-! ## The blank at the start of a text -/

theorem dropWhile_append_of_stop {p : CodePoint → Bool} {before : Text}
    (hbefore : ∀ c ∈ before, p c = true) {c : CodePoint} (hc : p c = false) (rest : Text) :
    (before ++ c :: rest).dropWhile p = c :: rest := by
  rw [List.dropWhile_append_of_pos hbefore, List.dropWhile_cons_of_neg (by simp [hc])]

theorem takeWhile_append_of_stop {p : CodePoint → Bool} {before : Text}
    (hbefore : ∀ c ∈ before, p c = true) {c : CodePoint} (hc : p c = false) (rest : Text) :
    (before ++ c :: rest).takeWhile p = before := by
  rw [List.takeWhile_append_of_pos hbefore, List.takeWhile_cons_of_neg (by simp [hc]),
    List.append_nil]

theorem exists_append_dropWhile (p : CodePoint → Bool) (text : Text) :
    ∃ before, text = before ++ text.dropWhile p ∧ ∀ c ∈ before, p c = true :=
  ⟨text.takeWhile p, List.takeWhile_append_dropWhile.symm, List.all_eq_true.1 List.all_takeWhile⟩

theorem isName_of_takeWhile {inside : Text} (hname : inside.takeWhile isNameChar = name)
    (hstart : name.head?.any isNameStart = true) : IsName name := by
  have hchars : ∀ c ∈ name, isNameChar c = true :=
    hname ▸ List.all_eq_true.1 List.all_takeWhile
  cases name with
  | nil => cases hstart
  | cons c rest => exact ⟨c, rest, rfl, hstart, fun d hd => hchars d (List.mem_cons_of_mem c hd)⟩

theorem take_length_sub (before behind : Text) :
    (before ++ behind).take ((before ++ behind).length - behind.length) = before := by
  simp

theorem written_of_blankAt? (h : blankAt? text = some (name, source)) :
    Written source name ∧ source <+: text := by
  obtain ⟨opened, hopen, h⟩ := Option.bind_eq_some_iff.1 h
  obtain ⟨behind, hclose, h⟩ := Option.bind_eq_some_iff.1 h
  obtain ⟨left, hopened, hleft⟩ := exists_append_dropWhile Text.isBlank opened
  obtain ⟨right, hinside, hright⟩ := exists_append_dropWhile Text.isBlank
    ((opened.dropWhile Text.isBlank).dropWhile isNameChar)
  have hnamed := (List.takeWhile_append_dropWhile (p := isNameChar)
    (l := opened.dropWhile Text.isBlank)).symm
  split at h
  · next hstart =>
    obtain ⟨hname, hsource⟩ := Prod.mk.inj (Option.some.inj h)
    rw [hname] at hstart hnamed
    have htext : text = ("\x7b\x7b" ++ left ++ name ++ right ++ "\x7d\x7d") ++ behind := by
      rw [Text.after?_eq_some_iff.1 hopen, hopened, hnamed, hinside,
        Text.after?_eq_some_iff.1 hclose]
      simp
    have hshape : source = "\x7b\x7b" ++ left ++ name ++ right ++ "\x7d\x7d" := by
      rw [← hsource, htext, take_length_sub]
    exact ⟨⟨isName_of_takeWhile hname hstart, left, right, hleft, hright, hshape⟩, behind,
      hshape ▸ htext.symm⟩
  · cases h

theorem blankAt?_of_written (h : Written source name) (rest : Text) :
    blankAt? (source ++ rest) = some (name, source) := by
  obtain ⟨hname, left, right, hleft, hright, hsource⟩ := h
  have hchars := hname.isNameChar
  obtain ⟨c, more, rfl, hstart, -⟩ := hname
  have hc : Text.isBlank c = false :=
    not_isBlank_of_isNameChar (isNameChar_of_isNameStart hstart)
  have hopen : Text.after? "\x7b\x7b" (source ++ rest) =
      some (left ++ (c :: more ++ (right ++ (Text.ofString "\x7d\x7d" ++ rest)))) :=
    Text.after?_eq_some_iff.2 (by simp [hsource])
  have hinside (tail : Text) : (left ++ (c :: more ++ tail)).dropWhile Text.isBlank =
      c :: more ++ tail := dropWhile_append_of_stop hleft hc (more ++ tail)
  have hstop : ∃ d tail, right ++ (Text.ofString "\x7d\x7d" ++ rest) = d :: tail ∧
      isNameChar d = false := by
    cases right with
    | nil => exact ⟨.ofChar '}', _, rfl, by decide⟩
    | cons d right =>
      refine ⟨d, _, rfl, Bool.eq_false_iff.2 fun hd => ?_⟩
      exact absurd (hright d List.mem_cons_self) (by simp [not_isBlank_of_isNameChar hd])
  obtain ⟨d, tail, htail, hd⟩ := hstop
  have htake := takeWhile_append_of_stop hchars hd tail
  have hdrop := dropWhile_append_of_stop hchars hd tail
  rw [← htail] at htake hdrop
  have hclose : (right ++ (Text.ofString "\x7d\x7d" ++ rest)).dropWhile Text.isBlank =
      Text.ofString "\x7d\x7d" ++ rest :=
    dropWhile_append_of_stop hright (by decide : Text.isBlank (.ofChar '}') = false) _
  simp only [blankAt?, hopen, Option.bind_eq_bind, Option.bind_some, hinside, htake, hdrop, hclose,
    Text.after?_append, take_length_sub]
  exact if_pos hstart

/-- The blank at the start of a text, if there is one. -/
theorem blankAt?_eq_some_iff :
    blankAt? text = some (name, source) ↔ Written source name ∧ source <+: text := by
  constructor
  · exact written_of_blankAt?
  · rintro ⟨hwritten, rest, rfl⟩
    exact blankAt?_of_written hwritten rest

/-! ## A text is cut -/

theorem scan_eq_drop (skip : Nat) (text : Text) : scan skip text = pieces (text.drop skip) := by
  induction text generalizing skip with
  | nil => cases skip <;> rfl
  | cons c text ih =>
    cases skip with
    | zero => rfl
    | succ skip => exact ih skip

theorem pieces_append (h : Written source name) (rest : Text) :
    pieces (source ++ rest) = .blank source name :: pieces rest := by
  have hblank := blankAt?_of_written h rest
  obtain ⟨-, left, right, -, -, rfl⟩ := h
  obtain ⟨c, tail, htail⟩ : ∃ c tail, ("\x7b\x7b" ++ left ++ name ++ right ++ "\x7d\x7d" : Text) =
    c :: tail := ⟨_, _, rfl⟩
  rw [htail] at hblank ⊢
  rw [List.cons_append] at hblank ⊢
  rw [pieces, scan, hblank]
  simp only [scan_eq_drop, List.length_cons, Nat.add_sub_cancel, List.drop_left]

theorem pieces_cons {c : CodePoint}
    (h : ∀ source name, Written source name → ¬ source <+: c :: rest) :
    pieces (c :: rest) = .literal c :: pieces rest := by
  have hnone : blankAt? (c :: rest) = none := by
    rw [Option.eq_none_iff_forall_not_mem]
    rintro ⟨name, source⟩ hsome
    obtain ⟨hwritten, hbegins⟩ := written_of_blankAt? hsome
    exact h source name hwritten hbegins
  rw [pieces, scan, hnone]
  rfl

theorem Cuts.eq_pieces (h : Cuts text ps) : ps = pieces text := by
  induction h with
  | done => rfl
  | pass hnone hrest ih => rw [pieces_cons hnone, ih]
  | take hblank hrest ih => rw [pieces_append hblank, ih]

theorem Written.ne_nil (h : Written source name) : source ≠ [] := by
  obtain ⟨-, left, right, -, -, rfl⟩ := h
  nofun

theorem cuts_pieces : ∀ text : Text, Cuts text (pieces text)
  | [] => .done
  | c :: rest => by
    by_cases hblank : ∃ source name, Written source name ∧ source <+: c :: rest
    · obtain ⟨source, name, hwritten, behind, hbehind⟩ := hblank
      have hlength : behind.length < (c :: rest).length := by
        rw [← hbehind, List.length_append]
        have := List.length_pos_iff.2 hwritten.ne_nil
        omega
      rw [← hbehind, pieces_append hwritten]
      exact .take hwritten (cuts_pieces behind)
    · have hnone : ∀ source name, Written source name → ¬ source <+: c :: rest :=
        fun source name hwritten hbegins => hblank ⟨source, name, hwritten, hbegins⟩
      rw [pieces_cons hnone]
      exact .pass hnone (cuts_pieces rest)
termination_by text => text.length
decreasing_by
  · exact hlength
  · exact Nat.lt_succ_self rest.length

/-- **A text is cut at its blanks from left to right**, in one way only. -/
theorem cuts_iff : Cuts text ps ↔ ps = pieces text :=
  ⟨Cuts.eq_pieces, fun h => h ▸ cuts_pieces text⟩

/-! ## Texts without a blank -/

theorem pieces_of_no_blank (h : ∀ source name, Written source name → ¬ source <:+: text) :
    pieces text = text.map .literal := by
  induction text with
  | nil => rfl
  | cons c rest ih =>
    have hfirst (source name : Text) (hwritten : Written source name) : ¬ source <+: c :: rest :=
      fun hbegins => h source name hwritten hbegins.isInfix
    have hrest (source name : Text) (hwritten : Written source name) : ¬ source <:+: rest :=
      fun hoccurs => h source name hwritten (List.infix_cons_iff.2 (.inr hoccurs))
    rw [pieces_cons hfirst, ih hrest, List.map_cons]

/-- Where no two braces open, no blank stands. -/
theorem not_infix_of_no_braces (h : ¬ ("\x7b\x7b" : Text) <:+: text) (hblank : Written source name) :
    ¬ source <:+: text := by
  obtain ⟨-, left, right, -, -, rfl⟩ := hblank
  intro hoccurs
  refine h (List.IsInfix.trans ?_ hoccurs)
  exact ⟨[], left ++ name ++ right ++ "\x7d\x7d", by simp⟩

end MockApi.Blank
