import MockApi.Proofs.Integer
import MockApi.Proofs.Wholeness
import MockApi.Template.Placeholder

/-!
# Placeholders are looked up

* `Path.exists_follow` : a path whose segments can be read is followed in every value;
* `Path.Overruns segments v`, `Path.exists_follow_error_iff` : the paths that cannot be followed;
* `Path.parse?_text` : a path is read back from its text;
* `Placeholder.names_source` : a placeholder is found in its own text;
* `Placeholder.Modest` : a text no placeholder of which has a numeral with too many digits;
* `Placeholder.exists_indexOf?_of_mem_fields` : the segments of its placeholders can be read, in
  lower case as well;
* `Path.Readable path context`, `Placeholder.exists_valueText?_iff` : the paths whose value can stand
  inside text;
* `Placeholder.exists_interpret` : a modest text is filled from every context whose integers can be
  written, and it stays whole if the text and the context are.
-/

namespace MockApi

/-! ## Following a path -/

namespace Path

open Text (isAllDigits isAsciiDigit)

theorem exists_child {segment : Text} (h : ∃ i?, indexOf? segment = .ok i?) (v : Value) :
    ∃ found, child segment v = .ok found := by
  obtain ⟨i?, hi⟩ := h
  cases v with
  | list items =>
    simp only [child, hi]
    cases i? <;> exact ⟨_, rfl⟩
  | _ => exact ⟨_, rfl⟩

theorem exists_mapM {α β ε : Type} {f : α → Except ε β} (hf : ∀ a, ∃ found, f a = .ok found)
    (items : List α) : ∃ found, items.mapM f = .ok found := by
  induction items with
  | nil => exact ⟨[], rfl⟩
  | cons a items ih =>
    obtain ⟨w, hw⟩ := hf a
    obtain ⟨ws, hws⟩ := ih
    exact ⟨w :: ws, by rw [List.mapM_cons, hw, hws]; rfl⟩

/-- A path whose segments can be read is followed in every value. -/
theorem exists_follow {segments : List Text} (h : ∀ s ∈ segments, ∃ i?, indexOf? s = .ok i?)
    (keepBlank : Bool) (v : Value) : ∃ found, follow keepBlank segments v = .ok found := by
  induction segments generalizing v with
  | nil => exact ⟨v, rfl⟩
  | cons segment rest ih =>
    have hrest := ih fun s hs => h s (List.mem_cons_of_mem _ hs)
    by_cases hwild : ∀ items, v = .list items → segment ≠ wildcard
    · obtain ⟨found, hfound⟩ := exists_child (h segment List.mem_cons_self) v
      rw [follow_child hwild, hfound]
      simp only [Except.bind]
      split_ifs
      · exact ⟨.null, rfl⟩
      · exact hrest found
      · exact ⟨found, rfl⟩
    · push Not at hwild
      obtain ⟨items, rfl, rfl⟩ := hwild
      obtain ⟨found, hfound⟩ := exists_mapM hrest items
      rw [follow_wildcard, hfound]
      exact ⟨_, rfl⟩

/-- On the way that the segments lead there is a list where an index of too many digits is due. -/
inductive Overruns : List Text → Value → Prop
  | here {segment : Text} {rest : List Text} {items : List Value} : isAllDigits segment = true →
    maxIntegerDigits < segment.length → Overruns (segment :: rest) (.list items)
  | deeper {segment : Text} {rest : List Text} {v found : Value} :
    (∀ items, v = .list items → segment ≠ wildcard) → child segment v = .ok found →
    found.isContainer = true → Overruns rest found → Overruns (segment :: rest) v
  | each {rest : List Text} {items : List Value} {v : Value} : v ∈ items → Overruns rest v →
    Overruns (wildcard :: rest) (.list items)

section Overruns
variable {segment : Text} {v found : Value}

theorem exists_mapM_error_iff {f : Value → Except IntegerFault Value} {items : List Value} :
    (∃ fault, items.mapM f = .error fault) ↔ ∃ v ∈ items, ∃ fault, f v = .error fault := by
  induction items with
  | nil => simp [pure, Except.pure]
  | cons v items ih =>
    rw [List.mapM_cons, List.exists_mem_cons_iff, ← ih]
    cases hv : f v with
    | error fault => simp [bind, Except.bind]
    | ok w => cases items.mapM f <;> simp [bind, Except.bind, pure, Except.pure]

theorem exists_child_error_iff
    (h : isAllDigits segment = true → ∀ c ∈ segment, isAsciiDigit c = true) :
    (∃ fault, child segment v = .error fault) ↔
      (∃ items, v = .list items) ∧ isAllDigits segment = true ∧ maxIntegerDigits < segment.length := by
  cases v with
  | list items =>
    rw [and_iff_right ⟨items, rfl⟩, child]
    by_cases hdigits : isAllDigits segment = true
    · have hne : segment ≠ [] := by
        rintro rfl
        cases hdigits
      rw [and_iff_right hdigits]
      by_cases hlong : maxIntegerDigits < segment.length
      · rw [indexOf?_of_long (h hdigits) hlong]
        exact iff_of_true ⟨_, rfl⟩ hlong
      · rw [indexOf?_of_isAsciiDigit (h hdigits) hne (Nat.le_of_not_lt hlong)]
        simpa [bind, Except.bind, pure, Except.pure] using hlong
    · rw [indexOf?, if_neg hdigits]
      simp [bind, Except.bind, pure, Except.pure, hdigits]
  | _ => simp [child]

/-- Only what has parts is followed any further. -/
theorem exists_descent_error_iff {keepBlank : Bool} {rest : List Text} :
    (∃ fault, (if found.isNull || (!keepBlank && found.isBlank) then .ok .null
      else if found.isContainer then follow keepBlank rest found else .ok found) = .error fault) ↔
      found.isContainer = true ∧ ∃ fault, follow keepBlank rest found = .error fault := by
  cases hfound : found.isContainer with
  | true =>
    have hnull : found.isNull = false := by cases found <;> first | rfl | cases hfound
    simp [hnull, Value.isBlank_of_isContainer hfound]
  | false =>
    rw [if_neg Bool.false_ne_true]
    refine iff_of_false (fun hfault => ?_) fun hfault => Bool.false_ne_true hfault.1
    obtain ⟨fault, hfault⟩ := hfault
    split_ifs at hfault

/-- **A path is followed unless it overruns.** -/
theorem exists_follow_error_iff {segments : List Text}
    (h : ∀ s ∈ segments, isAllDigits s = true → ∀ c ∈ s, isAsciiDigit c = true)
    (keepBlank : Bool) (v : Value) :
    (∃ fault, follow keepBlank segments v = .error fault) ↔ Overruns segments v := by
  induction segments generalizing v with
  | nil => exact iff_of_false nofun nofun
  | cons segment rest ih =>
    rw [List.forall_mem_cons] at h
    have hrest := ih h.2
    by_cases hnext : ∀ items, v = .list items → segment ≠ wildcard
    · rw [follow_child hnext]
      cases hchild : child segment v with
      | error fault =>
        obtain ⟨⟨items, rfl⟩, hdigits, hlong⟩ := (exists_child_error_iff h.1).1 ⟨fault, hchild⟩
        exact iff_of_true ⟨fault, rfl⟩ (.here hdigits hlong)
      | ok found =>
        refine exists_descent_error_iff.trans ?_
        rw [hrest]
        constructor
        · rintro ⟨hfound, hover⟩
          exact .deeper hnext hchild hfound hover
        · intro hover
          cases hover with
          | here hdigits hlong =>
            obtain ⟨fault, hfault⟩ := (exists_child_error_iff h.1).2 ⟨⟨_, rfl⟩, hdigits, hlong⟩
            rw [hchild] at hfault
            cases hfault
          | deeper _ hfound hcontainer hover =>
            rw [hchild] at hfound
            cases hfound
            exact ⟨hcontainer, hover⟩
          | each _ _ => exact absurd rfl (hnext _ rfl)
    · push Not at hnext
      obtain ⟨items, rfl, rfl⟩ := hnext
      have hmapM : (∃ fault, follow keepBlank (wildcard :: rest) (.list items) = .error fault) ↔
          ∃ v ∈ items, Overruns rest v := by
        simp only [← hrest, ← exists_mapM_error_iff, follow_wildcard]
        cases items.mapM (follow keepBlank rest) <;> simp [Except.map]
      rw [hmapM]
      constructor
      · rintro ⟨v, hv, hover⟩
        exact .each hv hover
      · intro hover
        cases hover with
        | here hdigits _ => exact absurd hdigits (by decide)
        | deeper hwild _ _ _ => exact absurd rfl (hwild _ rfl)
        | each hv hover => exact ⟨_, hv, hover⟩

end Overruns

/-- The path does not overrun, and what it leads to holds no integer with too many digits. -/
structure Readable (path : Path) (context : Value) : Prop where
  inRange : ¬ Overruns path.segments context
  writable : ∀ found, path.get false context = .ok found → found.isWritable = true

end Path

/-! ## Segments in lower case -/

namespace Text

theorem fields_append {separator : CodePoint} {piece : Text} (h : separator ∉ piece) (text : Text) :
    fields separator (piece ++ text) = (fields separator text).modifyHead (piece ++ ·) := by
  induction piece with
  | nil =>
    rw [List.nil_append]
    cases fields separator text <;> rfl
  | cons c piece ih =>
    obtain ⟨hc, hpiece⟩ : separator ≠ c ∧ separator ∉ piece := by
      simpa using h
    rw [List.cons_append, fields, if_neg hc.symm, ih hpiece]
    cases hfields : fields separator text with
    | nil => exact absurd hfields (fields_ne_nil separator text)
    | cons first rest => rfl

/-- Fields are kept apart by a change of code points that neither makes nor unmakes separators. -/
theorem fields_flatMap {separator : CodePoint} {f : CodePoint → Text}
    (hseparator : f separator = [separator]) {text : Text}
    (hf : ∀ c ∈ text, c ≠ separator → separator ∉ f c) :
    fields separator (text.flatMap f) = (fields separator text).map (List.flatMap f) := by
  induction text with
  | nil => rfl
  | cons c text ih =>
    have hrest := ih fun d hd => hf d (List.mem_cons_of_mem _ hd)
    rw [List.flatMap_cons]
    by_cases hc : c = separator
    · subst hc
      rw [hseparator, List.singleton_append, fields, if_pos rfl, hrest, fields, if_pos rfl]
      rfl
    · rw [fields_append (hf c List.mem_cons_self hc), hrest, fields, if_neg hc]
      cases hfields : fields separator text with
      | nil => exact absurd hfields (fields_ne_nil separator text)
      | cons first rest => rfl

theorem mem_of_mem_fields {separator : CodePoint} {text segment : Text} {c : CodePoint}
    (hsegment : segment ∈ fields separator text) (hc : c ∈ segment) : c ∈ text := by
  induction text generalizing segment with
  | nil =>
    rw [fields, List.mem_singleton] at hsegment
    subst hsegment
    cases hc
  | cons d text ih =>
    rw [fields] at hsegment
    split at hsegment
    · obtain rfl | hsegment := List.mem_cons.1 hsegment
      · cases hc
      · exact List.mem_cons_of_mem _ (ih hsegment hc)
    · split at hsegment
      · rw [List.mem_singleton] at hsegment
        subst hsegment
        exact List.mem_singleton.1 hc ▸ List.mem_cons_self
      · next first rest hfields =>
        obtain rfl | hsegment := List.mem_cons.1 hsegment
        · obtain rfl | hc := List.mem_cons.1 hc
          · exact List.mem_cons_self
          · exact List.mem_cons_of_mem _ (ih (hfields ▸ List.mem_cons_self) hc)
        · exact List.mem_cons_of_mem _ (ih (hfields ▸ List.mem_cons_of_mem _ hsegment) hc)

end Text

namespace Path

open Text (fields)

/-- Segments without points are read back from the dotted text. -/
theorem fields_dotted {segments : List Text} (hne : segments ≠ [])
    (h : ∀ s ∈ segments, CodePoint.ofChar '.' ∉ s) :
    fields (.ofChar '.') (dotted segments) = segments := by
  induction segments with
  | nil => exact absurd rfl hne
  | cons s rest ih =>
    rw [List.forall_mem_cons] at h
    cases rest with
    | nil =>
      have hone : dotted [s] = s ++ [] := by simp [dotted, Text.join]
      rw [hone, Text.fields_append h.1, fields, List.modifyHead_cons, List.append_nil]
    | cons t rest =>
      have hmany : dotted (s :: t :: rest) = s ++ .ofChar '.' :: dotted (t :: rest) :=
        List.intercalate_cons_cons.trans (List.append_assoc _ _ _)
      rw [hmany, Text.fields_append h.1, fields, if_pos rfl, ih (List.cons_ne_nil _ _) h.2,
        List.modifyHead_cons, List.append_nil]

theorem parse?_text {path : Path} (h : ∀ s ∈ path.segments, CodePoint.ofChar '.' ∉ s) :
    parse? path.text = some path := by
  rw [parse?, text, fields_dotted path.ne_nil h, ofSegments?_segments]

end Path

namespace Placeholder

open Text (isDigit isAsciiDigit isAllDigits lower lowerCode fields)

variable {context : Value} {lowered : Bool} {text name segment : Text}

/-- Whether lower case leaves digits and points alone and makes none. -/
def lowersPlainly (c : CodePoint) : Bool :=
  isDigit c == isAsciiDigit c && c != .ofChar 'Σ' &&
    if c = .ofChar '.' ∨ isAsciiDigit c then lowerCode c == [c]
    else !(lowerCode c).isEmpty && (lowerCode c).all fun d => !isDigit d && d != .ofChar '.'

theorem lowersPlainly_of_ascii :
    ∀ n : Fin 0x80, lowersPlainly ⟨n.1, Nat.lt_trans n.2 (by decide)⟩ = true := by
  decide +kernel

theorem toNat_lt_of_isAlphanum {d : Char} (h : d.isAlphanum = true) : d.toNat < 0x80 := by
  obtain halpha | hdigit := Bool.or_eq_true_iff.1 h
  · obtain hupper | hlower : d.isUpper = true ∨ d.isLower = true := Bool.or_eq_true_iff.1 halpha
    · have hZ : d.toNat ≤ 0x5A := (of_decide_eq_true hupper).2
      omega
    · have hz : d.toNat ≤ 0x7A := of_decide_eq_true (Bool.and_eq_true_iff.1 hlower).2
      omega
  · have h9 : d.toNat ≤ 0x39 := of_decide_eq_true (Bool.and_eq_true_iff.1 hdigit).2
    omega

theorem lowersPlainly_of_isNameCode {c : CodePoint} (h : isNameCode c = true) :
    lowersPlainly c = true := by
  unfold isNameCode at h
  cases hchar : c.char? with
  | none =>
    rw [hchar] at h
    cases h
  | some d =>
    rw [hchar, Option.any_some] at h
    obtain rfl := CodePoint.eq_ofChar_of_char? hchar
    by_cases halnum : d.isAlphanum = true
    · exact lowersPlainly_of_ascii ⟨d.toNat, toNat_lt_of_isAlphanum halnum⟩
    · simp only [halnum, Bool.false_or, Bool.or_eq_true, decide_eq_true_eq] at h
      obtain ((((((rfl | rfl) | rfl) | rfl) | rfl) | rfl) | rfl) := h <;> decide +kernel

theorem isAsciiDigit_of_isDigit {c : CodePoint} (h : isNameCode c = true)
    (hdigit : isDigit c = true) : isAsciiDigit c = true := by
  have hplain := lowersPlainly_of_isNameCode h
  simp only [lowersPlainly, Bool.and_eq_true, beq_iff_eq] at hplain
  rw [← hplain.1.1, hdigit]

theorem lowerCode_point : lowerCode (.ofChar '.') = [.ofChar '.'] := by decide

theorem point_not_mem_lowerCode {c : CodePoint} (h : isNameCode c = true) (hc : c ≠ .ofChar '.') :
    CodePoint.ofChar '.' ∉ lowerCode c := by
  have hplain := lowersPlainly_of_isNameCode h
  simp only [lowersPlainly, Bool.and_eq_true, hc, false_or] at hplain
  split_ifs at hplain with hdigit
  · rw [beq_iff_eq.1 hplain.2, List.mem_singleton]
    exact hc.symm
  · intro hmem
    rw [Bool.and_eq_true, List.all_eq_true] at hplain
    have hpoint := hplain.2.2 _ hmem
    exact absurd hpoint (by decide)

/-- What is a digit in lower case was that digit before. -/
theorem lowerCode_of_isDigit {c : CodePoint} (h : isNameCode c = true)
    (hdigits : ∀ d ∈ lowerCode c, isDigit d = true) : lowerCode c = [c] := by
  have hplain := lowersPlainly_of_isNameCode h
  simp only [lowersPlainly, Bool.and_eq_true] at hplain
  split_ifs at hplain with hc
  · exact beq_iff_eq.1 hplain.2
  · obtain ⟨-, hplain⟩ := hplain
    rw [Bool.and_eq_true, List.all_eq_true] at hplain
    cases hcode : lowerCode c with
    | nil =>
      rw [hcode] at hplain
      cases hplain.1
    | cons d ds =>
      have hd : d ∈ lowerCode c := hcode ▸ List.mem_cons_self
      have hnot := hplain.2 d hd
      rw [hdigits d hd] at hnot
      cases hnot

theorem lower_eq_flatMap (hname : ∀ c ∈ name, isNameCode c = true) :
    lower name = name.flatMap lowerCode := by
  have hfrom : ∀ before, Text.lowerFrom before name = name.flatMap lowerCode := by
    induction name with
    | nil => exact fun _ => rfl
    | cons c name ih =>
      intro before
      have hplain := lowersPlainly_of_isNameCode (hname c List.mem_cons_self)
      simp only [lowersPlainly, Bool.and_eq_true, bne_iff_ne, ne_eq] at hplain
      rw [Text.lowerFrom, if_neg hplain.1.2, ih fun c hc => hname c (List.mem_cons_of_mem _ hc)]
      rfl
  exact hfrom []

/-! ## Names -/

theorem isNameCode_of_isAsciiDigit {c : CodePoint} (h : isAsciiDigit c = true) :
    isNameCode c = true := by
  have hall : ∀ n : Fin 0x80, isAsciiDigit ⟨n.1, Nat.lt_trans n.2 (by decide)⟩ = true →
      isNameCode ⟨n.1, Nat.lt_trans n.2 (by decide)⟩ = true := by decide +kernel
  have hrange := range_of_isAsciiDigit h
  exact hall ⟨c.toNat, by omega⟩ h

theorem scan_append {passed : Text} (hname : ∀ c ∈ name, isNameCode c = true) (rest : Text) :
    scan (some passed) (name ++ rest) = scan (some (name.reverse ++ passed)) rest := by
  induction name generalizing passed with
  | nil => rfl
  | cons c name ih =>
    rw [List.cons_append, scan, if_pos (hname c List.mem_cons_self),
      ih fun d hd => hname d (List.mem_cons_of_mem _ hd), List.reverse_cons, List.append_assoc]
    rfl

/-- A placeholder is the only one in its own text. -/
theorem names_source (hne : name ≠ []) (hname : ∀ c ∈ name, isNameCode c = true) :
    names (Piece.hole name).source = [name] := by
  have hbrace : ¬ isNameCode (.ofChar '}') = true := by decide
  have hscan : pieces (Piece.hole name).source = [.hole name] := by
    rw [pieces, Piece.source, List.cons_append, scan, if_pos rfl, scan_append hname, scan,
      if_neg hbrace]
    simp [hne, scan]
  rw [names, hscan]
  rfl

/-! ## Texts without long numerals -/

/-- No placeholder of the text has a segment that is a numeral of too many digits. -/
def Modest (text : Text) : Prop :=
  ∀ name ∈ names text, ∀ segment ∈ fields (.ofChar '.') name,
    isAllDigits segment = true → segment.length ≤ maxIntegerDigits

instance (text : Text) : Decidable (Modest text) :=
  inferInstanceAs (Decidable (∀ name ∈ names text, ∀ segment ∈ fields (.ofChar '.') name,
    isAllDigits segment = true → segment.length ≤ maxIntegerDigits))

theorem isNameCode_of_mem_names (h : name ∈ names text) : ∀ c ∈ name, isNameCode c = true := by
  obtain ⟨piece, hpiece, hname⟩ := List.mem_filterMap.1 h
  cases piece with
  | literal literal => cases hname
  | hole name' =>
    cases hname
    exact (isNameCode_of_hole_mem hpiece).2

/-- A numeral among the segments in lower case is one among the segments. -/
theorem flatMap_lowerCode_of_isAllDigits (hsegment : ∀ c ∈ segment, isNameCode c = true)
    (h : isAllDigits (segment.flatMap lowerCode) = true) : segment.flatMap lowerCode = segment := by
  rw [isAllDigits, Bool.and_eq_true, List.all_eq_true] at h
  obtain ⟨-, hdigits⟩ := h
  induction segment with
  | nil => rfl
  | cons c segment ih =>
    have hc := lowerCode_of_isDigit (hsegment c List.mem_cons_self) fun d hd =>
      hdigits d (List.mem_flatMap.2 ⟨c, List.mem_cons_self, hd⟩)
    rw [List.flatMap_cons, hc, ih (fun d hd => hsegment d (List.mem_cons_of_mem _ hd))
      fun d hd => hdigits d (by rw [List.flatMap_cons]; exact List.mem_append_right _ hd)]
    rfl

/-- A numeral among the segments of a name in lower case is one among those of the name. -/
theorem mem_fields_of_isAllDigits (hname : ∀ c ∈ name, isNameCode c = true)
    (hsegment : segment ∈ fields (.ofChar '.') (if lowered then lower name else name))
    (hdigits : isAllDigits segment = true) : segment ∈ fields (.ofChar '.') name := by
  cases lowered with
  | false => exact hsegment
  | true =>
    -- Lower case neither makes nor unmakes points, so each segment is one of the name in lower case.
    have hfields : fields (.ofChar '.') (lower name) =
        (fields (.ofChar '.') name).map (List.flatMap lowerCode) := by
      rw [lower_eq_flatMap hname]
      exact Text.fields_flatMap lowerCode_point fun c hc => point_not_mem_lowerCode (hname c hc)
    rw [if_pos rfl, hfields] at hsegment
    obtain ⟨written, hwritten, rfl⟩ := List.mem_map.1 hsegment
    have hcodes : ∀ c ∈ written, isNameCode c = true :=
      fun c hc => hname c (Text.mem_of_mem_fields hwritten hc)
    rwa [flatMap_lowerCode_of_isAllDigits hcodes hdigits]

theorem isAsciiDigit_of_mem_fields (hname : ∀ c ∈ name, isNameCode c = true)
    (hsegment : segment ∈ fields (.ofChar '.') (if lowered then lower name else name))
    (hdigits : isAllDigits segment = true) : ∀ c ∈ segment, isAsciiDigit c = true := by
  intro c hc
  have hwritten := mem_fields_of_isAllDigits hname hsegment hdigits
  rw [isAllDigits, Bool.and_eq_true, List.all_eq_true] at hdigits
  exact isAsciiDigit_of_isDigit (hname c (Text.mem_of_mem_fields hwritten hc)) (hdigits.2 c hc)

theorem exists_indexOf?_of_mem_fields (hname : ∀ c ∈ name, isNameCode c = true)
    (hmodest : ∀ segment ∈ fields (.ofChar '.') name,
      isAllDigits segment = true → segment.length ≤ maxIntegerDigits) :
    ∀ segment ∈ fields (.ofChar '.') (if lowered then lower name else name),
      ∃ i?, Path.indexOf? segment = .ok i? := by
  intro segment hsegment
  by_cases hdigits : isAllDigits segment = true
  · have hne : segment ≠ [] := by
      rintro rfl
      cases hdigits
    exact ⟨_, Path.indexOf?_of_isAsciiDigit (isAsciiDigit_of_mem_fields hname hsegment hdigits) hne
      (hmodest segment (mem_fields_of_isAllDigits hname hsegment hdigits) hdigits)⟩
  · exact ⟨none, by rw [Path.indexOf?, if_neg hdigits]⟩

/-! ## Filling -/

/-- What a placeholder stands for, when its path is followed to a value. -/
theorem valueText?_of_get {path : Path} {found : Value}
    (hpath : Path.parse? (if lowered then lower name else name) = some path)
    (hfound : path.get false context = .ok found) :
    valueText? context lowered name =
      if found.isNull then .ok none else found.render.map some := by
  rw [valueText?, hpath]
  simp only [hfound, bind, Except.bind, pure, Except.pure]
  split
  · rfl
  · cases found.render <;> rfl

theorem exists_valueText? (hcontext : context.isWritable = true)
    (hname : ∀ c ∈ name, isNameCode c = true)
    (hmodest : ∀ segment ∈ fields (.ofChar '.') name,
      isAllDigits segment = true → segment.length ≤ maxIntegerDigits) :
    ∃ value?, valueText? context lowered name = .ok value? ∧
      (context.Whole → ∀ value ∈ value?, value.Whole) := by
  have hindex : ∀ segment ∈ fields (.ofChar '.') (if lowered then lower name else name),
      ∃ i?, Path.indexOf? segment = .ok i? := exists_indexOf?_of_mem_fields hname hmodest
  cases hpath : Path.parse? (if lowered then lower name else name) with
  | none => exact ⟨none, by rw [valueText?, hpath], fun _ => nofun⟩
  | some path =>
    rw [← Path.segments_of_ofSegments? hpath] at hindex
    obtain ⟨found, hfound⟩ := Path.exists_follow hindex false context
    have hwritable := Path.follow_inherited Value.inherited_isWritable hcontext hfound
    refine ⟨if found.isNull then none else some found.written, ?_, ?_⟩
    · rw [valueText?_of_get hpath hfound, Value.render_of_isWritable hwritable]
      split <;> rfl
    · intro hwhole value hvalue
      have hfoundWhole := Path.follow_inherited Value.inherited_whole hwhole hfound
      split at hvalue
      · cases hvalue
      · cases hvalue
        exact hfoundWhole.written

/-- **What a placeholder stands for is found exactly if its path is readable.** -/
theorem exists_valueText?_iff (hname : ∀ c ∈ name, isNameCode c = true) :
    (∃ value?, valueText? context lowered name = .ok value?) ↔
      ∀ path ∈ Path.parse? (if lowered then lower name else name), path.Readable context := by
  cases hpath : Path.parse? (if lowered then lower name else name) with
  | none => exact iff_of_true ⟨none, by rw [valueText?, hpath]⟩ nofun
  | some path =>
    have hdigits : ∀ s ∈ path.segments, isAllDigits s = true → ∀ c ∈ s, isAsciiDigit c = true := by
      intro s hs
      rw [Path.segments_of_ofSegments? hpath] at hs
      exact isAsciiDigit_of_mem_fields hname hs
    have herror : (∃ fault, path.get false context = .error fault) ↔
        Path.Overruns path.segments context := Path.exists_follow_error_iff hdigits false context
    simp only [Option.mem_some_iff, forall_eq']
    cases hfound : path.get false context with
    | error fault =>
      have hoverruns := herror.1 ⟨fault, hfound⟩
      refine iff_of_false ?_ fun hreadable => hreadable.inRange hoverruns
      rintro ⟨value?, hvalue⟩
      rw [valueText?, hpath] at hvalue
      dsimp only at hvalue
      rw [hfound] at hvalue
      cases hvalue
    | ok found =>
      have hinRange : ¬ Path.Overruns path.segments context := by
        rw [← herror, hfound]
        exact nofun
      rw [valueText?_of_get hpath hfound]
      constructor
      · rintro ⟨value?, hvalue⟩
        refine ⟨hinRange, fun found' hfound' => ?_⟩
        obtain rfl := Except.ok.inj (hfound.symm.trans hfound')
        by_contra hwritable
        rw [Bool.not_eq_true] at hwritable
        rw [Value.render_of_not_isWritable hwritable] at hvalue
        split at hvalue
        · next hnull =>
          rw [Value.isNull_iff] at hnull
          rw [hnull] at hwritable
          cases hwritable
        · cases hvalue
      · intro hreadable
        rw [Value.render_of_isWritable (hreadable.writable found hfound)]
        split <;> exact ⟨_, rfl⟩

theorem whole_replaceFirst {old new current : Text} (hnew : new.Whole) (hcurrent : current.Whole) :
    (replaceFirst old new current).Whole := by
  unfold replaceFirst
  split
  · exact hcurrent
  · next before after hsplit =>
    have htext := Text.eq_append_of_splitAtFirst hsplit
    have hbefore : Text.Whole before := fun c hc => hcurrent c (by simp [htext, hc])
    have hafter : Text.Whole after := fun c hc => hcurrent c (by simp [htext, hc])
    exact (hbefore.append hnew).append hafter

/-- The placeholders of a text can be filled in any other text. -/
theorem exists_foldlM_fill_of_modest (hwritable : context.isWritable = true) (hmodest : Modest text)
    {ns : List Text}
    (hmem : ∀ name ∈ ns, name ∈ names text) (current : Text) :
    ∃ filled, ns.foldlM (fill context lowered) current = .ok filled ∧
      (context.Whole → current.Whole → filled.Whole) := by
  induction ns generalizing current with
  | nil => exact ⟨current, rfl, fun _ h => h⟩
  | cons name ns ih =>
    have hname := hmem name List.mem_cons_self
    have hrest := ih fun name hname => hmem name (List.mem_cons_of_mem _ hname)
    obtain ⟨value?, hvalue, hwhole⟩ : ∃ value?, valueText? context lowered name = .ok value? ∧
        (context.Whole → ∀ value ∈ value?, value.Whole) :=
      exists_valueText? hwritable (isNameCode_of_mem_names hname) (hmodest name hname)
    rw [List.foldlM_cons, fill, hvalue]
    cases value? with
    | none => exact hrest current
    | some value =>
      obtain ⟨filled, hfilled, hfilledWhole⟩ :=
        hrest (replaceFirst (Piece.hole name).source value current)
      exact ⟨filled, hfilled, fun hcontext hcurrent => hfilledWhole hcontext
        (whole_replaceFirst (hwhole hcontext value rfl) hcurrent)⟩

/-- **A text without long numerals is filled** from every context whose integers can be written; it
stays whole if the text and the context are. -/
theorem exists_interpret (hmodest : Modest text) (hwritable : context.isWritable = true)
    (lowered : Bool) :
    ∃ filled, interpret context lowered text = .ok filled ∧
      (context.Whole → text.Whole → filled.Whole) :=
  exists_foldlM_fill_of_modest hwritable hmodest (fun _ hname => hname) text

end Placeholder

end MockApi
