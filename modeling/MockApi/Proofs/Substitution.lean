import Mathlib.Data.List.Induction
import MockApi.Template.Placeholder

/-!
# Substituting in one pass

Placeholders are filled one after the other, each where its token is left for the first time in a
text that already holds the values of the ones before.

* `substitute` : the text with each placeholder replaced at its own place, all at once;
* `Undisturbed` : no token of a placeholder with a value occurs in what stands before it by then;
* `FillsInPlace` : each replacement is that of the placeholder it is made for;
* `foldlM_fill` : an undisturbed text, at each moment, is substituted up to a placeholder and as
  written from there on;
* `interpret_in_place_iff` : filling is substituting, place by place, exactly for undisturbed texts.
-/

namespace MockApi.Placeholder

variable {context : Value} {lowered : Bool}

/-- What a piece becomes in one pass: a placeholder without a value stays as it is written. -/
def Piece.substituted (context : Value) (lowered : Bool) : Piece → Except IntegerFault Text
  | .literal text => .ok text
  | .hole name =>
    (valueText? context lowered name).map fun value => value.getD (Piece.hole name).source

def substitutePieces (context : Value) (lowered : Bool) : List Piece → Except IntegerFault Text
  | [] => .ok []
  | piece :: rest => do
    let text ← piece.substituted context lowered
    let texts ← substitutePieces context lowered rest
    return text ++ texts

/-- The text with each placeholder that has a value replaced by it at its own place. -/
def substitute (context : Value) (lowered : Bool) (text : Text) : Except IntegerFault Text :=
  substitutePieces context lowered (pieces text)

/-- No placeholder with a value has its token in what the pieces before it have become. -/
def Undisturbed (context : Value) (lowered : Bool) (ps : List Piece) : Prop :=
  ∀ before name after done value, ps = before ++ .hole name :: after →
    substitutePieces context lowered before = .ok done →
    valueText? context lowered name = .ok (some value) →
    ¬ (Piece.hole name).source <:+: done

/-- Whenever a placeholder with a value is filled, the first token of its name that is left is the
placeholder itself: before it is what the pieces before it become, and after it is what is written
after it. -/
def FillsInPlace (context : Value) (lowered : Bool) (text : Text) : Prop :=
  ∀ before name after current value, pieces text = before ++ .hole name :: after →
    (before.filterMap Piece.name?).foldlM (fill context lowered) text = .ok current →
    valueText? context lowered name = .ok (some value) →
    ∃ done, substitutePieces context lowered before = .ok done ∧
      Text.splitAtFirst (Piece.hole name).source current =
        some (done, after.flatMap Piece.source)

/-! ## One placeholder -/

theorem brace_not_mem_of_isNameCode {name : Text} (h : ∀ c ∈ name, isNameCode c = true) :
    CodePoint.ofChar '{' ∉ name ++ [CodePoint.ofChar '}'] := by
  intro hmem
  obtain hmem | hmem := List.mem_append.1 hmem
  · exact absurd (h _ hmem) (by decide)
  · exact absurd hmem (by decide)

theorem fill_eq {name : Text} (hname : ∀ c ∈ name, isNameCode c = true) {done : Text}
    (hdone : ∀ value, valueText? context lowered name = .ok (some value) →
      ¬ (Piece.hole name).source <:+: done) (rest : Text) :
    fill context lowered (done ++ (Piece.hole name).source ++ rest) name =
      (Piece.substituted context lowered (.hole name)).map fun text => done ++ text ++ rest := by
  simp only [fill, Piece.substituted]
  cases hvalue : valueText? context lowered name with
  | error fault => rfl
  | ok value? =>
    cases value? with
    | none => rfl
    | some value =>
      have hsplit : Text.splitAtFirst (Piece.hole name).source
          (done ++ (Piece.hole name).source ++ rest) = some (done, rest) :=
        Text.splitAtFirst_append (brace_not_mem_of_isNameCode hname) (hdone value hvalue) rest
      simp only [bind, Except.bind, pure, Except.pure, Except.map, Option.getD_some, replaceFirst,
        hsplit]

/-! ## All placeholders in order -/

theorem substitutePieces_append_singleton (before : List Piece) (piece : Piece) :
    substitutePieces context lowered (before ++ [piece]) = do
      let done ← substitutePieces context lowered before
      let text ← piece.substituted context lowered
      return done ++ text := by
  induction before with
  | nil =>
    cases h : piece.substituted context lowered <;>
      simp [substitutePieces, h, bind, Except.bind, pure, Except.pure]
  | cons p before ih =>
    cases hp : p.substituted context lowered with
    | error fault => simp [substitutePieces, hp, bind, Except.bind]
    | ok text =>
      cases hs : substitutePieces context lowered before with
      | error fault =>
        simp [substitutePieces, hp, hs, ih, bind, Except.bind]
      | ok done =>
        cases h : piece.substituted context lowered <;>
          simp [substitutePieces, hp, hs, ih, h, bind, Except.bind, pure, Except.pure]

/-- While placeholders are filled, the text is substituted up to the next one and as written from
there on. -/
theorem foldlM_fill {ps : List Piece}
    (hnames : ∀ name, .hole name ∈ ps → ∀ c ∈ name, isNameCode c = true)
    (h : Undisturbed context lowered ps) (before : List Piece) :
    ∀ after, ps = before ++ after →
      (before.filterMap Piece.name?).foldlM (fill context lowered) (ps.flatMap Piece.source) =
        (substitutePieces context lowered before).map (· ++ after.flatMap Piece.source) := by
  induction before using List.reverseRecOn with
  | nil =>
    rintro after rfl
    rfl
  | append_singleton before piece ih =>
    intro after hps
    have hfirst := ih (piece :: after) (by simpa using hps)
    rw [substitutePieces_append_singleton]
    cases piece with
    | literal text =>
      have hnone : List.filterMap Piece.name? [Piece.literal text] = [] := rfl
      rw [List.filterMap_append, hnone, List.append_nil, hfirst]
      cases substitutePieces context lowered before <;>
        simp [Piece.source, Piece.substituted, Except.map, bind, Except.bind, pure, Except.pure]
    | hole name =>
      rw [List.filterMap_append, List.foldlM_append, hfirst]
      cases hdone : substitutePieces context lowered before with
      | error fault => rfl
      | ok done =>
        -- Nothing before has the token, so the first one that is left is that of the placeholder.
        have hfill := fill_eq (hnames name (by simp [hps]))
          (fun value hvalue => h before name after done value (by simpa using hps) hdone hvalue)
          (after.flatMap Piece.source)
        simp only [Except.map, bind, Except.bind, List.filterMap_cons, List.filterMap_nil,
          Piece.name?, List.foldlM_cons, List.foldlM_nil, List.flatMap_cons]
        rw [← List.append_assoc, hfill]
        cases Piece.substituted context lowered (.hole name) <;>
          simp [Except.map, pure, Except.pure]

/-- Where pieces can be substituted, their placeholders can be filled in any text. -/
theorem exists_foldlM_fill {before : List Piece} {done : Text}
    (h : substitutePieces context lowered before = .ok done) (text : Text) :
    ∃ current,
      (before.filterMap Piece.name?).foldlM (fill context lowered) text = .ok current := by
  induction before generalizing done text with
  | nil => exact ⟨text, rfl⟩
  | cons piece before ih =>
    rw [substitutePieces] at h
    cases hpiece : piece.substituted context lowered with
    | error fault =>
      rw [hpiece] at h
      cases h
    | ok new =>
      cases hrest : substitutePieces context lowered before with
      | error fault =>
        rw [hpiece, hrest] at h
        cases h
      | ok rest =>
        cases piece with
        | literal _ => exact ih hrest text
        | hole name =>
          have hfill : ∃ filled, fill context lowered text name = .ok filled := by
            simp only [Piece.substituted] at hpiece
            unfold fill
            cases hvalue : valueText? context lowered name with
            | error fault =>
              rw [hvalue] at hpiece
              cases hpiece
            | ok value? => cases value? <;> exact ⟨_, rfl⟩
          obtain ⟨filled, hfilled⟩ := hfill
          obtain ⟨current, hcurrent⟩ := ih hrest filled
          refine ⟨current, ?_⟩
          simp only [List.filterMap_cons, Piece.name?, List.foldlM_cons, hfilled]
          exact hcurrent

theorem fillsInPlace_of_undisturbed {text : Text}
    (h : Undisturbed context lowered (pieces text)) : FillsInPlace context lowered text := by
  intro before name after current value hps hcurrent hvalue
  have hnames : ∀ name, .hole name ∈ pieces text → ∀ c ∈ name, isNameCode c = true :=
    fun _ hmem => (isNameCode_of_hole_mem hmem).2
  have hfold := foldlM_fill hnames h before (.hole name :: after) hps
  rw [source_pieces, hcurrent] at hfold
  cases hdone : substitutePieces context lowered before with
  | error fault =>
    rw [hdone] at hfold
    cases hfold
  | ok done =>
    rw [hdone] at hfold
    obtain rfl := Except.ok.inj hfold
    refine ⟨done, rfl, ?_⟩
    simp only [List.flatMap_cons, ← List.append_assoc]
    exact Text.splitAtFirst_append (brace_not_mem_of_isNameCode (hnames name (by simp [hps])))
      (h before name after done value hps hdone hvalue) _

theorem undisturbed_of_fillsInPlace {text : Text} (h : FillsInPlace context lowered text) :
    Undisturbed context lowered (pieces text) := by
  intro before name after done value hps hdone hvalue
  obtain ⟨current, hcurrent⟩ := exists_foldlM_fill hdone text
  obtain ⟨done', hdone', hsplit⟩ := h before name after current value hps hcurrent hvalue
  rw [hdone] at hdone'
  obtain rfl := Except.ok.inj hdone'
  exact Text.not_infix_of_splitAtFirst (by simp [Piece.source]) hsplit

theorem interpret_eq_substitute {text : Text} (h : Undisturbed context lowered (pieces text)) :
    interpret context lowered text = substitute context lowered text := by
  have hnames : ∀ name, .hole name ∈ pieces text → ∀ c ∈ name, isNameCode c = true :=
    fun _ hmem => (isNameCode_of_hole_mem hmem).2
  have hfold := foldlM_fill hnames h (pieces text) [] (by simp)
  rw [source_pieces] at hfold
  unfold interpret substitute names
  rw [hfold]
  cases substitutePieces context lowered (pieces text) <;> simp [Except.map]

/-- **Filling is substituting in one pass**, with each value at the place of its own placeholder,
exactly for the texts in which no placeholder finds its token before it. -/
theorem interpret_in_place_iff (context : Value) (lowered : Bool) (text : Text) :
    (interpret context lowered text = substitute context lowered text ∧
      FillsInPlace context lowered text) ↔ Undisturbed context lowered (pieces text) := by
  constructor
  · rintro ⟨-, hplace⟩
    exact undisturbed_of_fillsInPlace hplace
  · intro h
    exact ⟨interpret_eq_substitute h, fillsInPlace_of_undisturbed h⟩

/-- A value that is the token of a later placeholder takes the place of that placeholder: its value
is put where the token was echoed, and the placeholder is left. -/
theorem interpret_refills_value :
    let context : Value := .object [("query", .object [("a", .text "{query.b}"), ("b", .text "x")])]
    interpret context false "{query.a} {query.b}" = .ok "x {query.b}" ∧
      substitute context false "{query.a} {query.b}" = .ok "{query.b} x" := by
  decide +kernel

end MockApi.Placeholder
