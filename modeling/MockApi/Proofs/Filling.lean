import MockApi.Proofs.Content
import MockApi.Proofs.Cutting
import MockApi.Sample.Fill

/-!
# Blanks are filled once, from left to right

* `Permitted providers name` : the names that blanks may call;
* `mem_formatterNames` : they are the names that blanks are filled from;
* `Harmless source` : no call of such a name fails in a way that stops the filling;
* `Fills source ps s filled s' called` : parts of a text filled one after the other, with what calls
  have left before and after, and the names called meanwhile;
* `exists_fills` : this is how a text is filled from a harmless source;
* `fillBlanks_eq_fillPieces` : a text that is not searched has no blanks;
* `fillBlanks_single_pass` : a text is filled in one pass over its blanks.
-/

namespace MockApi

open Template (Gives gives_bind gives_pure)

variable {σ : Type} {source : SampleSource σ} {providers : List Provider} {name : String}
  {ps : List Blank.Piece} {filled text : Text} {s s' : σ} {called : List String}

/-! ## Names that blanks may call -/

/-- A name that blanks may call: some provider can be called under it, it does not start with an
underscore, and it is not excluded. -/
structure Permitted (providers : List Provider) (name : String) : Prop where
  callable : ∃ p ∈ providers, (name, true) ∈ p.attributes
  visible : name.toList.head? ≠ some '_'
  allowed : name ∉ excludedFormatters

theorem isPublicName_iff :
    isPublicName name = true ↔ name.toList.head? ≠ some '_' ∧ name ∉ excludedFormatters := by
  simp [isPublicName]

theorem mem_formatterNames : name ∈ formatterNames providers ↔ Permitted providers name := by
  simp only [formatterNames, Provider.names, List.mem_flatMap, List.mem_map, List.mem_filter,
    Bool.and_eq_true, isPublicName_iff]
  constructor
  · rintro ⟨p, hp, ⟨_, callable⟩, ⟨hmem, ⟨hvisible, hallowed⟩, rfl⟩, rfl⟩
    exact ⟨⟨p, hp, hmem⟩, hvisible, hallowed⟩
  · rintro ⟨⟨p, hp, hmem⟩, hvisible, hallowed⟩
    exact ⟨p, hp, (name, true), ⟨hmem, ⟨hvisible, hallowed⟩, rfl⟩, rfl⟩

/-- **A blank stands for a name that it may call**, whatever its own name is. -/
theorem permitted_of_resolve? {blank : String} (h : resolve? providers blank = some name) :
    Permitted providers name :=
  mem_formatterNames.1 (List.contains_iff_mem.1 (List.find?_some h))

/-! ## One call -/

/-- Whenever a name that blanks may call is called, it gives a sample, or it cannot be called this way
or has no value; and a sample that is no JSON value has a text, or it has none for one of these
reasons. -/
structure Harmless (source : SampleSource σ) : Prop where
  call : ∀ name, Permitted source.providers name → ∀ s e s',
    (source.call name).run s = (.error e, s') → e = .kind ∨ e = .value
  text : ∀ name, Permitted source.providers name → ∀ s e s',
    (source.call name).run s = (.ok (.other (.error e)), s') → e = .kind ∨ e = .value

theorem SampleFailure.isHarmless_iff {e : SampleFailure} :
    e.isHarmless = true ↔ e = .kind ∨ e = .value := by
  cases e <;> simp [SampleFailure.isHarmless]

/-- A JSON value has a text, unless an integer in it has too many digits. -/
theorem Harmless.render (h : Harmless source) (hname : Permitted source.providers name)
    {sample : Sample} (hcall : (source.call name).run s = (.ok sample, s')) {e : SampleFailure}
    (hrender : sample.render = .error e) : e = .kind ∨ e = .value := by
  cases sample with
  | value v =>
    rw [Sample.render] at hrender
    cases hv : v.render with
    | ok text =>
      rw [hv] at hrender
      cases hrender
    | error fault =>
      rw [hv] at hrender
      cases hrender
      exact .inr rfl
  | other text =>
    rw [Sample.render] at hrender
    rw [hrender] at hcall
    exact h.text name hname s e s' hcall

theorem run_sampleText? (source : SampleSource σ) (name : String) (s : σ) :
    (source.sampleText? name).run s = match (source.call name).run s with
      | (.ok sample, s') => match sample.render with
        | .ok text => (.ok (some text), s')
        | .error e => (if e.isHarmless then .ok none else .error e, s')
      | (.error e, s') => (if e.isHarmless then .ok none else .error e, s') := by
  have hrun : (source.sampleText? name).run s =
      match ((source.call name).run s).1.bind Sample.render with
      | .ok text => (.ok (some text), ((source.call name).run s).2)
      | .error e => (if e.isHarmless then .ok none else .error e, ((source.call name).run s).2) := rfl
  rw [hrun]
  rcases (source.call name).run s with ⟨_ | sample, s'⟩ <;> rfl

theorem gives_sampleText? {sample : Sample} (hcall : (source.call name).run s = (.ok sample, s'))
    (htext : sample.render = .ok text) : Gives (source.sampleText? name) s (some text) s' := by
  rw [Gives, run_sampleText?, hcall]
  simp only [htext]

theorem gives_sampleText?_of_failure {e : SampleFailure}
    (hcall : (source.call name).run s = (.error e, s')) (hkind : e = .kind ∨ e = .value) :
    Gives (source.sampleText? name) s none s' := by
  rw [Gives, run_sampleText?, hcall]
  simp only [SampleFailure.isHarmless_iff.2 hkind, if_true]

theorem gives_sampleText?_of_unwritten {sample : Sample} {e : SampleFailure}
    (hcall : (source.call name).run s = (.ok sample, s')) (htext : sample.render = .error e)
    (hkind : e = .kind ∨ e = .value) : Gives (source.sampleText? name) s none s' := by
  rw [Gives, run_sampleText?, hcall]
  simp only [htext, SampleFailure.isHarmless_iff.2 hkind, if_true]

/-! ## Parts of a text are filled -/

/-- What a part of a text becomes, with what calls have left before and after it, and the names that
are called for it. -/
inductive FillsPiece (source : SampleSource σ) : Blank.Piece → σ → Text → σ → List String → Prop
  | literal {c : CodePoint} {s : σ} : FillsPiece source (.literal c) s [c] s []
  /-- A blank that stands for nothing stays. -/
  | unknown {written blank : Text} {s : σ} (hnone : resolve? source.providers blank.lossy = none) :
    FillsPiece source (.blank written blank) s written s []
  /-- A blank becomes the text of a fresh sample. -/
  | sample {written blank text : Text} {name : String} {sample : Sample} {s s' : σ}
    (hsome : resolve? source.providers blank.lossy = some name)
    (hcall : (source.call name).run s = (.ok sample, s')) (htext : sample.render = .ok text) :
    FillsPiece source (.blank written blank) s text s' [name]
  /-- A blank whose call fails stays. -/
  | failure {written blank : Text} {name : String} {e : SampleFailure} {s s' : σ}
    (hsome : resolve? source.providers blank.lossy = some name)
    (hcall : (source.call name).run s = (.error e, s')) (hkind : e = .kind ∨ e = .value) :
    FillsPiece source (.blank written blank) s written s' [name]
  /-- A blank whose sample has no text stays. -/
  | unwritten {written blank : Text} {name : String} {sample : Sample} {e : SampleFailure} {s s' : σ}
    (hsome : resolve? source.providers blank.lossy = some name)
    (hcall : (source.call name).run s = (.ok sample, s')) (htext : sample.render = .error e)
    (hkind : e = .kind ∨ e = .value) :
    FillsPiece source (.blank written blank) s written s' [name]

/-- What parts of a text become, one after the other: what they become stands in their order, and
nothing is looked at again. -/
inductive Fills (source : SampleSource σ) : List Blank.Piece → σ → Text → σ → List String → Prop
  | nil {s : σ} : Fills source [] s [] s []
  | cons {piece : Blank.Piece} {ps : List Blank.Piece} {text texts : Text} {s s₁ s' : σ}
    {called more : List String} (hpiece : FillsPiece source piece s text s₁ called)
    (hrest : Fills source ps s₁ texts s' more) :
    Fills source (piece :: ps) s (text ++ texts) s' (called ++ more)

theorem fillPiece_of_none {written blank : Text} (h : resolve? source.providers blank.lossy = none) :
    fillPiece source (.blank written blank) = return written := by
  rw [fillPiece, h]

theorem fillPiece_of_some {written blank : Text}
    (h : resolve? source.providers blank.lossy = some name) :
    fillPiece source (.blank written blank) = do
      let text? ← source.sampleText? name
      return text?.getD written := by
  rw [fillPiece, h]

/-- A part of a text becomes what the filling makes of it. -/
theorem FillsPiece.gives {piece : Blank.Piece} (h : FillsPiece source piece s text s' called) :
    Gives (fillPiece source piece) s text s' := by
  cases h with
  | literal => rfl
  | unknown hnone =>
    rw [fillPiece_of_none hnone]
    rfl
  | sample hsome hcall htext =>
    rw [fillPiece_of_some hsome]
    exact gives_bind.2 ⟨some text, s', gives_sampleText? hcall htext, rfl⟩
  | failure hsome hcall hkind =>
    rw [fillPiece_of_some hsome]
    exact gives_bind.2 ⟨none, s', gives_sampleText?_of_failure hcall hkind, rfl⟩
  | unwritten hsome hcall htext hkind =>
    rw [fillPiece_of_some hsome]
    exact gives_bind.2 ⟨none, s', gives_sampleText?_of_unwritten hcall htext hkind, rfl⟩

theorem exists_fillsPiece (h : Harmless source) (piece : Blank.Piece) (s : σ) :
    ∃ text s' called, FillsPiece source piece s text s' called := by
  cases piece with
  | literal c => exact ⟨[c], s, [], .literal⟩
  | blank written blank =>
    cases hresolve : resolve? source.providers blank.lossy with
    | none => exact ⟨written, s, [], .unknown hresolve⟩
    | some name =>
      have hname := permitted_of_resolve? hresolve
      rcases hcall : (source.call name).run s with ⟨e | sample, s'⟩
      · exact ⟨written, s', [name], .failure hresolve hcall (h.call name hname s e s' hcall)⟩
      · cases htext : sample.render with
        | ok text => exact ⟨text, s', [name], .sample hresolve hcall htext⟩
        | error e =>
          exact ⟨written, s', [name], .unwritten hresolve hcall htext (h.render hname hcall htext)⟩

/-- Parts of a text become what the filling makes of them. -/
theorem Fills.exists_gives (h : Fills source ps s filled s' called) :
    ∃ texts, filled = texts.flatten ∧ Gives (ps.mapM (fillPiece source)) s texts s' := by
  induction h with
  | nil => exact ⟨[], rfl, rfl⟩
  | @cons piece ps text _ s s₁ s' _ _ hpiece _ ih =>
    obtain ⟨texts, rfl, hgives⟩ := ih
    refine ⟨text :: texts, rfl, ?_⟩
    rw [List.mapM_cons]
    exact gives_bind.2 ⟨text, s₁, hpiece.gives, gives_bind.2 ⟨texts, s', hgives, rfl⟩⟩

/-- **Parts of a text are filled one after the other**, and filling comes to its end. -/
theorem exists_fills (h : Harmless source) (ps : List Blank.Piece) (s : σ) :
    ∃ filled s' called, Fills source ps s filled s' called := by
  induction ps generalizing s with
  | nil => exact ⟨[], s, [], .nil⟩
  | cons piece ps ih =>
    obtain ⟨text, s₁, called, hpiece⟩ := exists_fillsPiece h piece s
    obtain ⟨texts, s', more, hrest⟩ := ih s₁
    exact ⟨text ++ texts, s', called ++ more, .cons hpiece hrest⟩

/-! ## Which names are called -/

theorem FillsPiece.permitted {piece : Blank.Piece} (h : FillsPiece source piece s text s' called) :
    ∀ name ∈ called, Permitted source.providers name := by
  cases h with
  | literal => nofun
  | unknown => nofun
  | sample hsome => simpa using permitted_of_resolve? hsome
  | failure hsome => simpa using permitted_of_resolve? hsome
  | unwritten hsome => simpa using permitted_of_resolve? hsome

theorem Fills.permitted (h : Fills source ps s text s' called) :
    ∀ name ∈ called, Permitted source.providers name := by
  induction h with
  | nil => nofun
  | cons hpiece _ ih =>
    intro name hname
    obtain hname | hname := List.mem_append.1 hname
    · exact hpiece.permitted name hname
    · exact ih name hname

theorem run_call_recorded (source : SampleSource σ) (name : String) (s : σ) (log : List String) :
    (source.recorded.call name).run (s, log) =
      (((source.call name).run s).1, ((source.call name).run s).2, log ++ [name]) :=
  rfl

theorem FillsPiece.recorded {piece : Blank.Piece} (h : FillsPiece source piece s text s' called)
    (log : List String) : FillsPiece source.recorded piece (s, log) text (s', log ++ called) called := by
  cases h with
  | literal =>
    rw [List.append_nil]
    exact .literal
  | unknown hnone =>
    rw [List.append_nil]
    exact .unknown hnone
  | sample hsome hcall htext =>
    exact .sample hsome (by rw [run_call_recorded, hcall]) htext
  | failure hsome hcall hkind =>
    exact .failure hsome (by rw [run_call_recorded, hcall]) hkind
  | unwritten hsome hcall htext hkind =>
    exact .unwritten hsome (by rw [run_call_recorded, hcall]) htext hkind

/-- **The names called are those that a source writes down**, and writing them down changes nothing
else. -/
theorem Fills.recorded (h : Fills source ps s text s' called) (log : List String) :
    Fills source.recorded ps (s, log) text (s', log ++ called) called := by
  induction h generalizing log with
  | nil =>
    rw [List.append_nil]
    exact .nil
  | @cons _ _ _ _ _ _ _ called _ hpiece _ ih =>
    rw [← List.append_assoc]
    exact .cons (hpiece.recorded log) (ih (log ++ called))

theorem Fills.of_literals (h : Fills source (text.map .literal) s filled s' called) :
    filled = text ∧ s' = s ∧ called = [] := by
  induction text generalizing filled called s with
  | nil =>
    cases h
    exact ⟨rfl, rfl, rfl⟩
  | cons c text ih =>
    cases h with
    | cons hpiece hrest =>
      cases hpiece
      obtain ⟨rfl, rfl, rfl⟩ := ih hrest
      exact ⟨rfl, rfl, rfl⟩

/-! ## One pass -/

theorem fills_literals (source : SampleSource σ) (text : Text) (s : σ) :
    Fills source (text.map .literal) s text s [] := by
  induction text with
  | nil => exact .nil
  | cons c text ih => exact .cons .literal ih

theorem gives_fillPieces (h : Fills source (Blank.pieces text) s filled s' called) :
    Gives (fillPieces source text) s filled s' := by
  obtain ⟨texts, rfl, hgives⟩ := h.exists_gives
  exact gives_bind.2 ⟨texts, s', hgives, rfl⟩

/-- **The text that is not searched is one without blanks**: the pass over it would change nothing and
call nothing. -/
theorem fillBlanks_eq_fillPieces (source : SampleSource σ) (text : Text) :
    fillBlanks source text = fillPieces source text := by
  unfold fillBlanks
  split
  · next hsearch =>
    have hbraces : ¬ ("\x7b\x7b" : Text) <:+: text :=
      Text.splitAtFirst_eq_none_iff.1 (Option.isNone_iff_eq_none.1 hsearch)
    have hpieces : Blank.pieces text = text.map .literal :=
      Blank.pieces_of_no_blank fun _ _ => Blank.not_infix_of_no_braces hbraces
    funext s
    have hfills := fills_literals source text s
    rw [← hpieces] at hfills
    exact (gives_fillPieces hfills).symm
  · rfl

/-- A text is filled in one pass: it is cut at its blanks once, each of them is filled at its place and
in order, the names that the source writes down are those called, all of them are permitted, and where
no blank stands nothing happens. -/
structure FillsOnce (source : SampleSource σ) (text : Text) (s : σ) (filled : Text) (s' : σ)
    (called : List String) : Prop where
  inOrder : ∃ ps, Blank.Cuts text ps ∧ Fills source ps s filled s' called
  recorded : ∀ log, Gives (fillBlanks source.recorded text) (s, log) filled (s', log ++ called)
  permitted : ∀ name ∈ called, Permitted source.providers name
  noBlank : (∀ written blank, Blank.Written written blank → ¬ written <:+: text) →
    filled = text ∧ s' = s ∧ called = []
  noBraces : ¬ ("\x7b\x7b" : Text) <:+: text → filled = text ∧ s' = s ∧ called = []

theorem fillsOnce_of_fills (h : Fills source (Blank.pieces text) s filled s' called) :
    FillsOnce source text s filled s' called := by
  have hnoBlank (hnone : ∀ written blank, Blank.Written written blank → ¬ written <:+: text) :
      filled = text ∧ s' = s ∧ called = [] := by
    rw [Blank.pieces_of_no_blank hnone] at h
    exact h.of_literals
  have hrecorded (log : List String) :
      Gives (fillBlanks source.recorded text) (s, log) filled (s', log ++ called) := by
    rw [fillBlanks_eq_fillPieces]
    exact gives_fillPieces (h.recorded log)
  exact {
    inOrder := ⟨_, Blank.cuts_pieces text, h⟩
    recorded := hrecorded
    permitted := h.permitted
    noBlank := hnoBlank
    noBraces := fun hbraces => hnoBlank fun _ _ => Blank.not_infix_of_no_braces hbraces }

/-- **Blanks are filled in one pass**: filling a text from a harmless source ends, with each blank
replaced by the text of a fresh sample or left as it is, whatever the text and what earlier calls have
left. -/
theorem fillBlanks_single_pass (h : Harmless source) (text : Text) (s : σ) :
    ∃ filled s' called, Gives (fillBlanks source text) s filled s' ∧
      FillsOnce source text s filled s' called := by
  obtain ⟨filled, s', called, hfills⟩ := exists_fills h (Blank.pieces text) s
  have hgives : Gives (fillBlanks source text) s filled s' := by
    rw [fillBlanks_eq_fillPieces]
    exact gives_fillPieces hfills
  exact ⟨filled, s', called, hgives, fillsOnce_of_fills hfills⟩

/-- A brace in front of a blank, a sample that holds a blank itself, and calls that share what they
change: one fails, one gives an integer of too many digits, one gives something else the second time.
One name is hidden, and one blank has no name. -/
theorem fillBlanks_single_pass_nested :
    let sampleAt (name : String) (n : Nat) : Except SampleFailure Sample :=
      if name = "job" then .error .value
      else if name = "age" then .ok (.value (.int (.ofNat (Nat.pow 10 4300))))
      else if n = 0 then .ok (.value (.text "\x7b\x7bjob\x7d\x7d"))
      else .ok (.value (.int 7))
    let source : SampleSource Nat := {
      providers := [
        ⟨"faker.providers.person", [("first_name", true), ("age", false), ("_job", true)]⟩,
        ⟨"own", [("job", true), ("age", true)]⟩]
      call := fun name n => (sampleAt name n, n + 1) }
    let text : Text := "\x7b\x7b\x7b name.firstName \x7d\x7d\x7d \x7b\x7bjob\x7d\x7d" ++
      "\x7b\x7bfirst_name\x7d\x7d\x7b\x7b_job\x7d\x7d \x7b\x7bage\x7d\x7d \x7b\x7b1\x7d\x7d"
    let filled : Text := "\x7b\x7b\x7bjob\x7d\x7d\x7d \x7b\x7bjob\x7d\x7d" ++
      "7\x7b\x7b_job\x7d\x7d \x7b\x7bage\x7d\x7d \x7b\x7b1\x7d\x7d"
    let called : List String := ["first_name", "job", "first_name", "age"]
    Harmless source ∧ Gives (fillBlanks source text) 0 filled 4 ∧
      FillsOnce source text 0 filled 4 called := by
  intro sampleAt source text filled called
  have hsample : ∀ name n e, sampleAt name n = .error e → e = .value := by
    intro name n e h
    simp only [sampleAt] at h
    split_ifs at h
    cases h
    rfl
  have hother : ∀ name n e, sampleAt name n ≠ .ok (.other (.error e)) := by
    intro name n e h
    simp only [sampleAt] at h
    split_ifs at h <;> cases h
  have hharmless : Harmless source := by
    constructor
    · intro name _ n e n' h
      exact .inr (hsample name n e (Prod.mk.inj h).1)
    · intro name _ n e n' h
      exact absurd (Prod.mk.inj h).1 (hother name n e)
  have hrun : (fun run : Except SampleFailure Text × Nat × List String => (run.1.toOption, run.2))
      ((fillBlanks source.recorded text).run (0, [])) = (some filled, 4, called) := by
    decide +kernel
  obtain ⟨filled', s', called', hgives, honce⟩ := fillBlanks_single_pass hharmless text 0
  have hrecorded := honce.recorded []
  rw [List.nil_append, Gives] at hrecorded
  rw [hrecorded] at hrun
  cases hrun
  exact ⟨hharmless, hgives, honce⟩

end MockApi
