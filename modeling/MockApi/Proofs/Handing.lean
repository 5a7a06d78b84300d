import MockApi.Proofs.Selection

/-!
# What a filler is handed

A filler is handed the leaves of the response that is selected, headers first, and never a text of a
call. What ends a call before all of them are handed is an integer of too many digits: as an index, in
a leaf, or in what a placeholder leads to. An error of the filler itself does too.

* `hand filler context leaves s` : the leaves handed one after the other, until one of them stops;
* `Ends`, `Follows filler context x leaves` : a computation leaves the filler as handing it these leaves
  does, and it goes on if none stops;
* `Filler.recorded`, `Contract.handed` : a filler that writes down what it is handed, and what it is
  handed in a call;
* `Unhindered filler context leaves s` : no leaf but the last stops;
* `Contract.handed_alike_iff` : what the filler is handed in two calls that get the same response.
-/

namespace MockApi

open Placeholder (Modest interpret isNameCode names valueText?)
open Text (isAsciiDigit)
open Template (fill fillItems fillLeaf fillMembers itemScalars memberScalars run_bind scalars)

variable {σ ε : Type} {filler : Filler σ ε} {context : Value}

/-! ## Placeholders that can be looked up -/

/-- Every placeholder of the text can be looked up: none comes to a list with an index of too many
digits, and none leads to an integer of too many. -/
def Placeholder.Legible (context : Value) (lowered : Bool) (text : Text) : Prop :=
  ∀ name ∈ names text, ∀ path ∈ Path.parse? (if lowered then Text.lower name else name),
    path.Readable context

theorem Placeholder.exists_foldlM_fill_iff {lowered : Bool} {ns : List Text} (text : Text) :
    (∃ filled, ns.foldlM (Placeholder.fill context lowered) text = .ok filled) ↔
      ∀ name ∈ ns, ∃ value?, valueText? context lowered name = .ok value? := by
  induction ns generalizing text with
  | nil => exact ⟨fun _ => nofun, fun _ => ⟨text, rfl⟩⟩
  | cons name ns ih =>
    rw [List.forall_mem_cons, List.foldlM_cons, Placeholder.fill]
    cases hvalue : valueText? context lowered name with
    | error fault =>
      constructor
      · rintro ⟨filled, hfilled⟩
        cases hfilled
      · rintro ⟨⟨value?, hvalue?⟩, -⟩
        cases hvalue?
    | ok value? =>
      have hthis : ∃ v?, (.ok value? : Except IntegerFault (Option Text)) = .ok v? := ⟨_, rfl⟩
      rw [and_iff_right hthis]
      cases value? with
      | none => exact ih text
      | some value => exact ih _

/-- **A text is filled exactly if all of its placeholders can be looked up.** -/
theorem Placeholder.isOk_interpret_iff {lowered : Bool} {text : Text} :
    (interpret context lowered text).isOk = true ↔ Legible context lowered text := by
  have hlegible : Legible context lowered text ↔
      ∀ name ∈ names text, ∃ value?, valueText? context lowered name = .ok value? :=
    forall₂_congr fun name hname => (exists_valueText?_iff (isNameCode_of_mem_names hname)).symm
  rw [hlegible, ← exists_foldlM_fill_iff text]
  unfold interpret
  cases (names text).foldlM (Placeholder.fill context lowered) text with
  | ok filled => exact ⟨fun _ => ⟨filled, rfl⟩, fun _ => rfl⟩
  | error fault =>
    constructor
    · intro h
      cases h
    · rintro ⟨filled, hfilled⟩
      cases hfilled

theorem Placeholder.Modest.legible {text : Text} (h : Modest text) (hcontext : context.isWritable = true)
    (lowered : Bool) : Legible context lowered text := by
  obtain ⟨filled, hfilled, -⟩ := exists_interpret h hcontext lowered
  rw [← isOk_interpret_iff, hfilled]
  rfl

/-! ## Leaves that are handed -/

/-- What a filler has been handed, and what has become of its state. -/
structure Handing (σ : Type) where
  texts : List Text
  state : σ
  /-- Whether the last text stopped the call. -/
  stopped : Bool

/-- The same, with texts that were handed before. -/
def Handing.behind (texts : List Text) (p : Handing σ) : Handing σ :=
  { p with texts := texts ++ p.texts }

/-- What is handed next, unless the call has stopped. -/
def Handing.followedBy (p : Handing σ) (next : σ → Handing σ) : Handing σ :=
  if p.stopped then p else (next p.state).behind p.texts

/-- A leaf, and whether its placeholders are taken in lower case. -/
structure TemplateLeaf where
  lowered : Bool
  value : Value

def TemplateLeaf.text (leaf : TemplateLeaf) : Text := leaf.value.written

/-- A leaf handed to the filler. It is not even handed if it is an integer of too many digits; it stops
if the filler has no text for it, or one with a placeholder that cannot be looked up. -/
def handOne (filler : Filler σ ε) (context : Value) (leaf : TemplateLeaf) (s : σ) : Handing σ :=
  match leaf.value.render with
  | .error _ => ⟨[], s, true⟩
  | .ok text =>
    match (filler text).run s with
    | (.ok filled, s) => ⟨[text], s, !(interpret context leaf.lowered filled).isOk⟩
    | (.error _, s) => ⟨[text], s, true⟩

/-- Leaves handed to the filler one after the other, until one of them stops. -/
def hand (filler : Filler σ ε) (context : Value) : List TemplateLeaf → σ → Handing σ
  | [], s => ⟨[], s, false⟩
  | leaf :: rest, s => (handOne filler context leaf s).followedBy (hand filler context rest)

section FollowedBy
variable {p : Handing σ} {f g : σ → Handing σ}

theorem Handing.followedBy_of_stopped (h : p.stopped = true) (f : σ → Handing σ) :
    p.followedBy f = p :=
  if_pos h

theorem Handing.followedBy_of_not_stopped (h : p.stopped = false) (f : σ → Handing σ) :
    p.followedBy f = (f p.state).behind p.texts := by
  rw [followedBy, h, if_neg Bool.false_ne_true]

theorem Handing.behind_followedBy (texts : List Text) :
    (p.behind texts).followedBy f = (p.followedBy f).behind texts := by
  cases hp : p.stopped with
  | true => rw [followedBy_of_stopped hp, followedBy_of_stopped (p := p.behind texts) hp]
  | false =>
    rw [followedBy_of_not_stopped hp, followedBy_of_not_stopped (p := p.behind texts) hp]
    simp only [behind, List.append_assoc]

theorem Handing.followedBy_assoc (p : Handing σ) (f g : σ → Handing σ) :
    (p.followedBy f).followedBy g = p.followedBy fun s => (f s).followedBy g := by
  cases hp : p.stopped with
  | true => rw [followedBy_of_stopped hp, followedBy_of_stopped hp, followedBy_of_stopped hp]
  | false =>
    rw [followedBy_of_not_stopped hp, followedBy_of_not_stopped hp, behind_followedBy]

theorem Handing.followedBy_nil (p : Handing σ) : p.followedBy (fun s => ⟨[], s, false⟩) = p := by
  cases hp : p.stopped with
  | true => exact followedBy_of_stopped hp _
  | false => rw [followedBy_of_not_stopped hp, behind, List.append_nil, ← hp]

end FollowedBy

theorem hand_singleton (leaf : TemplateLeaf) (s : σ) :
    hand filler context [leaf] s = handOne filler context leaf s :=
  Handing.followedBy_nil _

theorem hand_append (xs ys : List TemplateLeaf) (s : σ) :
    hand filler context (xs ++ ys) s =
      (hand filler context xs s).followedBy (hand filler context ys) := by
  induction xs generalizing s with
  | nil => rfl
  | cons leaf xs ih =>
    rw [List.cons_append, hand, hand, Handing.followedBy_assoc]
    exact congrArg _ (funext ih)

/-! ## Computations that hand leaves -/

section Follows
variable {α β : Type} {x : Generation σ ε α} {g : α → Generation σ ε β} {xs ys : List TemplateLeaf}

/-- The filler ends where handing it the leaves ends. -/
def Ends (filler : Filler σ ε) (context : Value) (x : Generation σ ε α) (xs : List TemplateLeaf) :
    Prop :=
  ∀ s, (x.run s).2.filler = (hand filler context xs s.filler).state

/-- The computation hands the leaves to the filler, and it has a result unless one of them stops. -/
structure Follows (filler : Filler σ ε) (context : Value) (x : Generation σ ε α)
    (xs : List TemplateLeaf) : Prop where
  ends : Ends filler context x xs
  stops : ∀ s, (hand filler context xs s.filler).stopped = !(x.run s).1.isOk

theorem follows_pure (a : α) : Follows filler context (pure a : Generation σ ε α) [] :=
  ⟨fun _ => rfl, fun _ => rfl⟩

theorem Follows.bind_ends (hx : Follows filler context x xs)
    (hg : ∀ a, Ends filler context (g a) ys) : Ends filler context (x >>= g) (xs ++ ys) := by
  intro s
  have hstate := hx.ends s
  have hstops := hx.stops s
  rw [run_bind, hand_append]
  rcases hrun : x.run s with ⟨_ | a, s₁⟩ <;> rw [hrun] at hstate hstops
  · rw [Handing.followedBy_of_stopped hstops]
    exact hstate
  · rw [Handing.followedBy_of_not_stopped hstops, ← hstate]
    exact hg a s₁

theorem Follows.bind (hx : Follows filler context x xs)
    (hg : ∀ a, Follows filler context (g a) ys) : Follows filler context (x >>= g) (xs ++ ys) := by
  refine ⟨hx.bind_ends fun a => (hg a).ends, fun s => ?_⟩
  have hstate := hx.ends s
  have hstops := hx.stops s
  rw [run_bind, hand_append]
  rcases hrun : x.run s with ⟨_ | a, s₁⟩ <;> rw [hrun] at hstate hstops
  · rw [Handing.followedBy_of_stopped hstops]
    exact hstops
  · rw [Handing.followedBy_of_not_stopped hstops, ← hstate]
    exact (hg a).stops s₁

theorem Follows.map (hx : Follows filler context x xs) (f : α → β) :
    Follows filler context (x >>= fun a => pure (f a)) xs := by
  rw [← List.append_nil xs]
  exact hx.bind fun a => follows_pure (f a)

/-- What hands nothing comes behind anything. -/
theorem Ends.bind (hx : Ends filler context x xs) (hg : ∀ a, Ends filler context (g a) []) :
    Ends filler context (x >>= g) xs := by
  intro s
  rw [run_bind, ← hx s]
  rcases x.run s with ⟨_ | a, s₁⟩
  · rfl
  · exact hg a s₁

theorem ends_settle {error : β → GenerationError ε} (result : Except β α) :
    Ends filler context (settle error result : Generation σ ε α) [] :=
  fun _ => rfl

theorem ends_finishData (response : ResponseSpec) (data : Value) :
    Ends filler context (finishData response data : Generation σ ε Value) [] := by
  intro s
  unfold finishData
  cases response.metadata with
  | none => rfl
  | some m =>
    unfold ExceptT.run
    dsimp only
    cases (m.finish data s.chance : Except (GenerationError ε) (Value × Chance)) <;> rfl

end Follows

/-! ## Templates -/

section Templates
variable {lowered : Bool}

theorem follows_expandLeaf (leaf : Value) :
    Follows filler context (expandLeaf filler context lowered leaf) [⟨lowered, leaf⟩] := by
  have hrun : ∀ s : Session σ, (expandLeaf filler context lowered leaf).run s =
      match leaf.render with
      | .error fault => (.error (.integer fault), s)
      | .ok text =>
        match (filler text).run s.filler with
        | (.ok filled, state) =>
          ((interpret context lowered filled).mapError .integer, { s with filler := state })
        | (.error e, state) => (.error (.filler e), { s with filler := state }) := by
    intro s
    unfold expandLeaf
    cases leaf.render with
    | error fault => rfl
    | ok text =>
      have hfill : (fillText filler text).run s =
          (((filler text).run s.filler).1.mapError .filler,
            { s with filler := ((filler text).run s.filler).2 }) := rfl
      rw [settle_ok, pure_bind, run_bind, hfill]
      dsimp only
      rcases (filler text).run s.filler with ⟨_ | filled, state⟩ <;> rfl
  constructor <;> intro s <;> rw [hand_singleton, handOne, hrun] <;> dsimp only
  · cases leaf.render with
    | error fault => rfl
    | ok text =>
      dsimp only
      rcases (filler text).run s.filler with ⟨_ | filled, state⟩ <;> rfl
  · cases leaf.render with
    | error fault => rfl
    | ok text =>
      dsimp only
      rcases (filler text).run s.filler with ⟨_ | filled, state⟩
      · rfl
      · dsimp only
        cases interpret context lowered filled <;> rfl

theorem follows_fillLeaf {t : Value} :
    Follows filler context (fillLeaf (expandLeaf filler context lowered) t) [⟨lowered, t⟩] :=
  (follows_expandLeaf t).map _

theorem follows_fillItems {ts : List Value}
    (hitems : ∀ t ∈ ts, Follows filler context (fill (expandLeaf filler context lowered) t)
      ((scalars t).map (.mk lowered))) :
    Follows filler context (fillItems (expandLeaf filler context lowered) ts)
      ((itemScalars ts).map (.mk lowered)) := by
  induction ts with
  | nil => exact follows_pure []
  | cons t ts ih =>
    have hrest := ih fun t ht => hitems t (List.mem_cons_of_mem _ ht)
    rw [itemScalars, List.map_append]
    exact (hitems t List.mem_cons_self).bind fun v => hrest.map (v :: ·)

theorem follows_fillMembers {ms : Members Value}
    (hmembers : ∀ m ∈ ms, Follows filler context (fill (expandLeaf filler context lowered) m.2)
      ((scalars m.2).map (.mk lowered))) :
    Follows filler context (fillMembers (expandLeaf filler context lowered) ms)
      ((memberScalars ms).map (.mk lowered)) := by
  induction ms with
  | nil => exact follows_pure []
  | cons m ms ih =>
    have hrest := ih fun m hm => hmembers m (List.mem_cons_of_mem _ hm)
    rw [memberScalars, List.map_append]
    exact (hmembers m List.mem_cons_self).bind fun v => hrest.map ((m.1, v) :: ·)

/-- **The leaves of a template are handed in order.** -/
theorem follows_fill (t : Value) :
    Follows filler context (fill (expandLeaf filler context lowered) t)
      ((scalars t).map (.mk lowered)) := by
  induction t using Value.induction with
  | null => exact follows_pure Value.null
  | list ts ih => exact (follows_fillItems ih).map _
  | object ms ih => exact (follows_fillMembers ih).map _
  | _ => exact follows_fillLeaf

end Templates

/-! ## What is handed -/

/-- The filler gives a text for the leaf all of whose placeholders can be looked up. -/
structure Clears (filler : Filler σ ε) (context : Value) (leaf : TemplateLeaf) (s : σ) : Prop where
  writable : leaf.value.isWritable = true
  legible : ∃ filled, ((filler leaf.text).run s).1 = .ok filled ∧
    Placeholder.Legible context leaf.lowered filled

/-- No leaf but the last stops, and that one is handed. -/
inductive Unhindered (filler : Filler σ ε) (context : Value) : List TemplateLeaf → σ → Prop
  | nil {s : σ} : Unhindered filler context [] s
  | last {leaf : TemplateLeaf} {s : σ} : leaf.value.isWritable = true →
    Unhindered filler context [leaf] s
  | next {leaf : TemplateLeaf} {rest : List TemplateLeaf} {s : σ} : Clears filler context leaf s →
    Unhindered filler context rest ((filler leaf.text).run s).2 →
    Unhindered filler context (leaf :: rest) s

def Filler.after (filler : Filler σ ε) (texts : List Text) (s : σ) : σ :=
  texts.foldl (fun s text => ((filler text).run s).2) s

/-- The filler, which writes down every text that it is handed. -/
def Filler.recorded (filler : Filler σ ε) : Filler (σ × List Text) ε := fun text s =>
  (((filler text).run s.1).1, ((filler text).run s.1).2, s.2 ++ [text])

section Hand
variable {leaf : TemplateLeaf} {rest xs : List TemplateLeaf} {s : σ}

theorem handOne_of_isWritable (h : leaf.value.isWritable = true) :
    ∃ stopped, handOne filler context leaf s = ⟨[leaf.text], ((filler leaf.text).run s).2, stopped⟩ ∧
      (stopped = false ↔ Clears filler context leaf s) := by
  have hclears : Clears filler context leaf s ↔ ∃ filled, ((filler leaf.text).run s).1 = .ok filled ∧
      Placeholder.Legible context leaf.lowered filled :=
    ⟨fun hclears => hclears.legible, fun hlegible => ⟨h, hlegible⟩⟩
  rw [hclears]
  unfold handOne
  rw [Value.render_of_isWritable h, ← TemplateLeaf.text]
  dsimp only
  rcases (filler leaf.text).run s with ⟨_ | filled, state⟩
  · exact ⟨true, rfl, by simp⟩
  · refine ⟨_, rfl, ?_⟩
    simp only [Bool.not_eq_false', Placeholder.isOk_interpret_iff, Except.ok.injEq, exists_eq_left']

/-- A leaf that cannot be written stops, and is not handed. -/
theorem hand_cons_of_not_isWritable (h : leaf.value.isWritable = false) :
    hand filler context (leaf :: rest) s = ⟨[], s, true⟩ := by
  have hone : handOne filler context leaf s = ⟨[], s, true⟩ := by
    rw [handOne, Value.render_of_not_isWritable h]
  rw [hand, hone, Handing.followedBy_of_stopped rfl]

theorem hand_cons_of_clears (h : Clears filler context leaf s) : hand filler context (leaf :: rest) s =
    (hand filler context rest ((filler leaf.text).run s).2).behind [leaf.text] := by
  obtain ⟨stopped, hone, hstopped⟩ := handOne_of_isWritable h.writable
  rw [hand, hone, Handing.followedBy_of_not_stopped (hstopped.2 h)]

theorem hand_cons_of_not_clears (hwritable : leaf.value.isWritable = true)
    (h : ¬ Clears filler context leaf s) :
    hand filler context (leaf :: rest) s = ⟨[leaf.text], ((filler leaf.text).run s).2, true⟩ := by
  obtain ⟨stopped, hone, hstopped⟩ := handOne_of_isWritable hwritable
  obtain rfl : stopped = true := by rwa [← hstopped, Bool.not_eq_false] at h
  rw [hand, hone, Handing.followedBy_of_stopped rfl]

/-- What is handed first: the leaf and then the rest, or only the leaf, or nothing at all. -/
theorem hand_cons_cases (filler : Filler σ ε) (context : Value) (leaf : TemplateLeaf)
    (rest : List TemplateLeaf) (s : σ) :
    (Clears filler context leaf s ∧ hand filler context (leaf :: rest) s =
        (hand filler context rest ((filler leaf.text).run s).2).behind [leaf.text]) ∨
      (leaf.value.isWritable = true ∧ ¬ Clears filler context leaf s ∧
        hand filler context (leaf :: rest) s = ⟨[leaf.text], ((filler leaf.text).run s).2, true⟩) ∨
      (leaf.value.isWritable = false ∧ hand filler context (leaf :: rest) s = ⟨[], s, true⟩) := by
  by_cases hclears : Clears filler context leaf s
  · exact .inl ⟨hclears, hand_cons_of_clears hclears⟩
  · cases hwritable : leaf.value.isWritable with
    | true => exact .inr (.inl ⟨rfl, hclears, hand_cons_of_not_clears hwritable hclears⟩)
    | false => exact .inr (.inr ⟨rfl, hand_cons_of_not_isWritable hwritable⟩)

/-- What is handed are the first of the leaves. -/
theorem texts_hand_prefix (xs : List TemplateLeaf) (s : σ) :
    (hand filler context xs s).texts <+: xs.map TemplateLeaf.text := by
  induction xs generalizing s with
  | nil => exact List.nil_prefix
  | cons leaf rest ih =>
    obtain ⟨-, hhand⟩ | ⟨-, -, hhand⟩ | ⟨-, hhand⟩ := hand_cons_cases filler context leaf rest s <;>
      rw [hhand]
    · exact (List.prefix_cons_inj leaf.text).2 (ih _)
    · exact (List.prefix_cons_inj leaf.text).2 List.nil_prefix
    · exact List.nil_prefix

/-- **All leaves are handed if and only if none but the last stops.** -/
theorem texts_hand_eq_iff : (hand filler context xs s).texts = xs.map TemplateLeaf.text ↔
    Unhindered filler context xs s := by
  induction xs generalizing s with
  | nil => exact ⟨fun _ => .nil, fun _ => rfl⟩
  | cons leaf rest ih =>
    obtain ⟨h, hhand⟩ | ⟨hwritable, h, hhand⟩ | ⟨hwritable, hhand⟩ :=
        hand_cons_cases filler context leaf rest s <;> rw [hhand]
    · constructor
      · intro htexts
        exact .next h (ih.1 (List.cons.inj htexts).2)
      · intro hrest
        cases hrest with
        | last _ => rfl
        | next _ hrest => exact congrArg (leaf.text :: ·) (ih.2 hrest)
    · constructor
      · intro htexts
        rw [List.map_eq_nil_iff.1 (List.cons.inj htexts).2.symm]
        exact .last hwritable
      · intro hrest
        cases hrest with
        | last _ => rfl
        | next hclears _ => exact absurd hclears h
    · refine iff_of_false (List.cons_ne_nil _ _).symm fun hrest => ?_
      cases hrest with
      | last hlast => exact Bool.false_ne_true (hwritable.symm.trans hlast)
      | next hclears _ => exact Bool.false_ne_true (hwritable.symm.trans hclears.writable)

/-- The filler ends up in a state that depends on nothing but what it was handed. -/
theorem state_hand (xs : List TemplateLeaf) (s : σ) :
    (hand filler context xs s).state = filler.after (hand filler context xs s).texts s := by
  induction xs generalizing s with
  | nil => rfl
  | cons leaf rest ih =>
    obtain ⟨-, hhand⟩ | ⟨-, -, hhand⟩ | ⟨-, hhand⟩ := hand_cons_cases filler context leaf rest s <;>
      rw [hhand]
    · exact ih _
    · rfl
    · rfl

/-- Writing down changes nothing but what is written down. -/
theorem hand_recorded (xs : List TemplateLeaf) (s : σ) (log : List Text) :
    (hand filler.recorded context xs (s, log)).state =
      ((hand filler context xs s).state, log ++ (hand filler context xs s).texts) := by
  induction xs generalizing s log with
  | nil => exact congrArg (Prod.mk s) (List.append_nil log).symm
  | cons leaf rest ih =>
    obtain ⟨h, hhand⟩ | ⟨hwritable, h, hhand⟩ | ⟨hwritable, hhand⟩ :=
        hand_cons_cases filler context leaf rest s <;> rw [hhand]
    · have hrecorded : Clears filler.recorded context leaf (s, log) := ⟨h.writable, h.legible⟩
      rw [hand_cons_of_clears hrecorded]
      refine (ih _ _).trans ?_
      simp [Handing.behind]
    · have hrecorded : ¬ Clears filler.recorded context leaf (s, log) :=
        fun hclears => h ⟨hwritable, hclears.legible⟩
      rw [hand_cons_of_not_clears hwritable hrecorded]
      rfl
    · rw [hand_cons_of_not_isWritable hwritable, List.append_nil]

theorem unhindered_of_serves (hcontext : context.isWritable = true)
    (h : ∀ leaf ∈ xs, leaf.value.isWritable = true ∧ filler.Serves Modest leaf.text) (s : σ) :
    Unhindered filler context xs s := by
  induction xs generalizing s with
  | nil => exact .nil
  | cons leaf rest ih =>
    refine .next ?_ (ih (fun leaf hleaf => h leaf (List.mem_cons_of_mem _ hleaf)) _)
    obtain ⟨hwritable, hserves⟩ := h leaf List.mem_cons_self
    obtain ⟨filled, s', hrun, hmodest⟩ := hserves s
    exact ⟨hwritable, filled, congrArg Prod.fst hrun, hmodest.legible hcontext leaf.lowered⟩

end Hand

/-! ## Calls -/

/-- The leaves of a response, those of the headers first. -/
def ResponseSpec.leaves (response : ResponseSpec) : List TemplateLeaf :=
  (memberScalars response.headers).map (.mk true) ++ (scalars response.data).map (.mk false)

def Contract.stateAfter (contract : Contract) (runtime : Predicate.Runtime) (filler : Filler σ ε)
    (incoming : IncomingRequest) (now : Double) (s : Session σ) : σ :=
  ((contract.respond runtime filler incoming now).run s).2.filler

def Contract.handed (contract : Contract) (runtime : Predicate.Runtime) (filler : Filler σ ε)
    (incoming : IncomingRequest) (now : Double) (s : Session σ) : List Text :=
  (contract.stateAfter runtime filler.recorded incoming now ⟨(s.filler, []), s.chance⟩).2

section Calls
variable {contract : Contract} {runtime : Predicate.Runtime} {incoming : IncomingRequest}
  {now : Double} {called : Context} {i : Nat}

/-- **A call hands the leaves of the response that is selected.** -/
theorem ends_respond (h : contract.Selects runtime incoming now called i) :
    Ends filler called.value (contract.respond runtime filler incoming now)
      (contract.responseAt i).leaves := by
  obtain ⟨hbuild, scope, hscope, hfirst⟩ := h
  unfold Contract.respond renderHeaders renderContent
  simp only [hbuild, hscope, selectCase_of_firstFires hfirst, settle_ok, pure_bind]
  refine ((follows_fillMembers fun m _ => follows_fill m.2).map _).bind_ends fun headers => ?_
  have hdata : Ends filler called.value
      (fill (expandLeaf filler called.value false) (contract.responseAt i).data)
      ((scalars (contract.responseAt i).data).map (.mk false)) := (follows_fill _).ends
  refine (hdata.bind (ends_finishData _)).bind fun content => ?_
  exact (ends_settle _).bind fun strings => fun _ => rfl

theorem stateAfter_eq (h : contract.Selects runtime incoming now called i) (s : Session σ) :
    contract.stateAfter runtime filler incoming now s =
      (hand filler called.value (contract.responseAt i).leaves s.filler).state :=
  ends_respond h s

theorem handed_eq (h : contract.Selects runtime incoming now called i) (s : Session σ) :
    contract.handed runtime filler incoming now s =
      (hand filler called.value (contract.responseAt i).leaves s.filler).texts := by
  rw [Contract.handed, stateAfter_eq h, hand_recorded]
  rfl

/-- **A filler is handed the leaves of the response and nothing of the call.** In two calls that get
the same response it is handed all leaves if and only if none but the last stops: each of them can be
written, and each time the filler gives a text with no placeholder that leads to an item of a list by an
index of too many digits, nor to an integer of too many. In any case it is handed the first of them in
order, and its state depends on nothing but how many these are. It is handed all of them if no integer
of the response or of the two calls has too many digits. -/
theorem Contract.handed_alike_iff {source : Option String} {document : Value}
    (hload : Contract.ofValue source document = .ok contract) (runtime : Predicate.Runtime) :
    (∀ incoming now, ∃ context i, contract.Selects runtime incoming now context i) ∧
    ∀ incoming incoming' now now' context context' i,
      contract.Selects runtime incoming now context i →
      contract.Selects runtime incoming' now' context' i →
      ∀ (filler : Filler σ ε) (s s' : Session σ), s.filler = s'.filler →
        let leaves := (contract.responseAt i).leaves
        let texts := leaves.map TemplateLeaf.text
        let handed := contract.handed runtime filler incoming now s
        let handed' := contract.handed runtime filler incoming' now' s'
        (handed = texts ∧ handed' = texts ↔ Unhindered filler context.value leaves s.filler ∧
          Unhindered filler context'.value leaves s.filler) ∧
        handed <+: texts ∧ handed' <+: texts ∧
        (handed = handed' → contract.stateAfter runtime filler incoming now s =
          contract.stateAfter runtime filler incoming' now' s') ∧
        ((∀ leaf ∈ leaves, leaf.value.isWritable = true ∧ filler.Serves Modest leaf.text) →
          context.value.isWritable = true → context'.value.isWritable = true →
          handed = texts ∧ handed' = texts) := by
  refine ⟨Contract.exists_selects hload runtime,
    fun incoming incoming' now now' context context' i h h' filler s s' hs => ?_⟩
  intro leaves texts handed handed'
  have hhanded : handed = (hand filler context.value leaves s.filler).texts := handed_eq h s
  have hhanded' : handed' = (hand filler context'.value leaves s.filler).texts := by
    rw [hs]
    exact handed_eq h' s'
  have hall : handed = texts ↔ Unhindered filler context.value leaves s.filler := by
    rw [hhanded, texts_hand_eq_iff]
  have hall' : handed' = texts ↔ Unhindered filler context'.value leaves s.filler := by
    rw [hhanded', texts_hand_eq_iff]
  refine ⟨and_congr hall hall', ?_, ?_, fun hsame => ?_, fun hserves hcontext hcontext' => ?_⟩
  · rw [hhanded]
    exact texts_hand_prefix leaves s.filler
  · rw [hhanded']
    exact texts_hand_prefix leaves s.filler
  · rw [stateAfter_eq h, stateAfter_eq h', state_hand, state_hand, ← hs, ← hhanded, ← hhanded', hsame]
  · exact ⟨hall.2 (unhindered_of_serves hcontext hserves _),
      hall'.2 (unhindered_of_serves hcontext' hserves _)⟩

/-- A case that always fires, with null, a text and a number among its leaves, and calls one of which
has a list where the other one has a text. -/
theorem Contract.handed_alike_iff_case :
    let template : Value := .list [.null, .object [("b", .text "\x7b\x7bword\x7d\x7d")], .int 7]
    let document : Value := .object [
      ("request", .object [("route", .text "/books"), ("method", .text "get")]),
      ("response", .object [("code", .int 200)]),
      ("except", .object [("Always", .object [("validate", .list [.text "query"]),
        ("response", .object [("code", .int 400), ("headers", .object [("X-Id", .text "{query.a.0}")]),
          ("data", template)])])])]
    let contract : Contract := {
      request := ⟨"/books", .get, [], .none, .empty⟩
      response := ⟨200, [], .null, none⟩
      cases := [⟨"Always", [⟨"query", .name "query", rfl⟩],
        ⟨400, [("X-Id", .text "{query.a.0}")], template, none⟩⟩] }
    let filler : Filler Nat Empty := fun text n => (.ok text, n + 1)
    let one : IncomingRequest := ⟨[], [("a", .text "\x7b\x7bword\x7d\x7d")], [], .null⟩
    let many : IncomingRequest := ⟨[], [("a", .list [.text "x"])], [], .text "y"⟩
    let session : Session Nat := ⟨0, .ofDraws []⟩
    let texts : List Text := ["{query.a.0}", "\x7b\x7bword\x7d\x7d", "7"]
    Contract.ofValue none document = .ok contract ∧
      (∃ context context', contract.Selects .standard one .nan context 0 ∧
        contract.Selects .standard many .nan context' 0) ∧
      contract.handed .standard filler one .nan session = texts ∧
      contract.handed .standard filler many .nan session = texts ∧
      contract.stateAfter .standard filler one .nan session =
        contract.stateAfter .standard filler many .nan session := by
  intro template document contract filler one many session texts
  have hload : Contract.ofValue none document = .ok contract := rfl
  have hselects : ∀ incoming : IncomingRequest, incoming.Writable → ∃ context,
      contract.Selects .standard incoming .nan context 0 ∧ context.value.isWritable = true := by
    intro incoming hincoming
    obtain ⟨context, hbuild, hfolded, -, hwritable⟩ :=
      Context.exists_build (Contract.fits_of_ofValue hload).headers incoming .nan
    obtain ⟨scope, hscope⟩ := Context.exists_scope hfolded .standard
    obtain ⟨headers, hheaders, hmade⟩ := ok_of_bind hscope
    cases hmade
    refine ⟨context, ⟨hbuild, _, hscope, .here ⟨_, List.mem_cons_self, fun d hd => ?_⟩⟩,
      hwritable ⟨rfl, rfl, rfl⟩ hincoming⟩
    cases hd
    exact ⟨nofun, nofun⟩
  obtain ⟨context, hone, hcontext⟩ := hselects one ⟨rfl, rfl, rfl, rfl⟩
  obtain ⟨context', hmany, hcontext'⟩ := hselects many ⟨rfl, rfl, rfl, rfl⟩
  have hleaves : ∀ leaf ∈ (contract.responseAt 0).leaves,
      leaf.value.isWritable = true ∧ Modest leaf.text := by decide +kernel
  obtain ⟨-, -, -, hstate, hhanded⟩ := (Contract.handed_alike_iff hload .standard).2 one many .nan .nan
    context context' 0 hone hmany filler session session rfl
  have hserves : ∀ leaf ∈ (contract.responseAt 0).leaves,
      leaf.value.isWritable = true ∧ filler.Serves Modest leaf.text := fun leaf hleaf =>
    ⟨(hleaves leaf hleaf).1, fun n => ⟨leaf.text, n + 1, rfl, (hleaves leaf hleaf).2⟩⟩
  obtain ⟨hfirst, hsecond⟩ := hhanded hserves hcontext hcontext'
  exact ⟨hload, ⟨context, context', hone, hmany⟩, hfirst, hsecond, hstate (hfirst.trans hsecond.symm)⟩

end Calls

/-! ## Indices of too many digits -/

/-- The text of a placeholder that leads to an item of what a call has for `a`. -/
def itemLeaf (index : Text) : Text :=
  (Placeholder.Piece.hole (Path.dotted ["query", "a", index])).source

/-- The data of a response that has such a placeholder in the first of two leaves. -/
def itemTemplate (index : Text) : Value := .list [.text (itemLeaf index), .text "{word}"]

def itemDocument (index : Text) : Value := .object [
  ("request", .object [("route", .text "/books"), ("method", .text "get")]),
  ("response", .object [("code", .int 200), ("data", itemTemplate index)])]

def callWith (v : Value) : IncomingRequest := ⟨[], [("a", v)], [], .null⟩

section Stops
variable {index : Text}

theorem names_itemLeaf (h : ∀ c ∈ index, isAsciiDigit c = true) :
    names (itemLeaf index) = [Path.dotted ["query", "a", index]] := by
  have hname : Path.dotted ["query", "a", index] = "query.a." ++ index := by
    simp [Path.dotted, Text.join, List.intercalate]
    rfl
  refine Placeholder.names_source (List.cons_ne_nil _ _) fun c hc => ?_
  rw [hname, List.mem_append] at hc
  obtain hc | hc := hc
  · revert c
    decide
  · exact Placeholder.isNameCode_of_isAsciiDigit (h c hc)

/-- The placeholder stands for what the context has for `a`, or for an item of it if it is a list. -/
theorem valueText?_item (h : ∀ c ∈ index, isAsciiDigit c = true) (hne : index ≠ [])
    (context : Value) : valueText? context false (Path.dotted ["query", "a", index]) = do
      let v ← Path.follow false ["query", "a", index] context
      if v.isNull then return none
      let text ← v.render
      return some text := by
  have hpoint : CodePoint.ofChar '.' ∉ index := fun hc => absurd (h _ hc) (by decide)
  let path : Path := ⟨["query", "a", index], List.cons_ne_nil _ _, by
    simpa using ⟨by decide, by decide, hne⟩⟩
  have hpoints : ∀ s ∈ path.segments, CodePoint.ofChar '.' ∉ s := by
    simpa [path] using ⟨by decide, by decide, hpoint⟩
  have hparse : Path.parse? (Path.dotted ["query", "a", index]) = some path :=
    Path.parse?_text hpoints
  rw [valueText?, if_neg Bool.false_ne_true, hparse]
  rfl

/-- A contract with the data, and the context of a call. -/
theorem exists_selects_item (index : Text) :
    ∃ contract, Contract.ofValue none (itemDocument index) = .ok contract ∧
      (contract.responseAt 0).leaves = [⟨false, .text (itemLeaf index)⟩, ⟨false, .text "{word}"⟩] ∧
      ∀ v, ∃ context, contract.Selects .standard (callWith v) .nan context 0 ∧
        context.query = (callWith v).query := by
  let contract : Contract :=
    ⟨⟨"/books", .get, [], .none, .empty⟩, ⟨200, [], itemTemplate index, none⟩, []⟩
  have hload : Contract.ofValue none (itemDocument index) = .ok contract := rfl
  refine ⟨contract, hload, rfl, fun v => ?_⟩
  obtain ⟨context, hbuild, hfolded, -⟩ := Context.exists_build
    (Contract.fits_of_ofValue hload).headers (callWith v) .nan
  obtain ⟨scope, hscope⟩ := Context.exists_scope hfolded .standard
  refine ⟨context, ⟨hbuild, scope, hscope, Nat.zero_le _, by simp, by simp [contract]⟩, ?_⟩
  cases hbuild
  rfl

section Clears
variable {called : Context}

theorem clears_of_text (h : ∀ c ∈ index, isAsciiDigit c = true) (hne : index ≠ [])
    (hquery : called.query = (callWith (.text "x")).query) :
    Clears (pure : Filler Unit Empty) called.value ⟨false, .text (itemLeaf index)⟩ () := by
  refine ⟨rfl, itemLeaf index, rfl, fun name hname => ?_⟩
  refine (Placeholder.exists_valueText?_iff (Placeholder.isNameCode_of_mem_names hname)).1 ⟨some "x", ?_⟩
  rw [names_itemLeaf h, List.mem_singleton] at hname
  rw [hname, valueText?_item h hne, Context.value, hquery]
  rfl

theorem not_clears_of_list (h : ∀ c ∈ index, isAsciiDigit c = true)
    (hlong : maxIntegerDigits < index.length)
    (hquery : called.query = (callWith (.list [.text "x"])).query) :
    ¬ Clears (pure : Filler Unit Empty) called.value ⟨false, .text (itemLeaf index)⟩ () := by
  have hne : index ≠ [] := List.ne_nil_of_length_pos (Nat.zero_lt_of_lt hlong)
  have hwild : index ≠ Path.wildcard := by
    rintro rfl
    exact absurd (h (.ofChar '*') List.mem_cons_self) (by decide)
  rintro ⟨-, filled, hfilled, hlegible⟩
  cases hfilled
  have hmem : Path.dotted ["query", "a", index] ∈ names (itemLeaf index) :=
    names_itemLeaf h ▸ List.mem_cons_self
  obtain ⟨value?, hvalue⟩ :=
    (Placeholder.exists_valueText?_iff (Placeholder.isNameCode_of_mem_names hmem)).2 (hlegible _ hmem)
  rw [valueText?_item h hne, Context.value, hquery] at hvalue
  change (Path.follow false [index] (.list [.text "x"]) >>= _) = _ at hvalue
  rw [Path.follow_child (fun _ _ => hwild), Path.child, Path.indexOf?_of_long h hlong] at hvalue
  cases hvalue

end Clears

/-- **An index of too many digits ends a call** that has a list where the index leads, and not a call
that has a text there. -/
theorem Contract.handed_at_long_index (h : ∀ c ∈ index, isAsciiDigit c = true)
    (hlong : maxIntegerDigits < index.length) :
    ∃ contract context context', Contract.ofValue none (itemDocument index) = .ok contract ∧
      contract.Selects .standard (callWith (.text "x")) .nan context 0 ∧
      contract.Selects .standard (callWith (.list [.text "x"])) .nan context' 0 ∧ ∀ session,
      contract.handed .standard (pure : Filler Unit Empty) (callWith (.text "x")) .nan session =
        [itemLeaf index, "{word}"] ∧
      contract.handed .standard (pure : Filler Unit Empty) (callWith (.list [.text "x"])) .nan session =
        [itemLeaf index] := by
  have hne : index ≠ [] := List.ne_nil_of_length_pos (Nat.zero_lt_of_lt hlong)
  obtain ⟨contract, hload, hleaves, hselects⟩ := exists_selects_item index
  obtain ⟨context, hone, hquery⟩ := hselects (.text "x")
  obtain ⟨context', hmany, hquery'⟩ := hselects (.list [.text "x"])
  refine ⟨contract, context, context', hload, hone, hmany, fun session => ⟨?_, ?_⟩⟩
  · rw [handed_eq hone, hleaves, hand_cons_of_clears (clears_of_text h hne hquery), hand_singleton]
    rfl
  · rw [handed_eq hmany, hleaves, hand_cons_of_not_clears rfl (not_clears_of_list h hlong hquery')]
    rfl

/-- One digit too many. -/
theorem Contract.handed_stops_at_long_index :
    let index : Text := List.replicate 4301 (.ofChar '1')
    ∃ contract context context', Contract.ofValue none (itemDocument index) = .ok contract ∧
      contract.Selects .standard (callWith (.text "x")) .nan context 0 ∧
      contract.Selects .standard (callWith (.list [.text "x"])) .nan context' 0 ∧ ∀ session,
      contract.handed .standard (pure : Filler Unit Empty) (callWith (.text "x")) .nan session =
        [itemLeaf index, "{word}"] ∧
      contract.handed .standard (pure : Filler Unit Empty) (callWith (.list [.text "x"])) .nan session =
        [itemLeaf index] := by
  refine Contract.handed_at_long_index (fun c hc => ?_) ?_
  · rw [List.eq_of_mem_replicate hc]
    decide
  · rw [List.length_replicate]
    exact Nat.lt_succ_self _

end Stops

end MockApi
