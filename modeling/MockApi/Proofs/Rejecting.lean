import MockApi.Contract.Rejection

/-!
# A rejection says what is wrong

A check that fails has found a problem, and so the rejection of a document is never without a message.

* `Checked.Explained result` : the result is no failure without a problem;
* `Checked.explained_bind`, `Checked.explained_both`, … : this is kept by every way in which checks are
  put together;
* `Contract.explained_ofMembers` : the check of a contract is explained;
* `Contract.errors_ne_nil_of_ofValue` : a rejection names its source and has a message.
-/

namespace MockApi

namespace Checked

variable {ρ α β γ : Type} {members : Members Value} {names : List String}

/-- The result is no failure without a problem. -/
def Explained (result : Checked ρ α) : Prop := result ≠ .error []

/-! ## Ways in which checks are put together -/

theorem explained_ok (a : α) : Explained (.ok a : Checked ρ α) := nofun

theorem explained_complain (complaint : Complaint ρ) :
    Explained (complain complaint : Checked ρ α) := nofun

theorem explained_breaks (broken : ρ) : Explained (breaks broken : Checked ρ α) := nofun

theorem explained_ofExcept {ε : Type} (broken : ε → ρ) (result : Except ε α) :
    Explained (ofExcept broken result) := by
  cases result with
  | ok a => exact explained_ok a
  | error e => exact explained_breaks (broken e)

theorem explained_bind {first : Checked ρ α} {next : α → Checked ρ β} (hfirst : Explained first)
    (hnext : ∀ a, Explained (next a)) : Explained (first >>= next) := by
  cases first with
  | ok a => exact hnext a
  | error problems =>
    intro h
    cases h
    exact hfirst rfl

theorem explained_map {result : Checked ρ α} (h : Explained result) (f : α → β) :
    Explained (result.map f) := by
  cases result with
  | ok a => exact explained_ok (f a)
  | error problems =>
    intro hmap
    cases hmap
    exact h rfl

theorem explained_within {result : Checked ρ α} (segment : Text) (h : Explained result) :
    Explained (within segment result) := by
  cases result with
  | ok a => exact explained_ok a
  | error problems =>
    intro hwithin
    have hnil := List.map_eq_nil_iff.1 (Except.error.inj hwithin)
    exact h (hnil ▸ rfl)

theorem explained_both {first : Checked ρ α} {second : Checked ρ β} (hfirst : Explained first)
    (hsecond : Explained second) : Explained (both first second) := by
  cases first with
  | ok a =>
    cases second with
    | ok b => exact explained_ok (a, b)
    | error problems =>
      intro h
      cases h
      exact hsecond rfl
  | error problems =>
    have hne : problems ≠ [] := fun hnil => hfirst (hnil ▸ rfl)
    cases second with
    | ok b =>
      intro h
      cases h
      exact hne rfl
    | error others =>
      intro h
      exact hne (List.append_eq_nil_iff.1 (Except.error.inj h)).1

theorem explained_each {f : α → Checked ρ β} (h : ∀ a, Explained (f a)) :
    ∀ as, Explained (each f as)
  | [] => explained_ok []
  | a :: as => explained_map (explained_both (h a) (explained_each h as)) _

theorem explained_mapM {f : α → Checked ρ β} (h : ∀ a, Explained (f a)) (as : List α) :
    Explained (as.mapM f) := by
  induction as with
  | nil => exact explained_ok []
  | cons a as ih =>
    rw [List.mapM_cons]
    exact explained_bind (h a) fun b => explained_bind ih fun bs => explained_ok (b :: bs)

/-! ## Checks of members -/

theorem explained_record (sort : String) (v : Value) :
    Explained (record sort v : Checked ρ (Members Value)) := by
  cases v with
  | object members => exact explained_ok members
  | _ => exact explained_complain _

theorem explained_wholeText (t : Text) : Explained (wholeText t : Checked ρ String) := by
  unfold wholeText
  split
  · exact explained_ok _
  · exact explained_complain _

theorem explained_text (v : Value) : Explained (text v : Checked ρ String) := by
  cases v with
  | text t => exact explained_wholeText t
  | _ => exact explained_complain _

theorem explained_entry (name : Text) {value : Checked ρ α} (h : Explained value) :
    Explained (entry name value) :=
  explained_within _ (explained_map (explained_both
    (explained_within _ (explained_wholeText name)) h) _)

theorem explained_entries (members : Members α) :
    Explained (entries members : Checked ρ (Members α)) :=
  explained_each (fun (name, a) => explained_entry name (explained_ok a)) members

theorem explained_required {f : Value → Checked ρ α} (h : ∀ v, Explained (f v)) :
    Explained (required members names f) := by
  unfold required
  split
  · exact explained_within _ (h _)
  · exact explained_within _ (explained_complain _)

theorem explained_optional {default : α} {f : Value → Checked ρ α} (h : ∀ v, Explained (f v)) :
    Explained (optional members names default f) := by
  unfold optional
  split
  · exact explained_within _ (h _)
  · exact explained_ok default

end Checked

open Checked

/-! ## Requests -/

theorem explained_routeOfValue (v : Value) : Explained (routeOfValue v) := by
  unfold routeOfValue
  split
  · split
    · exact explained_breaks _
    · exact explained_wholeText _
  · exact explained_breaks _

theorem HttpMethod.explained_ofValue (v : Value) : Explained (HttpMethod.ofValue v) := by
  unfold HttpMethod.ofValue
  split
  · split
    · exact explained_ok _
    · exact explained_breaks _
  · exact explained_breaks _

theorem explained_textsFrom (i : Nat) (items : List Value) : Explained (textsFrom i items) := by
  induction items generalizing i with
  | nil => exact explained_ok []
  | cons v items ih =>
    exact explained_map (explained_both (explained_within _ (explained_text v)) (ih (i + 1))) _

theorem explained_textsOfValue (v : Value) : Explained (textsOfValue v) := by
  cases v with
  | list items => exact explained_textsFrom 0 items
  | _ => exact explained_complain _

theorem QueryDefault.explained_ofValue (v : Value) : Explained (QueryDefault.ofValue v) := by
  unfold QueryDefault.ofValue
  split
  · exact explained_ok _
  · exact explained_ok _
  · exact explained_map (explained_both (explained_within _ (explained_text v))
      (explained_within _ (explained_textsOfValue v))) _

theorem explained_queryOfValue (v : Value) : Explained (queryOfValue v) := by
  cases v with
  | null => exact explained_ok []
  | object members =>
    exact explained_each (fun (name, v) => explained_entry name (QueryDefault.explained_ofValue v))
      members
  | _ => exact explained_breaks _

theorem Payload.explained_ofValue (v : Value) : Explained (Payload.ofValue v) := by
  unfold Payload.ofValue
  split
  · exact explained_ok _
  · split
    · exact explained_ok _
    · exact explained_map (explained_both (explained_within _ (explained_complain _))
        (explained_within _ (explained_wholeText _))) _
  · split
    · exact explained_ok _
    · exact explained_map (explained_both (explained_within _ (explained_entries _))
        (explained_within _ (explained_complain _))) _
  · exact explained_breaks _

theorem explained_foldedHeaders (v : Value) : Explained (foldedHeaders v) := by
  cases v with
  | null => exact explained_ok _
  | object members => exact explained_ofExcept _ _
  | _ => exact explained_breaks _

theorem explained_headersOfValue (v : Value) : Explained (headersOfValue v) :=
  explained_bind (explained_foldedHeaders v) fun headers =>
    explained_bind (explained_entries headers.members) fun _ => explained_ok headers

theorem RequestSpec.explained_ofValue (v : Value) : Explained (RequestSpec.ofValue v) :=
  explained_bind (explained_record _ v) fun _ => explained_bind
    (explained_both (explained_required explained_routeOfValue) <|
      explained_both (explained_required HttpMethod.explained_ofValue) <|
      explained_both (explained_optional explained_queryOfValue) <|
      explained_both (explained_optional Payload.explained_ofValue)
        (explained_optional explained_headersOfValue))
    fun _ => explained_ok _

/-! ## Responses -/

theorem explained_codeOfValue (v : Value) : Explained (codeOfValue v) := by
  unfold codeOfValue
  simp only
  split
  · exact explained_breaks _
  · split
    · exact explained_breaks _
    · split
      · exact explained_breaks _
      · exact explained_ok _

theorem explained_headerTemplatesOfValue (v : Value) : Explained (headerTemplatesOfValue v) := by
  refine explained_bind (explained_foldedHeaders v) fun _ => ?_
  simp only
  split
  · exact explained_breaks _
  · exact explained_entries _

theorem explained_pathOfText (text : Text) : Explained (pathOfText text) := by
  unfold pathOfText
  split
  · exact explained_ok _
  · exact explained_breaks _

theorem CastKind.explained_ofValue (v : Value) : Explained (CastKind.ofValue v) := by
  unfold CastKind.ofValue
  split
  · split
    · exact explained_ok _
    · exact explained_breaks _
  · exact explained_breaks _

theorem explained_castsOfValue (v : Value) : Explained (castsOfValue v) := by
  cases v with
  | null => exact explained_ok []
  | object members =>
    exact explained_bind
      (explained_mapM (fun (text, v) => explained_map (explained_pathOfText text) _) members)
      (explained_each fun (text, path, v) =>
        explained_map (explained_entry text (CastKind.explained_ofValue v)) _)
  | _ => exact explained_breaks _

theorem explained_repetitionOfValue (v : Value) : Explained (repetitionOfValue v) := by
  cases v with
  | null => exact explained_ok none
  | text s => exact explained_map (explained_wholeText s) some
  | _ => exact explained_breaks _

theorem Metadata.explained_ofValue (v : Value) : Explained (Metadata.ofValue v) :=
  explained_bind (explained_record _ v) fun _ => explained_bind
    (explained_both (explained_optional explained_castsOfValue)
      (explained_optional explained_repetitionOfValue))
    fun _ => explained_ok _

theorem explained_metadataOfValue (v : Value) : Explained (metadataOfValue v) := by
  unfold metadataOfValue
  split
  · exact explained_ok none
  · exact explained_map (Metadata.explained_ofValue v) some

theorem explained_checkRepetition (data : Value) (formula : String) :
    Explained (checkRepetition data formula) := by
  cases data with
  | list items => exact explained_map (explained_ofExcept _ _) _
  | _ => exact explained_breaks _

theorem explained_checkCasts (data : Value) (casts : List (Path × CastKind)) :
    Explained (checkCasts data casts) := by
  induction casts with
  | nil => exact explained_ok ()
  | cons c casts ih =>
    refine explained_bind (explained_ofExcept _ _) fun found => ?_
    split
    · exact ih
    · exact explained_breaks _

theorem explained_checkMetadata (data : Value) (m : Metadata) : Explained (checkMetadata data m) := by
  have hcasts : Explained (if m.casts.isEmpty then (return () : Judged Unit)
      else if data.isContainer then checkCasts data m.casts
      else Checked.breaks .castsNoContainer) := by
    split
    · exact explained_ok ()
    · split
      · exact explained_checkCasts data m.casts
      · exact explained_breaks _
  unfold checkMetadata
  cases m.repetition with
  | none => exact hcasts
  | some formula => exact explained_bind (explained_checkRepetition data formula) fun _ => hcasts

theorem ResponseSpec.explained_ofValue (v : Value) : Explained (ResponseSpec.ofValue v) := by
  refine explained_bind (explained_record _ v) fun _ => explained_bind
    (explained_both (explained_required explained_codeOfValue) <|
      explained_both (explained_optional explained_headerTemplatesOfValue) <|
      explained_both (explained_optional explained_ok)
        (explained_optional explained_metadataOfValue))
    fun (code, headers, data, metadata) => ?_
  cases metadata with
  | none => exact explained_ok _
  | some m => exact explained_bind (explained_checkMetadata data m) fun _ => explained_ok _

/-! ## Cases and contracts -/

theorem explained_predicatesFrom (i : Nat) (items : List Value) :
    Explained (predicatesFrom i items) := by
  induction items generalizing i with
  | nil => exact explained_ok []
  | cons v items ih =>
    cases v with
    | text source =>
      exact explained_bind (explained_ofExcept _ _) fun p =>
        explained_bind (ih (i + 1)) fun ps => explained_ok (p :: ps)
    | _ => exact explained_breaks _

theorem explained_predicatesOfValue (v : Value) : Explained (predicatesOfValue v) := by
  unfold predicatesOfValue
  split
  · exact explained_complain _
  · exact explained_predicatesFrom 0 _
  · exact explained_breaks _

theorem ExceptCase.explained_ofValue (v : Value) : Explained (ExceptCase.ofValue v) :=
  explained_bind (explained_record _ v) fun _ => explained_bind
    (explained_both (explained_required explained_text) <|
      explained_both (explained_required explained_predicatesOfValue)
        (explained_required ResponseSpec.explained_ofValue))
    fun _ => explained_ok _

theorem explained_casesFrom (byName : Bool) (i : Nat) (members : Members Value) :
    Explained (casesFrom byName i members) := by
  induction members generalizing i with
  | nil => exact explained_ok []
  | cons member members ih =>
    exact explained_map (explained_both (explained_within _ (ExceptCase.explained_ofValue _))
      (ih (i + 1))) _

theorem explained_casesOfValue (byName : Bool) (v : Value) : Explained (casesOfValue byName v) := by
  cases v with
  | null => exact explained_ok []
  | object members => exact explained_casesFrom byName 0 members
  | _ => exact explained_breaks _

/-- **The check of a contract is explained**: it gives the contract or at least one problem. -/
theorem Contract.explained_ofMembers (members : Members Value) :
    Explained (Contract.ofMembers members) :=
  explained_bind
    (explained_both (explained_required RequestSpec.explained_ofValue) <|
      explained_both (explained_required ResponseSpec.explained_ofValue)
        (explained_optional (explained_casesOfValue _)))
    fun _ => explained_ok _

/-- **A rejection names its source and has a message.** -/
theorem Contract.errors_ne_nil_of_ofValue {source : Option String} {v : Value} {r : Rejection}
    (h : Contract.ofValue source v = .error r) : r.source = source ∧ r.errors ≠ [] := by
  cases v with
  | object members =>
    have hexplained := explained_ofMembers members
    rw [Contract.ofValue] at h
    cases hparts : Contract.ofMembers members with
    | ok contract =>
      rw [hparts] at h
      cases h
    | error problems =>
      rw [hparts] at h hexplained
      cases h
      refine ⟨rfl, fun hnil => hexplained ?_⟩
      rw [List.map_eq_nil_iff.1 hnil]
  | _ =>
    cases h
    exact ⟨rfl, List.cons_ne_nil _ _⟩

end MockApi
