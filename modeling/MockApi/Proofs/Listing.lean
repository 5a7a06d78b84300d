import MockApi.Proofs.Filling
import MockApi.Proofs.Wholeness

/-!
# Listed blanks

A listing shows each formatter of a provider as a blank, with a sample. A blank is read through the aliases
and in snake case, so what is listed is not always read back as the formatter that it was listed for.

* `Text.joinWith_split`, `cutAtLastPoint_append` : a blank is cut into its group and its name;
* `snakeCase_eq_self_iff` : the names that snake case leaves as they are;
* `aliasTarget`, `ReadsBack` : when a blank is read back as the formatter of its name;
* `resolve?_eq_some_iff` : a blank made of a group and a name is resolved to the name exactly then;
* `Listed` : what a row of a listing is;
* `listed_usable_iff` : every row is one of a provider's formatters, and it can be used as it is listed
  exactly if it is read back;
* `listed_words_unusable` : a row that cannot.
-/

namespace MockApi

open Template (Gives gives_bind gives_pure)

namespace Text

variable {α : Type} [DecidableEq α]

/-! ## Cutting and joining -/

theorem fields_append_separator (separator : α) (before after : List α) :
    fields separator (before ++ separator :: after) =
      fields separator before ++ fields separator after := by
  induction before with
  | nil => simp [fields]
  | cons c before ih =>
    by_cases hc : c = separator
    · simp [fields, hc, ih]
    · cases hfields : fields separator before with
      | nil => exact absurd hfields (fields_ne_nil separator before)
      | cons piece rest => simp [fields, hc, ih, hfields]

theorem fields_of_not_mem {separator : α} {text : List α} (h : separator ∉ text) :
    fields separator text = [text] := by
  induction text with
  | nil => rfl
  | cons c text ih =>
    rw [List.mem_cons, not_or] at h
    simp [fields, Ne.symm h.1, ih h.2]

theorem joinWith_cons {separator piece : String} {rest : List String} (h : rest ≠ []) :
    joinWith separator (piece :: rest) = piece ++ separator ++ joinWith separator rest := by
  cases rest with
  | nil => exact absurd rfl h
  | cons other rest => rfl

/-- The pieces of a text are joined to the text again. -/
theorem joinWith_split (separator : Char) (s : String) :
    joinWith (String.singleton separator) (split separator s) = s := by
  have hchars (cs : List Char) : joinWith (String.singleton separator)
      ((fields separator cs).map String.ofList) = String.ofList cs := by
    induction cs with
    | nil => rfl
    | cons c cs ih =>
      have hne := fields_ne_nil separator cs
      by_cases hc : c = separator
      · rw [fields, if_pos hc, List.map_cons, joinWith_cons (by simpa using hne), ih, hc]
        apply String.toList_injective
        simp
      · cases hfields : fields separator cs with
        | nil => exact absurd hfields hne
        | cons piece rest =>
          rw [hfields] at ih
          simp only [fields, if_neg hc, hfields, List.map_cons] at ih ⊢
          cases rest with
          | nil =>
            apply String.toList_injective
            simpa [joinWith] using congrArg String.toList ih
          | cons other rest =>
            apply String.toList_injective
            simpa [joinWith] using congrArg String.toList ih
  rw [split, hchars, String.ofList_toList]

end Text

theorem cutAtLastPoint_append (s : String) {t : String} (h : '.' ∉ t.toList) :
    cutAtLastPoint (s ++ "." ++ t) = (s, t) := by
  have hsplit : Text.split '.' (s ++ "." ++ t) = Text.split '.' s ++ [t] := by
    simp only [Text.split, String.toList_append]
    rw [show ".".toList = ['.'] from rfl, List.append_assoc, List.singleton_append,
      Text.fields_append_separator, Text.fields_of_not_mem h]
    simp
  unfold cutAtLastPoint
  simp only [hsplit, List.dropLast_concat, List.getLast?_concat, Option.getD_some]
  rw [show "." = String.singleton '.' from rfl, Text.joinWith_split]

/-! ## Snake case -/

theorem not_isLowered_of_isUpper {c : Char} (h : c.isUpper = true) : ¬ Text.IsLowered c := by
  rintro ⟨-, hlower⟩
  have hrange : 0x41 ≤ c.toNat ∧ c.toNat ≤ 0x5A := of_decide_eq_true h
  have hascii : c.toNat < 0x80 := by omega
  rw [Text.lowerCode, CodePoint.toNat_ofChar, if_pos hascii, if_pos hrange] at hlower
  have hnumber := congrArg CodePoint.toNat (List.singleton_inj.1 hlower)
  rw [Text.toNat_ofNat (by omega), CodePoint.toNat_ofChar] at hnumber
  omega

theorem underscored_of_isLowered {cs : List Char} (h : ∀ c ∈ cs, Text.IsLowered (.ofChar c))
    (first : Bool) : underscored first cs = cs := by
  induction cs generalizing first with
  | nil => rfl
  | cons c cs ih =>
    have hc : c.isUpper = false :=
      Bool.eq_false_iff.2 fun hupper => not_isLowered_of_isUpper hupper (h c List.mem_cons_self)
    rw [underscored, hc, ih fun d hd => h d (List.mem_cons_of_mem c hd)]
    rfl

def LowerCased (name : String) : Prop := ∀ c ∈ Text.ofString name, Text.IsLowered c

theorem ofString_lowerString (s : String) :
    Text.ofString (Text.lowerString s) = Text.lower (Text.ofString s) :=
  Text.ofString_lossy (Text.whole_ofString s).lower

theorem lowerCased_lowerString (s : String) : LowerCased (Text.lowerString s) := by
  intro c hc
  rw [ofString_lowerString] at hc
  exact Text.isLowered_of_mem_lowerFrom hc

theorem lowerString_eq_self_iff {s : String} : Text.lowerString s = s ↔ LowerCased s := by
  constructor
  · intro h
    exact h ▸ lowerCased_lowerString s
  · intro h
    apply Text.ofString_injective
    rw [ofString_lowerString]
    exact Text.lowerFrom_of_isLowered h []

theorem lowerCased_snakeCase (s : String) : LowerCased (snakeCase s) := lowerCased_lowerString _

theorem snakeCase_of_lowerCased {s : String} (h : LowerCased s) : snakeCase s = s := by
  have hchars : ∀ c ∈ s.toList, Text.IsLowered (.ofChar c) := fun c hc =>
    h (.ofChar c) (List.mem_map_of_mem hc)
  rw [snakeCase, underscored_of_isLowered hchars, String.ofList_toList]
  exact lowerString_eq_self_iff.2 h

/-- **Snake case leaves exactly the names in lower case as they are.** -/
theorem snakeCase_eq_self_iff {s : String} : snakeCase s = s ↔ Text.lowerString s = s := by
  rw [lowerString_eq_self_iff]
  exact ⟨fun h => h ▸ lowerCased_snakeCase s, snakeCase_of_lowerCased⟩

/-! ## What a blank is resolved to -/

/-- The formatter that the aliases give for a blank, or the empty name. -/
def aliasTarget (blank : String) : String :=
  (formatterAliases.lookup (Text.lowerString blank)).getD ""

/-- A blank made of a group and the name of a formatter is read back as that formatter: by an alias, or
because no alias gives another formatter and the name is in lower case. -/
def ReadsBack (providers : List Provider) (blank name : String) : Prop :=
  aliasTarget blank = name ∨
    (aliasTarget blank ∉ formatterNames providers ∧ Text.lowerString name = name)

instance (providers : List Provider) (blank name : String) :
    Decidable (ReadsBack providers blank name) :=
  inferInstanceAs (Decidable (_ ∨ _))

variable {providers : List Provider} {blank group name : String}

theorem candidates_eq (blank : String) : ∃ others, candidates blank =
    aliasTarget blank :: snakeCase (cutAtLastPoint blank).2 :: others ∧
      ∀ candidate ∈ others, LowerCased candidate := by
  unfold candidates
  by_cases hempty : (cutAtLastPoint blank).1.isEmpty = true
  · exact ⟨[], if_pos hempty, nofun⟩
  · refine ⟨_, if_neg hempty, ?_⟩
    intro candidate hcandidate
    obtain rfl | hcandidate := List.mem_cons.1 hcandidate
    · intro c hc
      simp only [Text.ofString_append, List.mem_append] at hc
      obtain (hc | hc) | hc := hc
      · exact lowerCased_snakeCase _ c hc
      · obtain rfl : c = .ofChar '_' := List.mem_singleton.1 hc
        exact ⟨by decide, by decide⟩
      · exact lowerCased_snakeCase _ c hc
    · obtain rfl := List.mem_singleton.1 hcandidate
      exact lowerCased_snakeCase _

/-- A blank is resolved to its alias if that can be called. -/
theorem resolve?_of_alias (h : aliasTarget blank ∈ formatterNames providers) :
    resolve? providers blank = some (aliasTarget blank) := by
  obtain ⟨others, hcandidates, -⟩ := candidates_eq blank
  rw [resolve?, hcandidates, List.find?_cons_of_pos (List.contains_iff_mem.2 h)]

/-- What is resolved to a name is read back as that name. -/
theorem readsBack_of_resolve? (h : resolve? providers blank = some name) :
    ReadsBack providers blank name := by
  by_cases halias : aliasTarget blank ∈ formatterNames providers
  · rw [resolve?_of_alias halias] at h
    exact .inl (Option.some.inj h)
  · obtain ⟨others, hcandidates, hothers⟩ := candidates_eq blank
    refine .inr ⟨halias, lowerString_eq_self_iff.2 ?_⟩
    rw [resolve?, hcandidates,
      List.find?_cons_of_neg (fun hmem => halias (List.contains_iff_mem.1 hmem))] at h
    obtain rfl | hmem := List.mem_cons.1 (List.mem_of_find?_eq_some h)
    · exact lowerCased_snakeCase _
    · exact hothers name hmem

/-- **A blank is resolved to the name behind its last point exactly if it is read back as that.** -/
theorem resolve?_eq_some_iff (hcut : (cutAtLastPoint blank).2 = name)
    (hname : name ∈ formatterNames providers) :
    resolve? providers blank = some name ↔ ReadsBack providers blank name := by
  refine ⟨readsBack_of_resolve?, fun h => ?_⟩
  by_cases halias : aliasTarget blank ∈ formatterNames providers
  · obtain heq | ⟨hnone, -⟩ := h
    · rw [resolve?_of_alias halias, heq]
    · exact absurd halias hnone
  · have hne : aliasTarget blank ≠ name := by
      rintro rfl
      exact halias hname
    have hlower := (h.resolve_left hne).2
    obtain ⟨others, hcandidates, -⟩ := candidates_eq blank
    rw [resolve?, hcandidates, hcut, snakeCase_eq_self_iff.2 hlower,
      List.find?_cons_of_neg (fun hmem => halias (List.contains_iff_mem.1 hmem)),
      List.find?_cons_of_pos (List.contains_iff_mem.2 hname)]

/-! ## Listings -/

section Listings
variable {σ : Type} {source : SampleSource σ} {s s' : σ}

/-- The text of a fresh sample of a name. -/
def SampleText (source : SampleSource σ) (name : String) (text : Text) : Prop :=
  ∃ s sample s', (source.call name).run s = (.ok sample, s') ∧ sample.render = .ok text

/-- A row of a listing of a category: the group of a provider and one of its names that can be called,
with the text of a sample that was called under this name. -/
structure Listed (source : SampleSource σ) (category : String) (row : String × String)
    (p : Provider) (name : String) : Prop where
  provider : p ∈ source.providers
  category : category = everyCategory ∨ p.group = category
  declared : name ∈ p.attributes.map Prod.fst
  permitted : Permitted source.providers name
  blank : row.1 = p.group ++ "." ++ name
  sample : ∃ text, SampleText source name text ∧ row.2 = text.lossy

theorem sampleText_of_sampleText? {text : Text}
    (h : Gives (source.sampleText? name) s (some text) s') : SampleText source name text := by
  rw [Gives, run_sampleText?] at h
  split at h
  · next sample s₁ hcall =>
    split at h
    · next text' htext =>
      cases h
      exact ⟨s, sample, s', hcall, htext⟩
    · split_ifs at h <;> cases h
  · split_ifs at h <;> cases h

theorem exists_of_mem_listNames {names : List String} {rows : List (String × String)}
    (h : Gives (listNames source group names) s rows s') {row : String × String} (hrow : row ∈ rows) :
    ∃ name ∈ names, row.1 = group ++ "." ++ name ∧
      ∃ text, SampleText source name text ∧ row.2 = text.lossy := by
  induction names generalizing s s' rows with
  | nil =>
    obtain ⟨rfl, -⟩ := gives_pure.1 h
    cases hrow
  | cons name names ih =>
    obtain ⟨text?, s₁, hsample, h⟩ := gives_bind.1 h
    obtain ⟨more, s₂, hmore, h⟩ := gives_bind.1 h
    have hbehind (hrow : row ∈ more) : ∃ name' ∈ name :: names, row.1 = group ++ "." ++ name' ∧
        ∃ text, SampleText source name' text ∧ row.2 = text.lossy := by
      obtain ⟨name', hname', hrest⟩ := ih hmore hrow
      exact ⟨name', List.mem_cons_of_mem name hname', hrest⟩
    cases text? with
    | none =>
      obtain ⟨rfl, -⟩ := gives_pure.1 h
      exact hbehind hrow
    | some text =>
      obtain ⟨rfl, -⟩ := gives_pure.1 h
      obtain rfl | hrow := List.mem_cons.1 hrow
      · exact ⟨name, List.mem_cons_self, rfl, text, sampleText_of_sampleText? hsample, rfl⟩
      · exact hbehind hrow

/-- The names of a provider that a listing shows are among its own and can be called. -/
theorem mem_listed {p : Provider} (h : name ∈ p.listed providers) :
    name ∈ p.attributes.map Prod.fst ∧ Permitted providers name := by
  rw [Provider.listed, sortedTexts, List.mem_eraseDups, List.mem_mergeSort, List.mem_filter,
    Bool.and_eq_true] at h
  exact ⟨h.1, mem_formatterNames.1 (List.contains_iff_mem.1 h.2.2)⟩

theorem exists_of_mem_listProviders {category : String} {ps : List Provider}
    {rows : List (String × String)} (hps : ∀ p ∈ ps, p ∈ source.providers)
    (h : Gives (listProviders source category ps) s rows s') {row : String × String}
    (hrow : row ∈ rows) : ∃ p name, Listed source category row p name := by
  induction ps generalizing s s' rows with
  | nil =>
    obtain ⟨rfl, -⟩ := gives_pure.1 h
    cases hrow
  | cons p ps ih =>
    have hp := hps p List.mem_cons_self
    have hbehind := fun p' hp' => hps p' (List.mem_cons_of_mem p hp')
    rw [listProviders] at h
    split at h
    · next hgroup =>
      obtain ⟨shown, s₁, hshown, h⟩ := gives_bind.1 h
      obtain ⟨more, s₂, hmore, h⟩ := gives_bind.1 h
      obtain ⟨rfl, -⟩ := gives_pure.1 h
      obtain hrow | hrow := List.mem_append.1 hrow
      · obtain ⟨name, hname, hblank, hsample⟩ := exists_of_mem_listNames hshown hrow
        obtain ⟨hdeclared, hpermitted⟩ := mem_listed hname
        have hcategory : category = everyCategory ∨ p.group = category := by simpa using hgroup
        exact ⟨p, name, hp, hcategory, hdeclared, hpermitted, hblank, hsample⟩
      · exact ih hbehind hmore hrow
    · exact ih hbehind h hrow

theorem exists_of_mem_listGenerators {category : String} {rows : List (String × String)}
    (h : Gives (listGenerators source category) s rows s') {row : String × String}
    (hrow : row ∈ rows) : ∃ p name, Listed source category row p name := by
  obtain ⟨found, s₁, hfound, h⟩ := gives_bind.1 h
  obtain ⟨rfl, -⟩ := gives_pure.1 h
  rw [List.mem_eraseDups, List.mem_mergeSort] at hrow
  exact exists_of_mem_listProviders (fun _ hp => hp) hfound hrow

/-- **Which listed blanks can be used as they are listed**: each row shows a formatter of a provider, with
one of its samples; a blank that is resolved to that formatter is read back as it, and if the name of the
formatter has no point in it, a blank that is read back is resolved to it. -/
theorem listed_usable_iff {category : String} {rows : List (String × String)}
    (h : Gives (listGenerators source category) s rows s') :
    ∀ row ∈ rows, ∃ p name, Listed source category row p name ∧
      (resolve? source.providers row.1 = some name → ReadsBack source.providers row.1 name) ∧
      ('.' ∉ name.toList →
        (resolve? source.providers row.1 = some name ↔ ReadsBack source.providers row.1 name)) := by
  intro row hrow
  obtain ⟨p, name, hlisted⟩ := exists_of_mem_listGenerators h hrow
  refine ⟨p, name, hlisted, readsBack_of_resolve?, fun hpoint => ?_⟩
  have hcut : (cutAtLastPoint row.1).2 = name := by
    rw [hlisted.blank, cutAtLastPoint_append p.group hpoint]
  exact resolve?_eq_some_iff hcut (mem_formatterNames.2 hlisted.permitted)

end Listings

theorem gives_of_toOption {α : Type} {x : ExceptT SampleFailure (StateM Unit) α} {a : α}
    (h : (x.run ()).1.toOption = some a) : Gives x () a () := by
  unfold Gives
  rcases hrun : x.run () with ⟨_ | b, ⟨⟩⟩
  · rw [hrun] at h
    cases h
  · rw [hrun] at h
    cases h
    rfl

/-- A provider with a formatter in lower case, one that has an alias of another one as its blank, and
one with a capital in its name. -/
def loremProvider : Provider :=
  ⟨"faker.providers.lorem", [("fooBar", true), ("sentence", true), ("words", true)]⟩

/-- The provider, each of whose formatters always gives the same. -/
def loremSource : SampleSource Unit where
  providers := [loremProvider]
  call name :=
    if name = "fooBar" then return .value (.int 1)
    else if name = "sentence" then return .value (.text "A b.")
    else return .value (.text "a")

theorem gives_listGenerators_lorem : Gives (listGenerators loremSource "lorem") ()
    [("lorem.fooBar", "1"), ("lorem.sentence", "A b."), ("lorem.words", "a")] () := by
  have hgroup : loremProvider.group = "lorem" := by decide +kernel
  have hshown : ((loremProvider.attributes.map Prod.fst).filter fun name =>
      name.toList.head? != some '_' && (formatterNames [loremProvider]).contains name) =
        ["fooBar", "sentence", "words"] := by
    decide +kernel
  -- sorting leaves what is sorted already
  have hlisted : loremProvider.listed [loremProvider] = ["fooBar", "sentence", "words"] := by
    rw [Provider.listed, hshown, sortedTexts, List.mergeSort_of_pairwise (by decide +kernel)]
    decide +kernel
  have hnames : Gives (listNames loremSource "lorem" ["fooBar", "sentence", "words"]) ()
      [("lorem.fooBar", "1"), ("lorem.sentence", "A b."), ("lorem.words", "a")] () :=
    gives_of_toOption (by decide +kernel)
  have hfound : Gives (listProviders loremSource "lorem" [loremProvider]) ()
      [("lorem.fooBar", "1"), ("lorem.sentence", "A b."), ("lorem.words", "a")] () := by
    rw [listProviders, if_pos (by simp [hgroup]), loremSource, hlisted, hgroup]
    exact gives_bind.2 ⟨_, (), hnames, rfl⟩
  refine gives_bind.2 ⟨_, (), hfound, gives_pure.2 ⟨?_, rfl⟩⟩
  rw [List.mergeSort_of_pairwise (by decide +kernel)]
  decide +kernel

/-- Of the three rows that are listed, one is read back. -/
theorem listed_usable_iff_lorem : ∃ rows, Gives (listGenerators loremSource "lorem") () rows () ∧
    (∀ row ∈ rows, ∃ p name, Listed loremSource "lorem" row p name ∧
      (resolve? [loremProvider] row.1 = some name → ReadsBack [loremProvider] row.1 name) ∧
      ('.' ∉ name.toList →
        (resolve? [loremProvider] row.1 = some name ↔ ReadsBack [loremProvider] row.1 name))) ∧
    rows.map Prod.fst = ["lorem.fooBar", "lorem.sentence", "lorem.words"] ∧
    ReadsBack [loremProvider] "lorem.sentence" "sentence" ∧
    ¬ ReadsBack [loremProvider] "lorem.words" "words" ∧
    ¬ ReadsBack [loremProvider] "lorem.fooBar" "fooBar" :=
  ⟨_, gives_listGenerators_lorem, listed_usable_iff gives_listGenerators_lorem, rfl, by decide +kernel,
    by decide +kernel, by decide +kernel⟩

/-- The row of the words is resolved to another formatter than the one it shows, and the row with a
capital to none. -/
theorem listed_words_unusable : ∃ rows, Gives (listGenerators loremSource "lorem") () rows () ∧
    ("lorem.words", "a") ∈ rows ∧ resolve? [loremProvider] "lorem.words" = some "sentence" ∧
    ("lorem.fooBar", "1") ∈ rows ∧ resolve? [loremProvider] "lorem.fooBar" = none :=
  ⟨_, gives_listGenerators_lorem, by decide +kernel, by decide +kernel, by decide +kernel,
    by decide +kernel⟩

end MockApi
