import MockApi.Catalog
import MockApi.Proofs.Loading
import MockApi.Proofs.Scanning

/-!
# What a catalog says about a folder

A catalog accounts for each document of its folder, and a document that is no contract leaves the
contracts of the other ones in it. That holds of documents that are rejected; bytes that are not text
and integers that are too long to be converted keep the whole catalog from being made.

* `Contract.isLegible` : bytes that give a contract or a rejection;
* `Catalog.Accounts` : what a catalog says about the documents that are found;
* `Catalog.KeptBut` : entries that are kept when documents are lost;
* `Catalog.Withstands` : a document that is no contract takes nothing but its own entry away;
* `Catalog.load_iff_legible` : a catalog is made, and does all this, if and only if the documents of
  the folder are legible.
-/

namespace MockApi

/-! ## Legible documents -/

namespace Contract

variable {bytes : List Nat}

/-- Whether bytes are those of a text in which no integer has more digits than are converted. -/
def isLegible (bytes : List Nat) : Bool :=
  match Text.ofBytes? bytes with
  | none => false
  | some text =>
    match Json.read text with
    | .error (.longInteger _) => false
    | _ => true

/-- What is legible gives a contract or a rejection. -/
theorem isLegible_iff (source : String) : isLegible bytes = true ↔
    (∃ contract, ofBytes source bytes = .ok contract) ∨
      ∃ rejection, ofBytes source bytes = .error (.rejected rejection) := by
  unfold isLegible ofBytes
  cases Text.ofBytes? bytes with
  | none => simp
  | some text =>
    unfold ofText
    dsimp only
    cases Json.read text with
    | ok v => cases hv : ofValue (some source) v <;> simp [Except.mapError, hv]
    | error e => cases e <;> simp

/-- Where bytes come from does not matter to the contract that they give. -/
theorem ofBytes_eq_ok_iff (source source' : String) {contract : Contract} :
    ofBytes source bytes = .ok contract ↔ ofBytes source' bytes = .ok contract := by
  unfold ofBytes
  cases Text.ofBytes? bytes with
  | none => rfl
  | some text =>
    unfold ofText
    dsimp only
    cases Json.read text with
    | ok v =>
      cases v with
      | object members => cases hm : ofMembers members <;> simp [ofValue, Except.mapError, hm]
      | _ => simp [ofValue, Except.mapError]
    | error e => cases e <;> simp

end Contract

namespace Catalog

variable {tree : FileTree} {casesAllowed : Bool} {catalog catalog' : Catalog} {top place : Location}
  {places : List Location}

/-! ## What is offered and accepted -/

/-- The contract that a document offers: its own, unless it has cases and they are not allowed. -/
def offer? (tree : FileTree) (casesAllowed : Bool) (place : Location) : Option Contract :=
  match Contract.ofFile tree place with
  | .ok contract => if contract.cases.isEmpty || casesAllowed then some contract else none
  | .error _ => none

/-- Entries with what a document offers, unless its method and route are taken. -/
def accept (offer? : Location → Option Contract) (entries : List CatalogEntry) (place : Location) :
    List CatalogEntry :=
  match offer? place with
  | none => entries
  | some contract =>
    if entries.any fun entry => sameTarget entry.contract contract then entries
    else entries ++ [⟨place, contract⟩]

theorem offer?_eq_some_iff {contract : Contract} : offer? tree casesAllowed place = some contract ↔
    Contract.ofFile tree place = .ok contract ∧ (contract.cases = [] ∨ casesAllowed = true) := by
  unfold offer?
  split
  · next own hown =>
    rw [hown]
    by_cases hcases : (own.cases.isEmpty || casesAllowed) = true
    · simp only [hcases, if_true, Option.some.injEq, Except.ok.injEq]
      constructor
      · rintro rfl
        exact ⟨rfl, by simpa using hcases⟩
      · exact And.left
    · simp only [hcases]
      refine iff_of_false nofun ?_
      rintro ⟨hcontract, hallowed⟩
      cases hcontract
      exact hcases (by simpa using hallowed)
  · next e he => simp [he]

theorem sameTarget_iff {a b : Contract} : sameTarget a b = true ↔
    a.request.method = b.request.method ∧ a.request.route = b.request.route := by
  simp [sameTarget]

/-! ## Steps of a load -/

/-- A step of a load succeeds exactly on legible documents, whatever was loaded before. -/
theorem add_ok_iff (catalog : Catalog) :
    (∃ catalog', add tree casesAllowed catalog place = .ok catalog') ↔
      ∃ bytes, tree.read place = .ok bytes ∧ Contract.isLegible bytes = true := by
  unfold add Contract.ofFile
  cases hread : tree.read place with
  | error fault => simp
  | ok bytes =>
    simp only [Except.ok.injEq, exists_eq_left']
    rw [Contract.isLegible_iff place.text]
    constructor
    · rintro ⟨catalog', h⟩
      split at h
      · next contract hbytes => exact .inl ⟨contract, hbytes⟩
      · next rejection hbytes => exact .inr ⟨rejection, hbytes⟩
      · cases h
    · rintro (⟨contract, hbytes⟩ | ⟨rejection, hbytes⟩)
      · exact ⟨_, by rw [hbytes]⟩
      · exact ⟨_, by rw [hbytes]⟩

/-- A step of a load loads the document or leaves it out. -/
theorem add_cases (h : add tree casesAllowed catalog place = .ok catalog') :
    catalog'.loaded = accept (offer? tree casesAllowed) catalog.loaded place ∧
      ((∃ contract, catalog'.loaded = catalog.loaded ++ [⟨place, contract⟩] ∧
          catalog'.skipped = catalog.skipped) ∨
        ∃ omission, catalog'.loaded = catalog.loaded ∧
          catalog'.skipped = catalog.skipped ++ [(place, omission)]) := by
  unfold add at h
  split at h
  · next contract hfile =>
    cases h
    unfold enter
    split
    · next hdenied =>
      have hoffer : offer? tree casesAllowed place = none := by
        simp only [Bool.and_eq_true, Bool.not_eq_true'] at hdenied
        simp [offer?, hfile, hdenied]
      exact ⟨by simp [skip, accept, hoffer], .inr ⟨_, rfl, rfl⟩⟩
    · next hallowed =>
      have hoffer : offer? tree casesAllowed place = some contract := by
        refine offer?_eq_some_iff.2 ⟨hfile, ?_⟩
        by_contra hdenied
        exact hallowed (by simpa using hdenied)
      split
      · next entry hholder =>
        unfold holder? at hholder
        have htarget : sameTarget entry.contract contract = true := by
          simpa using List.find?_some hholder
        have htaken : (catalog.loaded.any fun entry => sameTarget entry.contract contract) = true :=
          List.any_eq_true.2 ⟨entry, List.mem_of_find?_eq_some hholder, htarget⟩
        exact ⟨by simp [skip, accept, hoffer, htaken], .inr ⟨_, rfl, rfl⟩⟩
      · next hholder =>
        have hfree : (catalog.loaded.any fun entry => sameTarget entry.contract contract) = false := by
          simpa [holder?] using hholder
        exact ⟨by simp [accept, hoffer, hfree], .inl ⟨contract, rfl, rfl⟩⟩
  · next rejection hfile =>
    cases h
    have hoffer : offer? tree casesAllowed place = none := by simp [offer?, hfile]
    exact ⟨by simp [skip, accept, hoffer], .inr ⟨_, rfl, rfl⟩⟩
  · cases h

/-! ## Runs of a load -/

/-- Whether a list is dealt out to two others, each of which keeps the order. -/
structure Deals (places served omitted : List Location) : Prop where
  served_sublist : served.Sublist places
  omitted_sublist : omitted.Sublist places
  perm : (served ++ omitted).Perm places

namespace Deals

variable {served omitted : List Location}

theorem nil : Deals [] [] [] := ⟨.slnil, .slnil, .nil⟩

theorem serve (h : Deals places served omitted) (place : Location) :
    Deals (place :: places) (place :: served) omitted :=
  ⟨h.served_sublist.cons_cons place, h.omitted_sublist.cons place, h.perm.cons place⟩

theorem leave (h : Deals places served omitted) (place : Location) :
    Deals (place :: places) served (place :: omitted) :=
  ⟨h.served_sublist.cons place, h.omitted_sublist.cons_cons place,
    List.perm_middle.trans (h.perm.cons place)⟩

end Deals

theorem foldlM_add_ok_iff (catalog : Catalog) :
    (∃ catalog', places.foldlM (add tree casesAllowed) catalog = .ok catalog') ↔
      ∀ place ∈ places, ∃ bytes, tree.read place = .ok bytes ∧ Contract.isLegible bytes = true := by
  induction places generalizing catalog with
  | nil => exact ⟨fun _ => nofun, fun _ => ⟨catalog, rfl⟩⟩
  | cons place rest ih =>
    rw [List.foldlM_cons, List.forall_mem_cons]
    constructor
    · rintro ⟨catalog', h⟩
      obtain ⟨middle, hadd, hrest⟩ := ok_of_bind h
      exact ⟨(add_ok_iff catalog).1 ⟨middle, hadd⟩, (ih middle).1 ⟨catalog', hrest⟩⟩
    · rintro ⟨hplace, hrest⟩
      obtain ⟨middle, hadd⟩ := (add_ok_iff catalog).2 hplace
      obtain ⟨catalog', hrest⟩ := (ih middle).2 hrest
      exact ⟨catalog', by rw [hadd]; exact hrest⟩

/-- A run of a load deals the documents out to what is loaded and what is left out, and loads what is
accepted in turn. -/
theorem deals_of_foldlM_add (h : places.foldlM (add tree casesAllowed) catalog = .ok catalog') :
    catalog'.loaded = places.foldl (accept (offer? tree casesAllowed)) catalog.loaded ∧
      ∃ served omitted, Deals places served omitted ∧
        catalog'.loaded.map CatalogEntry.place = catalog.loaded.map CatalogEntry.place ++ served ∧
        catalog'.skipped.map Prod.fst = catalog.skipped.map Prod.fst ++ omitted := by
  induction places generalizing catalog with
  | nil =>
    cases h
    exact ⟨rfl, [], [], .nil, by simp, by simp⟩
  | cons place rest ih =>
    rw [List.foldlM_cons] at h
    obtain ⟨middle, hadd, hrest⟩ := ok_of_bind h
    obtain ⟨hloaded, served, omitted, hdeals, hserved, homitted⟩ := ih hrest
    obtain ⟨haccept, hstep⟩ := add_cases hadd
    refine ⟨by rw [hloaded, haccept]; rfl, ?_⟩
    obtain ⟨contract, hmiddle, hskipped⟩ | ⟨omission, hmiddle, hskipped⟩ := hstep
    · refine ⟨place :: served, omitted, hdeals.serve place, ?_, ?_⟩
      · simp [hserved, hmiddle]
      · rw [homitted, hskipped]
    · refine ⟨served, place :: omitted, hdeals.leave place, ?_, ?_⟩
      · rw [hserved, hmiddle]
      · simp [homitted, hskipped]

/-! ## Which documents are loaded -/

section Accepting
variable {offer? : Location → Option Contract} {entries entries' : List CatalogEntry}
  {entry : CatalogEntry}

/-- What is accepted besides what is there: an offer whose method and route are not taken. -/
theorem mem_accept_iff : entry ∈ accept offer? entries place ↔
    entry ∈ entries ∨ entry.place = place ∧ offer? place = some entry.contract ∧
      ∀ other ∈ entries, sameTarget other.contract entry.contract = false := by
  unfold accept
  cases hoffer : offer? place with
  | none => simp
  | some contract =>
    by_cases htaken : (entries.any fun other => sameTarget other.contract contract) = true
    · obtain ⟨holder, hholder, htarget⟩ := List.any_eq_true.1 htaken
      simp only [htaken, if_true]
      constructor
      · exact .inl
      · rintro (hold | ⟨-, hoffer, hfree⟩)
        · exact hold
        · cases hoffer
          exact absurd ((hfree holder hholder).symm.trans htarget) Bool.false_ne_true
    · have hfree : ∀ other ∈ entries, sameTarget other.contract contract = false := by
        simpa using htaken
      rw [Bool.not_eq_true] at htaken
      simp only [htaken, Bool.false_eq_true, if_false, List.mem_append, List.mem_singleton]
      constructor
      · rintro (hold | rfl)
        · exact .inl hold
        · exact .inr ⟨rfl, rfl, hfree⟩
      · rintro (hold | ⟨rfl, hoffer, -⟩)
        · exact .inl hold
        · cases hoffer
          exact .inr rfl

theorem mem_foldl_accept (h : entry ∈ entries) : entry ∈ places.foldl (accept offer?) entries := by
  induction places generalizing entries with
  | nil => exact h
  | cons place rest ih => exact ih (mem_accept_iff.2 (.inl h))

theorem place_of_mem_foldl_accept (h : entry ∈ places.foldl (accept offer?) entries) :
    entry ∈ entries ∨ entry.place ∈ places := by
  induction places generalizing entries with
  | nil => exact .inl h
  | cons place rest ih =>
    obtain hplace | hrest := ih h
    · obtain hold | ⟨hnew, -⟩ := mem_accept_iff.1 hplace
      · exact .inl hold
      · exact .inr (hnew ▸ List.mem_cons_self)
    · exact .inr (List.mem_cons_of_mem _ hrest)

/-- What is accepted was offered. -/
theorem offer?_of_mem_foldl_accept (h : entry ∈ places.foldl (accept offer?) entries) :
    entry ∈ entries ∨ offer? entry.place = some entry.contract := by
  induction places generalizing entries with
  | nil => exact .inl h
  | cons place rest ih =>
    obtain hplace | hrest := ih h
    · obtain hold | ⟨rfl, hoffer, -⟩ := mem_accept_iff.1 hplace
      · exact .inl hold
      · exact .inr hoffer
    · exact .inr hrest

/-- Of the documents of a listing those are loaded that offer a contract whose method and route no
earlier one has. -/
theorem mem_foldl_accept_iff (hplaces : places.Pairwise (· < ·)) (hplace : place ∈ places)
    {contract : Contract} : ⟨place, contract⟩ ∈ places.foldl (accept offer?) [] ↔
      offer? place = some contract ∧ ∀ entry ∈ places.foldl (accept offer?) [],
        entry.place < place → sameTarget entry.contract contract = false := by
  obtain ⟨earlier, later, rfl⟩ := List.append_of_mem hplace
  rw [List.foldl_append, List.foldl_cons]
  obtain ⟨-, hlater, hearlier⟩ := List.pairwise_append.1 hplaces
  replace hlater := (List.pairwise_cons.1 hlater).1
  have hfirst : ∀ entry ∈ earlier.foldl (accept offer?) [], entry.place < place := by
    intro entry hentry
    obtain hnil | hmem := place_of_mem_foldl_accept hentry
    · cases hnil
    · exact hearlier entry.place hmem place List.mem_cons_self
  constructor
  · intro h
    obtain hmem | hmem := place_of_mem_foldl_accept h
    · obtain hold | ⟨-, hoffer, hfree⟩ := mem_accept_iff.1 hmem
      · exact absurd (hfirst _ hold) (lt_irrefl place)
      · refine ⟨hoffer, ?_⟩
        intro entry hentry hbefore
        obtain hmem | hmem := place_of_mem_foldl_accept hentry
        · obtain hold | ⟨hnew, -⟩ := mem_accept_iff.1 hmem
          · exact hfree entry hold
          · exact absurd hnew hbefore.ne
        · exact absurd hbefore (lt_asymm (hlater entry.place hmem))
    · exact absurd (hlater place hmem) (lt_irrefl place)
  · rintro ⟨hoffer, hfree⟩
    apply mem_foldl_accept
    refine mem_accept_iff.2 (.inr ⟨rfl, hoffer, ?_⟩)
    intro entry hentry
    exact hfree entry (mem_foldl_accept (mem_accept_iff.2 (.inl hentry))) (hfirst entry hentry)

/-! ## Documents that are lost -/

/-- Whether entries are kept but for those of lost documents. What is new has the method and the route
of an entry that is lost. -/
structure KeptBut (lost : Location → Bool) (entries entries' : List CatalogEntry) : Prop where
  kept : ∀ entry ∈ entries, lost entry.place = false → entry ∈ entries'
  fresh : ∀ entry ∈ entries', entry ∈ entries ∨
    ∃ old ∈ entries, lost old.place = true ∧ sameTarget old.contract entry.contract = true

variable {lost : Location → Bool}

theorem KeptBut.accept_of_lost (h : KeptBut lost entries entries') (hplace : lost place = true) :
    KeptBut lost (accept offer? entries place) entries' where
  kept := by
    intro entry hentry hkept
    obtain hold | ⟨rfl, -⟩ := mem_accept_iff.1 hentry
    · exact h.kept entry hold hkept
    · exact absurd (hkept.symm.trans hplace) Bool.false_ne_true
  fresh := by
    intro entry hentry
    obtain hold | ⟨old, hold, hlost, htarget⟩ := h.fresh entry hentry
    · exact .inl (mem_accept_iff.2 (.inl hold))
    · exact .inr ⟨old, mem_accept_iff.2 (.inl hold), hlost, htarget⟩

theorem KeptBut.accept (h : KeptBut lost entries entries') (hplace : lost place = false) :
    KeptBut lost (accept offer? entries place) (accept offer? entries' place) where
  kept := by
    intro entry hentry hkept
    obtain hold | ⟨rfl, hoffer, hfree⟩ := mem_accept_iff.1 hentry
    · exact mem_accept_iff.2 (.inl (h.kept entry hold hkept))
    · refine mem_accept_iff.2 (.inr ⟨rfl, hoffer, ?_⟩)
      intro other hother
      obtain hold | ⟨old, hold, -, htarget⟩ := h.fresh other hother
      · exact hfree other hold
      · -- What took the target of a lost entry does not have the target of an entry that is free.
        have hdiffer := hfree old hold
        rw [← Bool.not_eq_true, sameTarget_iff] at hdiffer ⊢
        obtain ⟨hmethod, hroute⟩ := sameTarget_iff.1 htarget
        exact fun ⟨hm, hr⟩ => hdiffer ⟨hmethod.trans hm, hroute.trans hr⟩
  fresh := by
    intro entry hentry
    obtain hold | ⟨rfl, hoffer, hfree⟩ := mem_accept_iff.1 hentry
    · obtain hold | ⟨old, hold, hlost, htarget⟩ := h.fresh entry hold
      · exact .inl (mem_accept_iff.2 (.inl hold))
      · exact .inr ⟨old, mem_accept_iff.2 (.inl hold), hlost, htarget⟩
    · by_cases htaken : ∃ old ∈ entries, sameTarget old.contract entry.contract = true
      · obtain ⟨old, hold, htarget⟩ := htaken
        refine .inr ⟨old, mem_accept_iff.2 (.inl hold), ?_, htarget⟩
        by_contra hkept
        have hmem := h.kept old hold (by simpa using hkept)
        exact Bool.false_ne_true ((hfree old hmem).symm.trans htarget)
      · refine .inl (mem_accept_iff.2 (.inr ⟨rfl, hoffer, ?_⟩))
        intro other hother
        rw [← Bool.not_eq_true]
        exact fun htarget => htaken ⟨other, hother, htarget⟩

/-- Without the lost documents a run accepts what it accepts with them, but for what they offer. -/
theorem KeptBut.foldl (h : KeptBut lost entries entries') :
    KeptBut lost (places.foldl (Catalog.accept offer?) entries)
      ((places.filter (!lost ·)).foldl (Catalog.accept offer?) entries') := by
  induction places generalizing entries entries' with
  | nil => exact h
  | cons place rest ih =>
    cases hplace : lost place with
    | true =>
      rw [List.filter_cons_of_neg (by simp [hplace])]
      exact ih (h.accept_of_lost hplace)
    | false =>
      rw [List.filter_cons_of_pos (by simp [hplace])]
      exact ih (h.accept hplace)

/-- Documents that offer nothing can be left out. -/
theorem foldl_accept_filter (hnone : ∀ place ∈ places, lost place = true → offer? place = none) :
    (places.filter (!lost ·)).foldl (accept offer?) entries = places.foldl (accept offer?) entries := by
  induction places generalizing entries with
  | nil => rfl
  | cons place rest ih =>
    have hrest : ∀ place ∈ rest, lost place = true → offer? place = none :=
      fun place hmem => hnone place (List.mem_cons_of_mem _ hmem)
    cases hplace : lost place with
    | true =>
      have haccept : accept offer? entries place = entries := by
        simp [accept, hnone place List.mem_cons_self hplace]
      rw [List.filter_cons_of_neg (by simp [hplace]), List.foldl_cons, haccept]
      exact ih hrest
    | false =>
      rw [List.filter_cons_of_pos (by simp [hplace])]
      exact ih hrest

end Accepting

/-! ## Catalogs of folders -/

/-- What a catalog says about the documents that are found below a location: each of them is loaded
or left out, once and in order. Loaded are the contracts whose cases are allowed and whose method and
route no earlier contract has that is loaded. -/
structure Accounts (catalog : Catalog) (tree : FileTree) (casesAllowed : Bool) (top : Location) :
    Prop where
  distinct : (tree.documentsBelow top).Nodup
  deals : Deals (tree.documentsBelow top) (catalog.loaded.map CatalogEntry.place)
    (catalog.skipped.map Prod.fst)
  loaded_iff : ∀ place ∈ tree.documentsBelow top, ∀ contract, ⟨place, contract⟩ ∈ catalog.loaded ↔
    Contract.ofFile tree place = .ok contract ∧ (contract.cases = [] ∨ casesAllowed = true) ∧
      ∀ entry ∈ catalog.loaded, Location.before entry.place place = true →
        sameTarget entry.contract contract = false

/-- Whether a document that is no contract, put anywhere in the tree, takes no entry but its own from
the catalog. If it has none there, nothing at all changes about the entries; otherwise an entry may
come up whose method and route were taken by the lost one. -/
def Withstands (catalog : Catalog) (tree : FileTree) (casesAllowed : Bool) (top : Location) : Prop :=
  ∀ target bytes, tree.Receives target → Contract.isLegible bytes = true →
    (∀ source contract, Contract.ofBytes source bytes ≠ .ok contract) →
    ∃ catalog', load (tree.putFile target bytes) casesAllowed top = .ok catalog' ∧
      KeptBut (tree.leadsTo target) catalog.loaded catalog'.loaded ∧
      ((∀ entry ∈ catalog.loaded, tree.leadsTo target entry.place = false) →
        catalog'.loaded = catalog.loaded)

theorem loaded_of_load (h : load tree casesAllowed top = .ok catalog) :
    catalog.loaded = (tree.documentsBelow top).foldl (accept (offer? tree casesAllowed)) [] :=
  (deals_of_foldlM_add h).1

theorem load_ok_iff (casesAllowed : Bool) : (∃ catalog, load tree casesAllowed top = .ok catalog) ↔
    ∀ place ∈ tree.documentsBelow top,
      ∃ bytes, tree.read place = .ok bytes ∧ Contract.isLegible bytes = true :=
  foldlM_add_ok_iff empty

theorem accounts_of_load (hplain : tree.Plain) (h : load tree casesAllowed top = .ok catalog) :
    catalog.Accounts tree casesAllowed top where
  distinct := (hplain.documentsBelow_pairwise top).nodup
  deals := by
    obtain ⟨-, served, omitted, hdeals, hserved, homitted⟩ := deals_of_foldlM_add h
    rw [hserved, homitted]
    exact hdeals
  loaded_iff := by
    intro place hplace contract
    simp only [Location.before_iff_lt]
    rw [loaded_of_load h, mem_foldl_accept_iff (hplain.documentsBelow_pairwise top) hplace,
      offer?_eq_some_iff, and_assoc]

/-- Entries are loaded in order. -/
theorem pairwise_loaded (hplain : tree.Plain) (h : load tree casesAllowed top = .ok catalog) :
    catalog.loaded.Pairwise fun a b => a.place < b.place :=
  List.pairwise_map.1 ((hplain.documentsBelow_pairwise top).sublist
    (accounts_of_load hplain h).deals.served_sublist)

/-- The entries that two catalogs have loaded determine their order. -/
theorem loaded_eq_of_mem_iff {tree' : FileTree} (hplain : tree.Plain) (hplain' : tree'.Plain)
    (h : load tree casesAllowed top = .ok catalog) (h' : load tree' casesAllowed top = .ok catalog')
    (hmem : ∀ entry, entry ∈ catalog.loaded ↔ entry ∈ catalog'.loaded) :
    catalog.loaded = catalog'.loaded := by
  have hsorted := pairwise_loaded hplain h
  have hsorted' := pairwise_loaded hplain' h'
  have hnodup : catalog.loaded.Nodup := hsorted.imp fun hlt heq => hlt.ne (congrArg _ heq)
  have hnodup' : catalog'.loaded.Nodup := hsorted'.imp fun hlt heq => hlt.ne (congrArg _ heq)
  have hperm : catalog.loaded.Perm catalog'.loaded :=
    (List.perm_ext_iff_of_nodup hnodup hnodup').2 hmem
  exact hperm.eq_of_pairwise (fun _ _ _ _ hab hba => absurd hba (lt_asymm hab)) hsorted hsorted'

theorem keptBut_putFile (hplain : tree.Plain) {target : Location} (htarget : tree.Receives target)
    {bytes : List Nat} (hbroken : ∀ source contract, Contract.ofBytes source bytes ≠ .ok contract)
    (h : load tree casesAllowed top = .ok catalog)
    (h' : load (tree.putFile target bytes) casesAllowed top = .ok catalog') :
    KeptBut (tree.leadsTo target) catalog.loaded catalog'.loaded := by
  have hlost : ∀ place ∈ (tree.putFile target bytes).documentsBelow top,
      tree.leadsTo target place = true →
        offer? (tree.putFile target bytes) casesAllowed place = none := by
    intro place _ hplace
    rw [Option.eq_none_iff_forall_ne_some]
    intro contract hoffer
    have hfile := (offer?_eq_some_iff.1 hoffer).1
    rw [Contract.ofFile, hplain.read_putFile_self htarget hplace] at hfile
    exact hbroken place.text contract hfile
  have hother : ∀ place ∈ (tree.documentsBelow top).filter (!tree.leadsTo target ·),
      offer? (tree.putFile target bytes) casesAllowed place = offer? tree casesAllowed place := by
    intro place hplace
    obtain ⟨hmem, hne⟩ := List.mem_filter.1 hplace
    have hread := hplain.read_putFile htarget hmem (by simpa using hne) bytes
    simp only [offer?, Contract.ofFile, hread]
  have hloaded' : catalog'.loaded =
      ((tree.documentsBelow top).filter (!tree.leadsTo target ·)).foldl
        (accept (offer? tree casesAllowed)) [] := by
    rw [loaded_of_load h', ← foldl_accept_filter hlost, hplain.documentsBelow_putFile htarget]
    refine List.foldl_ext _ _ [] ?_
    intro entries place hplace
    unfold accept
    rw [hother place hplace]
  have hrefl : KeptBut (tree.leadsTo target) [] [] := ⟨nofun, nofun⟩
  rw [loaded_of_load h, hloaded']
  exact hrefl.foldl

theorem withstands_of_load (hplain : tree.Plain) (h : load tree casesAllowed top = .ok catalog) :
    catalog.Withstands tree casesAllowed top := by
  intro target bytes htarget hlegible hbroken
  have hplain' := hplain.putFile htarget bytes
  have hdocuments : ∀ place ∈ (tree.putFile target bytes).documentsBelow top,
      ∃ content, (tree.putFile target bytes).read place = .ok content ∧
        Contract.isLegible content = true := by
    intro place hplace
    cases hleads : tree.leadsTo target place with
    | true => exact ⟨bytes, hplain.read_putFile_self htarget hleads bytes, hlegible⟩
    | false =>
      have hmem : place ∈ (tree.documentsBelow top).filter (!tree.leadsTo target ·) := by
        rw [← hplain.documentsBelow_putFile htarget bytes]
        exact List.mem_filter.2 ⟨hplace, by simp [hleads]⟩
      have hold := (List.mem_filter.1 hmem).1
      rw [hplain.read_putFile htarget hold hleads]
      exact (load_ok_iff casesAllowed).1 ⟨catalog, h⟩ place hold
  obtain ⟨catalog', h'⟩ := (load_ok_iff casesAllowed).2 hdocuments
  have hkept := keptBut_putFile hplain htarget hbroken h h'
  refine ⟨catalog', h', hkept, ?_⟩
  intro hnone
  refine loaded_eq_of_mem_iff hplain' hplain h' h ?_
  intro entry
  constructor
  · intro hentry
    obtain hold | ⟨old, hold, hlost, -⟩ := hkept.fresh entry hentry
    · exact hold
    · exact absurd ((hnone old hold).symm.trans hlost) Bool.false_ne_true
  · intro hentry
    exact hkept.kept entry hentry (hnone entry hentry)

/-- **A catalog is made, accounts for the documents of its folder and withstands those that are no
contracts, if and only if the documents are legible.** -/
theorem load_iff_legible (hplain : tree.Plain) (casesAllowed : Bool) (top : Location) :
    (∃ catalog, load tree casesAllowed top = .ok catalog ∧
        catalog.Accounts tree casesAllowed top ∧ catalog.Withstands tree casesAllowed top) ↔
      ∀ place ∈ tree.documentsBelow top,
        ∃ bytes, tree.read place = .ok bytes ∧ Contract.isLegible bytes = true := by
  rw [← load_ok_iff casesAllowed]
  constructor
  · rintro ⟨catalog, h, -⟩
    exact ⟨catalog, h⟩
  · rintro ⟨catalog, h⟩
    exact ⟨catalog, h, accounts_of_load hplain h, withstands_of_load hplain h⟩

def smallDocument : List Nat :=
  Text.encode <| "\x7b\"request\": \x7b\"route\": \"/x\", \"method\": \"get\"\x7d, " ++
    "\"response\": \x7b\"code\": 200\x7d\x7d"

/-- Two documents for the same method and route, and then one that is cut off. -/
theorem load_iff_legible_cut_off :
    let tree : FileTree := ⟨[(["a.json"], smallDocument), (["b.json"], smallDocument)], []⟩
    tree.Plain ∧ tree.Receives ["c.json"] ∧
      ∃ catalog catalog', load tree true [] = .ok catalog ∧ catalog.Accounts tree true [] ∧
        load (tree.putFile ["c.json"] [0x7B]) true [] = .ok catalog' ∧
        catalog'.loaded = catalog.loaded := by
  intro tree
  have hplain : tree.Plain := by decide +kernel
  have hreceives : tree.Receives ["c.json"] :=
    ⟨by decide +kernel, by decide +kernel, by decide +kernel⟩
  have hlisted : tree.documentsBelow [] = [["a.json"], ["b.json"]] := by decide +kernel
  have hlegible : Contract.isLegible smallDocument = true := by decide +kernel
  have hread : ∀ place ∈ tree.documentsBelow [],
      ∃ bytes, tree.read place = .ok bytes ∧ Contract.isLegible bytes = true := by
    rw [hlisted]
    simp only [List.forall_mem_cons, List.not_mem_nil, false_implies, implies_true, and_true]
    exact ⟨⟨smallDocument, by decide +kernel, hlegible⟩, smallDocument, by decide +kernel, hlegible⟩
  obtain ⟨catalog, hload, haccounts, hwithstands⟩ := (load_iff_legible hplain true []).2 hread
  have hcut : (Contract.ofBytes "" [0x7B]).isOk = false := by decide +kernel
  have hbroken : ∀ source contract, Contract.ofBytes source [0x7B] ≠ .ok contract := by
    intro source contract h
    rw [Contract.ofBytes_eq_ok_iff source ""] at h
    rw [h] at hcut
    cases hcut
  obtain ⟨catalog', hload', -, hsame⟩ :=
    hwithstands ["c.json"] [0x7B] hreceives (by decide +kernel) hbroken
  refine ⟨hplain, hreceives, catalog, catalog', hload, haccounts, hload', hsame ?_⟩
  intro entry hentry
  have hmem : entry.place ∈ tree.documentsBelow [] :=
    haccounts.deals.served_sublist.subset (List.mem_map_of_mem hentry)
  have hothers : ∀ place ∈ tree.documentsBelow [], tree.leadsTo ["c.json"] place = false := by
    decide +kernel
  exact hothers entry.place hmem

/-- A document of one byte that no text starts with keeps its neighbour from being loaded. -/
theorem load_fails_on_stray_byte :
    let tree : FileTree := ⟨[(["a.json"], smallDocument)], []⟩
    tree.Plain ∧ tree.Receives ["b.json"] ∧
      (∀ source contract, Contract.ofBytes source [0xFF] ≠ .ok contract) ∧
      (load tree true []).map (·.loaded.map CatalogEntry.place) = .ok [["a.json"]] ∧
      ∀ catalog, load (tree.putFile ["b.json"] [0xFF]) true [] ≠ .ok catalog := by
  intro tree
  refine ⟨by decide +kernel, ⟨by decide +kernel, by decide +kernel, by decide +kernel⟩, ?_,
    by decide +kernel, ?_⟩
  · intro source contract h
    cases h
  · intro catalog h
    obtain ⟨bytes, hread, hlegible⟩ :=
      (load_ok_iff true).1 ⟨catalog, h⟩ ["b.json"] (by decide +kernel)
    have hstray : (tree.putFile ["b.json"] [0xFF]).read ["b.json"] = .ok [0xFF] := by decide +kernel
    cases hread.symm.trans hstray
    exact absurd hlegible (by decide)

end Catalog

end MockApi
