import Mathlib.Data.List.Duplicate
import MockApi.Proofs.Collecting
import MockApi.Server.App

/-!
# Contracts that are mounted alike

A catalog tells routes apart as they are written, and a server mounts them at paths. Two ways to write
a route can lead to one path: the slash in front may be left out, and a parameter may be written in
braces at once.

* `Respelled u v` : texts that differ at most in parameters, which one has behind a colon and the other
  in braces;
* `mountPath_eq_iff` : routes have one path if and only if they are respelled, with the slash in front;
* `ofPath_injective` : different paths have different patterns;
* `mem_repeatedNames` : the names that are told of a path are those that its parameters repeat;
* `Catalog.ofCatalog_eq_ok_iff` : the mounts of a server, if all of its paths can be served;
* `Catalog.distinct_loaded` : no two contracts of a catalog have the same method and route;
* `Catalog.mounts_nodup_iff` : they have different mounts unless the routes of two are respelled.
-/

namespace MockApi

/-! ## Parameters in braces -/

/-- A route with the slash in front that its path has. -/
def rooted (route : String) : List Char :=
  if route.toList.head? = some '/' then route.toList else '/' :: route.toList

/-- Two texts that differ at most in parameters, which one has behind a colon and the other in braces.
A colon without a name behind it is a character like any other. -/
inductive Respelled : List Char → List Char → Prop
  | nil : Respelled [] []
  | literal {c : Char} {u v : List Char} : (c = ':' → paramName u = []) →
    (c = ':' → paramName v = []) → Respelled u v → Respelled (c :: u) (c :: v)
  | param {name u v : List Char} : name ≠ [] → paramName (name ++ u) = name →
    paramName (name ++ v) = name → Respelled u v → Respelled (':' :: (name ++ u)) (':' :: (name ++ v))
  | colon {name u v : List Char} : name ≠ [] → paramName (name ++ u) = name →
    Respelled u v → Respelled (':' :: (name ++ u)) ('{' :: (name ++ '}' :: v))
  | braces {name u v : List Char} : name ≠ [] → paramName (name ++ v) = name →
    Respelled u v → Respelled ('{' :: (name ++ '}' :: u)) (':' :: (name ++ v))

section Braces
variable {c : Char} {name text rest u v : List Char}

theorem isParamChar_of_mem_paramName (h : c ∈ paramName text) : isParamChar c = true := by
  cases text with
  | nil => cases h
  | cons d rest =>
    rw [paramName] at h
    split at h
    · exact List.mem_takeWhile_imp h
    · cases h

theorem exists_append_of_paramName (text : List Char) : ∃ rest, text = paramName text ++ rest := by
  cases text with
  | nil => exact ⟨[], rfl⟩
  | cons d rest =>
    rw [paramName]
    split
    · exact ⟨_, List.takeWhile_append_dropWhile.symm⟩
    · exact ⟨d :: rest, rfl⟩

theorem bracedFrom_eq_drop (skip : Nat) (text : List Char) :
    bracedFrom skip text = bracedFrom 0 (text.drop skip) := by
  induction text generalizing skip with
  | nil => cases skip <;> rfl
  | cons c rest ih =>
    cases skip with
    | zero => rfl
    | succ skip => exact ih skip

theorem bracedFrom_literal (h : c = ':' → paramName rest = []) :
    bracedFrom 0 (c :: rest) = c :: bracedFrom 0 rest := by
  by_cases hcolon : c = ':'
  · simp [bracedFrom, hcolon, h hcolon]
  · simp [bracedFrom, hcolon]

theorem bracedFrom_of_ne (hc : c ≠ ':') : bracedFrom 0 (c :: rest) = c :: bracedFrom 0 rest :=
  bracedFrom_literal fun h => absurd h hc

theorem bracedFrom_param (hne : name ≠ []) (hname : paramName (name ++ rest) = name) :
    bracedFrom 0 (':' :: (name ++ rest)) = '{' :: (name ++ '}' :: bracedFrom 0 rest) := by
  have hempty : name.isEmpty = false := by simpa using hne
  simp only [bracedFrom, if_pos, hname, hempty, bracedFrom_eq_drop name.length, List.drop_left]
  rfl

/-- A parameter in braces stays as it is. -/
theorem bracedFrom_braces (hname : ∀ c ∈ name, isParamChar c = true) (rest : List Char) :
    bracedFrom 0 ('{' :: (name ++ '}' :: rest)) = '{' :: (name ++ '}' :: bracedFrom 0 rest) := by
  have hchars : bracedFrom 0 (name ++ '}' :: rest) = name ++ '}' :: bracedFrom 0 rest := by
    induction name with
    | nil => exact bracedFrom_of_ne (by decide)
    | cons c name ih =>
      have hc : c ≠ ':' := by
        rintro rfl
        exact absurd (hname ':' List.mem_cons_self) (by decide)
      rw [List.cons_append, bracedFrom_of_ne hc, ih fun d hd => hname d (List.mem_cons_of_mem _ hd)]
      rfl
  rw [bracedFrom_of_ne (by decide), hchars]

/-- What starts a text is a parameter behind a colon or else a character that stays. -/
theorem starts_cases (c : Char) (rest : List Char) : (c = ':' → paramName rest = []) ∨
    ∃ name more, c = ':' ∧ rest = name ++ more ∧ name ≠ [] ∧ paramName (name ++ more) = name := by
  by_cases h : c = ':' → paramName rest = []
  · exact .inl h
  · rw [Classical.not_imp] at h
    obtain ⟨hcolon, hne⟩ := h
    obtain ⟨more, hmore⟩ := exists_append_of_paramName rest
    exact .inr ⟨paramName rest, more, hcolon, hmore, hne, by rw [← hmore]⟩

theorem cons_of_bracedFrom (h : bracedFrom 0 v = c :: rest) (hc : c ≠ '{') :
    ∃ more, v = c :: more ∧ bracedFrom 0 more = rest := by
  cases v with
  | nil => cases h
  | cons d more =>
    obtain hliteral | ⟨name, behind, rfl, rfl, hne, hname⟩ := starts_cases d more
    · rw [bracedFrom_literal hliteral] at h
      cases h
      exact ⟨more, rfl, rfl⟩
    · rw [bracedFrom_param hne hname] at h
      cases h
      exact absurd rfl hc

theorem append_of_bracedFrom (hname : ∀ c ∈ name, isParamChar c = true)
    (h : bracedFrom 0 v = name ++ '}' :: rest) :
    ∃ more, v = name ++ '}' :: more ∧ bracedFrom 0 more = rest := by
  induction name generalizing v with
  | nil => exact cons_of_bracedFrom h (by decide)
  | cons c name ih =>
    have hc : c ≠ '{' := by
      rintro rfl
      exact absurd (hname '{' List.mem_cons_self) (by decide)
    obtain ⟨behind, rfl, hbehind⟩ := cons_of_bracedFrom h hc
    obtain ⟨more, rfl, hmore⟩ := ih (fun d hd => hname d (List.mem_cons_of_mem _ hd)) hbehind
    exact ⟨more, rfl, hmore⟩

/-- Names of parameters end where the brace closes. -/
theorem append_brace_inj {other : List Char} (hname : ∀ c ∈ name, isParamChar c = true)
    (hother : ∀ c ∈ other, isParamChar c = true) (h : name ++ '}' :: u = other ++ '}' :: v) :
    name = other ∧ u = v := by
  induction name generalizing other with
  | nil =>
    cases other with
    | nil =>
      cases h
      exact ⟨rfl, rfl⟩
    | cons c other =>
      cases h
      exact absurd (hother '}' List.mem_cons_self) (by decide)
  | cons c name ih =>
    cases other with
    | nil =>
      cases h
      exact absurd (hname '}' List.mem_cons_self) (by decide)
    | cons c' other =>
      obtain ⟨rfl, htail⟩ := List.cons.inj h
      obtain ⟨rfl, rfl⟩ := ih (fun d hd => hname d (List.mem_cons_of_mem _ hd))
        (fun d hd => hother d (List.mem_cons_of_mem _ hd)) htail
      exact ⟨rfl, rfl⟩

theorem isParamChar_of_paramName (h : paramName (name ++ rest) = name) :
    ∀ c ∈ name, isParamChar c = true := by
  intro c hc
  rw [← h] at hc
  exact isParamChar_of_mem_paramName hc

theorem bracedFrom_of_respelled (h : Respelled u v) : bracedFrom 0 u = bracedFrom 0 v := by
  induction h with
  | nil => rfl
  | literal hu hv _ ih => rw [bracedFrom_literal hu, bracedFrom_literal hv, ih]
  | param hne hu hv _ ih => rw [bracedFrom_param hne hu, bracedFrom_param hne hv, ih]
  | colon hne hu _ ih =>
    rw [bracedFrom_param hne hu, bracedFrom_braces (isParamChar_of_paramName hu), ih]
  | braces hne hv _ ih =>
    rw [bracedFrom_param hne hv, bracedFrom_braces (isParamChar_of_paramName hv), ih]

theorem bracedFrom_cons_ne_nil (c : Char) (rest : List Char) : bracedFrom 0 (c :: rest) ≠ [] := by
  obtain hliteral | ⟨name, more, rfl, rfl, hne, hname⟩ := starts_cases c rest
  · rw [bracedFrom_literal hliteral]
    exact List.cons_ne_nil _ _
  · rw [bracedFrom_param hne hname]
    exact List.cons_ne_nil _ _

theorem respelled_of_bracedFrom (h : bracedFrom 0 u = bracedFrom 0 v) : Respelled u v := by
  -- A step passes a whole name at once, so the induction is on the length.
  induction hlength : u.length using Nat.strong_induction_on generalizing u v with
  | _ n ih =>
    subst hlength
    cases u with
    | nil =>
      cases v with
      | nil => exact .nil
      | cons d v' => exact absurd h.symm (bracedFrom_cons_ne_nil d v')
    | cons c u' =>
      cases v with
      | nil => exact absurd h (bracedFrom_cons_ne_nil c u')
      | cons d v' =>
        obtain hu | ⟨name, more, rfl, rfl, hne, hu⟩ := starts_cases c u' <;>
          obtain hv | ⟨name', behind, rfl, rfl, hne', hv⟩ := starts_cases d v'
        · rw [bracedFrom_literal hu, bracedFrom_literal hv] at h
          obtain ⟨rfl, htail⟩ := List.cons.inj h
          exact .literal hu hv (ih u'.length (Nat.lt_succ_self _) htail rfl)
        · rw [bracedFrom_literal hu, bracedFrom_param hne' hv] at h
          obtain ⟨rfl, htail⟩ := List.cons.inj h
          obtain ⟨more, rfl, hmore⟩ := append_of_bracedFrom (isParamChar_of_paramName hv) htail
          refine .braces hne' hv (ih more.length ?_ hmore rfl)
          simp only [List.length_cons, List.length_append]
          omega
        · rw [bracedFrom_param hne hu, bracedFrom_literal hv] at h
          obtain ⟨rfl, htail⟩ := List.cons.inj h
          obtain ⟨behind, rfl, hbehind⟩ :=
            append_of_bracedFrom (isParamChar_of_paramName hu) htail.symm
          refine .colon hne hu (ih more.length ?_ hbehind.symm rfl)
          simp only [List.length_cons, List.length_append]
          omega
        · rw [bracedFrom_param hne hu, bracedFrom_param hne' hv] at h
          obtain ⟨rfl, htail⟩ := append_brace_inj (isParamChar_of_paramName hu)
            (isParamChar_of_paramName hv) (List.cons.inj h).2
          refine .param hne hu hv (ih more.length ?_ htail rfl)
          simp only [List.length_cons, List.length_append]
          omega

end Braces

/-- **Routes are mounted at one path if and only if they are respelled.** -/
theorem mountPath_eq_iff (r s : String) :
    mountPath r = mountPath s ↔ Respelled (rooted r) (rooted s) := by
  unfold mountPath
  rw [String.ofList_inj]
  exact ⟨respelled_of_bracedFrom, bracedFrom_of_respelled⟩

/-- Without a brace there is one way to write a text. -/
theorem eq_of_respelled {u v : List Char} (h : Respelled u v) (hu : '{' ∉ u) (hv : '{' ∉ v) :
    u = v := by
  induction h with
  | nil => rfl
  | literal _ _ _ ih =>
    rw [ih (fun h => hu (List.mem_cons_of_mem _ h)) fun h => hv (List.mem_cons_of_mem _ h)]
  | param _ _ _ _ ih => rw [ih (fun h => hu (by simp [h])) fun h => hv (by simp [h])]
  | colon _ _ _ _ => exact absurd List.mem_cons_self hv
  | braces _ _ _ _ => exact absurd List.mem_cons_self hu

/-- Routes that have the slash in front and no brace are told apart by their paths. -/
theorem eq_of_mountPath_eq {r s : String} (hr : r.toList.head? = some '/' ∧ '{' ∉ r.toList)
    (hs : s.toList.head? = some '/' ∧ '{' ∉ s.toList) (h : mountPath r = mountPath s) : r = s := by
  have hrespelled := (mountPath_eq_iff r s).1 h
  rw [rooted, if_pos hr.1, rooted, if_pos hs.1] at hrespelled
  exact String.toList_inj.1 (eq_of_respelled hrespelled hr.2 hs.2)

/-! ## Patterns -/

namespace RoutePattern

/-- The characters that a part of a path is cut from. -/
def sourceOf : RoutePiece → List Char
  | .literal c => [c]
  | .param name => '{' :: (name ++ ['}'])

theorem append_of_paramAt {text : List Char} (h : paramAt text ≠ []) :
    ∃ rest, text = '{' :: (paramAt text ++ '}' :: rest) := by
  unfold paramAt at h ⊢
  split at h
  · next behind =>
    obtain ⟨more, hmore⟩ := exists_append_of_paramName behind
    dsimp only at h ⊢
    split at h
    · next hclosed =>
      have hdrop : behind.drop (paramName behind).length = more := by
        simpa using congrArg (List.drop (paramName behind).length) hmore
      rw [hdrop, List.head?_eq_some_iff] at hclosed
      obtain ⟨rest, rfl⟩ := hclosed
      exact ⟨rest, by rw [if_pos (by rw [hdrop]; rfl), ← hmore]⟩
    · exact absurd rfl h
  · exact absurd rfl h

/-- Cutting a path loses nothing. -/
theorem source_cutFrom (skip : Nat) (text : List Char) :
    (cutFrom skip text).flatMap sourceOf = text.drop skip := by
  induction text generalizing skip with
  | nil => cases skip <;> rfl
  | cons c rest ih =>
    cases skip with
    | succ skip => exact ih skip
    | zero =>
      by_cases hname : paramAt (c :: rest) = []
      · simp [cutFrom, hname, ih, sourceOf]
      · obtain ⟨more, hmore⟩ := append_of_paramAt hname
        have hempty : (paramAt (c :: rest)).isEmpty = false := by simpa using hname
        obtain ⟨-, hrest⟩ := List.cons.inj hmore
        have hdrop : rest.drop ((paramAt (c :: rest)).length + 1) = more := by
          simpa using congrArg (List.drop ((paramAt (c :: rest)).length + 1)) hrest
        simp only [cutFrom, hempty, Bool.false_eq_true, if_false, List.flatMap_cons, sourceOf, ih, hdrop]
        simpa using hmore.symm

/-- Different paths have different patterns. -/
theorem ofPath_injective {p q : String} (h : ofPath p = ofPath q) : p = q := by
  have hsource := congrArg (List.flatMap sourceOf) h
  unfold ofPath at hsource
  rw [source_cutFrom, source_cutFrom, List.drop_zero, List.drop_zero] at hsource
  exact String.toList_inj.1 hsource

end RoutePattern

/-! ## Paths that can be served -/

theorem mem_insertName {x name : String} {names : List String} :
    x ∈ insertName name names ↔ x = name ∨ x ∈ names := by
  induction names with
  | nil => simp [insertName]
  | cons other rest ih =>
    rw [insertName]
    split
    · next heq =>
      subst heq
      simp
    · split
      · exact List.mem_cons
      · rw [List.mem_cons, List.mem_cons, ih, or_left_comm]

theorem mem_repeatedNames {x : String} {names : List String} :
    x ∈ repeatedNames names ↔ List.Duplicate x names := by
  induction names with
  | nil => exact iff_of_false List.not_mem_nil (List.not_duplicate_nil x)
  | cons name rest ih =>
    rw [repeatedNames, List.duplicate_cons_iff]
    split
    · next hmem =>
      rw [mem_insertName, ih]
      refine or_congr_left ⟨?_, fun h => h.1.symm⟩
      rintro rfl
      exact ⟨rfl, List.contains_iff_mem.1 hmem⟩
    · next hnew =>
      rw [ih, or_iff_right]
      rintro ⟨rfl, hmem⟩
      exact hnew (List.contains_iff_mem.2 hmem)

theorem repeatedNames_eq_nil_iff (names : List String) : repeatedNames names = [] ↔ names.Nodup := by
  rw [List.eq_nil_iff_forall_not_mem, List.nodup_iff_forall_not_duplicate]
  exact forall_congr' fun _ => not_congr mem_repeatedNames

/-- A path can be served if the names of its parameters are distinct. -/
theorem RoutePattern.compile_eq_ok_iff {path : String} {pattern : RoutePattern} :
    compile path = .ok pattern ↔ pattern = ofPath path ∧ (ofPath path).params.Nodup := by
  rw [← repeatedNames_eq_nil_iff]
  unfold compile
  cases hrepeated : repeatedNames (ofPath path).params with
  | nil => simp only [hrepeated, Except.ok.injEq, and_true, eq_comm]
  | cons name names => simp [hrepeated]

def Contract.mounted (contract : Contract) : Mount where
  pattern := RoutePattern.ofPath (mountPath contract.request.route)
  method := contract.request.method.upperName
  endpoint := .contract contract

theorem Contract.mount_eq_ok_iff {contract : Contract} {mount : Mount} :
    contract.mount = .ok mount ↔ mount = contract.mounted ∧
      (RoutePattern.ofPath (mountPath contract.request.route)).params.Nodup := by
  unfold Contract.mount
  constructor
  · intro h
    obtain ⟨pattern, hpattern, rfl⟩ := ok_of_map h
    obtain ⟨rfl, hnodup⟩ := RoutePattern.compile_eq_ok_iff.1 hpattern
    exact ⟨rfl, hnodup⟩
  · rintro ⟨rfl, hnodup⟩
    rw [RoutePattern.compile_eq_ok_iff.2 ⟨rfl, hnodup⟩]
    rfl

/-! ## Mounts of a catalog -/

theorem HttpMethod.upperName_injective {m n : HttpMethod} (h : m.upperName = n.upperName) : m = n := by
  cases m <;> cases n <;> revert h <;> decide

/-- Whether two requests have different routes for one method that are mounted at one path: with the
slash in front they are the same, or they differ in parameters that are written in two ways. -/
def RequestSpec.SharesMount (a b : RequestSpec) : Prop :=
  a.method = b.method ∧ a.route ≠ b.route ∧ Respelled (rooted a.route) (rooted b.route)

namespace Catalog

variable {tree : FileTree} {casesAllowed : Bool} {top : Location} {catalog : Catalog}
  {entries : List CatalogEntry} {offer? : Location → Option Contract}

/-- No two entries have the same method and route. -/
def Distinct (entries : List CatalogEntry) : Prop :=
  entries.Pairwise fun a b => sameTarget a.contract b.contract = false

theorem Distinct.accept (h : Distinct entries) (place : Location) :
    Distinct (Catalog.accept offer? entries place) := by
  unfold Catalog.accept
  split
  · exact h
  · next contract _ =>
    split
    · exact h
    · next hfree =>
      refine List.pairwise_append.2 ⟨h, List.pairwise_singleton _ _, ?_⟩
      intro entry hentry other hother
      rw [List.mem_singleton.1 hother]
      simpa using fun htaken => hfree (List.any_eq_true.2 ⟨entry, hentry, htaken⟩)

theorem Distinct.foldl_accept (h : Distinct entries) (places : List Location) :
    Distinct (places.foldl (Catalog.accept offer?) entries) := by
  induction places generalizing entries with
  | nil => exact h
  | cons place rest ih => exact ih (h.accept place)

/-- **No two contracts of a catalog have the same method and route.** -/
theorem distinct_loaded (h : load tree casesAllowed top = .ok catalog) : Distinct catalog.loaded := by
  rw [loaded_of_load h]
  exact Distinct.foldl_accept .nil _

/-- Entries whose targets are distinct are mounted apart unless two of them share a mount. -/
theorem nodup_map_mount_iff {α : Type} (mount : RequestSpec → α)
    (hmount : ∀ a b, mount a = mount b ↔ a.method = b.method ∧ mountPath a.route = mountPath b.route)
    (h : Distinct entries) : (entries.map fun entry => mount entry.contract.request).Nodup ↔
      entries.Pairwise fun a b => ¬ a.contract.request.SharesMount b.contract.request := by
  rw [List.Nodup, List.pairwise_map]
  constructor
  · refine List.Pairwise.imp fun {a b} hdiffer hshares => hdiffer ?_
    obtain ⟨hmethod, -, hrespelled⟩ := hshares
    exact (hmount _ _).2 ⟨hmethod, (mountPath_eq_iff _ _).2 hrespelled⟩
  · intro hapart
    refine List.Pairwise.imp₂ (fun a b htarget hshares heq => ?_) h hapart
    obtain ⟨hmethod, hpath⟩ := (hmount _ _).1 heq
    refine hshares ⟨hmethod, fun hroute => ?_, (mountPath_eq_iff _ _).1 hpath⟩
    rw [← Bool.not_eq_true, sameTarget_iff] at htarget
    exact htarget ⟨hmethod, hroute⟩

/-- A server mounts the contracts of its catalog in order, if all of their paths can be served. -/
theorem mapM_mount_eq_ok_iff {mounts : List Mount} :
    (entries.mapM fun entry => entry.contract.mount) = .ok mounts ↔
      mounts = entries.map (·.contract.mounted) ∧
        ∀ entry ∈ entries, (RoutePattern.ofPath (mountPath entry.contract.request.route)).params.Nodup := by
  induction entries generalizing mounts with
  | nil =>
    rw [List.mapM_nil]
    constructor
    · rintro ⟨⟩
      exact ⟨rfl, nofun⟩
    · rintro ⟨rfl, -⟩
      rfl
  | cons entry entries ih =>
    rw [List.mapM_cons, List.forall_mem_cons]
    constructor
    · intro h
      obtain ⟨first, hfirst, h⟩ := ok_of_bind h
      obtain ⟨rest, hrest, h⟩ := ok_of_bind h
      cases h
      obtain ⟨rfl, hentry⟩ := Contract.mount_eq_ok_iff.1 hfirst
      obtain ⟨rfl, hentries⟩ := ih.1 hrest
      exact ⟨rfl, hentry, hentries⟩
    · rintro ⟨rfl, hentry, hentries⟩
      rw [Contract.mount_eq_ok_iff.2 ⟨rfl, hentry⟩, ih.2 ⟨rfl, hentries⟩]
      rfl

/-- The check of the server's health comes behind the contracts. -/
theorem ofCatalog_eq_ok_iff {server : Server} : Server.ofCatalog catalog = .ok server ↔
    server = ⟨catalog, catalog.loaded.map (·.contract.mounted) ++ [healthMount]⟩ ∧
      ∀ entry ∈ catalog.loaded,
        (RoutePattern.ofPath (mountPath entry.contract.request.route)).params.Nodup := by
  unfold Server.ofCatalog
  constructor
  · intro h
    obtain ⟨mounts, hmounts, h⟩ := ok_of_bind h
    obtain ⟨rfl, hentries⟩ := mapM_mount_eq_ok_iff.1 hmounts
    exact ⟨(Except.ok.inj h).symm, hentries⟩
  · rintro ⟨rfl, hentries⟩
    rw [mapM_mount_eq_ok_iff.2 ⟨rfl, hentries⟩]
    rfl

theorem mounts_of_ofCatalog {server : Server} (h : Server.ofCatalog catalog = .ok server) :
    server.mounts.dropLast.map (fun m => (m.method, m.pattern)) =
      catalog.loaded.map fun entry => (entry.contract.request.method.upperName,
        RoutePattern.ofPath (mountPath entry.contract.request.route)) := by
  obtain ⟨rfl, -⟩ := ofCatalog_eq_ok_iff.1 h
  rw [List.dropLast_concat, List.map_map]
  rfl

/-- **The contracts of a catalog are mounted apart, unless the routes of two are respelled.** Their
methods and paths are pairwise different if and only if no two of them have, for one method, routes
that differ in the slash in front or in how parameters are written. The same holds of the methods and
patterns that a server mounts them for. -/
theorem mounts_nodup_iff (h : load tree casesAllowed top = .ok catalog) :
    ((catalog.loaded.map fun entry =>
        (entry.contract.request.method, mountPath entry.contract.request.route)).Nodup ↔
      catalog.loaded.Pairwise fun a b => ¬ a.contract.request.SharesMount b.contract.request) ∧
    ∀ server, Server.ofCatalog catalog = .ok server →
      ((server.mounts.dropLast.map fun m => (m.method, m.pattern)).Nodup ↔
        catalog.loaded.Pairwise fun a b => ¬ a.contract.request.SharesMount b.contract.request) := by
  have hdistinct := distinct_loaded h
  refine ⟨nodup_map_mount_iff (fun request => (request.method, mountPath request.route))
    (fun a b => Prod.mk.injEq _ _ _ _ ▸ Iff.rfl) hdistinct, fun server hserver => ?_⟩
  rw [mounts_of_ofCatalog hserver]
  refine nodup_map_mount_iff (fun request =>
    (request.method.upperName, RoutePattern.ofPath (mountPath request.route))) (fun a b => ?_) hdistinct
  rw [Prod.mk.injEq]
  exact and_congr ⟨HttpMethod.upperName_injective, congrArg _⟩
    ⟨RoutePattern.ofPath_injective, congrArg _⟩

def documentFor (route : String) : List Nat :=
  Text.encode <| "\x7b\"request\": \x7b\"route\": \"" ++ route ++ "\", \"method\": \"get\"\x7d, " ++
    "\"response\": \x7b\"code\": 200\x7d\x7d"

/-- Routes with parameters of different names, written in both ways. -/
theorem mounts_nodup_iff_params :
    let tree : FileTree :=
      ⟨[(["a.json"], documentFor "/:id/"), (["b.json"], documentFor "\x7bno\x7d/")], []⟩
    ∃ catalog, load tree true [] = .ok catalog ∧ catalog.loaded.length = 2 ∧
      catalog.loaded.Pairwise fun a b => ¬ a.contract.request.SharesMount b.contract.request := by
  intro tree
  have hpaths : (load tree true []).map (·.loaded.map fun entry =>
      (entry.contract.request.method, mountPath entry.contract.request.route)) =
        .ok [(.get, "/\x7bid\x7d/"), (.get, "/\x7bno\x7d/")] := by decide +kernel
  obtain ⟨catalog, hload, hloaded⟩ := ok_of_map hpaths
  have hnodup := (mounts_nodup_iff hload).1.1 (by rw [hloaded]; decide)
  refine ⟨catalog, hload, ?_, hnodup⟩
  simpa using congrArg List.length hloaded

/-- Two documents are loaded whose routes differ in the slash in front, and both have one mount. -/
theorem mounts_repeat_without_slash :
    let tree : FileTree := ⟨[(["a.json"], documentFor "x"), (["b.json"], documentFor "/x")], []⟩
    ∃ catalog, load tree true [] = .ok catalog ∧
      ¬ (catalog.loaded.map fun entry =>
        (entry.contract.request.method, mountPath entry.contract.request.route)).Nodup := by
  intro tree
  have hpaths : (load tree true []).map (·.loaded.map fun entry =>
      (entry.contract.request.method, mountPath entry.contract.request.route)) =
        .ok [(.get, "/x"), (.get, "/x")] := by decide +kernel
  obtain ⟨catalog, hload, hloaded⟩ := ok_of_map hpaths
  exact ⟨catalog, hload, by rw [hloaded]; decide⟩

end Catalog

end MockApi
