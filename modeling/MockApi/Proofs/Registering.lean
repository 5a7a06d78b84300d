import MockApi.Proofs.Mounting

/-!
# Routes that can be served

A path is served only if the names of its parameters are distinct. Loading does not ask for this, so
one contract can keep a server from all of its mounts.

* `ParamStarts name text` : a text starts with a parameter, which is behind a colon or in braces;
* `RepeatsParam name route` : parameters of one name start at two places of a route;
* `params_mountPath` : the parameters of a path are those of its route, in order;
* `Server.registers_iff` : a server has a mount for each contract unless a route repeats a parameter.
-/

namespace MockApi

/-- A text that starts with a parameter, which is behind a colon or in braces. -/
inductive ParamStarts (name : List Char) : List Char → Prop
  | colon {rest : List Char} : name ≠ [] → paramName (name ++ rest) = name →
    ParamStarts name (':' :: (name ++ rest))
  | braces {rest : List Char} : name ≠ [] → paramName name = name →
    ParamStarts name ('{' :: (name ++ '}' :: rest))

/-- Parameters of one name start at two places of a route. -/
def RepeatsParam (name route : String) : Prop :=
  ∃ i j, i < j ∧ ParamStarts name.toList (route.toList.drop i) ∧
    ParamStarts name.toList (route.toList.drop j)

/-! ## Where parameters start -/

/-- The name of the parameter that a text starts with, which is empty if there is none. -/
def paramStart (text : List Char) : List Char :=
  match text with
  | ':' :: rest => paramName rest
  | _ => RoutePattern.paramAt text

def paramNames : List Char → List String
  | [] => []
  | c :: rest =>
    if paramStart (c :: rest) = [] then paramNames rest
    else String.ofList (paramStart (c :: rest)) :: paramNames rest

section Starts
variable {c : Char} {name text rest : List Char}

/-- A name has the characters of a name. -/
theorem isParamChar_of_mem (h : paramName name = name) : ∀ c ∈ name, isParamChar c = true := by
  intro c hc
  rw [← h] at hc
  exact isParamChar_of_mem_paramName hc

/-- What stands behind a name does not make it longer or shorter. -/
theorem paramName_of_append (h : paramName (name ++ rest) = name) : paramName name = name := by
  cases name with
  | nil => rfl
  | cons c more =>
    have hchars := isParamChar_of_paramName h
    rw [List.cons_append, paramName] at h
    split at h
    · next hstart => rw [paramName, if_pos hstart, List.takeWhile_eq_self_iff.2 hchars]
    · cases h

theorem paramName_append_brace (h : paramName name = name) (rest : List Char) :
    paramName (name ++ '}' :: rest) = name := by
  cases name with
  | nil => simp [paramName, isParamStart]
  | cons c more =>
    have hchars := isParamChar_of_mem h
    rw [paramName] at h
    split at h
    · next hstart =>
      rw [List.cons_append, paramName, if_pos hstart, ← List.cons_append,
        List.takeWhile_append_of_pos hchars]
      exact List.append_nil _
    · cases h

theorem paramName_paramName (text : List Char) : paramName (paramName text) = paramName text := by
  obtain ⟨rest, hrest⟩ := exists_append_of_paramName text
  have hname : paramName (paramName text ++ rest) = paramName text := by rw [← hrest]
  exact paramName_of_append hname

namespace RoutePattern

theorem paramAt_braces (h : paramName name = name) (rest : List Char) :
    paramAt ('{' :: (name ++ '}' :: rest)) = name := by
  simp only [paramAt, paramName_append_brace h, List.drop_left, List.head?_cons, if_true]

theorem paramName_paramAt (text : List Char) : paramName (paramAt text) = paramAt text := by
  unfold paramAt
  split
  · dsimp only
    split
    · exact paramName_paramName _
    · rfl
  · rfl

theorem cutFrom_eq_drop (skip : Nat) (text : List Char) :
    cutFrom skip text = cutFrom 0 (text.drop skip) := by
  induction text generalizing skip with
  | nil => cases skip <;> rfl
  | cons c rest ih =>
    cases skip with
    | zero => rfl
    | succ skip => exact ih skip

theorem cutFrom_braces (hne : name ≠ []) (h : paramName name = name) (rest : List Char) :
    cutFrom 0 ('{' :: (name ++ '}' :: rest)) = .param name :: cutFrom 0 rest := by
  have hempty : name.isEmpty = false := by simpa using hne
  have hdrop : (name ++ '}' :: rest).drop (name.length + 1) = rest := by simp
  simp only [cutFrom, paramAt_braces h, hempty, Bool.false_eq_true, if_false]
  rw [cutFrom_eq_drop, hdrop]

theorem cutFrom_literal (h : paramAt (c :: rest) = []) :
    cutFrom 0 (c :: rest) = .literal c :: cutFrom 0 rest := by
  simp only [cutFrom, h, List.isEmpty_nil, if_true]

end RoutePattern

theorem paramStarts_iff : ParamStarts name text ↔ name ≠ [] ∧ paramStart text = name := by
  constructor
  · rintro (⟨hne, hname⟩ | ⟨hne, hname⟩)
    · exact ⟨hne, hname⟩
    · exact ⟨hne, RoutePattern.paramAt_braces hname _⟩
  · rintro ⟨hne, rfl⟩
    unfold paramStart at hne ⊢
    split at hne
    · next rest =>
      obtain ⟨more, hmore⟩ := exists_append_of_paramName rest
      have hname : paramName (paramName rest ++ more) = paramName rest := by rw [← hmore]
      have hstart := ParamStarts.colon hne hname
      rwa [← hmore] at hstart
    · obtain ⟨more, hmore⟩ := RoutePattern.append_of_paramAt hne
      have hstart : ParamStarts _ ('{' :: (RoutePattern.paramAt text ++ '}' :: more)) :=
        .braces hne (RoutePattern.paramName_paramAt text)
      rwa [← hmore] at hstart

theorem paramStart_of_ne (hcolon : c ≠ ':') (hbrace : c ≠ '{') : paramStart (c :: rest) = [] := by
  unfold paramStart RoutePattern.paramAt
  split
  · next h => exact absurd (List.cons.inj h).1 hcolon
  · split
    · next h => exact absurd (List.cons.inj h).1 hbrace
    · rfl

end Starts

/-! ## Names of parameters -/

section Names
variable {c : Char} {name text rest : List Char}

theorem paramNames_cons_of_nil (h : paramStart (c :: rest) = []) :
    paramNames (c :: rest) = paramNames rest := by
  rw [paramNames, if_pos h]

theorem paramNames_cons_of_starts (h : ParamStarts name (c :: rest)) :
    paramNames (c :: rest) = String.ofList name :: paramNames rest := by
  obtain ⟨hne, rfl⟩ := paramStarts_iff.1 h
  rw [paramNames, if_neg hne]

/-- No parameter starts inside of a name. -/
theorem paramNames_append (h : ∀ c ∈ name, isParamChar c = true) (rest : List Char) :
    paramNames (name ++ rest) = paramNames rest := by
  induction name with
  | nil => rfl
  | cons c name ih =>
    have hc := h c List.mem_cons_self
    rw [List.cons_append, paramNames_cons_of_nil, ih fun d hd => h d (List.mem_cons_of_mem _ hd)]
    refine paramStart_of_ne ?_ ?_ <;>
      · rintro rfl
        exact absurd hc (by decide)

theorem toList_starts_iff {name : String} (h : paramStart text ≠ []) :
    ParamStarts name.toList text ↔ String.ofList (paramStart text) = name := by
  rw [paramStarts_iff]
  constructor
  · rintro ⟨-, heq⟩
    rw [heq, String.ofList_toList]
  · rintro rfl
    rw [String.toList_ofList]
    exact ⟨h, rfl⟩

theorem mem_paramNames_cons {name : String} : name ∈ paramNames (c :: rest) ↔
    ParamStarts name.toList (c :: rest) ∨ name ∈ paramNames rest := by
  by_cases hnil : paramStart (c :: rest) = []
  · rw [paramNames_cons_of_nil hnil, paramStarts_iff, hnil, or_iff_right fun h => h.1 h.2.symm]
  · rw [paramNames, if_neg hnil, List.mem_cons, toList_starts_iff hnil, eq_comm]

theorem duplicate_paramNames_cons {name : String} : List.Duplicate name (paramNames (c :: rest)) ↔
    ParamStarts name.toList (c :: rest) ∧ name ∈ paramNames rest ∨
      List.Duplicate name (paramNames rest) := by
  by_cases hnil : paramStart (c :: rest) = []
  · rw [paramNames_cons_of_nil hnil, paramStarts_iff, hnil, or_iff_right fun h => h.1.1 h.1.2.symm]
  · rw [paramNames, if_neg hnil, List.duplicate_cons_iff, toList_starts_iff hnil]

theorem mem_paramNames {name : String} {text : List Char} :
    name ∈ paramNames text ↔ ∃ i, ParamStarts name.toList (text.drop i) := by
  induction text with
  | nil =>
    simp only [List.drop_nil, exists_const]
    exact iff_of_false List.not_mem_nil nofun
  | cons c rest ih =>
    rw [mem_paramNames_cons, ih]
    exact Nat.or_exists_add_one (p := fun i => ParamStarts name.toList ((c :: rest).drop i))

/-- A name is repeated among the parameters if it starts at two places. -/
theorem duplicate_paramNames {name : String} {text : List Char} :
    List.Duplicate name (paramNames text) ↔ ∃ i j, i < j ∧ ParamStarts name.toList (text.drop i) ∧
      ParamStarts name.toList (text.drop j) := by
  induction text with
  | nil =>
    simp only [List.drop_nil]
    exact iff_of_false (List.not_duplicate_nil name) nofun
  | cons c rest ih =>
    rw [duplicate_paramNames_cons, ih, mem_paramNames]
    constructor
    · rintro (⟨hi, j, hj⟩ | ⟨i, j, hij, hi, hj⟩)
      · exact ⟨0, j + 1, Nat.succ_pos j, hi, hj⟩
      · exact ⟨i + 1, j + 1, Nat.succ_lt_succ hij, hi, hj⟩
    · rintro ⟨i, j, hij, hi, hj⟩
      obtain ⟨j, rfl⟩ := Nat.exists_eq_succ_of_ne_zero (Nat.ne_zero_of_lt hij)
      cases i with
      | zero => exact .inl ⟨hi, j, hj⟩
      | succ i => exact .inr ⟨i, j, Nat.lt_of_succ_lt_succ hij, hi, hj⟩

/-- The parameters of the path are those of the text that is put in braces. -/
theorem params_cutFrom_bracedFrom (text : List Char) :
    (RoutePattern.cutFrom 0 (bracedFrom 0 text)).params = paramNames text := by
  -- A parameter is passed at once, so the induction is on the length.
  induction hlength : text.length using Nat.strong_induction_on generalizing text with
  | _ n ih =>
    subst hlength
    cases text with
    | nil => rfl
    | cons c rest =>
      by_cases hstart : ∃ name, ParamStarts name (c :: rest)
      · obtain ⟨name, hstart⟩ := hstart
        rw [paramNames_cons_of_starts hstart]
        cases hstart with
        | @colon more hne hname =>
          have hchars := isParamChar_of_paramName hname
          have hshorter : more.length < (':' :: (name ++ more)).length := by
            rw [List.length_cons, List.length_append]
            omega
          rw [bracedFrom_param hne hname, RoutePattern.cutFrom_braces hne (paramName_of_append hname),
            paramNames_append hchars, ← ih more.length hshorter more rfl]
          rfl
        | @braces more hne hname =>
          have hchars := isParamChar_of_mem hname
          have hshorter : more.length < ('{' :: (name ++ '}' :: more)).length := by
            rw [List.length_cons, List.length_append, List.length_cons]
            omega
          rw [bracedFrom_braces hchars, RoutePattern.cutFrom_braces hne hname, paramNames_append hchars,
            paramNames_cons_of_nil (paramStart_of_ne (by decide) (by decide)),
            ← ih more.length hshorter more rfl]
          rfl
      · have hnil : paramStart (c :: rest) = [] := by
          by_contra hne
          exact hstart ⟨_, paramStarts_iff.2 ⟨hne, rfl⟩⟩
        have hliteral : c = ':' → paramName rest = [] := by
          rintro rfl
          exact hnil
        -- Braces in front of a name stand there before and after.
        have hcut : RoutePattern.paramAt (c :: bracedFrom 0 rest) = [] := by
          by_contra hne
          obtain ⟨behind, hbehind⟩ := RoutePattern.append_of_paramAt hne
          have hname := RoutePattern.paramName_paramAt (c :: bracedFrom 0 rest)
          obtain ⟨rfl, htail⟩ := List.cons.inj hbehind
          obtain ⟨more, hmore, -⟩ := append_of_bracedFrom (isParamChar_of_mem hname) htail
          rw [hmore] at hstart
          exact hstart ⟨_, .braces hne hname⟩
        rw [bracedFrom_literal hliteral, RoutePattern.cutFrom_literal hcut,
          paramNames_cons_of_nil hnil, ← ih rest.length (Nat.lt_succ_self _) rest rfl]
        rfl

end Names

/-- **The parameters of a path are those that start in its route, in order.** -/
theorem params_mountPath (route : String) :
    (RoutePattern.ofPath (mountPath route)).params = paramNames route.toList := by
  unfold RoutePattern.ofPath mountPath
  rw [String.toList_ofList, params_cutFrom_bracedFrom]
  split
  · rfl
  · exact paramNames_cons_of_nil (paramStart_of_ne (by decide) (by decide))

theorem duplicate_params_mountPath {name route : String} :
    List.Duplicate name (RoutePattern.ofPath (mountPath route)).params ↔ RepeatsParam name route := by
  rw [params_mountPath]
  exact duplicate_paramNames

theorem nodup_params_mountPath {route : String} :
    (RoutePattern.ofPath (mountPath route)).params.Nodup ↔ ∀ name, ¬ RepeatsParam name route := by
  rw [List.nodup_iff_forall_not_duplicate]
  exact forall_congr' fun _ => not_congr duplicate_params_mountPath

/-! ## Servers -/

/-- A traversal that fails does so at one place, and does not fail in front of it. -/
theorem exists_of_mapM_error {ε α β : Type} {f : α → Except ε β} {as : List α} {e : ε}
    (h : as.mapM f = .error e) : ∃ before a behind, as = before ++ a :: behind ∧
      (∀ b ∈ before, ∃ r, f b = .ok r) ∧ f a = .error e := by
  induction as with
  | nil => cases h
  | cons a as ih =>
    rw [List.mapM_cons] at h
    cases ha : f a with
    | error fault =>
      rw [ha] at h
      cases h
      exact ⟨[], a, as, rfl, nofun, ha⟩
    | ok r =>
      rw [ha] at h
      cases has : as.mapM f with
      | error fault =>
        rw [has] at h
        cases h
        obtain ⟨before, b, behind, rfl, hbefore, hb⟩ := ih has
        exact ⟨a :: before, b, behind, rfl, List.forall_mem_cons.2 ⟨⟨r, ha⟩, hbefore⟩, hb⟩
      | ok rs =>
        rw [has] at h
        cases h

theorem RoutePattern.names_of_compile {path : String} {e : DuplicateParams}
    (h : compile path = .error e) :
    e.path = path ∧ e.names ≠ [] ∧ ∀ name, name ∈ e.names ↔ List.Duplicate name (ofPath path).params := by
  unfold compile at h
  dsimp only at h
  split at h
  · cases h
  · next hne =>
    cases h
    exact ⟨rfl, hne, fun name => mem_repeatedNames⟩

namespace Contract

theorem exists_mount_iff {contract : Contract} :
    (∃ mount, contract.mount = .ok mount) ↔ ∀ name, ¬ RepeatsParam name contract.request.route := by
  simp only [mount_eq_ok_iff, exists_eq_left, nodup_params_mountPath]

theorem names_of_mount {contract : Contract} {e : DuplicateParams} (h : contract.mount = .error e) :
    e.path = mountPath contract.request.route ∧ e.names ≠ [] ∧
      ∀ name, name ∈ e.names ↔ RepeatsParam name contract.request.route := by
  unfold Contract.mount at h
  cases hcompile : RoutePattern.compile (mountPath contract.request.route) with
  | ok pattern =>
    rw [hcompile] at h
    cases h
  | error fault =>
    rw [hcompile] at h
    cases h
    simpa only [duplicate_params_mountPath] using RoutePattern.names_of_compile hcompile

end Contract

/-- **A server has one mount for each contract of its catalog, unless a route repeats a parameter.**
The mounts are in the order of the catalog, and the check of the server's health comes last. A route
that has parameters of one name at two places, whether behind colons or in braces, keeps the server
from all of its mounts: the fault is that of the first such route, with the names it repeats. -/
theorem Server.registers_iff (catalog : Catalog) :
    ((∃ server, Server.ofCatalog catalog = .ok server ∧ server.catalog = catalog ∧
        server.mounts = catalog.loaded.map (·.contract.mounted) ++ [healthMount]) ↔
      ∀ entry ∈ catalog.loaded, ∀ name, ¬ RepeatsParam name entry.contract.request.route) ∧
    ∀ e, Server.ofCatalog catalog = .error e → ∃ before entry behind,
      catalog.loaded = before ++ entry :: behind ∧
      (∀ other ∈ before, ∀ name, ¬ RepeatsParam name other.contract.request.route) ∧
      e.path = mountPath entry.contract.request.route ∧ e.names ≠ [] ∧
      ∀ name, name ∈ e.names ↔ RepeatsParam name entry.contract.request.route := by
  constructor
  · simp only [Catalog.ofCatalog_eq_ok_iff, nodup_params_mountPath]
    constructor
    · rintro ⟨server, ⟨-, hdistinct⟩, -⟩
      exact hdistinct
    · intro hdistinct
      exact ⟨_, ⟨rfl, hdistinct⟩, rfl, rfl⟩
  · intro e h
    unfold Server.ofCatalog at h
    cases hmounts : catalog.loaded.mapM (fun entry => entry.contract.mount) with
    | ok mounts =>
      rw [hmounts] at h
      cases h
    | error fault =>
      rw [hmounts] at h
      cases h
      obtain ⟨before, entry, behind, hloaded, hbefore, hentry⟩ := exists_of_mapM_error hmounts
      exact ⟨before, entry, behind, hloaded,
        fun other hother => Contract.exists_mount_iff.1 (hbefore other hother),
        Contract.names_of_mount hentry⟩

/-- A document is loaded whose route repeats a parameter, and neither its contract nor the one beside
it is served. -/
theorem Server.registers_nothing_repeated :
    let tree : FileTree :=
      ⟨[(["a.json"], Catalog.documentFor "/:a/:a"), (["b.json"], Catalog.documentFor "/b")], []⟩
    ∃ catalog, Catalog.load tree true [] = .ok catalog ∧
      catalog.loaded.map (·.contract.request.route) = ["/:a/:a", "/b"] ∧
      ∀ server, Server.ofCatalog catalog ≠ .ok server := by
  intro tree
  have hserved : (Catalog.load tree true []).map (fun catalog =>
      (catalog.loaded.map (·.contract.request.route), (Server.ofCatalog catalog).toOption.isSome)) =
        .ok (["/:a/:a", "/b"], false) := by decide +kernel
  obtain ⟨catalog, hload, hpair⟩ := ok_of_map hserved
  obtain ⟨hroutes, hnone⟩ := Prod.mk.inj hpair
  refine ⟨catalog, hload, hroutes, fun server hserver => ?_⟩
  rw [hserver] at hnone
  cases hnone

end MockApi
