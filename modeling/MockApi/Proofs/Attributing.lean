import Mathlib.Data.List.Basic
import MockApi.Contract.Rejection
import MockApi.Proofs.Integer

/-!
# Problems of cases

A case is checked as if it stood alone. The problems of a contract inside its cases are the problems of the
cases, in the order of the document and each under the name of its own case.

* `Checked.problems` : the problems of a check, none if it passes;
* `Problem.under` : a problem whose place is put under a way;
* `caseProblems`, `problems_casesFrom` : cases are checked one by one, whatever the others contain;
* `Problem.nameCase`, `problems_casesFrom_true` : the names that stand for positions are those of the cases
  at the positions;
* `Contract.ReportsCases`, `Contract.reportsCases` : all of this for the messages of a rejection.
-/

namespace MockApi

open Contract (Rule problemText complaintMessage)
open MockApi.Path (indexText)

/-! ## Problems of checks -/

section Checked

variable {ρ α β : Type}

/-- A problem whose place is put under a way. -/
def Problem.under (way : List Text) (p : Problem ρ) : Problem ρ :=
  { p with location := way ++ p.location }

theorem Problem.under_under (outer inner : List Text) (p : Problem ρ) :
    (p.under inner).under outer = p.under (outer ++ inner) := by
  simp [Problem.under]

namespace Checked

/-- The problems of a check, none if it passes. -/
def problems : Checked ρ α → List (Problem ρ)
  | .ok _ => []
  | .error ps => ps

theorem problems_map (result : Checked ρ α) (f : α → β) : problems (result.map f) = problems result := by
  cases result <;> rfl

theorem problems_bind_ok (result : Checked ρ α) (f : α → β) :
    problems (result >>= fun a => .ok (f a)) = problems result := by
  cases result <;> rfl

theorem problems_within (segment : Text) (result : Checked ρ α) :
    problems (within segment result) = (problems result).map (Problem.under [segment]) := by
  cases result <;> rfl

theorem problems_both (first : Checked ρ α) (second : Checked ρ β) :
    problems (both first second) = problems first ++ problems second := by
  cases first <;> cases second <;> simp [both, problems]

theorem head?_location_of_within {segment : Text} {result : Checked ρ α} {p : Problem ρ}
    (h : p ∈ problems (within segment result)) : p.location.head? = some segment := by
  rw [problems_within, List.mem_map] at h
  obtain ⟨q, -, rfl⟩ := h
  rfl

/-- The problems of a member with one name are under that name. -/
theorem head?_location_of_required {members : Members Value} {name : String} {f : Value → Checked ρ α}
    {p : Problem ρ} (h : p ∈ problems (required members [name] f)) :
    p.location.head? = some (Text.ofString name) := by
  unfold required at h
  split at h
  · next key v hmember =>
    obtain ⟨key', hkey, hfound⟩ := List.exists_of_findSome?_eq_some hmember
    obtain rfl := List.mem_singleton.1 hkey
    obtain ⟨w, -, heq⟩ := Option.map_eq_some_iff.1 hfound
    cases heq
    exact head?_location_of_within h
  · exact head?_location_of_within h

end Checked

end Checked

/-! ## Cases -/

/-- The problems of a case that stands alone, with the name that it has in its contract. -/
def caseProblems (name : Text) (document : Value) : List (Problem Rule) :=
  Checked.problems (ExceptCase.ofValue (namedCase name document))

/-- **Cases are checked one by one**: their problems follow one another, each under the name or the
position of its own case. -/
theorem problems_casesFrom (byName : Bool) (i : Nat) (cases : Members Value) :
    Checked.problems (casesFrom byName i cases) = (cases.zipIdx i).flatMap fun c =>
      (caseProblems c.1.1 c.1.2).map (Problem.under [if byName then c.1.1 else indexText c.2]) := by
  induction cases generalizing i with
  | nil => rfl
  | cons c cases ih =>
    rw [casesFrom, Checked.problems_map, Checked.problems_both, Checked.problems_within, ih,
      List.zipIdx_cons, List.flatMap_cons]
    rfl

/-- The name of the case at a position, if there is one. -/
def nameAt? (names : List Text) (position : Text) : Option Text :=
  (names.zipIdx.find? fun name => indexText name.2 == position).map Prod.fst

/-- A problem whose place begins with the name of a case, where it began with its position. -/
def Problem.nameCase {ρ : Type} (names : List Text) (p : Problem ρ) : Problem ρ :=
  match p.location with
  | [] => p
  | position :: rest => { p with location := (nameAt? names position).getD position :: rest }

theorem indexText_injective {i j : Nat} (h : indexText i = indexText j) : i = j := by
  rw [← Path.digitsValue_indexText i, h, Path.digitsValue_indexText]

theorem find?_indexText {names : List Text} {name : Text} {i j : Nat} (h : names[i]? = some name) :
    ((names.zipIdx j).find? fun name => indexText name.2 == indexText (j + i)) = some (name, j + i) := by
  induction names generalizing i j with
  | nil => cases h
  | cons other names ih =>
    rw [List.zipIdx_cons]
    cases i with
    | zero =>
      cases h
      rw [List.find?_cons_of_pos (by simp)]
      rfl
    | succ i =>
      have hne : indexText j ≠ indexText (j + (i + 1)) := fun heq => by
        have := indexText_injective heq
        omega
      rw [List.find?_cons_of_neg (by simpa using hne), ← Nat.add_assoc, Nat.add_right_comm]
      exact ih h

theorem nameAt?_indexText {names : List Text} {name : Text} {i : Nat} (h : names[i]? = some name) :
    nameAt? names (indexText i) = some name := by
  have hfind := find?_indexText (j := 0) h
  rw [Nat.zero_add] at hfind
  rw [nameAt?, hfind, Option.map_some]

/-- **The names that stand for positions are those of the cases at the positions.** -/
theorem problems_casesFrom_true (cases : Members Value) :
    Checked.problems (casesFrom true 0 cases) =
      (Checked.problems (casesFrom false 0 cases)).map (Problem.nameCase (cases.map Prod.fst)) := by
  rw [problems_casesFrom, problems_casesFrom, List.map_flatMap]
  refine List.flatMap_congr fun c hc => ?_
  obtain ⟨⟨name, document⟩, i⟩ := c
  have hname : (cases.map Prod.fst)[i]? = some name := by
    rw [List.getElem?_map, List.mem_zipIdx_iff_getElem?.1 hc, Option.map_some]
  rw [List.map_map]
  refine List.map_congr_left fun p _ => ?_
  simp [Problem.under, Problem.nameCase, nameAt?_indexText hname]

theorem casesOfMembers_of_get? {members cases : Members Value}
    (h : Members.get? members casesName = some (.object cases)) :
    casesOfMembers members = Checked.within casesName (casesFrom true 0 cases) := by
  have hmember : Checked.member? members [casesName, "except_cases"] = some (casesName, .object cases) := by
    rw [Checked.member?, List.findSome?_cons, h]
    rfl
  have hnamed : Members.has members casesName = true := by
    rw [Members.has, h]
    rfl
  rw [casesOfMembers, Checked.optional, hmember, hnamed]
  rfl

/-! ## Contracts -/

def Problem.isInCase {ρ : Type} (p : Problem ρ) : Bool :=
  match p.location with
  | first :: _ :: _ => first == Text.ofString casesName
  | _ => false

def Contract.problems (members : Members Value) : List (Problem Rule) :=
  Checked.problems (ofMembers members)

/-- The messages with which a document is rejected, none if it is not. -/
def Contract.messages (source : Option String) (v : Value) : List Text :=
  match ofValue source v with
  | .ok _ => []
  | .error r => r.errors

/-- The message of a problem of a case, whose place alone is the one in the case. -/
def caseMessage (name : Text) (p : Problem Rule) : Text :=
  Text.ofString casesName ++ "." ++ name ++
    p.location.flatMap (fun segment => Text.ofString "." ++ segment) ++ ": " ++
    complaintMessage p.complaint

theorem Contract.messages_object (source : Option String) (members : Members Value) :
    Contract.messages source (.object members) = (Contract.problems members).map problemText := by
  simp only [Contract.messages, ofValue, Contract.problems]
  cases ofMembers members <;> rfl

/-- The problems of a contract are those of the request, of the response and of the cases. -/
theorem Contract.problems_eq (members : Members Value) : Contract.problems members =
    Checked.problems (Checked.required members ["request"] RequestSpec.ofValue) ++
      (Checked.problems (Checked.required members ["response"] ResponseSpec.ofValue) ++
        Checked.problems (casesOfMembers members)) := by
  rw [Contract.problems, ofMembers, ← Checked.problems_both, ← Checked.problems_both]
  exact Checked.problems_bind_ok _ _

theorem Text.join_cons (separator text : Text) (texts : List Text) :
    Text.join separator (text :: texts) = text ++ texts.flatMap fun t => separator ++ t := by
  induction texts generalizing text with
  | nil => simp [Text.join]
  | cons other texts ih =>
    have hsplit : Text.join separator (text :: other :: texts) =
        text ++ (separator ++ Text.join separator (other :: texts)) := by
      simp [Text.join]
    rw [hsplit, ih, List.flatMap_cons, List.append_assoc]

theorem problemText_under_case (name : Text) (p : Problem Rule) :
    problemText (p.under [Text.ofString casesName, name]) = caseMessage name p := by
  have hplace : Text.join "." (p.under [Text.ofString casesName, name]).location =
      Text.ofString casesName ++ "." ++ name ++
        p.location.flatMap fun segment => Text.ofString "." ++ segment := by
    simp [Problem.under, Text.join_cons]
  have hempty : (Text.join "." (p.under [Text.ofString casesName, name]).location).isEmpty = false := by
    rw [hplace]
    rfl
  rw [problemText, caseMessage, hempty, hplace]
  rfl

theorem isInCase_under {ρ : Type} (name : Text) (p : Problem ρ) :
    (p.under [Text.ofString casesName, name]).isInCase = true := by
  simp [Problem.under, Problem.isInCase]

theorem isInCase_of_head? {ρ : Type} {p : Problem ρ} {name : Text}
    (h : p.location.head? = some name) (hname : name ≠ Text.ofString casesName) : p.isInCase = false := by
  unfold Problem.isInCase
  split
  · next first second rest hlocation =>
    rw [hlocation] at h
    cases h
    simpa using hname
  · rfl

/-- Neither the request nor the response has a problem inside a case. -/
theorem filter_isInCase_of_required {α : Type} {members : Members Value} {name : String}
    {f : Value → Checked Rule α} (hname : Text.ofString name ≠ Text.ofString casesName) :
    (Checked.problems (Checked.required members [name] f)).filter Problem.isInCase = [] := by
  rw [List.filter_eq_nil_iff]
  intro p hp
  rw [isInCase_of_head? (Checked.head?_location_of_required hp) hname]
  exact Bool.false_ne_true

theorem problems_casesOfMembers {members cases : Members Value}
    (h : Members.get? members casesName = some (.object cases)) :
    Checked.problems (casesOfMembers members) = cases.flatMap fun c =>
      (caseProblems c.1 c.2).map (Problem.under [Text.ofString casesName, c.1]) := by
  rw [casesOfMembers_of_get? h, Checked.problems_within, problems_casesFrom, List.map_flatMap]
  -- under its name a case is put under the name of all cases
  have hunder (c : (Text × Value) × Nat) : ((caseProblems c.1.1 c.1.2).map (Problem.under [c.1.1])).map
      (Problem.under [Text.ofString casesName]) =
        (caseProblems c.1.1 c.1.2).map (Problem.under [Text.ofString casesName, c.1.1]) := by
    rw [List.map_map]
    exact List.map_congr_left fun p _ => Problem.under_under _ _ p
  simp only [if_true, hunder]
  conv_rhs => rw [← List.zipIdx_map_fst 0 cases, List.flatMap_map]

/-- The cases of a contract are reported on their own. -/
structure Contract.ReportsCases (members cases : Members Value) (source : Option String) : Prop where
  /-- The messages of a rejection are those of the problems. -/
  messages : Contract.messages source (.object members) = (Contract.problems members).map problemText
  /-- The problems inside the cases are those of the cases alone, each under the name of its case. -/
  inside : (Contract.problems members).filter Problem.isInCase = cases.flatMap fun c =>
    (caseProblems c.1 c.2).map (Problem.under [Text.ofString casesName, c.1])
  /-- So are their messages. -/
  texts : ((Contract.problems members).filter Problem.isInCase).map problemText =
    cases.flatMap fun c => (caseProblems c.1 c.2).map (caseMessage c.1)
  /-- The names are those of the positions. -/
  positions : Checked.problems (casesFrom true 0 cases) =
    (Checked.problems (casesFrom false 0 cases)).map (Problem.nameCase (cases.map Prod.fst))

/-- **The problems of a case are reported under that case**, all of them and in the order of the document,
whatever the request, the response and the other cases contain. -/
theorem Contract.reportsCases {members cases : Members Value}
    (h : Members.get? members casesName = some (.object cases)) (source : Option String) :
    Contract.ReportsCases members cases source := by
  have hinside : (Contract.problems members).filter Problem.isInCase = cases.flatMap fun c =>
      (caseProblems c.1 c.2).map (Problem.under [Text.ofString casesName, c.1]) := by
    -- the request and the response are checked under names of their own
    rw [Contract.problems_eq, List.filter_append, List.filter_append,
      filter_isInCase_of_required (by decide), filter_isInCase_of_required (by decide),
      List.nil_append, List.nil_append, problems_casesOfMembers h, List.filter_eq_self]
    intro p hp
    obtain ⟨c, -, hp⟩ := List.mem_flatMap.1 hp
    obtain ⟨q, -, rfl⟩ := List.mem_map.1 hp
    exact isInCase_under c.1 q
  exact {
    messages := Contract.messages_object source members
    inside := hinside
    texts := by
      rw [hinside, List.map_flatMap]
      refine List.flatMap_congr fun c _ => ?_
      rw [List.map_map]
      exact List.map_congr_left fun p _ => problemText_under_case c.1 p
    positions := problems_casesFrom_true cases }

/-- A case that is none under the name of a position, one without a name that lacks all it needs, a right
one and one whose metadata do not fit, behind a request and a response that are wrong too. -/
theorem Contract.reportsCases_mixed :
    let cases : Members Value := [
      ("1", .int 7),
      ("", .object [("name", .text "x"), ("validate", .list []), ("response", .object [])]),
      ("right", .object [("predicates", .list [.text "1"]), ("response", .object [("code", .int 200)])]),
      ("0", .object [("response", .object [("code", .int 200), ("data", .list [.int 1]),
        ("$data", .object [("cast", .object [("x", .text "number")])])])])]
    let members : Members Value := [
      ("except", .object cases), ("except_cases", .object [("0", .null)]),
      ("request", .object [("method", .text "get")]), ("response", .object [("code", .int 99)])]
    Members.get? members casesName = some (.object cases) ∧
      Contract.ReportsCases members cases none ∧
      Contract.messages none (.object members) = [
        "request.route: Field required",
        "response.code: Unsupported response HTTP status: 99",
        "except.1: Input should be a valid dictionary or instance of ExceptCase",
        "except..validate: List should have at least 1 item after validation, not 0",
        "except..response.code: Field required",
        "except.0.validate: Field required",
        "except.0.response: Nothing to cast on x"] := by
  intro cases members
  exact ⟨rfl, Contract.reportsCases rfl none, by decide +kernel⟩

end MockApi
