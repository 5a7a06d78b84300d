import Mathlib.Data.List.Induction
import MockApi.Predicate.Evaluation

/-!
# Fields by dots and fields by keys

A predicate reads a field of the request either by a chain of attributes, which is looked up as one
path, or by a chain of keys, which are looked up one after the other.

* `attributes`, `subscripts` : the two chains;
* `Datum.walk` : the member of a member, and so on;
* `Datum.barrier?` : the first scalar that a chain of names meets before its last name;
* `follow_eq` : a path of identifiers ends at the first scalar, and else it is a walk;
* `eval_attributes_eq_subscripts` : without such a scalar the two chains have the same datum, and
  with one the chain of attributes has that scalar where the chain of keys has null.
-/

namespace MockApi.Text

/-! ## Identifiers are no indices -/

def digitRanges : List (Nat × Nat) :=
  decimalZeros.map (fun first => (first, first + 9)) ++ otherDigitRanges

theorem exists_of_isDigit {c : CodePoint} (h : isDigit c = true) :
    ∃ range ∈ digitRanges, range.1 ≤ c.toNat ∧ c.toNat ≤ range.2 := by
  obtain h | h := Bool.or_eq_true_iff.1 h
  · unfold decimalValue? at h
    split at h
    · unfold asciiDigitValue? isAsciiDigit at h
      refine ⟨(0x30, 0x39), by decide, ?_⟩
      by_contra hrange
      simp only [Bool.and_eq_true, decide_eq_true_eq] at h
      rw [if_neg hrange] at h
      cases h
    · rw [Option.isSome_map, Option.isSome_iff_exists] at h
      obtain ⟨first, hfirst⟩ := h
      have hmem := List.mem_of_find?_eq_some hfirst
      have hrange := List.find?_some hfirst
      simp only [Bool.and_eq_true, decide_eq_true_eq] at hrange
      exact ⟨(first, first + 9), by simpa [digitRanges] using .inl hmem, hrange⟩
  · obtain ⟨range, hmem, hrange⟩ := exists_of_inRanges h
    exact ⟨range, by simp [digitRanges, hmem], hrange⟩

/-- Whether two ranges of code points have no number in common. -/
def areApart (range other : Nat × Nat) : Bool :=
  Nat.blt range.2 other.1 || Nat.blt other.2 range.1

theorem identifierStartRanges_areApart_digitRanges :
    (identifierStartRanges.all fun starts => digitRanges.all (areApart starts)) = true := by
  decide +kernel

theorem exists_of_isIdentifierStart {c : Char} (h : isIdentifierStart c = true) :
    ∃ range ∈ identifierStartRanges, range.1 ≤ c.toNat ∧ c.toNat ≤ range.2 := by
  unfold isIdentifierStart at h
  split at h
  · rw [Bool.or_eq_true, decide_eq_true_eq] at h
    obtain h | rfl := h
    · obtain hupper | hlower : c.isUpper = true ∨ c.isLower = true := Bool.or_eq_true_iff.1 h
      · exact ⟨(0x41, 0x5A), .head _, of_decide_eq_true hupper⟩
      · obtain ⟨hlow, hhigh⟩ := Bool.and_eq_true_iff.1 hlower
        exact ⟨(0x61, 0x7A), .tail _ (.tail _ (.head _)), of_decide_eq_true hlow,
          of_decide_eq_true hhigh⟩
    · exact ⟨(0x5F, 0x5F), .tail _ (.head _), by decide⟩
  · exact exists_of_inRanges h

theorem isDigit_of_isIdentifierStart {c : Char} (h : isIdentifierStart c = true) :
    isDigit (.ofChar c) = false := by
  rw [← Bool.not_eq_true]
  intro hdigit
  obtain ⟨digits, hdigits, hlow, hhigh⟩ := exists_of_isDigit hdigit
  obtain ⟨starts, hstarts, hlow', hhigh'⟩ := exists_of_isIdentifierStart h
  have hall := List.all_eq_true.1 identifierStartRanges_areApart_digitRanges starts hstarts
  have hapart := List.all_eq_true.1 hall digits hdigits
  simp only [areApart, Bool.or_eq_true, Nat.blt_eq] at hapart
  rw [CodePoint.toNat_ofChar] at hlow hhigh
  omega

/-- An identifier is neither a numeral nor a wildcard. -/
theorem isAllDigits_of_isIdentifier {name : String} (h : isIdentifier name.toList = true) :
    isAllDigits (ofString name) = false ∧ ofString name ≠ Path.wildcard := by
  rw [ofString]
  cases hname : name.toList with
  | nil => rw [hname] at h; cases h
  | cons c rest =>
    rw [hname, isIdentifier, Bool.and_eq_true] at h
    constructor
    · simp [isAllDigits, ofChars, isDigit_of_isIdentifierStart h.1]
    · intro heq
      have hc : CodePoint.ofChar c = CodePoint.ofChar '*' := (List.cons.inj heq).1
      rw [CodePoint.ofChar_injective hc] at h
      exact absurd h.1 (by decide)

end MockApi.Text

namespace MockApi.Predicate

open Text (isIdentifier)

/-- The chain of attributes of a name. -/
def attributes (root : String) (names : List String) : Expr :=
  names.foldl .attribute (.name root)

def subscripts (root : String) (names : List String) : Expr :=
  names.foldl (fun base name => .subscript base (.constant (.text (.ofString name)))) (.name root)

namespace Datum

/-- Whether a datum is there but has no parts. -/
def isScalar (d : Datum) : Bool := !d.isNull && !d.isContainer

/-- The datum that names lead to, each to a member of the one before. -/
def walk (names : List String) (d : Datum) : Datum :=
  names.foldl (fun d (name : String) => member name d) d

/-- The first scalar that names meet before the last of them. -/
def barrier? : List String → Datum → Option Datum
  | [], _ => none
  | name :: rest, d => if d.isScalar then some d else barrier? rest (member name d)

/-! ## Walks -/

theorem eq_null_of_isNull {d : Datum} (h : d.isNull = true) : d = .null := by
  cases d <;> first | rfl | cases h

theorem member_of_not_isContainer {d : Datum} (h : d.isContainer = false) (name : Text) :
    member name d = .null := by
  cases d <;> first | rfl | cases h

theorem walk_cons (name : String) (rest : List String) (d : Datum) :
    walk (name :: rest) d = walk rest (member name d) := rfl

@[simp] theorem walk_null (names : List String) : walk names .null = .null := by
  induction names with
  | nil => rfl
  | cons name rest ih => exact ih

@[simp] theorem barrier?_null (names : List String) : barrier? names .null = none := by
  induction names with
  | nil => rfl
  | cons name rest ih => exact ih

/-- Behind a scalar there is nothing. -/
theorem walk_of_barrier? {names : List String} {d scalar : Datum}
    (h : barrier? names d = some scalar) : walk names d = .null := by
  induction names generalizing d with
  | nil => cases h
  | cons name rest ih =>
    rw [barrier?] at h
    split at h
    · next hscalar =>
      rw [isScalar, Bool.and_eq_true, Bool.not_eq_true', Bool.not_eq_true'] at hscalar
      rw [walk_cons, member_of_not_isContainer hscalar.2, walk_null]
    · exact ih h

theorem isScalar_of_barrier? {names : List String} {d scalar : Datum}
    (h : barrier? names d = some scalar) : scalar.isScalar = true := by
  induction names generalizing d with
  | nil => cases h
  | cons name rest ih =>
    rw [barrier?] at h
    split at h
    · next hscalar =>
      cases h
      exact hscalar
    · exact ih h

/-! ## Paths of identifiers -/

theorem child_of_isIdentifier {name : String} (h : isIdentifier name.toList = true) (d : Datum) :
    child name d = .ok (member name d) := by
  cases d with
  | list items =>
    simp only [child, Path.indexOf?, (Text.isAllDigits_of_isIdentifier h).1]
    rfl
  | _ => rfl

/-- One step of a path of identifiers. -/
theorem follow_cons {name : String} (h : isIdentifier name.toList = true) (rest : List Text)
    (d : Datum) :
    follow (name :: rest) d =
      if (member name d).isContainer then follow rest (member name d) else .ok (member name d) := by
  cases d with
  | list items =>
    rw [follow, if_neg (Text.isAllDigits_of_isIdentifier h).2, child_of_isIdentifier h]
    rfl
  | _ =>
    rw [follow, child_of_isIdentifier h]
    · rfl
    · nofun

/-- Below a container, a path of identifiers ends at the first scalar, and else it is a walk. -/
theorem follow_eq {names : List String} (hnames : ∀ name ∈ names, isIdentifier name.toList = true)
    {d : Datum} (hd : d.isContainer = true) :
    follow (names.map .ofString) d = .ok ((barrier? names d).getD (walk names d)) := by
  induction names generalizing d with
  | nil => rfl
  | cons name rest ih =>
    have hscalar : d.isScalar = false := by simp [isScalar, hd]
    rw [List.map_cons, follow_cons (hnames name (by simp)), barrier?, hscalar]
    cases hfound : (member name d).isContainer with
    | true =>
      rw [if_pos rfl]
      exact ih (fun other hother => hnames other (by simp [hother])) hfound
    | false =>
      cases rest with
      | nil => rfl
      | cons other rest =>
        cases hnull : (member name d).isNull with
        | true =>
          rw [walk_cons, eq_null_of_isNull hnull, barrier?_null, walk_null]
          rfl
        | false => simp [barrier?, isScalar, hfound, hnull]

end Datum

/-! ## The two chains -/

theorem dotted?_attributes (root : String) (names : List String) :
    (attributes root names).dotted? = some (root, names) := by
  induction names using List.reverseRecOn with
  | nil => rfl
  | append_singleton names name ih =>
    rw [attributes, List.foldl_append, List.foldl_cons, List.foldl_nil, Expr.dotted?]
    rw [attributes] at ih
    rw [ih]
    rfl

theorem eval_subscripts (scope : Scope) (root : String) (names : List String) :
    eval scope (subscripts root names) = .ok ((scope.get root).walk names) := by
  induction names using List.reverseRecOn with
  | nil => rfl
  | append_singleton names name ih =>
    rw [subscripts] at ih
    simp only [subscripts, Datum.walk, List.foldl_append, List.foldl_cons, List.foldl_nil, eval, ih,
      Constant.datum?, Option.map_some, lift, bind, Except.bind, pure, Except.pure,
      Datum.lookup_text]

theorem follow_eq_of_isIdentifier {names : List String}
    (hnames : ∀ name ∈ names, isIdentifier name.toList = true) (hne : names ≠ []) (scope : Scope)
    (root : String) :
    scope.follow root names =
      .ok (((scope.get root).barrier? names).getD ((scope.get root).walk names)) := by
  unfold Scope.follow
  cases hd : (scope.get root).isContainer with
  | true =>
    simp only [hd, if_true]
    exact Datum.follow_eq hnames hd
  | false =>
    obtain ⟨name, rest, rfl⟩ := List.exists_cons_of_ne_nil hne
    cases hnull : (scope.get root).isNull with
    | true =>
      rw [Datum.eq_null_of_isNull hnull]
      simp [Datum.isContainer]
    | false => simp [Datum.barrier?, Datum.isScalar, hd, hnull]

theorem eval_attributes {names : List String}
    (hnames : ∀ name ∈ names, isIdentifier name.toList = true) (scope : Scope) (root : String) :
    eval scope (attributes root names) =
      .ok (((scope.get root).barrier? names).getD ((scope.get root).walk names)) := by
  induction names using List.reverseRecOn with
  | nil => rfl
  | append_singleton names name _ =>
    have hfollow := follow_eq_of_isIdentifier hnames (by simp) scope root
    have hdotted := dotted?_attributes root names
    rw [attributes] at hdotted ⊢
    rw [List.foldl_append, List.foldl_cons, List.foldl_nil, eval]
    simp only [hdotted, hfollow, Except.mapError, lift]

/-- **Fields by dots and fields by keys.** Where no scalar stands before the last name the two chains
have the same datum. Where one does, the chain of attributes has this scalar and the chain of keys has
null. -/
theorem eval_attributes_eq_subscripts (scope : Scope) (root : String) (names : List String)
    (hnames : ∀ name ∈ names, isIdentifier name.toList = true) :
    ((scope.get root).barrier? names = none →
      ∃ d, eval scope (attributes root names) = .ok d ∧
        eval scope (subscripts root names) = .ok d) ∧
    (∀ scalar, (scope.get root).barrier? names = some scalar →
      eval scope (attributes root names) = .ok scalar ∧
        eval scope (subscripts root names) = .ok .null ∧ scalar.isScalar = true) := by
  rw [eval_attributes hnames, eval_subscripts]
  constructor
  · intro hnone
    exact ⟨_, by rw [hnone, Option.getD_none], rfl⟩
  · intro scalar hscalar
    rw [hscalar, Datum.walk_of_barrier? hscalar]
    exact ⟨rfl, rfl, Datum.isScalar_of_barrier? hscalar⟩

/-- Below a text that is a field, attributes stop at the text and keys find nothing. -/
theorem eval_attributes_below_text :
    let payload : Value := .object [("user", .object [("name", .text "Bob")])]
    let scope : Scope := .ofRequest .standard .null .null .empty payload
    let names := ["user", "name", "first"]
    let bob : Datum := .text "Bob" (.placed (.member (.member (.root .payload) "user") "name"))
    (∀ name ∈ names, isIdentifier name.toList = true) ∧
      (scope.get "payload").barrier? names = some bob ∧
      eval scope (attributes "payload" names) = .ok bob ∧
      eval scope (subscripts "payload" names) = .ok .null := by
  intro payload scope names bob
  have hnames : ∀ name ∈ names, isIdentifier name.toList = true := by decide
  have hbarrier : (scope.get "payload").barrier? names = some bob := rfl
  obtain ⟨hdots, hkeys, -⟩ :=
    (eval_attributes_eq_subscripts scope "payload" names hnames).2 _ hbarrier
  exact ⟨hnames, hbarrier, hdots, hkeys⟩

/-- A field of a payload that is a text is the payload itself by dots, and nothing by keys. -/
theorem eval_attributes_ne_subscripts_on_text :
    let scope : Scope := .ofRequest .standard .null .null .empty (.text "hello")
    eval scope (attributes "payload" ["a"]) ≠ eval scope (subscripts "payload" ["a"]) := by
  intro scope h
  have hdots : eval scope (attributes "payload" ["a"]) =
    .ok (.text "hello" (.placed (.root .payload))) := rfl
  have hkeys : eval scope (subscripts "payload" ["a"]) = .ok .null := rfl
  rw [hdots, hkeys] at h
  cases h

end MockApi.Predicate
