import Mathlib.Data.List.Induction
import MockApi.Proofs.Receiving

/-!
# What a query says of a name

* `valuesOf` : the values that pairs give a name;
* `gathered?` : what becomes of them, a text or a list of texts;
* `keys_collectQuery`, `get?_collectQuery` : after any pairs a query has their names, each with what
  is gathered of its own values;
* `HttpRequest.query_gathers` : so it is for the query of a call.
-/

namespace MockApi

variable {pairs others : List (String × String)} {query : Members Value} {name other value : Text}

/-! ## One more pair -/

theorem keys_addQuery (query : Members Value) (name value : Text) :
    Members.keys (addQuery query name value) =
      if name ∈ Members.keys query then Members.keys query else Members.keys query ++ [name] := by
  unfold addQuery
  split <;> exact Members.keys_put _ _ _

theorem get?_addQuery_of_ne (h : name ≠ other) :
    Members.get? (addQuery query name value) other = Members.get? query other := by
  unfold addQuery
  split <;> rw [Members.get?_put, if_neg h]

/-! ## All pairs -/

/-- The values that pairs give a name, in order. -/
def valuesOf (pairs : List (String × String)) (name : Text) : List Text :=
  (pairs.filter fun pair => Text.ofString pair.1 = name).map fun pair => .ofString pair.2

/-- What a query says of a name with such values. -/
def gathered? : List Text → Option Value
  | [] => none
  | [value] => some (.text value)
  | values => some (.list (values.map .text))

theorem gathered?_of_two_le {values : List Text} (h : 2 ≤ values.length) :
    gathered? values = some (.list (values.map .text)) := by
  match values, h with
  | _ :: _ :: _, _ => rfl

theorem valuesOf_concat_self (pairs : List (String × String)) (name value : String) :
    valuesOf (pairs ++ [(name, value)]) name = valuesOf pairs name ++ [(value : Text)] := by
  simp [valuesOf]

theorem valuesOf_concat_of_ne {name value : String} (h : Text.ofString name ≠ other) :
    valuesOf (pairs ++ [(name, value)]) other = valuesOf pairs other := by
  simp [valuesOf, h]

theorem collectQuery_concat (pairs : List (String × String)) (name value : String) :
    collectQuery (pairs ++ [(name, value)]) = addQuery (collectQuery pairs) name value := by
  simp [collectQuery]

/-- The value of a name grows from nothing over a text to a list, as its values do. -/
theorem get?_addQuery_self {values : List Text}
    (h : Members.get? query name = gathered? values) :
    Members.get? (addQuery query name value) name = gathered? (values ++ [value]) := by
  unfold addQuery
  match values with
  | [] => simp [h, gathered?]
  | [first] => simp [h, gathered?]
  | first :: second :: rest => simp [h, gathered?]

theorem get?_collectQuery (pairs : List (String × String)) (name : Text) :
    Members.get? (collectQuery pairs) name = gathered? (valuesOf pairs name) := by
  -- from the right, since the query is built from the left: the pairs before decide what the last does
  induction pairs using List.reverseRecOn with
  | nil => rfl
  | append_singleton pairs pair ih =>
    obtain ⟨key, value⟩ := pair
    rw [collectQuery_concat]
    by_cases hname : Text.ofString key = name
    · subst hname
      rw [valuesOf_concat_self, get?_addQuery_self ih]
    · rw [valuesOf_concat_of_ne hname, get?_addQuery_of_ne hname, ih]

theorem eraseDups_concat {α : Type} [BEq α] [LawfulBEq α] (as : List α) (a : α)
    [Decidable (a ∈ as)] :
    (as ++ [a]).eraseDups = if a ∈ as then as.eraseDups else as.eraseDups ++ [a] := by
  rw [List.eraseDups_append]
  split
  · next h => simp [h, List.removeAll]
  · next h => simp [h, List.removeAll, List.eraseDups_cons]

theorem keys_collectQuery (pairs : List (String × String)) :
    Members.keys (collectQuery pairs) = (pairs.map fun pair => Text.ofString pair.1).eraseDups := by
  induction pairs using List.reverseRecOn with
  | nil => rfl
  | append_singleton pairs pair ih =>
    obtain ⟨key, value⟩ := pair
    rw [collectQuery_concat, keys_addQuery, ih, List.map_append]
    simp only [List.mem_eraseDups, List.map_cons, List.map_nil, eraseDups_concat]

/-! ## The query of a call -/

/-- A query holds what pairs say: their names, in the order in which they first occur, each with its
value, or with all its values in order if it is repeated, whatever stands between them. -/
structure Gathers (pairs : List (String × String)) (query : Members Value) : Prop where
  names : Members.keys query = (pairs.map fun pair => Text.ofString pair.1).eraseDups
  once : ∀ name value, valuesOf pairs name = [value] → Members.get? query name = some (.text value)
  repeated : ∀ name, 2 ≤ (valuesOf pairs name).length →
    Members.get? query name = some (.list ((valuesOf pairs name).map .text))
  apart : ∀ pairs' name, valuesOf pairs' name = valuesOf pairs name →
    Members.get? (collectQuery pairs') name = Members.get? query name

theorem gathers_collectQuery (pairs : List (String × String)) :
    Gathers pairs (collectQuery pairs) where
  names := keys_collectQuery pairs
  once name value h := by rw [get?_collectQuery, h, gathered?]
  repeated name h := by rw [get?_collectQuery, gathered?_of_two_le h]
  apart pairs' name h := by rw [get?_collectQuery, get?_collectQuery, h]

namespace HttpRequest

variable {request : HttpRequest} {params : Members Value} {incoming : IncomingRequest}

/-- The query that a call brings along holds all that its address says. -/
theorem query_gathers (h : request.incoming params = .ok incoming) :
    Gathers (Text.formPairs (bytewise request.query)) incoming.query := by
  obtain ⟨body, -, rfl⟩ := incoming_eq_ok_iff.1 h
  dsimp only
  exact gathers_collectQuery _

theorem query_gathers_interleaved :
    let request : HttpRequest := ⟨"GET", "/x", "b=1&a=2&b=3&c=&b=1&a=%C3%A9", [], []⟩
    ∃ incoming, request.incoming [] = .ok incoming ∧
      Gathers [("b", "1"), ("a", "2"), ("b", "3"), ("c", ""), ("b", "1"), ("a", "é")]
        incoming.query := by
  intro request
  have hpairs : Text.formPairs (bytewise request.query) =
      [("b", "1"), ("a", "2"), ("b", "3"), ("c", ""), ("b", "1"), ("a", "é")] := by decide +kernel
  have h : request.incoming [] =
      .ok ⟨[], collectQuery (Text.formPairs (bytewise request.query)), [], .null⟩ := rfl
  exact ⟨_, h, hpairs ▸ query_gathers h⟩

end HttpRequest

end MockApi
