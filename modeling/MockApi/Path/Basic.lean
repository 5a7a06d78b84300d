import MockApi.Json.Shown
import MockApi.Number.Numeral
import MockApi.Text.CharRange

/-!
# Paths

A path such as `books.*.id` names places inside a value: each segment is a key of an object, an
index of a list, or the wildcard `*`, which stands for every index of a list.

* `Path` : at least one segment, none of them empty;
* `Path.ofSegments?`, `Path.parse?` : the path of given segments, or of a dotted text;
* `Path.indexOf?`, `Path.indexText` : the index a segment stands for on a list, and the segment of an
  index.
-/

namespace MockApi

/-- A list of segments that can be followed: there is one, and none is empty. -/
structure Path where
  /-- The segments, outermost first. -/
  segments : List Text
  ne_nil : segments ≠ []
  no_empty : [] ∉ segments
  deriving DecidableEq, Repr

namespace Path

/-- The segment that stands for every index of a list. -/
def wildcard : Text := "*"

def ofSegments? (segments : List Text) : Option Path :=
  if h : segments ≠ [] ∧ [] ∉ segments then some ⟨segments, h.1, h.2⟩ else none

/-- The path of a text, whose segments stand between points. -/
def parse? (text : Text) : Option Path := ofSegments? (Text.fields '.' text)

/-- The complaint about what is no path, given as messages show it. -/
def invalidMessage (shown : String) : String := "Invalid path: " ++ shown

/-- The segments with points between them. -/
def dotted (segments : List Text) : Text := Text.join "." segments

def text (path : Path) : Text := dotted path.segments

/-- The index that a segment stands for on a list, if it is written in digits. Some characters that
are written as digits are no decimal ones; then the segment is no index and no key either. -/
def indexOf? (segment : Text) : Except IntegerFault (Option Nat) :=
  if Text.isAllDigits segment then (readInteger segment).map fun n => some n.toNat else .ok none

def indexText (i : Nat) : Text := Text.ofString (toString i)

theorem ofSegments?_segments (path : Path) : ofSegments? path.segments = some path := by
  simp [ofSegments?, path.ne_nil, path.no_empty]

theorem segments_of_ofSegments? {segments : List Text} {path : Path}
    (h : ofSegments? segments = some path) : path.segments = segments := by
  unfold ofSegments? at h
  split at h
  · cases h; rfl
  · cases h

end Path

end MockApi
