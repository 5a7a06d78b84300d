import MockApi.Text.CharRange

/-!
# Locations

* `Location` : the way to a file or a folder, name by name;
* `Location.ofText`, `Location.text` : locations as they are written;
* `Location.before` : the order in which files are listed.
-/

namespace MockApi

/-- The way to a file or a folder. The working folder has the empty way; a way that does not start
there has a slash as its first name. -/
abbrev Location := List String

namespace Location

/-- The name of the root in a way that starts there. -/
def root : String := "/"

/-- The name that leads to the folder above. -/
def above : String := ".."

/-- The location that a text names. Names that lead nowhere are left out. -/
def ofText (text : String) : Location :=
  let names := (Text.split '/' text).filter fun name => name != "" && name != "."
  if text.toList.head? = some '/' then root :: names else names

def text (place : Location) : String :=
  match place with
  | [] => "."
  | name :: names =>
    if name = root then root ++ Text.joinWith "/" names else Text.joinWith "/" place

/-- The last name of a location, unless it is where ways start. -/
def lastName? (place : Location) : Option String :=
  place.getLast?.filter fun name => name != root

/-- Whether the first of two locations is listed before the second: by the first name in which they
differ, and what is nearer to the start first. -/
def before : Location → Location → Bool
  | [], [] => false
  | [], _ :: _ => true
  | _ :: _, [] => false
  | a :: as, b :: bs => if a = b then before as bs else decide (a < b)

def insert (place : Location) : List Location → List Location
  | [] => [place]
  | other :: rest => if before other place then other :: insert place rest else place :: other :: rest

def sort : List Location → List Location
  | [] => []
  | place :: rest => insert place (sort rest)

theorem insert_perm (place : Location) (others : List Location) :
    (insert place others).Perm (place :: others) := by
  induction others with
  | nil => exact .refl _
  | cons other rest ih =>
    unfold insert
    split
    · exact (ih.cons other).trans (.swap place other rest)
    · exact .refl _

/-- Ordering neither adds nor drops a location. -/
theorem sort_perm (places : List Location) : (sort places).Perm places := by
  induction places with
  | nil => exact .refl _
  | cons place rest ih => exact (insert_perm place _).trans (ih.cons place)

end Location

end MockApi
