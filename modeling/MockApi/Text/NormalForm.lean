import MockApi.Text.CharRange
import MockApi.Text.Digit
import MockApi.Text.NormalTable

/-!
# Normal form

* `decompose` : a text with each character taken apart into what it stands for;
* `sortMarks` : the marks behind a letter in their order;
* `compose` : a text whose characters are put together where one character stands for two;
* `normalForm` : the one form of all texts that differ only in how they are written (the form KC of
  Unicode 14).

Code points are natural numbers here, as they are in the tables.
-/

namespace MockApi.Text

def numberOfHex (digits : List Char) : Nat :=
  (digits.filterMap hexValue?).foldl (fun n d => 16 * n + d) 0

def tableEntries (line : String) : List (List Nat) :=
  (fields ',' line.toList).map fun entry => (fields ' ' entry).map numberOfHex

/-- What the first entry of a table gives that gives something. -/
def fromTable? {β : Type} (select : List Nat → Option β) (table : List String) : Option β :=
  table.findSome? fun line => (tableEntries line).findSome? select

/-! ## Hangul -/

/-- The first of the syllables of Hangul. -/
def syllableBase : Nat := 0xAC00

/-- The first of the letters that start a syllable, of those in its middle, and the code point before
the first of those at its end. -/
def leadBase : Nat := 0x1100

@[inherit_doc leadBase]
def vowelBase : Nat := 0x1161

@[inherit_doc leadBase]
def tailBase : Nat := 0x11A7

/-- The number of letters that start a syllable, of those in its middle, and of its endings, among
which there is the empty one. -/
def leadCount : Nat := 19

@[inherit_doc leadCount]
def vowelCount : Nat := 21

@[inherit_doc leadCount]
def tailCount : Nat := 28

def isSyllable (n : Nat) : Bool :=
  syllableBase ≤ n && n < syllableBase + leadCount * vowelCount * tailCount

def lettersOf (syllable : Nat) : List Nat :=
  let i := syllable - syllableBase
  let letters := [leadBase + i / (vowelCount * tailCount),
    vowelBase + i % (vowelCount * tailCount) / tailCount]
  if i % tailCount = 0 then letters else letters ++ [tailBase + i % tailCount]

/-- The syllable of two letters, or of a syllable without an ending and an ending. -/
def syllableOf? (a b : Nat) : Option Nat :=
  if leadBase ≤ a ∧ a < leadBase + leadCount ∧ vowelBase ≤ b ∧ b < vowelBase + vowelCount then
    some (syllableBase + ((a - leadBase) * vowelCount + (b - vowelBase)) * tailCount)
  else if isSyllable a ∧ (a - syllableBase) % tailCount = 0 ∧ tailBase < b ∧
      b < tailBase + tailCount then
    some (a + (b - tailBase))
  else none

/-! ## Taking apart -/

/-- The image of `n` by an entry of `singleImages`. -/
def singleImage? (n : Nat) : List Nat → Option (List Nat)
  | [first, last, image] => if first ≤ n ∧ n ≤ last then some [image + (n - first)] else none
  | _ => none

def longImage? (n : Nat) : List Nat → Option (List Nat)
  | code :: image => if code = n then some image else none
  | [] => none

/-- What a code point stands for. -/
def imageOf (n : Nat) : List Nat :=
  if n < 0x80 then [n]
  else if isSyllable n then lettersOf n
  else
    ((fromTable? (singleImage? n) singleImages).or (fromTable? (longImage? n) longImages)).getD [n]

/-- Code points, each replaced by what it stands for. -/
def decompose (codes : List Nat) : List Nat := codes.flatMap imageOf

/-! ## Order -/

def classIn? (n : Nat) : List Nat → Option Nat
  | [first, last, cls] => if first ≤ n ∧ n ≤ last then some cls else none
  | _ => none

/-- The combining class of a code point, which is zero unless it is a mark that has one. -/
def combiningClass (n : Nat) : Nat :=
  if n < 0x300 then 0 else (fromTable? (classIn? n) combiningClasses).getD 0

/-- Puts a code point of some class behind others, which are given with their classes, last one
first. A mark passes the marks of higher classes. -/
def placeMark (code cls : Nat) : List (Nat × Nat) → List (Nat × Nat)
  | [] => [(code, cls)]
  | (other, otherCls) :: rest =>
    if 0 < cls ∧ cls < otherCls then (other, otherCls) :: placeMark code cls rest
    else (code, cls) :: (other, otherCls) :: rest

/-- Code points with their classes, where the marks behind a letter are in the order of their
classes. -/
def sortMarks (codes : List Nat) : List (Nat × Nat) :=
  (codes.foldl (fun placed code => placeMark code (combiningClass code) placed) []).reverse

/-! ## Putting together -/

def compositionIn? (a b : Nat) : List Nat → Option Nat
  | [first, second, whole] => if first = a ∧ second = b then some whole else none
  | _ => none

def composition? (a b : Nat) : Option Nat :=
  (syllableOf? a b).or (fromTable? (compositionIn? a b) compositions)

/-- Puts code points together. `base` is the last code point of class zero, and `marks` are those
behind it that did not join it, last one first. A mark is kept from joining by one of the same class
in front of it, and a code point of class zero by any mark. -/
def composeFrom (base : Nat) (marks : List (Nat × Nat)) : List (Nat × Nat) → List Nat
  | [] => base :: (marks.reverse.map Prod.fst)
  | (code, cls) :: rest =>
    let joined? := if marks.all fun mark => mark.2 < cls then composition? base code else none
    match joined? with
    | some whole => composeFrom whole marks rest
    | none =>
      if cls = 0 then base :: (marks.reverse.map Prod.fst) ++ composeFrom code [] rest
      else composeFrom base ((code, cls) :: marks) rest

/-- Code points in order, put together where one stands for two. Nothing joins the marks in front of
the first code point of class zero. -/
def compose (codes : List (Nat × Nat)) : List Nat :=
  let marks := codes.takeWhile fun code => code.2 ≠ 0
  marks.map Prod.fst ++
    match codes.dropWhile fun code => code.2 ≠ 0 with
    | [] => []
    | (code, _) :: rest => composeFrom code [] rest

/-! ## The normal form -/

/-- The one form of all texts that differ only in how they are written. -/
def normalForm (text : List Char) : List Char :=
  if text.all fun c => c.toNat < 0x80 then text
  else (compose (sortMarks (decompose (text.map Char.toNat)))).map Char.ofNat

end MockApi.Text
