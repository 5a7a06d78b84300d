import MockApi.Text.CharRange

/-!
# Blank characters

* `isBlank` : the characters that separate words, ASCII or not;
* `strip` : text without the blanks at its two ends;
* `isAllBlank` : text made of blanks only.
-/

namespace MockApi.Text

/-- The code points of blanks: the spaces and line ends of Unicode 14 and the four ASCII
information separators. -/
def blankRanges : List (Nat × Nat) :=
  [(0x09, 0x0D), (0x1C, 0x20), (0x85, 0x85), (0xA0, 0xA0), (0x1680, 0x1680), (0x2000, 0x200A),
    (0x2028, 0x2029), (0x202F, 0x202F), (0x205F, 0x205F), (0x3000, 0x3000)]

def isBlank (c : CodePoint) : Bool := inRanges blankRanges c.toNat

/-- The text without the blanks at its two ends. -/
def strip (text : Text) : Text := ((text.dropWhile isBlank).reverse.dropWhile isBlank).reverse

def isAllBlank (text : Text) : Bool := text.all isBlank

end MockApi.Text
