import MockApi.Text.CharName.Alias
import MockApi.Text.CharName.From0000
import MockApi.Text.CharName.From1000
import MockApi.Text.CharName.From10000
import MockApi.Text.CharName.From13000
import MockApi.Text.CharName.From1D000
import MockApi.Text.CharName.From2000
import MockApi.Text.CharName.FromA000
import MockApi.Text.CharRange
import MockApi.Text.Digit

/-!
# Characters by name

* `charOfName?` : the character of a name of Unicode 14.

The case of a name does not count, except for syllables of Hangul and for unified ideographs, whose
names are made by a rule. A table of names holds for each name, behind a small letter, what is new
in it: the letter tells how many characters it shares with the name before, none for `a`.
-/

namespace MockApi.Text

/-! ## Names in tables -/

/-- The entries of a run of names: how much each name shares with the one before, and its rest. -/
def nameEntries (run : List String) : List (Nat × List Char) :=
  ((run.flatMap String.toList).foldr
    (fun c (rest, entries) =>
      if c.isLower then ([], (c.toNat - 'a'.toNat, rest) :: entries) else (c :: rest, entries))
    ([], [])).2

/-- The names of entries, where `previous` is the name before. -/
def namesOf (previous : List Char) : List (Nat × List Char) → List (List Char)
  | [] => []
  | (shared, rest) :: more =>
    let name := previous.take shared ++ rest
    name :: namesOf name more

def charInTable? (name : List Char) (table : List (Nat × List String)) : Option Nat :=
  table.findSome? fun (first, run) =>
    ((namesOf [] (nameEntries run)).idxOf? name).map (first + ·)

def nameTables : List (List (Nat × List String)) :=
  [namesFrom0000, namesFrom1000, namesFrom2000, namesFromA000, namesFrom10000, namesFrom13000,
    namesFrom1D000]

def charOfAlias? (name : List Char) : Option Nat :=
  (aliases.find? fun (_, other) => other.toList = name).map Prod.fst

/-! ## Names with numbers -/

/-- The number that capital hexadecimal digits denote. -/
def numberOfDigits? (digits : List Char) : Option Nat :=
  if digits.any Char.isLower then none
  else (digits.mapM hexValue?).map fun values => values.foldl (fun n d => 16 * n + d) 0

def ideographRanges : List (Nat × Nat) :=
  [(0x3400, 0x4DBF), (0x4E00, 0x9FFF), (0x20000, 0x2A6DF), (0x2A700, 0x2B738), (0x2B740, 0x2B81D),
    (0x2B820, 0x2CEA1), (0x2CEB0, 0x2EBE0), (0x30000, 0x3134A)]

/-- The unified ideograph of a number, which has four or five digits. -/
def ideographNumbered? (digits : List Char) : Option Nat :=
  if digits.length = 4 ∨ digits.length = 5 then
    (numberOfDigits? digits).filter (inRanges ideographRanges)
  else none

/-- Characters whose names are made of some words and of their number. -/
def numberedRanges : List (String × List (Nat × Nat)) :=
  [("CJK COMPATIBILITY IDEOGRAPH-", [(0xF900, 0xFA6D), (0xFA70, 0xFAD9), (0x2F800, 0x2FA1D)]),
    ("KHITAN SMALL SCRIPT CHARACTER-", [(0x18B00, 0x18CD5)]),
    ("NUSHU CHARACTER-", [(0x1B170, 0x1B2FB)])]

/-- The character whose name ends in its number. -/
def charNumbered? (name : List Char) : Option Nat :=
  numberedRanges.findSome? fun (words, ranges) =>
    match after? words.toList name with
    | none => none
    | some digits =>
      if digits.head? = some '0' then none
      else (numberOfDigits? digits).filter (inRanges ranges)

/-- The variation selector of a short name. -/
def selectorOfName? (name : List Char) : Option Nat :=
  match after? ['V', 'S'] name with
  | none => none
  | some digits =>
    if digits.all Char.isDigit && digits.head? != some '0' then
      match digitsValue ((ofChars digits).filterMap asciiDigitValue?) with
      | 0 => none
      | n + 1 => if n < 16 then some (0xFE00 + n) else if n < 256 then some (0xE0100 + (n - 16)) else none
    else none

/-! ## Names of syllables -/

/-- The names of the letters that start a syllable. -/
def leadNames : List String :=
  ["G", "GG", "N", "D", "DD", "R", "M", "B", "BB", "S", "SS", "", "J", "JJ", "C", "K", "T", "P", "H"]

/-- The names of the letters in the middle of a syllable. -/
def vowelNames : List String :=
  ["A", "AE", "YA", "YAE", "EO", "E", "YEO", "YE", "O", "WA", "WAE", "OE", "YO", "U", "WEO", "WE",
    "WI", "YU", "EU", "YI", "I"]

/-- The names of the endings of a syllable. -/
def tailNames : List String :=
  ["", "G", "GG", "GS", "N", "NJ", "NH", "D", "L", "LG", "LM", "LB", "LS", "LT", "LP", "LH", "M",
    "B", "BS", "S", "SS", "NG", "J", "C", "K", "T", "P", "H"]

/-- The positions of the names that a text starts with, each with what follows. -/
def leadingNames (names : List String) (text : List Char) : List (Nat × List Char) :=
  names.zipIdx.filterMap fun (name, i) => (after? name.toList text).map fun rest => (i, rest)

def syllableSpelled? (spelling : List Char) : Option Nat :=
  (leadingNames leadNames spelling).findSome? fun (lead, rest) =>
    (leadingNames vowelNames rest).findSome? fun (vowel, rest) =>
      (leadingNames tailNames rest).findSome? fun (tail, rest) =>
        if rest.isEmpty then
          some (0xAC00 + (lead * vowelNames.length + vowel) * tailNames.length + tail)
        else none

/-! ## All names -/

def charOfName? (name : List Char) : Option Nat :=
  match after? "HANGUL SYLLABLE ".toList name, after? "CJK UNIFIED IDEOGRAPH-".toList name with
  | some spelling, _ => syllableSpelled? spelling
  | none, some digits => ideographNumbered? digits
  | none, none =>
    let name := name.map Char.toUpper
    (charNumbered? name).or <| (selectorOfName? name).or <| (charOfAlias? name).or <|
      nameTables.findSome? (charInTable? name)

end MockApi.Text
