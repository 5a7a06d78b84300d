import MockApi.Text.CaseTable

/-!
# Lower and upper case

* `lower` : lower case of a text, with the full mappings of Unicode 14 and the rule that a capital
  sigma at the end of a word becomes a final one;
* `upper` : upper case of a text, with the full mappings;
* `isFinalSigma` : that rule.
-/

namespace MockApi.Text

/-- The image of `n` under the mapping made of `runs`. -/
def shiftBy : List CaseRun → Nat → Nat
  | [], n => n
  | run :: rest, n =>
    if n < run.first then n
    else if n ≤ run.last ∧ (n - run.first) % run.step = 0 then (n + run.shift).toNat
    else shiftBy rest n

/-- What a code point becomes under a case mapping. -/
def mapCase (expansions : List (Nat × List Nat)) (runs : List CaseRun) (c : CodePoint) : Text :=
  match expansions.lookup c.toNat with
  | some codes => codes.map .ofNat
  | none => [.ofNat (shiftBy runs c.toNat)]

/-- Lower case of one code point, wherever it stands; a capital sigma becomes the inner one. -/
def lowerCode (c : CodePoint) : Text :=
  if c.toNat < 0x80 then
    if 0x41 ≤ c.toNat ∧ c.toNat ≤ 0x5A then [.ofNat (c.toNat + 0x20)] else [c]
  else mapCase lowerExpansions lowerRuns c

def upperCode (c : CodePoint) : Text :=
  if c.toNat < 0x80 then
    if 0x61 ≤ c.toNat ∧ c.toNat ≤ 0x7A then [.ofNat (c.toNat - 0x20)] else [c]
  else mapCase upperExpansions upperRuns c

/-- Whether the first code point that is not ignored is a cased one. -/
def meetsCased (text : Text) : Bool :=
  match text.dropWhile (fun c => inRanges caseIgnorableRanges c.toNat) with
  | [] => false
  | c :: _ => inRanges casedRanges c.toNat

/-- A sigma is final when a cased letter comes before it and none after it. -/
def isFinalSigma (before after : Text) : Bool := meetsCased before && !meetsCased after

/-- Lower case of a text, where `before` is what was already passed, nearest first. -/
def lowerFrom (before : Text) : Text → Text
  | [] => []
  | c :: rest =>
    (if c = 'Σ' then [if isFinalSigma before rest then .ofChar 'ς' else .ofChar 'σ']
      else lowerCode c) ++ lowerFrom (c :: before) rest

def lower (text : Text) : Text := lowerFrom [] text

def upper (text : Text) : Text := text.flatMap upperCode

def lowerString (s : String) : String := lossy (lower s)

end MockApi.Text
