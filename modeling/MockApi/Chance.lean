/-!
# Chance

* `Chance` : a source of random numbers, which remembers what it was asked for;
* `Chance.pick` : a number between two bounds.
-/

namespace MockApi

/-- A source of random numbers. -/
structure Chance where
  /-- The numbers still to be drawn; after the last one every draw is zero. -/
  draws : List Int
  /-- The bounds asked for, last first. -/
  askedReversed : List (Nat × Nat)
  deriving Repr

namespace Chance

/-- A source with the given draws, of which nothing was asked yet. -/
def ofDraws (draws : List Int) : Chance := ⟨draws, []⟩

/-- The bounds asked for, in order. -/
def asked (chance : Chance) : List (Nat × Nat) := chance.askedReversed.reverse

/-- A number between `low` and `high`: the next draw, reduced to the size of the range. -/
def pick (low high : Nat) (chance : Chance) : Nat × Chance :=
  let draw := chance.draws.headD 0
  (low + (draw % ((high - low + 1 : Nat) : Int)).toNat,
    ⟨chance.draws.tail, (low, high) :: chance.askedReversed⟩)

theorem low_le_pick (low high : Nat) (chance : Chance) : low ≤ (pick low high chance).1 := by
  simp [pick]

theorem pick_le_high (low high : Nat) (chance : Chance) (h : low ≤ high) :
    (pick low high chance).1 ≤ high := by
  have : (chance.draws.headD 0) % ((high - low + 1 : Nat) : Int) < ((high - low + 1 : Nat) : Int) :=
    Int.emod_lt_of_pos _ (by omega)
  simp only [pick]
  omega

end Chance

end MockApi
