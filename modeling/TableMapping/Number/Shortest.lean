/-!
# The shortest decimal that reads back

A finite binary floating-point number is a magnitude `m · 2 ^ q`.  The reals that
round to it form an interval around it, half a unit wide on either side, a quarter
below when the magnitude is a power of two and its lower neighbour is closer.  The
ends belong to the interval when `m` is even, because a tie rounds to even.

`shortest` finds a decimal `c · 10 ^ k` with as few digits as possible inside that
interval, and of these the one nearest to the number.  It walks the decimal grids
from coarse to fine; on the first grid with a point inside the interval one of the
two grid points around the number is inside, and if both are, the nearer one wins.
-/

namespace TableMapping
namespace Number

/-- How the bits of a floating-point number are divided. -/
structure Layout where
  fractionBits : Nat
  exponentBits : Nat

namespace Layout

/-- Single precision. -/
def single : Layout := ⟨23, 8⟩

/-- Double precision. -/
def double : Layout := ⟨52, 11⟩

/-- The exponent of the smallest positive number. -/
def minExponent (l : Layout) : Int :=
  2 - (Nat.pow 2 (l.exponentBits - 1) : Nat) - l.fractionBits

end Layout

/-- A finite magnitude `significand · 2 ^ exponent` with the distance to its
neighbours: `closerBelow` when the lower one is half as far as the upper one. -/
structure Magnitude where
  significand : Nat
  exponent : Int
  closerBelow : Bool

/-- What a floating-point number is. -/
inductive Decoded where
  | nan
  | infinite (negative : Bool)
  | finite (negative : Bool) (m : Magnitude)

/-- Read the bits of a floating-point number. -/
def Layout.decode (l : Layout) (bits : Nat) : Decoded :=
  let fraction := bits % Nat.pow 2 l.fractionBits
  let biased := bits / Nat.pow 2 l.fractionBits % Nat.pow 2 l.exponentBits
  let negative := bits / Nat.pow 2 (l.fractionBits + l.exponentBits) % 2 == 1
  if biased = Nat.pow 2 l.exponentBits - 1 then
    if fraction = 0 then .infinite negative else .nan
  else if biased = 0 then .finite negative ⟨fraction, l.minExponent, false⟩
  else
    .finite negative
      ⟨Nat.pow 2 l.fractionBits + fraction, l.minExponent + (biased - 1 : Nat), fraction = 0 && biased ≠ 1⟩

/-- Which of two equally near decimals is taken. -/
inductive Tie where
  | up
  | even

/-- A decimal `digits · 10 ^ exponent`. -/
structure DecimalFloat where
  coefficient : Nat
  exponent : Int

namespace Magnitude

/-- The power of two a quarter of the unit weighs, as a fraction. -/
private def quarterUnit (m : Magnitude) : Nat × Nat :=
  let e := m.exponent - 2
  if 0 ≤ e then (Nat.pow 2 e.toNat, 1) else (1, Nat.pow 2 (-e).toNat)

/-- A power of ten, as a fraction. -/
private def tenPower (k : Int) : Nat × Nat :=
  if 0 ≤ k then (Nat.pow 10 k.toNat, 1) else (1, Nat.pow 10 (-k).toNat)

/-- The point of the grid `10 ^ k` that the magnitude is written with, when one of the
two points around it rounds back to it. -/
def onGrid? (m : Magnitude) (tie : Tie) (k : Int) : Option Nat :=
  let (two, perTwo) := m.quarterUnit
  let (ten, perTen) := tenPower k
  -- in these units the magnitude is `value` and the grid points are multiples of `step`
  let unit := two * perTen
  let step := ten * perTwo
  let value := 4 * m.significand * unit
  let low := (4 * m.significand - (if m.closerBelow then 1 else 2)) * unit
  let high := (4 * m.significand + 2) * unit
  let closed := m.significand % 2 == 0
  let inside := fun x => if closed then low ≤ x && x ≤ high else low < x && x < high
  let below := value / step
  let above := below + 1
  let belowIn := below ≠ 0 && inside (below * step)
  let aboveIn := inside (above * step)
  if belowIn && aboveIn then
    let down := value - below * step
    let up := above * step - value
    if down < up then some below
    else if up < down then some above
    else
      match tie with
      | .up => some above
      | .even => some (if below % 2 == 0 then below else above)
  else if belowIn then some below
  else if aboveIn then some above
  else none

/-- Walk `steps` grids from `10 ^ k` to finer ones until a point rounds back. -/
def firstOnGrid (m : Magnitude) (tie : Tie) : Nat → Int → DecimalFloat
  | 0, k => ⟨(m.onGrid? tie k).getD 0, k⟩
  | steps + 1, k =>
    match m.onGrid? tie k with
    | some c => ⟨c, k⟩
    | none => firstOnGrid m tie steps (k - 1)

/-- A grid that is coarser than the magnitude itself. -/
def coarseGrid (m : Magnitude) : Int :=
  (m.significand.log2 + m.exponent + 1) * 30103 / 100000 + 1

/-- The decimal with the fewest digits that rounds back to the magnitude. -/
def shortest (m : Magnitude) (tie : Tie) : DecimalFloat :=
  if m.significand = 0 then ⟨0, 0⟩ else m.firstOnGrid tie 20 m.coarseGrid

end Magnitude
end Number
end TableMapping
