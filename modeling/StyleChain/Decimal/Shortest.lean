import StyleChain.Number.Binary

/-!
# The shortest decimal that reads back

Between the midpoints to its two neighbours, every real rounds to a given magnitude; the
midpoints themselves do so when the magnitude is even, because a half goes to the even
neighbour. `Format.shortest` looks for the decimal with the fewest significant digits in that
**neighbourhood**. A grid of `n` significant digits has a point there only if one of the two grid
points around the value is there, so two tests per number of digits suffice. Of two hits the
nearer one is taken, and of two equally near ones the larger.
-/

namespace StyleChain

/-- The decimal number `significand * 10 ^ exponent`. -/
structure Decimal where
  /-- The digits, read as a natural. -/
  significand : Nat
  /-- The power of ten that the last digit counts. -/
  exponent : Int
deriving DecidableEq, Repr

/-- A value and the interval of reals that round to it, all three in halves of a format's unit. -/
structure Neighbourhood where
  /-- The midpoint to the neighbour below. -/
  lower : Nat
  /-- The value itself. -/
  value : Nat
  /-- The midpoint to the neighbour above. -/
  upper : Nat
  /-- Whether the midpoints belong to it. -/
  closed : Bool
deriving DecidableEq, Repr

namespace Neighbourhood

/-- The reals that round to the magnitude `m`, which is finite and not zero. -/
def ofMagnitude (f : Format) (m : Nat) : Neighbourhood where
  lower := f.units (m - 1) + f.units m
  value := 2 * f.units m
  upper := f.units m + f.units (m + 1)
  closed := m % 2 == 0

/-- Whether `c * den / num` half units lie in the neighbourhood. -/
def admits (h : Neighbourhood) (num den c : Nat) : Bool :=
  if h.closed then h.lower * num ≤ c * den && c * den ≤ h.upper * num
  else h.lower * num < c * den && c * den < h.upper * num

/-- The point of a decimal grid that stands for the value: of the points `c * den / num` half
units, the one next below the value and the one next above it are tried. -/
def onGrid? (h : Neighbourhood) (num den : Nat) : Option Nat :=
  let below := h.value * num / den
  let rest := h.value * num % den
  match h.admits num den below, h.admits num den (below + 1) with
  | true, true => some (if 2 * rest < den then below else below + 1)
  | true, false => some below
  | false, true => some (below + 1)
  | false, false => none

end Neighbourhood

/-- The place of the first significant digit of `num / den`, for positive arguments: the `e` with
`10 ^ e ≤ num / den < 10 ^ (e + 1)`. -/
def decade (num den : Nat) : Int :=
  if den ≤ num then ((Nat.toDigits 10 (num / den)).length : Int) - 1
  else -((Nat.toDigits 10 ((den - 1) / num)).length : Int)

namespace Format

/-- A decimal of `digits` significant digits that rounds to the magnitude `m`, if there is one. A
point that came out as the next power of ten gives up its last zero. -/
def decimal? (f : Format) (m digits : Nat) : Option Decimal :=
  let h := Neighbourhood.ofMagnitude f m
  let den := 2 ^ (f.unitBits + 1)
  let exponent := decade h.value den + 1 - digits
  (h.onGrid? (10 ^ (-exponent).toNat) (den * 10 ^ exponent.toNat)).map fun c =>
    if c % 10 = 0 then ⟨c / 10, exponent + 1⟩ else ⟨c, exponent⟩

/-- The decimal with the fewest digits that rounds to the magnitude `m`. More digits than the
significand has bits are never needed. -/
def shortest (f : Format) (m : Nat) : Decimal :=
  ((List.range (f.fractionBits + 1)).findSome? fun n => f.decimal? m (n + 1)).getD ⟨0, 0⟩

end Format

end StyleChain
