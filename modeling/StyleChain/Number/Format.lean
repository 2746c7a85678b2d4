/-!
# Binary number formats

A binary interchange format is a sign, an exponent field and a fraction field. Setting the
sign aside, the encodings of a format are the naturals below `2 ^ (exponentBits + fractionBits)`,
its **magnitudes**, and they are in the order of the numbers they stand for: finite values first,
then infinity at `infinity`, then every NaN above it.

Each finite value of a format is a whole number of **units**, the unit being the smallest
positive value `2 ^ -unitBits`. So `units` says in `Nat` what a magnitude is worth, and rounding
and printing need no fractions of any other kind.
-/

namespace StyleChain

/-- Powers of naturals are the core ones throughout the library, also in modules where those of a
monoid are in scope, so that `2 ^ n` is one term everywhere. -/
scoped instance natPow : Pow Nat Nat := instPowNat

/-- The field widths of a binary interchange format. -/
structure Format where
  /-- Stored bits of the significand. -/
  fractionBits : Nat
  /-- Bits of the biased exponent. -/
  exponentBits : Nat
deriving DecidableEq, Repr

namespace Format

/-- The 64-bit format: 52 fraction bits and 11 exponent bits. -/
@[reducible] def double : Format := ⟨52, 11⟩

/-- The 32-bit format: 23 fraction bits and 8 exponent bits. -/
@[reducible] def single : Format := ⟨23, 8⟩

/-- The bits of an encoding without its sign. -/
@[reducible] def magnitudeBits (f : Format) : Nat := f.exponentBits + f.fractionBits

/-- The bits of a whole encoding. -/
@[reducible] def width (f : Format) : Nat := f.magnitudeBits + 1

/-- The magnitude of infinity: all exponent bits set and an empty fraction. -/
def infinity (f : Format) : Nat := (2 ^ f.exponentBits - 1) * 2 ^ f.fractionBits

/-- Infinity has an encoding. -/
theorem infinity_lt (f : Format) : f.infinity < 2 ^ f.magnitudeBits := by
  rw [infinity, magnitudeBits, Nat.pow_add]
  exact Nat.mul_lt_mul_of_pos_right (Nat.sub_lt (Nat.two_pow_pos _) Nat.one_pos)
    (Nat.two_pow_pos _)

/-- A magnitude above every number, used for what is not a number. -/
def quietNaN (f : Format) : Nat := f.infinity + 2 ^ (f.fractionBits - 1)

/-- The unit, the smallest positive value of the format, is `2 ^ -unitBits`. -/
def unitBits (f : Format) : Nat := 2 ^ (f.exponentBits - 1) - 2 + f.fractionBits

/-- What the magnitude `m` is worth in units. Up to `2 ^ fractionBits` the encoding counts units
itself; from there each step of the exponent field doubles what a fraction step is worth. At
`infinity` this is the value that the next exponent would have, so that the largest finite value
has a neighbour above it like any other. -/
def units (f : Format) (m : Nat) : Nat :=
  let fraction := m % 2 ^ f.fractionBits
  match m / 2 ^ f.fractionBits with
  | 0 => fraction
  | e + 1 => (2 ^ f.fractionBits + fraction) * 2 ^ e

end Format

end StyleChain
