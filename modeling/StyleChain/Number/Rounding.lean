import StyleChain.Number.Format

/-!
# Rounding to a binary format

`Format.nearest` finds the magnitude closest to a quotient of naturals, a half going to the even
neighbour. It scales the quotient to units, drops as many low bits as the significand cannot
hold, and rounds once. Because magnitudes are in the order of their values, a significand that
rounds up to the next power of two lands on the right magnitude without a special case, and
subnormal values are those from which no bit is dropped.
-/

namespace StyleChain

/-- The quotient `num / den` rounded to the nearest natural, a half going to the even one. -/
def roundHalfEven (num den : Nat) : Nat :=
  let q := num / den
  let twice := 2 * (num % den)
  if twice < den ∨ (twice = den ∧ q % 2 = 0) then q else q + 1

@[simp] theorem roundHalfEven_mul_right {n den : Nat} (h : 0 < den) :
    roundHalfEven (n * den) den = n := by
  simp [roundHalfEven, Nat.mul_div_cancel n h, h]

namespace Format

/-- How many low bits of a value of `n` units lie below the last bit of the significand. -/
def dropped (f : Format) (n : Nat) : Nat := n.log2 - f.fractionBits

/-- The magnitude nearest to `num / den`, a half going to the even one; `infinity` for all that
round past the largest finite value. -/
def nearest (f : Format) (num den : Nat) : Nat :=
  let scaled := num * 2 ^ f.unitBits
  let k := f.dropped (scaled / den)
  min f.infinity (k * 2 ^ f.fractionBits + roundHalfEven scaled (den * 2 ^ k))

end Format

end StyleChain
