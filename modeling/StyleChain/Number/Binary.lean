import StyleChain.Number.Rounding

/-!
# Binary numbers

A number of a binary format is its bits. `Binary` therefore has two equalities, and the rest of
the library keeps them apart: Lean's own `=` says that the bits are the same, and `valueEq` says
that the values are, so that `-0` and `0` agree and no NaN agrees with anything. Order and
`valueEq` are both read off `key`, an integer that grows with the value.
-/

namespace StyleChain

/-- A number of the format `f`, as its bits. -/
structure Binary (f : Format) where
  /-- The encoding: sign, exponent and fraction from the top bit down. -/
  bits : BitVec f.width
deriving DecidableEq, Repr

/-- Numbers of the 64-bit format. -/
abbrev Binary64 := Binary .double

/-- Numbers of the 32-bit format. -/
abbrev Binary32 := Binary .single

namespace Binary

variable {f : Format}

/-- The number with the given sign and magnitude. -/
def ofMagnitude (f : Format) (negative : Bool) (m : Nat) : Binary f :=
  ⟨BitVec.ofNat f.width (negative.toNat * 2 ^ f.magnitudeBits + m)⟩

/-- The encoding without its sign. -/
def magnitude (x : Binary f) : Nat := x.bits.toNat % 2 ^ f.magnitudeBits

/-- The sign bit, which zeros and NaNs carry too. -/
def negative (x : Binary f) : Bool := decide (2 ^ f.magnitudeBits ≤ x.bits.toNat)

/-- Not a number. -/
def isNaN (x : Binary f) : Bool := decide (f.infinity < x.magnitude)

/-- Infinity of either sign. -/
def isInfinite (x : Binary f) : Bool := decide (x.magnitude = f.infinity)

/-- An encoding is its sign bit on top of its magnitude. -/
theorem toNat_bits (x : Binary f) :
    x.bits.toNat = x.negative.toNat * 2 ^ f.magnitudeBits + x.magnitude := by
  have hlt : x.bits.toNat < 2 ^ f.magnitudeBits * 2 := by
    rw [← Nat.pow_succ]
    exact x.bits.isLt
  by_cases h : 2 ^ f.magnitudeBits ≤ x.bits.toNat
  · -- the sign bit is set, and the magnitude is what lies below it
    have hrest : x.bits.toNat - 2 ^ f.magnitudeBits < 2 ^ f.magnitudeBits := by omega
    have hmagnitude : x.magnitude = x.bits.toNat - 2 ^ f.magnitudeBits := by
      rw [magnitude, Nat.mod_eq_sub_mod h, Nat.mod_eq_of_lt hrest]
    rw [hmagnitude, negative, decide_eq_true h, Bool.toNat_true, Nat.one_mul,
      Nat.add_sub_cancel' h]
  · rw [negative, decide_eq_false h, Bool.toNat_false, Nat.zero_mul, Nat.zero_add, magnitude,
      Nat.mod_eq_of_lt (Nat.not_le.1 h)]

/-- A number is made of its own sign and magnitude. -/
@[simp] theorem ofMagnitude_magnitude (x : Binary f) :
    ofMagnitude f x.negative x.magnitude = x := by
  rw [ofMagnitude, ← toNat_bits, BitVec.ofNat_toNat, BitVec.setWidth_eq]

theorem toNat_bits_ofMagnitude {negative : Bool} {m : Nat} (h : m < 2 ^ f.magnitudeBits) :
    (ofMagnitude f negative m).bits.toNat = negative.toNat * 2 ^ f.magnitudeBits + m := by
  have hsign : negative.toNat * 2 ^ f.magnitudeBits ≤ 1 * 2 ^ f.magnitudeBits :=
    Nat.mul_le_mul_right _ negative.toNat_le
  have hlt : negative.toNat * 2 ^ f.magnitudeBits + m < 2 ^ f.width := by
    rw [Format.width, Nat.pow_succ]
    omega
  exact Nat.mod_eq_of_lt hlt

theorem magnitude_ofMagnitude {negative : Bool} {m : Nat} (h : m < 2 ^ f.magnitudeBits) :
    (ofMagnitude f negative m).magnitude = m := by
  rw [magnitude, toNat_bits_ofMagnitude h, Nat.mul_comm, Nat.mul_add_mod, Nat.mod_eq_of_lt h]

theorem negative_ofMagnitude {b : Bool} {m : Nat} (h : m < 2 ^ f.magnitudeBits) :
    (ofMagnitude f b m).negative = b := by
  rw [negative, toNat_bits_ofMagnitude h]
  cases b with
  | false => rw [Bool.toNat_false, Nat.zero_mul, Nat.zero_add, decide_eq_false (Nat.not_le.2 h)]
  | true => rw [Bool.toNat_true, Nat.one_mul, decide_eq_true (Nat.le_add_right _ m)]

/-! ### Constants and conversions -/

/-- The number nearest to `num / den`, negated if asked for. -/
def ofRatio (f : Format) (negative : Bool) (num den : Nat) : Binary f :=
  ofMagnitude f negative (f.nearest num den)

/-- The number nearest to an integer. -/
def ofInt (f : Format) (i : Int) : Binary f := ofRatio f (decide (i < 0)) i.natAbs 1

/-- The number nearest to `significand * 10 ^ exponent`, negated if asked for. -/
def ofDecimal (f : Format) (negative : Bool) (significand : Nat) (exponent : Int) : Binary f :=
  if 0 ≤ exponent then ofRatio f negative (significand * 10 ^ exponent.toNat) 1
  else ofRatio f negative significand (10 ^ (-exponent).toNat)

/-- Positive zero. -/
def zero (f : Format) : Binary f := ofMagnitude f false 0

/-- One. -/
def one (f : Format) : Binary f := ofInt f 1

/-- Infinity of the given sign. -/
def infinity (f : Format) (negative : Bool) : Binary f := ofMagnitude f negative f.infinity

/-- A value that is not a number. -/
def nan (f : Format) : Binary f := ofMagnitude f false f.quietNaN

/-- The number of the format `g` nearest to `x`. Infinities keep their sign, and a value that is
not a number stays one. -/
def convert (g : Format) (x : Binary f) : Binary g :=
  if x.isNaN then nan g
  else if x.isInfinite then infinity g x.negative
  else ofRatio g x.negative (f.units x.magnitude) (2 ^ f.unitBits)

/-! ### Equality and order of values -/

/-- An integer that orders all numbers by value: the magnitude, under the sign. Both zeros have
the key `0`. -/
def key (x : Binary f) : Int := if x.negative then -x.magnitude else x.magnitude

/-- Equality of values: `-0` equals `0`, and what is not a number equals nothing. -/
def valueEq (x y : Binary f) : Bool := !x.isNaN && !y.isNaN && x.key == y.key

/-- The order of values, in which what is not a number has no place. -/
def compare? (x y : Binary f) : Option Ordering :=
  if x.isNaN || y.isNaN then none else some (compare x.key y.key)

theorem valueEq_iff {x y : Binary f} :
    x.valueEq y ↔ x.isNaN = false ∧ y.isNaN = false ∧ x.key = y.key := by
  simp [valueEq, and_assoc]

end Binary

end StyleChain
