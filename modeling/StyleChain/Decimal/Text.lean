import StyleChain.Decimal.Shortest

/-!
# Text of numbers

How a number is written: its shortest decimal, positional while the first digit stands in a given
range of places and with an exponent outside it. Positional text always has a decimal point and a
digit after it; an exponent has no sign but a minus. Zeros keep their sign. `NumberStyle` holds
what a style may choose, and `Binary.text` writes a number in a style.
-/

namespace StyleChain

/-- The choices in writing a number. -/
structure NumberStyle where
  /-- The lowest place of a first digit that is written positionally. -/
  lowest : Int
  /-- The highest place of a first digit that is written positionally. -/
  highest : Int
  /-- Text of infinity. -/
  infinity : String
  /-- Text of what is not a number. -/
  nan : String
deriving DecidableEq, Repr

/-- Diagnostics write numbers positionally from a ten-thousandth to below ten to the sixteenth. -/
def NumberStyle.diagnostic : NumberStyle := ⟨-4, 15, "inf", "NaN"⟩

namespace Decimal

/-- The significant digits. -/
def digits (d : Decimal) : List Char := Nat.toDigits 10 d.significand

/-- The place of the first digit: `0` for units, `-1` for tenths. -/
def place (d : Decimal) : Int := d.exponent + d.digits.length - 1

/-- The digits with a point among them, zeros filling the places between. -/
def positional (d : Decimal) : String :=
  let zeros (n : Int) : List Char := List.replicate n.toNat '0'
  let whole := d.exponent + d.digits.length
  if 0 ≤ d.exponent then String.ofList (d.digits ++ zeros d.exponent ++ ['.', '0'])
  else if 0 < whole then
    String.ofList (d.digits.take whole.toNat ++ '.' :: d.digits.drop whole.toNat)
  else String.ofList ('0' :: '.' :: zeros (-whole) ++ d.digits)

/-- The first digit, the others behind a point, and the place of the first digit. -/
def scientific (d : Decimal) : String :=
  let significand := match d.digits with
    | first :: second :: rest => first :: '.' :: second :: rest
    | single => single
  String.ofList significand ++ "e" ++ toString d.place

/-- The text of a positive decimal. -/
def text (style : NumberStyle) (d : Decimal) : String :=
  if style.lowest ≤ d.place ∧ d.place ≤ style.highest then d.positional else d.scientific

end Decimal

namespace Binary

variable {f : Format}

/-- The text of a number. -/
def text (style : NumberStyle) (x : Binary f) : String :=
  if x.isNaN then style.nan
  else
    let unsigned :=
      if x.isInfinite then style.infinity
      else if x.magnitude = 0 then "0.0"
      else (f.shortest x.magnitude).text style
    if x.negative then "-" ++ unsigned else unsigned

/-- The text of a number in diagnostics. -/
def describe (x : Binary f) : String := x.text .diagnostic

end Binary

end StyleChain
