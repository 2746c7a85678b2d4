import StyleChain.Decimal.Text
import StyleChain.Text.Record

/-!
# Distances

A distance in density-independent pixels is any number of the 64-bit format: negative, infinite
and undefined distances are carried like every other.
-/

namespace StyleChain

/-- A distance in density-independent pixels. -/
structure Dp where
  /-- How many pixels. -/
  value : Binary64
deriving DecidableEq, Repr

namespace Dp

/-- No distance. -/
def zero : Dp := ⟨.zero .double⟩

instance : Inhabited Dp := ⟨zero⟩

/-- Equality of the distances, not of their bits. -/
def valueEq (a b : Dp) : Bool := a.value.valueEq b.value

/-- The order of distances; an undefined distance has no place in it. -/
def compare? (a b : Dp) : Option Ordering := a.value.compare? b.value

/-- Whether there is no distance, of either sign. -/
def isZero (a : Dp) : Bool := a.valueEq zero

/-- Diagnostic text. -/
def describe (a : Dp) : String := Text.tuple "Dp" [a.value.describe]

end Dp

end StyleChain
