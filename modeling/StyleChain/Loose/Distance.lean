import StyleChain.Loose.Basic

/-!
# Distances given loosely

The shapes in which slots look for distances in a loosely given value: a distance alone, two or
four distances, and a distance followed by something else. A distance may be given by any type
that denotes one, but several distances must be given by one type throughout. Fractions are asked
for separately, because they come from other types: saying nothing means the whole, and a distance
proper is no fraction.
-/

namespace StyleChain.Loose

/-- The distance that a value denotes. -/
def distance? : Loose → Option Dp
  | base t v => t.distance? v
  | _ => none

/-- Two distances given by one type. -/
def distancePair? : Loose → Option (Dp × Dp)
  | tuple [a, b] => if a.type = b.type then do return (← a.distance?, ← b.distance?) else none
  | _ => none

/-- Four distances given by one type. -/
def distanceQuad? : Loose → Option (Dp × Dp × Dp × Dp)
  | tuple [a, b, c, d] =>
    if a.type = b.type ∧ b.type = c.type ∧ c.type = d.type then do
      return (← a.distance?, ← b.distance?, ← c.distance?, ← d.distance?)
    else none
  | _ => none

/-- A distance and a value of the base type `t`. -/
def distanceAnd? (t : BaseType) : Loose → Option (Dp × t.Carrier)
  | tuple [d, v] => do return (← d.distance?, ← v.read? t)
  | _ => none

/-- A distance and values of the base types `s` and `t`. -/
def distanceAndTwo? (s t : BaseType) : Loose → Option (Dp × s.Carrier × t.Carrier)
  | tuple [d, v, w] => do return (← d.distance?, ← v.read? s, ← w.read? t)
  | _ => none

/-- The fraction that a value denotes, as the nearest number of the 32-bit format. -/
def fraction? : Loose → Option Binary32
  | tuple [] => some (.one .single)
  | base .float32 x => some x
  | base .float64 x => some (x.convert .single)
  | base .int32 i => some ((Binary.ofInt .double i.toInt).convert .single)
  | _ => none

end StyleChain.Loose
