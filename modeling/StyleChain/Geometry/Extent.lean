import StyleChain.Geometry.Dp

/-!
# Extents and edges

An `Extent` is a width and a height, and `Edges` are four distances kept clear at the sides of a
box. In both the parts are independent, and the shorthands that give several parts one distance
are functions here, so that no later layer spells them out again.
-/

namespace StyleChain

/-- A width and a height. -/
structure Extent where
  /-- Distance across. -/
  width : Dp
  /-- Distance from top to bottom. -/
  height : Dp
deriving DecidableEq, Repr

namespace Extent

instance : Inhabited Extent := ⟨⟨.zero, .zero⟩⟩

/-- Equal sides. -/
def square (side : Dp) : Extent := ⟨side, side⟩

/-- Equality part by part. -/
def valueEq (a b : Extent) : Bool := a.width.valueEq b.width && a.height.valueEq b.height

/-- Diagnostic text. -/
def describe (a : Extent) : String :=
  Text.record "DpSize" [("width", a.width.describe), ("height", a.height.describe)]

end Extent

/-- Distances at the four sides of a box. `leading` and `trailing` are the sides where a line of
text begins and ends. -/
structure Edges where
  /-- The side where a line begins. -/
  leading : Dp
  /-- The upper side. -/
  top : Dp
  /-- The side where a line ends. -/
  trailing : Dp
  /-- The lower side. -/
  bottom : Dp
deriving DecidableEq, Repr

/-- Coordinates kept clear at the sides of a rectangle: left, top, right, bottom. -/
structure Insets where
  /-- Left. -/
  x0 : Binary64
  /-- Top. -/
  y0 : Binary64
  /-- Right. -/
  x1 : Binary64
  /-- Bottom. -/
  y1 : Binary64
deriving DecidableEq, Repr

namespace Edges

/-- The same distance at every side. -/
def all (d : Dp) : Edges := ⟨d, d, d, d⟩

/-- One distance at both ends of a line and another above and below. -/
def symmetric (horizontal vertical : Dp) : Edges := ⟨horizontal, vertical, horizontal, vertical⟩

instance : Inhabited Edges := ⟨all .zero⟩

/-- The insets of a box whose lines run from left to right. -/
def insets (e : Edges) : Insets := ⟨e.leading.value, e.top.value, e.trailing.value, e.bottom.value⟩

/-- Equality side by side. -/
def valueEq (a b : Edges) : Bool :=
  a.leading.valueEq b.leading && a.top.valueEq b.top && a.trailing.valueEq b.trailing &&
    a.bottom.valueEq b.bottom

/-- Diagnostic text. -/
def describe (e : Edges) : String :=
  Text.record "PaddingValues"
    [("start", e.leading.describe), ("top", e.top.describe), ("end", e.trailing.describe),
      ("bottom", e.bottom.describe)]

end Edges

end StyleChain
