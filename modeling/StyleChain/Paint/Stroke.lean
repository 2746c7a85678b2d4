import StyleChain.Geometry.Dp
import StyleChain.Paint.Brush

/-!
# Strokes

The line around a box: how wide it is and what it is painted with.
-/

namespace StyleChain

/-- A border line. -/
structure Stroke where
  /-- How wide the line is. -/
  width : Dp
  /-- What it is painted with. -/
  brush : Brush
deriving DecidableEq, Repr

namespace Stroke

/-- A line of one color. -/
def solid (width : Dp) (color : Color) : Stroke := ⟨width, .solid color⟩

/-- Equality of width and brush. -/
def valueEq (a b : Stroke) : Bool := a.width.valueEq b.width && a.brush.valueEq b.brush

/-- Diagnostic text. -/
def describe (s : Stroke) : String :=
  Text.record "BorderStroke" [("width", s.width.describe), ("brush", s.brush.describe)]

end Stroke

end StyleChain
