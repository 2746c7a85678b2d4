import StyleChain.Geometry.Dp

/-!
# Shapes and alignments

The outline of a filled or bordered box, and where a smaller content stands in a larger box.
-/

namespace StyleChain

/-- The radii of a rectangle's four corners. Nothing keeps them positive. -/
structure Corners where
  /-- Upper left. -/
  topLeft : Binary64
  /-- Upper right. -/
  topRight : Binary64
  /-- Lower right. -/
  bottomRight : Binary64
  /-- Lower left. -/
  bottomLeft : Binary64
deriving DecidableEq, Repr

namespace Corners

/-- One radius at every corner. -/
def all (r : Binary64) : Corners := ⟨r, r, r, r⟩

/-- Equality corner by corner. -/
def valueEq (a b : Corners) : Bool :=
  a.topLeft.valueEq b.topLeft && a.topRight.valueEq b.topRight &&
    a.bottomRight.valueEq b.bottomRight && a.bottomLeft.valueEq b.bottomLeft

/-- Diagnostic text. -/
def describe (c : Corners) : String :=
  Text.record "RoundedRectRadii"
    [("top_left", c.topLeft.describe), ("top_right", c.topRight.describe),
      ("bottom_right", c.bottomRight.describe), ("bottom_left", c.bottomLeft.describe)]

end Corners

/-- The outline of a box. -/
inductive Shape where
  /-- Sharp corners. -/
  | rectangle
  /-- A circle within the box. -/
  | circle
  /-- A rectangle with rounded corners. -/
  | rounded (radii : Corners)
deriving DecidableEq, Repr

namespace Shape

instance : Inhabited Shape := ⟨rectangle⟩

/-- A rectangle with one radius at every corner. -/
def uniform (radius : Binary64) : Shape := .rounded (.all radius)

/-- The same outline with equal radii. -/
def valueEq : Shape → Shape → Bool
  | rectangle, rectangle => true
  | circle, circle => true
  | rounded a, rounded b => a.valueEq b
  | _, _ => false

/-- Diagnostic text. -/
def describe : Shape → String
  | rectangle => "Rectangle"
  | circle => "Circle"
  | rounded radii => Text.tuple "RoundedCorners" [radii.describe]

end Shape

/-- Where content stands in a larger box. -/
inductive Alignment where
  | topStart
  | topCenter
  | topEnd
  | centerStart
  | center
  | centerEnd
  | bottomStart
  | bottomCenter
  | bottomEnd
deriving DecidableEq, Repr

namespace Alignment

/-- Content stands in the middle unless told otherwise. -/
instance : Inhabited Alignment := ⟨center⟩

/-- Every alignment, row by row. -/
def all : List Alignment :=
  [topStart, topCenter, topEnd, centerStart, center, centerEnd, bottomStart, bottomCenter,
    bottomEnd]

/-- Diagnostic text. -/
def describe : Alignment → String
  | topStart => "TopStart"
  | topCenter => "TopCenter"
  | topEnd => "TopEnd"
  | centerStart => "CenterStart"
  | center => "Center"
  | centerEnd => "CenterEnd"
  | bottomStart => "BottomStart"
  | bottomCenter => "BottomCenter"
  | bottomEnd => "BottomEnd"

end Alignment

end StyleChain
