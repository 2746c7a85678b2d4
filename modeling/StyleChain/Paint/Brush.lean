import StyleChain.Paint.Color

/-!
# Brushes

What an area or a line is painted with: one color, or a gradient that runs through color stops
along a line, between two circles or around a point. Brushes that repeat an image are left out: an
image is known by a number that its process gives it, and nothing here looks into it.

Some properties of a gradient and of its stops are choices from lists that are kept elsewhere. They
are held as the words that diagnostics have for them, and all that is asked of two such choices is
whether they are the same.
-/

namespace StyleChain

/-- A point of the plane. -/
structure Point where
  /-- Distance to the right. -/
  x : Binary64
  /-- Distance downwards. -/
  y : Binary64
deriving DecidableEq, Repr

namespace Point

/-- Equality of both coordinates. -/
def valueEq (a b : Point) : Bool := a.x.valueEq b.x && a.y.valueEq b.y

/-- Diagnostic text. -/
def describe (p : Point) : String := Text.tuple "" [p.x.describe, p.y.describe]

end Point

/-- The course of a gradient. -/
inductive GradientLine where
  /-- Along the line from one point to another. -/
  | linear (start finish : Point)
  /-- From one circle to another. -/
  | radial (startCenter : Point) (startRadius : Binary32) (endCenter : Point) (endRadius : Binary32)
  /-- Around a point, from one angle to another. -/
  | sweep (center : Point) (startAngle endAngle : Binary32)
deriving DecidableEq, Repr

namespace GradientLine

/-- The same course with equal numbers. -/
def valueEq : GradientLine → GradientLine → Bool
  | linear s e, linear s' e' => s.valueEq s' && e.valueEq e'
  | radial c r d q, radial c' r' d' q' =>
    c.valueEq c' && r.valueEq r' && d.valueEq d' && q.valueEq q'
  | sweep c a b, sweep c' a' b' => c.valueEq c' && a.valueEq a' && b.valueEq b'
  | _, _ => false

/-- Diagnostic text. -/
def describe : GradientLine → String
  | linear s e =>
    Text.tuple "Linear"
      [Text.record "LinearGradientPosition" [("start", s.describe), ("end", e.describe)]]
  | radial c r d q =>
    Text.tuple "Radial"
      [Text.record "RadialGradientPosition"
        [("start_center", c.describe), ("start_radius", r.describe), ("end_center", d.describe),
          ("end_radius", q.describe)]]
  | sweep c a b =>
    Text.tuple "Sweep"
      [Text.record "SweepGradientPosition"
        [("center", c.describe), ("start_angle", a.describe), ("end_angle", b.describe)]]

end GradientLine

/-- How a gradient goes on beyond its ends. -/
inductive Extend where
  /-- With the color of the nearer end. -/
  | pad
  /-- From the beginning again. -/
  | again
  /-- Backwards and forwards in turn. -/
  | reflect
deriving DecidableEq, Repr

namespace Extend

instance : Inhabited Extend := ⟨pad⟩

/-- Every way to go on. -/
def all : List Extend := [pad, again, reflect]

/-- Diagnostic text. -/
def describe : Extend → String
  | pad => "Pad"
  | again => "Repeat"
  | reflect => "Reflect"

end Extend

/-- How the channels of a color are meant. -/
structure ColorEncoding where
  /-- The color space that they belong to. -/
  space : String
  /-- Which of them are missing, and the name that the color was given by. -/
  flags : String
deriving DecidableEq, Repr

namespace ColorEncoding

/-- Red, green and blue on screen, with no channel missing and no name. -/
def screen : ColorEncoding where
  space := "Srgb"
  flags := Text.record "Flags"
    [("missing", Text.tuple "Missing" ["0b00000000"]), ("name", "0"), ("named", "false"),
      ("color_name", "None")]

instance : Inhabited ColorEncoding := ⟨screen⟩

end ColorEncoding

/-- A color at an offset along a gradient. -/
structure ColorStop where
  /-- The place, `0` at the start and `1` at the end. -/
  offset : Binary32
  /-- The color there. -/
  color : Color
  /-- How the channels of the color are meant. -/
  encoding : ColorEncoding
deriving DecidableEq, Repr

namespace ColorStop

/-- Equality of place and color, the color meant in the same way. -/
def valueEq (a b : ColorStop) : Bool :=
  a.offset.valueEq b.offset && a.color.valueEq b.color && decide (a.encoding = b.encoding)

/-- Diagnostic text. -/
def describe (s : ColorStop) : String :=
  Text.record "ColorStop"
    [("offset", s.offset.describe),
      ("color", Text.record "DynamicColor"
        [("cs", s.encoding.space), ("flags", s.encoding.flags),
          ("components", s.color.describeChannels)])]

/-- Equality of two lists of stops: as many stops, and each equal to its counterpart. -/
def listEq : List ColorStop → List ColorStop → Bool
  | [], [] => true
  | s :: ss, t :: ts => s.valueEq t && listEq ss ts
  | _, _ => false

end ColorStop

/-- How the colors between two stops are got from those at the stops. -/
structure Mixing where
  /-- The color space in which they are mixed. -/
  space : String
  /-- Which way round the hues are gone through. -/
  hueDirection : String
  /-- Whether the channels are multiplied by the opacity first. -/
  alphaSpace : String
deriving DecidableEq, Repr

namespace Mixing

/-- The way of mixing unless told otherwise. -/
def standard : Mixing := ⟨"Srgb", "Shorter", "Premultiplied"⟩

instance : Inhabited Mixing := ⟨standard⟩

end Mixing

/-- A course with colors along it. -/
structure Gradient where
  /-- The course. -/
  line : GradientLine
  /-- How it goes on beyond its ends. -/
  extend : Extend
  /-- How colors are mixed along it. -/
  mixing : Mixing
  /-- The colors along it, in the order given. -/
  stops : List ColorStop
deriving DecidableEq, Repr

namespace Gradient

/-- Equality of course, continuation, mixing and every stop. -/
def valueEq (a b : Gradient) : Bool :=
  a.line.valueEq b.line && decide (a.extend = b.extend) && decide (a.mixing = b.mixing) &&
    ColorStop.listEq a.stops b.stops

/-- Diagnostic text. -/
def describe (g : Gradient) : String :=
  Text.record "Gradient"
    [("kind", g.line.describe), ("extend", g.extend.describe),
      ("interpolation_cs", g.mixing.space), ("hue_direction", g.mixing.hueDirection),
      ("interpolation_alpha_space", g.mixing.alphaSpace),
      ("stops", Text.tuple "ColorStops" [Text.list (g.stops.map ColorStop.describe)])]

end Gradient

/-- What to paint with. -/
inductive Brush where
  /-- One color. -/
  | solid (color : Color)
  /-- A gradient. -/
  | gradient (g : Gradient)
deriving DecidableEq, Repr

namespace Brush

/-- A color paints as a solid brush. -/
instance : Coe Color Brush := ⟨solid⟩

/-- The same kind of brush with equal contents. -/
def valueEq : Brush → Brush → Bool
  | solid a, solid b => a.valueEq b
  | gradient a, gradient b => a.valueEq b
  | _, _ => false

/-- Diagnostic text. -/
def describe : Brush → String
  | solid c => Text.tuple "Solid" [c.describe]
  | gradient g => Text.tuple "Gradient" [g.describe]

end Brush

end StyleChain
