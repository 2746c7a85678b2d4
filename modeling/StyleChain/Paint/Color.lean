import StyleChain.Decimal.Text
import StyleChain.Text.Record

/-!
# Colors

A color has red, green, blue and alpha as numbers of the 32-bit format, with `1` for full
strength. Nothing keeps them within `0` and `1`. A byte gives a channel as its product with the
32-bit number nearest to `1 / 255`, rounded once more.
-/

namespace StyleChain

/-- A color with its opacity. -/
structure Color where
  /-- Strength of red. -/
  red : Binary32
  /-- Strength of green. -/
  green : Binary32
  /-- Strength of blue. -/
  blue : Binary32
  /-- Opacity. -/
  alpha : Binary32
deriving DecidableEq, Repr

namespace Color

/-- What one step of a byte is worth in a channel. -/
def byteStep : Binary32 := .ofRatio .single false 1 255

/-- The channel that a byte stands for. -/
def channel (b : UInt8) : Binary32 :=
  .ofRatio .single false (b.toNat * Format.single.units byteStep.magnitude)
    (2 ^ Format.single.unitBits)

/-- The color with the given channels. -/
def ofRGBA (red green blue alpha : UInt8) : Color :=
  ⟨channel red, channel green, channel blue, channel alpha⟩

/-- The opaque color with the given channels. -/
def ofRGB (red green blue : UInt8) : Color :=
  ⟨channel red, channel green, channel blue, .one .single⟩

/-- The channels, opacity last. -/
def channels (c : Color) : List Binary32 := [c.red, c.green, c.blue, c.alpha]

/-- Equality channel by channel. -/
def valueEq (a b : Color) : Bool :=
  a.red.valueEq b.red && a.green.valueEq b.green && a.blue.valueEq b.blue && a.alpha.valueEq b.alpha

/-- Diagnostic text of the channels. -/
def describeChannels (c : Color) : String := Text.list (c.channels.map Binary.describe)

/-- Diagnostic text. -/
def describe (c : Color) : String :=
  Text.record "AlphaColor"
    [("components", c.describeChannels), ("cs", "PhantomData<color::colorspace::Srgb>")]

end Color

end StyleChain
