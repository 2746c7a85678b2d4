import StyleChain.Op.Basic
import StyleChain.Slot.Basic

/-!
# Base types

The types, other than tuples and the values of slots, that a loosely given value may turn out to
have. `BaseType` names them and `BaseType.Carrier` says what a value of each is, so that one
constructor holds them all and one function, which compares names, reads them back. The list is
open: of a foreign type nothing is known but its name, and a value of it is a token.
-/

namespace StyleChain

/-- The names of base types. -/
inductive BaseType where
  | float64
  | float32
  | int32
  | uint32
  | uint8
  | int64
  | bool
  | char
  /-- A text that belongs to its holder. -/
  | text
  /-- A text that is only pointed at. -/
  | textSlice
  | color
  | brush
  | dp
  | shape
  | alignment
  | stroke
  | extent
  | edges
  | clickHandler
  | keyHandler
  | pointerHandler
  | source
  | eventType
  | eventPass
  | op
  | slot
  /-- A distance that may be missing. -/
  | optionalDp
  /-- A distance that is only pointed at. -/
  | boxedDp
  /-- Any number of numbers. -/
  | sequence
  /-- A fixed number of numbers. -/
  | array (count : Nat)
  /-- A type of which only the name is known here. -/
  | foreign (name : String)
deriving DecidableEq, Repr

namespace BaseType

/-- The values of a base type. -/
@[reducible] def Carrier : BaseType → Type
  | float64 => Binary64
  | float32 => Binary32
  | int32 => Int32
  | uint32 => UInt32
  | uint8 => UInt8
  | int64 => Int64
  | bool => Bool
  | char => Char
  | text => String
  | textSlice => String
  | color => Color
  | brush => Brush
  | dp => Dp
  | shape => Shape
  | alignment => Alignment
  | stroke => Stroke
  | extent => Extent
  | edges => Edges
  | clickHandler => ClickHandler
  | keyHandler => KeyHandler
  | pointerHandler => PointerHandler
  | source => InteractionSource
  | eventType => PointerEventType
  | eventPass => PointerEventPass
  | op => Op
  | slot => Slot
  | optionalDp => Option Dp
  | boxedDp => Dp
  | sequence => List Binary64
  | array count => Vector Binary64 count
  | foreign _ => Nat

/-- How a base type is written in diagnostics. -/
def name : BaseType → String
  | float64 => "f64"
  | float32 => "f32"
  | int32 => "i32"
  | uint32 => "u32"
  | uint8 => "u8"
  | int64 => "i64"
  | bool => "bool"
  | char => "char"
  | text => "alloc::string::String"
  | textSlice => "&str"
  | color => "color::color::AlphaColor<color::colorspace::Srgb>"
  | brush => "peniko::brush::Brush"
  | dp => "understory_modifier::units::Dp"
  | shape => "understory_modifier::units::Shape"
  | alignment => "understory_modifier::units::Alignment"
  | stroke => "understory_modifier::units::BorderStroke"
  | extent => "understory_modifier::units::DpSize"
  | edges => "understory_modifier::units::PaddingValues"
  | clickHandler => "understory_modifier::callback::OnClick"
  | keyHandler => "understory_modifier::callback::OnKeyEvent"
  | pointerHandler => "understory_modifier::callback::PointerHandler"
  | source => "understory_modifier::callback::InteractionSource"
  | eventType => "understory_modifier::callback::PointerEventType"
  | eventPass => "understory_modifier::callback::PointerEventPass"
  | op => "understory_modifier::op::ModifierOp"
  | slot => "understory_modifier_builder::slot::Slot"
  | optionalDp => "core::option::Option<understory_modifier::units::Dp>"
  | boxedDp => "alloc::boxed::Box<understory_modifier::units::Dp>"
  | sequence => "alloc::vec::Vec<f64>"
  | array count => "[f64; " ++ toString count ++ "]"
  | foreign name => name

/-- The distance that a value of a base type denotes. Distances themselves and three types of
numbers denote one; a number of pixels is taken over without loss. -/
def distance? : (t : BaseType) → t.Carrier → Option Dp
  | dp, d => some d
  | float64, x => some ⟨x⟩
  | float32, x => some ⟨x.convert .double⟩
  | int32, i => some ⟨.ofInt .double i.toInt⟩
  | _, _ => none

end BaseType

end StyleChain
