import StyleChain.Loose.Basic

/-!
# Slot values from values of a known type

What each slot's own method accepts: a value of the slot, or one of the shapes that coerce to one.
Nothing is guessed here. A distance has to be a distance, and a number that merely denotes one is
refused.
-/

namespace StyleChain

namespace SlotValue

/-- The padding that a value of an accepted type converts to. -/
def Padding.ofTyped? : Loose → Option (Padding Loose)
  | .padding v => some v
  | .base .edges e => some e
  | .base .dp d => some d
  | .tuple [.base .dp h, .base .dp v] => some ((h, v) : Dp × Dp)
  | .tuple [.base .dp l, .base .dp t, .base .dp r, .base .dp b] =>
    some ((l, t, r, b) : Dp × Dp × Dp × Dp)
  | _ => none

/-- The background that a value of an accepted type converts to. -/
def Background.ofTyped? : Loose → Option (Background Loose)
  | .background v => some v
  | .base .color c => some c
  | .tuple [.base .color c, .base .shape s] => some ((c, s) : Color × Shape)
  | _ => none

/-- The border that a value of an accepted type converts to. -/
def Border.ofTyped? : Loose → Option (Border Loose)
  | .border v => some v
  | .base .stroke s => some s
  | .tuple [.base .dp w, .base .color c] => some ((w, c) : Dp × Color)
  | .tuple [.base .stroke s, .base .shape shape] => some ((s, shape) : Stroke × Shape)
  | .tuple [.base .dp w, .base .color c, .base .shape s] => some ((w, c, s) : Dp × Color × Shape)
  | .tuple [.base .dp w, .base .brush b, .base .shape s] => some ((w, b, s) : Dp × Brush × Shape)
  | _ => none

/-- The way to have its own size that a value of an accepted type converts to. -/
def WrapContent.ofTyped? : Loose → Option (WrapContent Loose)
  | .wrapContent v => some v
  | .base .alignment a => some a
  | .base .bool b => some b
  | .tuple [.base .alignment a, .base .bool b] => some ((a, b) : Alignment × Bool)
  | _ => none

/-- The size that a value of an accepted type converts to. -/
def Size.ofTyped? : Loose → Option (Size Loose)
  | .size v => some v
  | .base .extent e => some e
  | .base .dp d => some d
  | .tuple [.base .dp w, .base .dp h] => some ((w, h) : Dp × Dp)
  | _ => none

/-- The way to have the focus that a value of an accepted type converts to. -/
def Focusable.ofTyped? : Loose → Option (Focusable Loose)
  | .focusable v => some v
  | .base .bool b => some b
  | .base .source s => some s
  | .tuple [.base .bool b, .base .source s] => some ((b, s) : Bool × InteractionSource)
  | _ => none

/-- The pointer input that a value of an accepted type converts to. -/
def PointerInput.ofTyped? : Loose → Option (PointerInput Loose)
  | .pointerInput v => some v
  | .tuple [.base .eventType t, .base .pointerHandler h] =>
    some ((t, h) : PointerEventType × PointerHandler)
  | .tuple [.base .eventType t, .base .eventPass p, .base .pointerHandler h] =>
    some ((t, p, h) : PointerEventType × PointerEventPass × PointerHandler)
  | _ => none

end SlotValue

/-- The fraction meant by a method that is told none. -/
def wholeFraction : Binary32 := .one .single

/-- The fraction that a method takes: a number of the 32-bit format, or the whole when nothing is
said. -/
def Loose.typedFraction? : Loose → Option Binary32
  | .tuple [] => some wholeFraction
  | .base .float32 x => some x
  | _ => none

end StyleChain
