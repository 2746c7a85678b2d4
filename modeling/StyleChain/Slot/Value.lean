import StyleChain.Op.Basic
import StyleChain.Slot.Basic

/-!
# Values of slots that take several shapes

Seven slots take values of more than one shape. Each has a type here with one constructor for each
shape and one, `unrecognized`, for a value given loosely in a shape that the slot does not know;
`ρ` is the type of loosely given values. `resolve` turns a value into the operation it stands for.
Shapes that say the same become the same operation there, with the defaults filled in; what is
unrecognized stands for nothing.

Coercions let each shape be given as it is, a pair of distances for a pair of paddings and so on.
-/

namespace StyleChain.SlotValue

variable {ρ : Type}

/-! ### Padding -/

/-- A value of the slot for padding. -/
inductive Padding (ρ : Type) where
  /-- All edges at once. -/
  | edges (e : Edges)
  /-- One distance for every edge. -/
  | all (d : Dp)
  /-- One distance for the ends of a line and another for above and below. -/
  | symmetric (horizontal vertical : Dp)
  /-- A distance for each edge. -/
  | each (leading top trailing bottom : Dp)
  /-- No shape of padding. -/
  | unrecognized (given : ρ)

namespace Padding

instance : Coe Edges (Padding ρ) := ⟨edges⟩
instance : Coe Dp (Padding ρ) := ⟨all⟩
instance : Coe (Dp × Dp) (Padding ρ) := ⟨fun (h, v) => symmetric h v⟩
instance : Coe (Dp × Dp × Dp × Dp) (Padding ρ) := ⟨fun (l, t, r, b) => each l t r b⟩

/-- The operation a value stands for. -/
def resolve : Padding ρ → Option Op
  | edges e => some (.paddingValues e)
  | all d => some (.paddingAll d)
  | symmetric h v => some (.paddingSymmetric h v)
  | each l t r b => some (.paddingEach l t r b)
  | unrecognized _ => none

/-- Diagnostic text. -/
def describe (given : ρ → String) : Padding ρ → String
  | edges e => Text.tuple "Values" [e.describe]
  | all d => Text.tuple "All" [d.describe]
  | symmetric h v =>
    Text.record "Symmetric" [("horizontal", h.describe), ("vertical", v.describe)]
  | each l t r b =>
    Text.record "Each"
      [("start", l.describe), ("top", t.describe), ("end", r.describe), ("bottom", b.describe)]
  | unrecognized v => Text.tuple "Unrecognized" [given v]

end Padding

/-! ### Background -/

/-- A value of the slot for the background. -/
inductive Background (ρ : Type) where
  /-- A color for the whole box. -/
  | color (c : Color)
  /-- A color for a shape. -/
  | shaped (c : Color) (s : Shape)
  /-- No shape of background. -/
  | unrecognized (given : ρ)

namespace Background

instance : Coe Color (Background ρ) := ⟨color⟩
instance : Coe (Color × Shape) (Background ρ) := ⟨fun (c, s) => shaped c s⟩

/-- The operation a value stands for. -/
def resolve : Background ρ → Option Op
  | color c => some (.background c)
  | shaped c s => some (.backgroundShaped c s)
  | unrecognized _ => none

/-- Diagnostic text. -/
def describe (given : ρ → String) : Background ρ → String
  | color c => Text.tuple "Color" [c.describe]
  | shaped c s => Text.tuple "Shaped" [c.describe, s.describe]
  | unrecognized v => Text.tuple "Unrecognized" [given v]

end Background

/-! ### Border -/

/-- A value of the slot for the border. -/
inductive Border (ρ : Type) where
  /-- A stroke around the box. -/
  | stroke (s : Stroke)
  /-- A line of one color around the box. -/
  | widthColor (width : Dp) (c : Color)
  /-- A stroke around a shape. -/
  | strokeShape (s : Stroke) (shape : Shape)
  /-- A line around a shape. -/
  | widthBrushShape (width : Dp) (brush : Brush) (shape : Shape)
  /-- No shape of border. -/
  | unrecognized (given : ρ)

namespace Border

instance : Coe Stroke (Border ρ) := ⟨stroke⟩
instance : Coe (Dp × Color) (Border ρ) := ⟨fun (w, c) => widthColor w c⟩
instance : Coe (Stroke × Shape) (Border ρ) := ⟨fun (s, shape) => strokeShape s shape⟩
instance : Coe (Dp × Color × Shape) (Border ρ) :=
  ⟨fun (w, c, shape) => widthBrushShape w (.solid c) shape⟩
instance : Coe (Dp × Brush × Shape) (Border ρ) :=
  ⟨fun (w, b, shape) => widthBrushShape w b shape⟩

/-- The operation a value stands for; the shape is the box itself unless it is given. -/
def resolve : Border ρ → Option Op
  | stroke s => some (.border s.width s.brush .rectangle)
  | widthColor w c => some (.border w (.solid c) .rectangle)
  | strokeShape s shape => some (.border s.width s.brush shape)
  | widthBrushShape w b shape => some (.border w b shape)
  | unrecognized _ => none

/-- Diagnostic text. -/
def describe (given : ρ → String) : Border ρ → String
  | stroke s => Text.tuple "Stroke" [s.describe]
  | widthColor w c => Text.tuple "WidthColor" [w.describe, c.describe]
  | strokeShape s shape => Text.tuple "StrokeShape" [s.describe, shape.describe]
  | widthBrushShape w b shape =>
    Text.tuple "WidthBrushShape" [w.describe, b.describe, shape.describe]
  | unrecognized v => Text.tuple "Unrecognized" [given v]

end Border

/-! ### The content's own size -/

/-- A value of the slot that lets the content have its own size. -/
inductive WrapContent (ρ : Type) where
  /-- Where the content stands. -/
  | align (a : Alignment)
  /-- Whether the content may be larger than the box. -/
  | unbounded (b : Bool)
  /-- Both. -/
  | alignUnbounded (a : Alignment) (b : Bool)
  /-- Neither. -/
  | unrecognized (given : ρ)

namespace WrapContent

instance : Coe Alignment (WrapContent ρ) := ⟨align⟩
instance : Coe Bool (WrapContent ρ) := ⟨unbounded⟩
instance : Coe (Alignment × Bool) (WrapContent ρ) := ⟨fun (a, b) => alignUnbounded a b⟩

/-- The operation a value stands for; content is bounded and in the middle unless told otherwise. -/
def resolve : WrapContent ρ → Option Op
  | align a => some (.wrapContentSize a false)
  | unbounded b => some (.wrapContentSize .center b)
  | alignUnbounded a b => some (.wrapContentSize a b)
  | unrecognized _ => none

/-- Diagnostic text. -/
def describe (given : ρ → String) : WrapContent ρ → String
  | align a => Text.tuple "Align" [a.describe]
  | unbounded b => Text.tuple "Unbounded" [Text.truth b]
  | alignUnbounded a b => Text.tuple "AlignUnbounded" [a.describe, Text.truth b]
  | unrecognized v => Text.tuple "Unrecognized" [given v]

end WrapContent

/-! ### Size -/

/-- A value of the slot for width and height together. -/
inductive Size (ρ : Type) where
  /-- Equal sides. -/
  | square (side : Dp)
  /-- A width and a height. -/
  | widthHeight (width height : Dp)
  /-- An extent. -/
  | extent (e : Extent)
  /-- No shape of size. -/
  | unrecognized (given : ρ)

namespace Size

instance : Coe Dp (Size ρ) := ⟨square⟩
instance : Coe (Dp × Dp) (Size ρ) := ⟨fun (w, h) => widthHeight w h⟩
instance : Coe Extent (Size ρ) := ⟨extent⟩

/-- The operation a value stands for. -/
def resolve : Size ρ → Option Op
  | square side => some (.size (.square side))
  | widthHeight w h => some (.size ⟨w, h⟩)
  | extent e => some (.size e)
  | unrecognized _ => none

/-- Diagnostic text. -/
def describe (given : ρ → String) : Size ρ → String
  | square side => Text.tuple "Square" [side.describe]
  | widthHeight w h => Text.tuple "WidthHeight" [w.describe, h.describe]
  | extent e => Text.tuple "Size" [e.describe]
  | unrecognized v => Text.tuple "Unrecognized" [given v]

end Size

/-! ### Focus -/

/-- A value of the slot that lets the box have the focus. -/
inductive Focusable (ρ : Type) where
  /-- Whether it may. -/
  | enabled (b : Bool)
  /-- Where interactions are reported. -/
  | source (s : InteractionSource)
  /-- Both. -/
  | enabledSource (b : Bool) (s : InteractionSource)
  /-- Neither. -/
  | unrecognized (given : ρ)

namespace Focusable

instance : Coe Bool (Focusable ρ) := ⟨enabled⟩
instance : Coe InteractionSource (Focusable ρ) := ⟨source⟩
instance : Coe (Bool × InteractionSource) (Focusable ρ) := ⟨fun (b, s) => enabledSource b s⟩

/-- The operation a value stands for; a box that reports may have the focus unless told
otherwise. -/
def resolve : Focusable ρ → Option Op
  | enabled b => some (.focusable b none)
  | source s => some (.focusable true (some s))
  | enabledSource b s => some (.focusable b (some s))
  | unrecognized _ => none

/-- Diagnostic text. -/
def describe (sources : Sources) (given : ρ → String) : Focusable ρ → String
  | enabled b => Text.tuple "Enabled" [Text.truth b]
  | source s => Text.tuple "Source" [sources.describe s]
  | enabledSource b s => Text.tuple "EnabledSource" [Text.truth b, sources.describe s]
  | unrecognized v => Text.tuple "Unrecognized" [given v]

end Focusable

/-! ### Pointer events -/

/-- A value of the slot for pointer events. -/
inductive PointerInput (ρ : Type) where
  /-- What answers events of one type. -/
  | handler (type : PointerEventType) (h : PointerHandler)
  /-- What answers events of one type in one pass. -/
  | passHandler (type : PointerEventType) (pass : PointerEventPass) (h : PointerHandler)
  /-- Neither. -/
  | unrecognized (given : ρ)

namespace PointerInput

instance : Coe (PointerEventType × PointerHandler) (PointerInput ρ) := ⟨fun (t, h) => handler t h⟩
instance : Coe (PointerEventType × PointerEventPass × PointerHandler) (PointerInput ρ) :=
  ⟨fun (t, p, h) => passHandler t p h⟩

/-- The operation a value stands for; handlers listen in the main pass unless told otherwise. -/
def resolve : PointerInput ρ → Option Op
  | handler t h => some (.pointerInput t .main h)
  | passHandler t p h => some (.pointerInput t p h)
  | unrecognized _ => none

/-- Diagnostic text. -/
def describe (given : ρ → String) : PointerInput ρ → String
  | handler t h => Text.tuple "Handler" [t.describe, h.describe]
  | passHandler t p h => Text.tuple "PassHandler" [t.describe, p.describe, h.describe]
  | unrecognized v => Text.tuple "Unrecognized" [given v]

end PointerInput

end StyleChain.SlotValue
