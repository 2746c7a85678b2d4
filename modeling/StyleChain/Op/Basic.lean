import StyleChain.Geometry.Extent
import StyleChain.Geometry.Shape
import StyleChain.Handle.Handler
import StyleChain.Handle.Source
import StyleChain.Op.Kind
import StyleChain.Paint.Stroke

/-!
# Operations

An operation says one thing about how a box is laid out, drawn or interacted with. Operations are
plain data; their **value equality** compares the numbers they hold by value and the handlers and
sources they hold by identity, so an operation that holds a number that is not one does not equal
itself.
-/

namespace StyleChain

/-- One operation on a box. -/
inductive Op where
  /-- Keeps edges clear. -/
  | paddingValues (edges : Edges)
  /-- Keeps one distance clear at every edge. -/
  | paddingAll (d : Dp)
  /-- Keeps one distance clear at the ends of a line and another above and below. -/
  | paddingSymmetric (horizontal vertical : Dp)
  /-- Keeps a distance of its own clear at each edge. -/
  | paddingEach (leading top trailing bottom : Dp)
  /-- Fills the box. -/
  | background (color : Color)
  /-- Fills a shape within the box. -/
  | backgroundShaped (color : Color) (shape : Shape)
  /-- Draws a line around a shape. -/
  | border (width : Dp) (brush : Brush) (shape : Shape)
  /-- Sets the width. -/
  | width (d : Dp)
  /-- Sets the height. -/
  | height (d : Dp)
  /-- Takes a fraction of the width that is left. -/
  | fillMaxWidth (fraction : Binary32)
  /-- Takes a fraction of the height that is left. -/
  | fillMaxHeight (fraction : Binary32)
  /-- Takes a fraction of the width and the height that are left. -/
  | fillMaxSize (fraction : Binary32)
  /-- Lets the content have its own size. -/
  | wrapContentSize (alignment : Alignment) (unbounded : Bool)
  /-- Sets width and height. -/
  | size (extent : Extent)
  /-- Lets the box have the focus, and reports to a source. -/
  | focusable (enabled : Bool) (source : Option InteractionSource)
  /-- Answers clicks. -/
  | clickable (handler : ClickHandler)
  /-- Answers key events. -/
  | keyEvent (handler : KeyHandler)
  /-- Answers pointer events of one type in one pass. -/
  | pointerInput (type : PointerEventType) (pass : PointerEventPass) (handler : PointerHandler)
deriving DecidableEq, Repr

namespace Op

/-- The kind of an operation. -/
def kind : Op → Kind
  | paddingValues _ => .paddingValues
  | paddingAll _ => .paddingAll
  | paddingSymmetric _ _ => .paddingSymmetric
  | paddingEach _ _ _ _ => .paddingEach
  | background _ => .background
  | backgroundShaped _ _ => .backgroundShaped
  | border _ _ _ => .border
  | width _ => .width
  | height _ => .height
  | fillMaxWidth _ => .fillMaxWidth
  | fillMaxHeight _ => .fillMaxHeight
  | fillMaxSize _ => .fillMaxSize
  | wrapContentSize _ _ => .wrapContentSize
  | size _ => .size
  | focusable _ _ => .focusable
  | clickable _ => .clickable
  | keyEvent _ => .keyEvent
  | pointerInput _ _ _ => .pointerInput

/-- Equality by value: numbers by what they are worth, handlers and sources by identity. -/
def valueEq : Op → Op → Bool
  | paddingValues e, paddingValues e' => e.valueEq e'
  | paddingAll d, paddingAll d' => d.valueEq d'
  | paddingSymmetric h v, paddingSymmetric h' v' => h.valueEq h' && v.valueEq v'
  | paddingEach l t r b, paddingEach l' t' r' b' =>
    l.valueEq l' && t.valueEq t' && r.valueEq r' && b.valueEq b'
  | background c, background c' => c.valueEq c'
  | backgroundShaped c s, backgroundShaped c' s' => c.valueEq c' && s.valueEq s'
  | border w b s, border w' b' s' => w.valueEq w' && b.valueEq b' && s.valueEq s'
  | width d, width d' => d.valueEq d'
  | height d, height d' => d.valueEq d'
  | fillMaxWidth x, fillMaxWidth x' => x.valueEq x'
  | fillMaxHeight x, fillMaxHeight x' => x.valueEq x'
  | fillMaxSize x, fillMaxSize x' => x.valueEq x'
  | wrapContentSize a u, wrapContentSize a' u' => decide (a = a') && decide (u = u')
  | size e, size e' => e.valueEq e'
  | focusable e s, focusable e' s' => decide (e = e') && decide (s = s')
  | clickable h, clickable h' => decide (h = h')
  | keyEvent h, keyEvent h' => decide (h = h')
  | pointerInput t p h, pointerInput t' p' h' =>
    decide (t = t') && decide (p = p') && decide (h = h')
  | _, _ => false

/-- Operations of equal value are of one kind. -/
theorem kind_eq_of_valueEq {a b : Op} (h : a.valueEq b) : a.kind = b.kind := by
  cases a <;> cases b <;> first | rfl | exact absurd h Bool.false_ne_true

/-- Diagnostic text. It depends on the logs because a source shows how much was emitted into it. -/
def describe (sources : Sources) : Op → String
  | paddingValues e => Text.tuple "PaddingValues" [e.describe]
  | paddingAll d => Text.tuple "PaddingAll" [d.describe]
  | paddingSymmetric h v =>
    Text.record "PaddingSymmetric" [("horizontal", h.describe), ("vertical", v.describe)]
  | paddingEach l t r b =>
    Text.record "PaddingEach"
      [("start", l.describe), ("top", t.describe), ("end", r.describe), ("bottom", b.describe)]
  | background c => Text.tuple "Background" [c.describe]
  | backgroundShaped c s =>
    Text.record "BackgroundShaped" [("color", c.describe), ("shape", s.describe)]
  | border w b s =>
    Text.record "Border" [("width", w.describe), ("brush", b.describe), ("shape", s.describe)]
  | width d => Text.tuple "Width" [d.describe]
  | height d => Text.tuple "Height" [d.describe]
  | fillMaxWidth x => Text.tuple "FillMaxWidth" [x.describe]
  | fillMaxHeight x => Text.tuple "FillMaxHeight" [x.describe]
  | fillMaxSize x => Text.tuple "FillMaxSize" [x.describe]
  | wrapContentSize a u =>
    Text.record "WrapContentSize" [("alignment", a.describe), ("unbounded", Text.truth u)]
  | size e => Text.tuple "Size" [e.describe]
  | focusable e s =>
    Text.record "Focusable"
      [("enabled", Text.truth e),
        ("interaction_source", Text.optional (s.map sources.describe))]
  | clickable h => Text.tuple "Clickable" [h.describe]
  | keyEvent h => Text.tuple "KeyEvent" [h.describe]
  | pointerInput t p h =>
    Text.record "PointerInput"
      [("event_type", t.describe), ("pass", p.describe), ("handler", h.describe)]

end Op

end StyleChain
