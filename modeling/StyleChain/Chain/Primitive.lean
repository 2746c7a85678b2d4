import StyleChain.Chain.Basic

/-!
# Direct construction of chains

One function per operation that adds it at the inner end of a chain, and two shorthands for
borders.
-/

namespace StyleChain.Chain

/-- Keeps edges clear. -/
def padding (c : Chain) (edges : Edges) : Chain := c.push (.paddingValues edges)

/-- Keeps one distance clear at every edge. -/
def paddingAll (c : Chain) (d : Dp) : Chain := c.push (.paddingAll d)

/-- Keeps one distance clear at the ends of a line and another above and below. -/
def paddingSymmetric (c : Chain) (horizontal vertical : Dp) : Chain :=
  c.push (.paddingSymmetric horizontal vertical)

/-- Keeps a distance of its own clear at each edge. -/
def paddingEach (c : Chain) (leading top trailing bottom : Dp) : Chain :=
  c.push (.paddingEach leading top trailing bottom)

/-- Fills the box. -/
def background (c : Chain) (color : Color) : Chain := c.push (.background color)

/-- Fills a shape within the box. -/
def backgroundShaped (c : Chain) (color : Color) (shape : Shape) : Chain :=
  c.push (.backgroundShaped color shape)

/-- Draws a line around a shape. -/
def border (c : Chain) (width : Dp) (brush : Brush) (shape : Shape) : Chain :=
  c.push (.border width brush shape)

/-- Draws a stroke around a shape. -/
def borderStroke (c : Chain) (stroke : Stroke) (shape : Shape) : Chain :=
  c.border stroke.width stroke.brush shape

/-- Draws a line of one color around the box. -/
def borderWidthColor (c : Chain) (width : Dp) (color : Color) : Chain :=
  c.border width color .rectangle

/-- Sets the width. -/
def width (c : Chain) (d : Dp) : Chain := c.push (.width d)

/-- Sets the height. -/
def height (c : Chain) (d : Dp) : Chain := c.push (.height d)

/-- Takes a fraction of the width that is left. -/
def fillMaxWidth (c : Chain) (fraction : Binary32) : Chain := c.push (.fillMaxWidth fraction)

/-- Takes a fraction of the height that is left. -/
def fillMaxHeight (c : Chain) (fraction : Binary32) : Chain := c.push (.fillMaxHeight fraction)

/-- Takes a fraction of the width and the height that are left. -/
def fillMaxSize (c : Chain) (fraction : Binary32) : Chain := c.push (.fillMaxSize fraction)

/-- Lets the content have its own size. -/
def wrapContentSize (c : Chain) (alignment : Alignment) (unbounded : Bool) : Chain :=
  c.push (.wrapContentSize alignment unbounded)

/-- Sets width and height. -/
def extent (c : Chain) (e : Extent) : Chain := c.push (.size e)

/-- Lets the box have the focus, and reports to a source. -/
def focusable (c : Chain) (enabled : Bool) (source : Option InteractionSource) : Chain :=
  c.push (.focusable enabled source)

/-- Answers clicks. -/
def clickable (c : Chain) (handler : ClickHandler) : Chain := c.push (.clickable handler)

/-- Answers key events. -/
def onKeyEvent (c : Chain) (handler : KeyHandler) : Chain := c.push (.keyEvent handler)

/-- Answers pointer events of one type in one pass. -/
def pointerInput (c : Chain) (type : PointerEventType) (pass : PointerEventPass)
    (handler : PointerHandler) : Chain :=
  c.push (.pointerInput type pass handler)

end StyleChain.Chain
