import StyleChain.Loose.Distance

/-!
# Slot values from loosely given values

For each slot that takes several shapes, `ofShape?` finds out which of them a loosely given value
has, trying them in the order in which they are listed. `ofLoose` takes a value that already is
one of the slot's own as it is, and keeps a value of no shape as unrecognized, so that nothing
that was given is lost.
-/

namespace StyleChain.SlotValue

namespace Padding

/-- Padding is given by all edges at once, by one distance, by two or by four. -/
def ofShape? (l : Loose) : Option (Padding Loose) :=
  edges <$> l.read? .edges <|>
  all <$> l.distance? <|>
  (fun (h, v) => symmetric h v) <$> l.distancePair? <|>
  (fun (l, t, r, b) => each l t r b) <$> l.distanceQuad?

/-- The padding that a value of any type is. -/
def ofLoose : Loose → Padding Loose
  | .padding v => v
  | l => (ofShape? l).getD (unrecognized l)

end Padding

namespace Background

/-- A background is given by a color, alone or with a shape. -/
def ofShape? (l : Loose) : Option (Background Loose) :=
  color <$> l.read? .color <|>
  (fun (c, s) => shaped c s) <$> l.readPair? .color .shape

/-- The background that a value of any type is. -/
def ofLoose : Loose → Background Loose
  | .background v => v
  | l => (ofShape? l).getD (unrecognized l)

end Background

namespace Border

/-- A border is given by a stroke, alone or with a shape, or by a width that is followed by a
color, by a color and a shape, or by a brush and a shape. -/
def ofShape? (l : Loose) : Option (Border Loose) :=
  stroke <$> l.read? .stroke <|>
  (fun (w, c) => widthColor w c) <$> l.distanceAnd? .color <|>
  (fun (s, shape) => strokeShape s shape) <$> l.readPair? .stroke .shape <|>
  (fun (w, c, shape) => widthBrushShape w (.solid c) shape) <$> l.distanceAndTwo? .color .shape <|>
  (fun (w, b, shape) => widthBrushShape w b shape) <$> l.distanceAndTwo? .brush .shape

/-- The border that a value of any type is. -/
def ofLoose : Loose → Border Loose
  | .border v => v
  | l => (ofShape? l).getD (unrecognized l)

end Border

namespace WrapContent

/-- The content's own size is asked for by an alignment, by whether it is unbounded, or both. -/
def ofShape? (l : Loose) : Option (WrapContent Loose) :=
  align <$> l.read? .alignment <|>
  unbounded <$> l.read? .bool <|>
  (fun (a, b) => alignUnbounded a b) <$> l.readPair? .alignment .bool

/-- The way to have its own size that a value of any type is. -/
def ofLoose : Loose → WrapContent Loose
  | .wrapContent v => v
  | l => (ofShape? l).getD (unrecognized l)

end WrapContent

namespace Size

/-- A size is given by an extent, by one distance or by two. -/
def ofShape? (l : Loose) : Option (Size Loose) :=
  extent <$> l.read? .extent <|>
  square <$> l.distance? <|>
  (fun (w, h) => widthHeight w h) <$> l.distancePair?

/-- The size that a value of any type is. -/
def ofLoose : Loose → Size Loose
  | .size v => v
  | l => (ofShape? l).getD (unrecognized l)

end Size

namespace Focusable

/-- Focus is given by whether it is enabled, by a source, or both. -/
def ofShape? (l : Loose) : Option (Focusable Loose) :=
  enabled <$> l.read? .bool <|>
  source <$> l.read? .source <|>
  (fun (b, s) => enabledSource b s) <$> l.readPair? .bool .source

/-- The way to have the focus that a value of any type is. -/
def ofLoose : Loose → Focusable Loose
  | .focusable v => v
  | l => (ofShape? l).getD (unrecognized l)

end Focusable

namespace PointerInput

/-- Pointer input is given by a type of event and a handler, with or without a pass between. -/
def ofShape? (l : Loose) : Option (PointerInput Loose) :=
  (fun (t, h) => handler t h) <$> l.readPair? .eventType .pointerHandler <|>
  (fun (t, p, h) => passHandler t p h) <$> l.readTriple? .eventType .eventPass .pointerHandler

/-- The pointer input that a value of any type is. -/
def ofLoose : Loose → PointerInput Loose
  | .pointerInput v => v
  | l => (ofShape? l).getD (unrecognized l)

end PointerInput

end StyleChain.SlotValue
