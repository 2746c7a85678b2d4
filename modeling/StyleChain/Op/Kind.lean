/-!
# Kinds of operations

The eighteen kinds of operations, in their order, with the name each is written under. `all` lists
them; it is complete and free of repetition, so a question about every kind is a question about
the list.
-/

namespace StyleChain

/-- The kind of an operation, without what it holds. -/
inductive Kind where
  | paddingValues
  | paddingAll
  | paddingSymmetric
  | paddingEach
  | background
  | backgroundShaped
  | border
  | width
  | height
  | fillMaxWidth
  | fillMaxHeight
  | fillMaxSize
  | wrapContentSize
  | size
  | focusable
  | clickable
  | keyEvent
  | pointerInput
deriving DecidableEq, Repr, Ord

namespace Kind

/-- Every kind, in order. -/
def all : List Kind :=
  [paddingValues, paddingAll, paddingSymmetric, paddingEach, background, backgroundShaped, border,
    width, height, fillMaxWidth, fillMaxHeight, fillMaxSize, wrapContentSize, size, focusable,
    clickable, keyEvent, pointerInput]

theorem mem_all (k : Kind) : k ∈ all := by
  cases k <;> decide

/-- The place of a kind among all kinds. -/
def position (k : Kind) : Nat := all.idxOf k

/-- The name of a kind. -/
def name : Kind → String
  | paddingValues => "padding-values"
  | paddingAll => "padding-all"
  | paddingSymmetric => "padding-symmetric"
  | paddingEach => "padding-each"
  | background => "background"
  | backgroundShaped => "background-shaped"
  | border => "border"
  | width => "width"
  | height => "height"
  | fillMaxWidth => "fill-max-width"
  | fillMaxHeight => "fill-max-height"
  | fillMaxSize => "fill-max-size"
  | wrapContentSize => "wrap-content-size"
  | size => "size"
  | focusable => "focusable"
  | clickable => "clickable"
  | keyEvent => "key-event"
  | pointerInput => "pointer-input"

instance : ToString Kind := ⟨name⟩

/-- Diagnostic text. -/
def describe : Kind → String
  | paddingValues => "PaddingValues"
  | paddingAll => "PaddingAll"
  | paddingSymmetric => "PaddingSymmetric"
  | paddingEach => "PaddingEach"
  | background => "Background"
  | backgroundShaped => "BackgroundShaped"
  | border => "Border"
  | width => "Width"
  | height => "Height"
  | fillMaxWidth => "FillMaxWidth"
  | fillMaxHeight => "FillMaxHeight"
  | fillMaxSize => "FillMaxSize"
  | wrapContentSize => "WrapContentSize"
  | size => "Size"
  | focusable => "Focusable"
  | clickable => "Clickable"
  | keyEvent => "KeyEvent"
  | pointerInput => "PointerInput"

end Kind

end StyleChain
