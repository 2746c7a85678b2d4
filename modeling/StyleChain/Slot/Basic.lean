/-!
# Slots and groups

A slot is a property that can be given a value, and every slot belongs to one of three groups. The
order of the groups in `Group.all` is the canonical one.
-/

namespace StyleChain

/-- The groups of slots. -/
inductive Group where
  | size
  | appearance
  | interaction
deriving DecidableEq, Repr, Ord

namespace Group

/-- Every group, in canonical order. -/
def all : List Group := [size, appearance, interaction]

theorem mem_all (g : Group) : g ∈ all := by
  cases g <;> decide

theorem nodup_all : all.Nodup := by
  decide

/-- The name of a group. -/
def name : Group → String
  | size => "size"
  | appearance => "appearance"
  | interaction => "interaction"

instance : ToString Group := ⟨name⟩

/-- Diagnostic text. -/
def describe : Group → String
  | size => "Size"
  | appearance => "Appearance"
  | interaction => "Interaction"

end Group

/-- The properties that can be given a value. -/
inductive Slot where
  | padding
  | background
  | border
  | width
  | height
  | fillMaxWidth
  | fillMaxHeight
  | fillMaxSize
  | wrapContentSize
  | size
  | focusable
  | onClick
  | onKeyEvent
  | onPointerEvent
deriving DecidableEq, Repr, Ord

namespace Slot

/-- Every slot, in order. -/
def all : List Slot :=
  [padding, background, border, width, height, fillMaxWidth, fillMaxHeight, fillMaxSize,
    wrapContentSize, size, focusable, onClick, onKeyEvent, onPointerEvent]

theorem mem_all (s : Slot) : s ∈ all := by
  cases s <;> decide

/-- The group a slot belongs to. -/
def group : Slot → Group
  | padding | background | border => .appearance
  | width | height | fillMaxWidth | fillMaxHeight | fillMaxSize | wrapContentSize | size => .size
  | focusable | onClick | onKeyEvent | onPointerEvent => .interaction

/-- The name of a slot. -/
def name : Slot → String
  | padding => "padding"
  | background => "background"
  | border => "border"
  | width => "width"
  | height => "height"
  | fillMaxWidth => "fillMaxWidth"
  | fillMaxHeight => "fillMaxHeight"
  | fillMaxSize => "fillMaxSize"
  | wrapContentSize => "wrapContentSize"
  | size => "size"
  | focusable => "focusable"
  | onClick => "onClick"
  | onKeyEvent => "onKeyEvent"
  | onPointerEvent => "onPointerEvent"

instance : ToString Slot := ⟨name⟩

/-- Diagnostic text. -/
def describe : Slot → String
  | padding => "Padding"
  | background => "Background"
  | border => "Border"
  | width => "Width"
  | height => "Height"
  | fillMaxWidth => "FillMaxWidth"
  | fillMaxHeight => "FillMaxHeight"
  | fillMaxSize => "FillMaxSize"
  | wrapContentSize => "WrapContentSize"
  | size => "Size"
  | focusable => "Focusable"
  | onClick => "OnClick"
  | onKeyEvent => "OnKeyEvent"
  | onPointerEvent => "OnPointerEvent"

end Slot

end StyleChain
