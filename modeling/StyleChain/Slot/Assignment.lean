import StyleChain.Slot.OfLoose
import StyleChain.Slot.OfTyped

/-!
# Assignments

An assignment is a slot together with a value for it, and stands for at most one operation. There
are two ways to come by one. `Loose.typed?` takes a value whose type one of the slot's own methods
accepts, and converts it as that method does. `Loose.assignment` takes any value for any slot and
finds out by itself what it is; a value that the slot cannot use still makes an assignment, one
that stands for nothing.
-/

namespace StyleChain

/-- A value for a slot. -/
inductive Assignment where
  | padding (v : SlotValue.Padding Loose)
  | background (v : SlotValue.Background Loose)
  | border (v : SlotValue.Border Loose)
  | width (d : Dp)
  | height (d : Dp)
  | fillMaxWidth (fraction : Binary32)
  | fillMaxHeight (fraction : Binary32)
  | fillMaxSize (fraction : Binary32)
  | wrapContentSize (v : SlotValue.WrapContent Loose)
  | size (v : SlotValue.Size Loose)
  | focusable (v : SlotValue.Focusable Loose)
  | onClick (h : ClickHandler)
  | onKeyEvent (h : KeyHandler)
  | onPointerEvent (v : SlotValue.PointerInput Loose)
  /-- A value of which the slot can make nothing. -/
  | unusable (slot : Slot) (given : Loose)

namespace Assignment

/-- The slot that is assigned. -/
def slot : Assignment → Slot
  | padding _ => .padding
  | background _ => .background
  | border _ => .border
  | width _ => .width
  | height _ => .height
  | fillMaxWidth _ => .fillMaxWidth
  | fillMaxHeight _ => .fillMaxHeight
  | fillMaxSize _ => .fillMaxSize
  | wrapContentSize _ => .wrapContentSize
  | size _ => .size
  | focusable _ => .focusable
  | onClick _ => .onClick
  | onKeyEvent _ => .onKeyEvent
  | onPointerEvent _ => .onPointerEvent
  | unusable s _ => s

/-- The operation an assignment stands for. -/
def op? : Assignment → Option Op
  | padding v => v.resolve
  | background v => v.resolve
  | border v => v.resolve
  | width d => some (.width d)
  | height d => some (.height d)
  | fillMaxWidth x => some (.fillMaxWidth x)
  | fillMaxHeight x => some (.fillMaxHeight x)
  | fillMaxSize x => some (.fillMaxSize x)
  | wrapContentSize v => v.resolve
  | size v => v.resolve
  | focusable v => v.resolve
  | onClick h => some (.clickable h)
  | onKeyEvent h => some (.keyEvent h)
  | onPointerEvent v => v.resolve
  | unusable _ _ => none

/-- The form that a recorded value has; slots that take the same sort of value share it. -/
def form : Assignment → String
  | padding _ => "Padding"
  | background _ => "Background"
  | border _ => "Border"
  | width _ | height _ => "Distance"
  | fillMaxWidth _ | fillMaxHeight _ | fillMaxSize _ => "Fraction"
  | wrapContentSize _ => "WrapContent"
  | size _ => "Size"
  | focusable _ => "Focusable"
  | onClick _ => "OnClick"
  | onKeyEvent _ => "OnKeyEvent"
  | onPointerEvent _ => "PointerInput"
  | unusable _ _ => "Raw"

/-- Diagnostic text of the value alone. -/
def describeValue (sources : Sources) : Assignment → String
  | padding v => v.describe Loose.describe
  | background v => v.describe Loose.describe
  | border v => v.describe Loose.describe
  | width d | height d => d.describe
  | fillMaxWidth x | fillMaxHeight x | fillMaxSize x => x.describe
  | wrapContentSize v => v.describe Loose.describe
  | size v => v.describe Loose.describe
  | focusable v => v.describe sources Loose.describe
  | onClick h => h.describe
  | onKeyEvent h => h.describe
  | onPointerEvent v => v.describe Loose.describe
  | unusable _ v => v.describe

/-- Diagnostic text of the recorded value. -/
def describe (sources : Sources) (a : Assignment) : String :=
  Text.tuple a.form [a.describeValue sources]

end Assignment

namespace Loose

/-- The assignment that a slot's own method makes of a value, if it accepts values of its type. -/
def typed? (v : Loose) : Slot → Option Assignment
  | .padding => .padding <$> SlotValue.Padding.ofTyped? v
  | .background => .background <$> SlotValue.Background.ofTyped? v
  | .border => .border <$> SlotValue.Border.ofTyped? v
  | .width => .width <$> v.read? .dp
  | .height => .height <$> v.read? .dp
  | .fillMaxWidth => .fillMaxWidth <$> v.typedFraction?
  | .fillMaxHeight => .fillMaxHeight <$> v.typedFraction?
  | .fillMaxSize => .fillMaxSize <$> v.typedFraction?
  | .wrapContentSize => .wrapContentSize <$> SlotValue.WrapContent.ofTyped? v
  | .size => .size <$> SlotValue.Size.ofTyped? v
  | .focusable => .focusable <$> SlotValue.Focusable.ofTyped? v
  | .onClick => .onClick <$> v.read? .clickHandler
  | .onKeyEvent => .onKeyEvent <$> v.read? .keyHandler
  | .onPointerEvent => .onPointerEvent <$> SlotValue.PointerInput.ofTyped? v

/-- The assignment of a value of any type to a slot. -/
def assignment (v : Loose) (s : Slot) : Assignment :=
  match s with
  | .padding => .padding (.ofLoose v)
  | .background => .background (.ofLoose v)
  | .border => .border (.ofLoose v)
  | .width => (v.distance?.map .width).getD (.unusable .width v)
  | .height => (v.distance?.map .height).getD (.unusable .height v)
  | .fillMaxWidth => (v.fraction?.map .fillMaxWidth).getD (.unusable .fillMaxWidth v)
  | .fillMaxHeight => (v.fraction?.map .fillMaxHeight).getD (.unusable .fillMaxHeight v)
  | .fillMaxSize => (v.fraction?.map .fillMaxSize).getD (.unusable .fillMaxSize v)
  | .wrapContentSize => .wrapContentSize (.ofLoose v)
  | .size => .size (.ofLoose v)
  | .focusable => .focusable (.ofLoose v)
  | .onClick => ((v.read? .clickHandler).map .onClick).getD (.unusable .onClick v)
  | .onKeyEvent => ((v.read? .keyHandler).map .onKeyEvent).getD (.unusable .onKeyEvent v)
  | .onPointerEvent => .onPointerEvent (.ofLoose v)

/-- A value given to a slot is assigned to that slot and to no other. -/
@[simp] theorem slot_assignment (v : Loose) (s : Slot) : (v.assignment s).slot = s := by
  cases s <;> simp only [assignment, Assignment.slot] <;>
    first
    | (cases v.distance? <;> rfl)
    | (cases v.fraction? <;> rfl)
    | (cases v.read? .clickHandler <;> rfl)
    | (cases v.read? .keyHandler <;> rfl)

/-- A slot's own method assigns that slot. -/
theorem slot_of_typed? {v : Loose} {s : Slot} {a : Assignment} (h : v.typed? s = some a) :
    a.slot = s := by
  cases s <;> obtain ⟨_, -, rfl⟩ := Option.map_eq_some_iff.1 h <;> rfl

end Loose

end StyleChain
