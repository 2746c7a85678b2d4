import StyleChain.Slot.Assignment

/-!
# Slots that take several shapes

The seven slots with a type of values of their own, as one family: for each slot its values, how a
value of the slot is given loosely, and how a loosely given value is classified. What holds of all
seven is then one statement about `UnionSlot`, and a proof for all slots takes the seven as one case
(`UnionSlot.slot_cases`).

Classification has three answers, in this order (`UnionSlot.ofLoose_eq`): a value of the slot is
taken as it is, a value of one of the slot's shapes is converted, and any other is kept as
unrecognized. The first answer is given to the slot's own values only (`own?_eq_some_iff`), and the
second never says unrecognized (`ofShape?_ne_unrecognized`), so how a classification came about can
be read off its outcome.
-/

namespace StyleChain

/-- The slots that take several shapes. -/
inductive UnionSlot where
  | padding
  | background
  | border
  | wrapContentSize
  | size
  | focusable
  | onPointerEvent
deriving DecidableEq, Repr

namespace UnionSlot

/-- The slot. -/
def slot : UnionSlot → Slot
  | padding => .padding
  | background => .background
  | border => .border
  | wrapContentSize => .wrapContentSize
  | size => .size
  | focusable => .focusable
  | onPointerEvent => .onPointerEvent

/-- The values of the slot. -/
@[reducible] def Value : UnionSlot → Type
  | padding => SlotValue.Padding Loose
  | background => SlotValue.Background Loose
  | border => SlotValue.Border Loose
  | wrapContentSize => SlotValue.WrapContent Loose
  | size => SlotValue.Size Loose
  | focusable => SlotValue.Focusable Loose
  | onPointerEvent => SlotValue.PointerInput Loose

/-- A value of the slot as a value of any type. -/
def toLoose : (u : UnionSlot) → u.Value → Loose
  | padding, x => .padding x
  | background, x => .background x
  | border, x => .border x
  | wrapContentSize, x => .wrapContent x
  | size, x => .size x
  | focusable, x => .focusable x
  | onPointerEvent, x => .pointerInput x

/-- The value that keeps what the slot does not recognize. -/
def unrecognized : (u : UnionSlot) → Loose → u.Value
  | padding, l => .unrecognized l
  | background, l => .unrecognized l
  | border, l => .unrecognized l
  | wrapContentSize, l => .unrecognized l
  | size, l => .unrecognized l
  | focusable, l => .unrecognized l
  | onPointerEvent, l => .unrecognized l

/-- The operation a value of the slot stands for. -/
def resolve : (u : UnionSlot) → u.Value → Option Op
  | padding, x => x.resolve
  | background, x => x.resolve
  | border, x => x.resolve
  | wrapContentSize, x => x.resolve
  | size, x => x.resolve
  | focusable, x => x.resolve
  | onPointerEvent, x => x.resolve

/-- Assigns a value to the slot. -/
def assignment : (u : UnionSlot) → u.Value → Assignment
  | padding, x => .padding x
  | background, x => .background x
  | border, x => .border x
  | wrapContentSize, x => .wrapContentSize x
  | size, x => .size x
  | focusable, x => .focusable x
  | onPointerEvent, x => .onPointerEvent x

/-- The value, if it is one of the slot's own. -/
def own? : (u : UnionSlot) → Loose → Option u.Value
  | padding, .padding x => some x
  | background, .background x => some x
  | border, .border x => some x
  | wrapContentSize, .wrapContent x => some x
  | size, .size x => some x
  | focusable, .focusable x => some x
  | onPointerEvent, .pointerInput x => some x
  | _, _ => none

/-- What a value of one of the slot's shapes is converted to. -/
def ofShape? : (u : UnionSlot) → Loose → Option u.Value
  | padding => SlotValue.Padding.ofShape?
  | background => SlotValue.Background.ofShape?
  | border => SlotValue.Border.ofShape?
  | wrapContentSize => SlotValue.WrapContent.ofShape?
  | size => SlotValue.Size.ofShape?
  | focusable => SlotValue.Focusable.ofShape?
  | onPointerEvent => SlotValue.PointerInput.ofShape?

/-- What a value of any type is for the slot. -/
def ofLoose : (u : UnionSlot) → Loose → u.Value
  | padding => SlotValue.Padding.ofLoose
  | background => SlotValue.Background.ofLoose
  | border => SlotValue.Border.ofLoose
  | wrapContentSize => SlotValue.WrapContent.ofLoose
  | size => SlotValue.Size.ofLoose
  | focusable => SlotValue.Focusable.ofLoose
  | onPointerEvent => SlotValue.PointerInput.ofLoose

/-- What a value of a type that the slot's own method accepts converts to. -/
def ofTyped? : (u : UnionSlot) → Loose → Option u.Value
  | padding => SlotValue.Padding.ofTyped?
  | background => SlotValue.Background.ofTyped?
  | border => SlotValue.Border.ofTyped?
  | wrapContentSize => SlotValue.WrapContent.ofTyped?
  | size => SlotValue.Size.ofTyped?
  | focusable => SlotValue.Focusable.ofTyped?
  | onPointerEvent => SlotValue.PointerInput.ofTyped?

/-- A slot takes several shapes, or one sort of value. -/
@[elab_as_elim]
theorem slot_cases {motive : Slot → Prop} (union : ∀ u : UnionSlot, motive u.slot)
    (width : motive .width) (height : motive .height) (fillMaxWidth : motive .fillMaxWidth)
    (fillMaxHeight : motive .fillMaxHeight) (fillMaxSize : motive .fillMaxSize)
    (onClick : motive .onClick) (onKeyEvent : motive .onKeyEvent) (slot : Slot) : motive slot :=
  match slot with
  | .padding => union .padding
  | .background => union .background
  | .border => union .border
  | .wrapContentSize => union .wrapContentSize
  | .size => union .size
  | .focusable => union .focusable
  | .onPointerEvent => union .onPointerEvent
  | .width => width
  | .height => height
  | .fillMaxWidth => fillMaxWidth
  | .fillMaxHeight => fillMaxHeight
  | .fillMaxSize => fillMaxSize
  | .onClick => onClick
  | .onKeyEvent => onKeyEvent

variable {u w : UnionSlot} {l given : Loose}

/-! ### Assignments -/

/-- A value of any type is assigned as what it is for the slot. -/
theorem assignment_ofLoose (u : UnionSlot) (l : Loose) :
    l.assignment u.slot = u.assignment (u.ofLoose l) := by
  cases u <;> rfl

/-- The slot's own method assigns what the value converts to. -/
theorem typed?_slot (u : UnionSlot) (l : Loose) :
    l.typed? u.slot = (u.ofTyped? l).map u.assignment := by
  cases u <;> rfl

theorem op?_assignment (u : UnionSlot) (x : u.Value) : (u.assignment x).op? = u.resolve x := by
  cases u <;> rfl

theorem slot_assignment (u : UnionSlot) (x : u.Value) : (u.assignment x).slot = u.slot := by
  cases u <;> rfl

theorem assignment_injective (u : UnionSlot) {x y : u.Value} (h : u.assignment x = u.assignment y) :
    x = y := by
  cases u <;> cases h <;> rfl

theorem resolve_unrecognized (u : UnionSlot) (l : Loose) : u.resolve (u.unrecognized l) = none := by
  cases u <;> rfl

/-- A value that stands for no operation is not recognized. -/
theorem exists_unrecognized_of_resolve_eq_none {x : u.Value} (h : u.resolve x = none) :
    ∃ given, x = u.unrecognized given := by
  cases u <;> cases x <;> first | exact ⟨_, rfl⟩ | cases h

/-! ### Classification -/

theorem eq_of_toLoose_eq {x : u.Value} {y : w.Value} (h : u.toLoose x = w.toLoose y) : u = w := by
  cases u <;> cases w <;> first | rfl | cases h

theorem toLoose_injective (u : UnionSlot) {x y : u.Value} (h : u.toLoose x = u.toLoose y) :
    x = y := by
  cases u <;> cases h <;> rfl

theorem own?_eq_some_iff {x : u.Value} : u.own? l = some x ↔ l = u.toLoose x := by
  constructor
  · intro h
    cases u <;> cases l <;> cases h <;> rfl
  · rintro rfl
    cases u <;> rfl

/-- No conversion ends in what is not recognized. -/
theorem ofShape?_ne_unrecognized : u.ofShape? l ≠ some (u.unrecognized given) := by
  cases u with
  | padding => simp [ofShape?, unrecognized, SlotValue.Padding.ofShape?]
  | background => simp [ofShape?, unrecognized, SlotValue.Background.ofShape?]
  | border => simp [ofShape?, unrecognized, SlotValue.Border.ofShape?]
  | wrapContentSize => simp [ofShape?, unrecognized, SlotValue.WrapContent.ofShape?]
  | size => simp [ofShape?, unrecognized, SlotValue.Size.ofShape?]
  | focusable => simp [ofShape?, unrecognized, SlotValue.Focusable.ofShape?]
  | onPointerEvent => simp [ofShape?, unrecognized, SlotValue.PointerInput.ofShape?]

/-- No slot has a shape for values of slots. -/
theorem ofShape?_toLoose (w : UnionSlot) (x : u.Value) : w.ofShape? (u.toLoose x) = none := by
  cases u <;> cases w <;> rfl

/-- The slot's own values come first, then its shapes. -/
theorem ofLoose_eq (u : UnionSlot) (l : Loose) :
    u.ofLoose l = (u.own? l).getD ((u.ofShape? l).getD (u.unrecognized l)) := by
  cases u <;> cases l <;> rfl

@[simp] theorem ofLoose_toLoose (u : UnionSlot) (x : u.Value) : u.ofLoose (u.toLoose x) = x := by
  rw [ofLoose_eq, own?_eq_some_iff.mpr rfl, Option.getD_some]

theorem own?_toLoose_of_ne (hne : w ≠ u) (x : u.Value) : w.own? (u.toLoose x) = none := by
  cases u <;> cases w <;> first | rfl | exact absurd rfl hne

/-- A value of another slot is not recognized. -/
theorem ofLoose_toLoose_of_ne (hne : w ≠ u) (x : u.Value) :
    w.ofLoose (u.toLoose x) = w.unrecognized (u.toLoose x) := by
  rw [ofLoose_eq, own?_toLoose_of_ne hne, Option.getD_none, ofShape?_toLoose, Option.getD_none]

theorem unrecognized_injective (u : UnionSlot) {l given : Loose}
    (h : u.unrecognized l = u.unrecognized given) : l = given := by
  cases u <;> cases h <;> rfl

/-- A classification that says unrecognized keeps the value itself, or was made before. -/
theorem eq_of_ofLoose_eq_unrecognized (h : u.ofLoose l = u.unrecognized given) :
    given = l ∨ l = u.toLoose (u.unrecognized given) := by
  rw [ofLoose_eq] at h
  cases hown : u.own? l with
  | some x =>
    rw [hown, Option.getD_some] at h
    exact .inr (h ▸ own?_eq_some_iff.mp hown)
  | none =>
    rw [hown, Option.getD_none] at h
    cases hshape : u.ofShape? l with
    | some x =>
      rw [hshape, Option.getD_some] at h
      exact absurd (h ▸ hshape) ofShape?_ne_unrecognized
    | none =>
      rw [hshape, Option.getD_none] at h
      exact .inl (u.unrecognized_injective h).symm

end UnionSlot

end StyleChain
