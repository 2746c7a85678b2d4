import StyleChain.Proofs.Handle.Renaming
import StyleChain.Proofs.Slot.Union

/-!
# Handlers are conserved

The handlers that a value, an assignment or an operation holds, listed in the order in which they
stand there. An operation holds one at most, but a value that a slot does not recognize may hold any
number, and an assignment keeps it as it was given.

A slot makes an assignment that holds the handlers of the value it was given, no more, no fewer and
in the same order (`Loose.handlers_assignment`), and the operation that an assignment stands for
holds the handlers of the assignment (`Assignment.handlers_of_op?`). Renaming renames exactly the
handlers listed (`Loose.handlers_rename`).

Whether the slot recognizes the value divides the proof. If it does, the value is one of the shapes
of `Slot.Accepts`, and the operation is at hand to compare it with. If it does not, the value itself
is what the assignment holds.
-/

namespace StyleChain

/-! ### Handlers of data -/

/-- A handler of any type. -/
inductive Handler where
  /-- What answers clicks. -/
  | click (h : ClickHandler)
  /-- What answers key events. -/
  | key (h : KeyHandler)
  /-- What answers pointer events. -/
  | pointer (h : PointerHandler)
deriving DecidableEq

/-- The renamed handler, which is of the same type. -/
def Handler.rename (ρ : Renaming) : Handler → Handler
  | click h => click (ρ.click h)
  | key h => key (ρ.key h)
  | pointer h => pointer (ρ.pointer h)

/-- The handlers that an operation holds. -/
def Op.handlers : Op → List Handler
  | .clickable h => [.click h]
  | .keyEvent h => [.key h]
  | .pointerInput _ _ h => [.pointer h]
  | _ => []

/-- The handlers that a value of a base type holds. -/
def BaseType.handlers : (t : BaseType) → t.Carrier → List Handler
  | .clickHandler, h => [.click h]
  | .keyHandler, h => [.key h]
  | .pointerHandler, h => [.pointer h]
  | .op, a => a.handlers
  | _, _ => []

namespace Loose

mutual

/-- The handlers that a value holds, first the one that stands first. -/
def handlers : Loose → List Handler
  | .base t v => BaseType.handlers t v
  | .padding v => paddingHandlers v
  | .background v => backgroundHandlers v
  | .border v => borderHandlers v
  | .wrapContent v => wrapContentHandlers v
  | .size v => sizeHandlers v
  | .focusable v => focusableHandlers v
  | .pointerInput v => pointerInputHandlers v
  | .tuple vs => allHandlers vs
  | .wrapped v => handlers v

/-- No shape of padding holds a handler. -/
def paddingHandlers : SlotValue.Padding Loose → List Handler
  | .unrecognized v => handlers v
  | _ => []

/-- No shape of background holds a handler. -/
def backgroundHandlers : SlotValue.Background Loose → List Handler
  | .unrecognized v => handlers v
  | _ => []

/-- No shape of border holds a handler. -/
def borderHandlers : SlotValue.Border Loose → List Handler
  | .unrecognized v => handlers v
  | _ => []

/-- No way to have one's own size holds a handler. -/
def wrapContentHandlers : SlotValue.WrapContent Loose → List Handler
  | .unrecognized v => handlers v
  | _ => []

/-- No shape of size holds a handler. -/
def sizeHandlers : SlotValue.Size Loose → List Handler
  | .unrecognized v => handlers v
  | _ => []

/-- No way to have the focus holds a handler. -/
def focusableHandlers : SlotValue.Focusable Loose → List Handler
  | .unrecognized v => handlers v
  | _ => []

/-- Both shapes of pointer input hold a handler. -/
def pointerInputHandlers : SlotValue.PointerInput Loose → List Handler
  | .handler _ h => [.pointer h]
  | .passHandler _ _ h => [.pointer h]
  | .unrecognized v => handlers v

/-- The handlers that several values hold, one value after the other. -/
def allHandlers : List Loose → List Handler
  | [] => []
  | v :: vs => handlers v ++ allHandlers vs

end

end Loose

/-- The handlers that an assignment holds. -/
def Assignment.handlers : Assignment → List Handler
  | .padding v => Loose.paddingHandlers v
  | .background v => Loose.backgroundHandlers v
  | .border v => Loose.borderHandlers v
  | .wrapContentSize v => Loose.wrapContentHandlers v
  | .size v => Loose.sizeHandlers v
  | .focusable v => Loose.focusableHandlers v
  | .onClick h => [.click h]
  | .onKeyEvent h => [.key h]
  | .onPointerEvent v => Loose.pointerInputHandlers v
  | .unusable _ v => v.handlers
  | _ => []

/-! ### Renamed handlers -/

theorem Op.handlers_rename (ρ : Renaming) (a : Op) :
    (a.rename ρ).handlers = a.handlers.map (Handler.rename ρ) := by
  cases a <;> rfl

namespace Loose

variable (ρ : Renaming)

mutual

/-- Renaming a value renames the handlers that it holds, each in its place. -/
theorem handlers_rename :
    ∀ v : Loose, (v.rename ρ).handlers = v.handlers.map (Handler.rename ρ)
  | .base t x => by
    cases t with
    | op => exact Op.handlers_rename ρ x
    | _ => rfl
  | .padding (.unrecognized v) | .background (.unrecognized v) | .border (.unrecognized v)
  | .wrapContent (.unrecognized v) | .size (.unrecognized v) | .focusable (.unrecognized v)
  | .pointerInput (.unrecognized v) | .wrapped v => handlers_rename v
  | .tuple vs => allHandlers_renameAll vs
  -- a shape that a slot knows holds no value to go on with
  | .padding (.edges _) | .padding (.all _) | .padding (.symmetric _ _)
  | .padding (.each _ _ _ _) | .background (.color _) | .background (.shaped _ _)
  | .border (.stroke _) | .border (.widthColor _ _) | .border (.strokeShape _ _)
  | .border (.widthBrushShape _ _ _) | .wrapContent (.align _) | .wrapContent (.unbounded _)
  | .wrapContent (.alignUnbounded _ _) | .size (.square _) | .size (.widthHeight _ _)
  | .size (.extent _) | .focusable (.enabled _) | .focusable (.source _)
  | .focusable (.enabledSource _ _) | .pointerInput (.handler _ _)
  | .pointerInput (.passHandler _ _ _) => rfl

theorem allHandlers_renameAll :
    ∀ vs : List Loose, allHandlers (renameAll ρ vs) = (allHandlers vs).map (Handler.rename ρ)
  | [] => rfl
  | v :: vs => by
    rw [renameAll, allHandlers, allHandlers, List.map_append, handlers_rename,
      allHandlers_renameAll]

end

/-- What is around a value holds no handlers of its own. -/
theorem handlers_unwrap : ∀ v : Loose, v.unwrap.handlers = v.handlers
  | .base _ _ | .padding _ | .background _ | .border _ | .wrapContent _ | .size _ | .focusable _
  | .pointerInput _ | .tuple _ => rfl
  | .wrapped v => handlers_unwrap v

end Loose

/-! ### Handlers of assignments -/

/-- The operation that an assignment stands for holds its handlers. -/
theorem Assignment.handlers_of_op? {a : Assignment} {op : Op} (h : a.op? = some op) :
    op.handlers = a.handlers := by
  cases a with
  | padding v | background v | border v | wrapContentSize v | size v | focusable v
  | onPointerEvent v => cases v <;> cases h <;> rfl
  | _ => cases h <;> rfl

theorem Loose.Denotes.handlers_eq_nil {v : Loose} {t : Scalar} {d : Dp} (h : v.Denotes t d) :
    v.handlers = [] := by
  cases h <;> rfl

/-- A value that a slot accepts holds the handlers of the operation that it becomes. -/
theorem Slot.Accepts.handlers_eq {slot : Slot} {v : Loose} {op : Op} (h : slot.Accepts v op) :
    v.handlers = op.handlers := by
  cases h with
  | paddingAll h | sizeSquare h | width h | height h => exact h.handlers_eq_nil
  | paddingSymmetric hv hw | sizeWidthHeight hv hw => cases hv <;> cases hw <;> rfl
  | paddingEach h₁ h₂ h₃ h₄ => cases h₁ <;> cases h₂ <;> cases h₃ <;> cases h₄ <;> rfl
  | borderWidthColor h c | borderWidthColorShape h c s | borderWidthBrushShape h b s =>
    cases h <;> rfl
  | fillMaxWidth h | fillMaxHeight h | fillMaxSize h => cases h <;> rfl
  | @padding v op h | @background v op h | @border v op h | @wrapContent v op h | @size v op h
  | @focusable v op h | @pointerInput v op h => cases v <;> cases h <;> rfl
  | _ => rfl

namespace UnionSlot

theorem handlers_toLoose (u : UnionSlot) (x : u.Value) :
    (u.toLoose x).handlers = (u.assignment x).handlers := by
  cases u <;> rfl

theorem handlers_unrecognized (u : UnionSlot) (v : Loose) :
    (u.toLoose (u.unrecognized v)).handlers = v.handlers := by
  cases u <;> rfl

/-- A value that stands for no operation keeps the handlers of the value that it was made from. -/
theorem handlers_ofLoose {u : UnionSlot} {v : Loose} (h : u.resolve (u.ofLoose v) = none) :
    (u.toLoose (u.ofLoose v)).handlers = v.handlers := by
  obtain ⟨given, hgiven⟩ := exists_unrecognized_of_resolve_eq_none h
  rw [hgiven, handlers_unrecognized]
  -- the value is the one not recognized here, or was unrecognized when it came
  obtain rfl | rfl := eq_of_ofLoose_eq_unrecognized hgiven
  · rfl
  · exact (u.handlers_unrecognized given).symm

end UnionSlot

namespace Loose

/-- A value that could not be read is kept. -/
private theorem handlers_getD_map {α : Type} {read : Option α} {f : α → Assignment} {slot : Slot}
    {v : Loose} (hf : ∀ x, (f x).op? ≠ none)
    (h : ((read.map f).getD (.unusable slot v)).op? = none) :
    ((read.map f).getD (.unusable slot v)).handlers = v.handlers := by
  cases read with
  | none => rfl
  | some x => exact absurd h (hf x)

/-- A value that a slot does not recognize is kept with all its handlers. -/
private theorem handlers_assignment_of_op?_eq_none {v : Loose} {slot : Slot}
    (h : (v.assignment slot).op? = none) : (v.assignment slot).handlers = v.handlers := by
  induction slot using UnionSlot.slot_cases with
  | union u =>
    rw [u.assignment_ofLoose, u.op?_assignment] at h
    rw [u.assignment_ofLoose, ← u.handlers_toLoose, UnionSlot.handlers_ofLoose h]
  | width | height | fillMaxWidth | fillMaxHeight | fillMaxSize | onClick | onKeyEvent =>
    exact handlers_getD_map (fun _ => Option.some_ne_none _) h

/-- The assignment that a slot makes of a value holds the handlers of the value. -/
theorem handlers_assignment (v : Loose) (slot : Slot) :
    (v.assignment slot).handlers = v.handlers := by
  cases hop : (v.assignment slot).op? with
  | none => exact handlers_assignment_of_op?_eq_none hop
  | some op =>
    rw [← Assignment.handlers_of_op? hop, (Slot.accepts_of_op?_assignment hop).handlers_eq]

end Loose

/-- The operations that assignments stand for hold the handlers of the assignments that stand for
one, in the same places. -/
theorem Assignment.map_handlers_filterMap_op? (as : List Assignment) :
    (as.filterMap op?).map Op.handlers = (as.filter isRecognized).map handlers := by
  induction as with
  | nil => rfl
  | cons a as ih =>
    rw [List.filterMap_cons, List.filter_cons, ← isSome_op?]
    cases hop : a.op? with
    | none => simpa using ih
    | some op => simp [ih, handlers_of_op? hop]

end StyleChain
