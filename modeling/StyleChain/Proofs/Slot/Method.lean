import StyleChain.Proofs.Builder.History
import StyleChain.Proofs.Slot.Union

/-!
# What the methods of slots take

A slot's own method takes values of a few types, and the type of the value says which shape is
meant. `Slot.Method` lists the calls that there are: for each slot the types that its method takes,
each with the call that results, and the method that takes nothing where a slot has one.
`Loose.typed?` looks for the same calls by taking a value apart, and finds exactly these
(`Slot.method_iff_typed?`).

Given loosely, such a value is one of any type, and the slot finds out the shape by itself, trying
one after the other. `Slot.Method.set_give_eq` says that this has the same effect: no earlier trial
catches the value, and the trial of its own type converts it as the method does.
-/

namespace StyleChain

/-- One of the slot's own methods can be called with the value, and `method` is that call. A call
without a value stands for the empty tuple. -/
inductive Slot.Method : (slot : Slot) → Loose → (Scope slot.group → Scope slot.group) → Prop
  | paddingEdges (e : Edges) : Method .padding (.base .edges e) fun s => s.padding e
  | paddingAll (d : Dp) : Method .padding (.base .dp d) fun s => s.padding d
  | paddingSymmetric (h v : Dp) :
      Method .padding (.tuple [.base .dp h, .base .dp v]) fun s => s.padding (h, v)
  | paddingEach (l t r b : Dp) :
      Method .padding (.tuple [.base .dp l, .base .dp t, .base .dp r, .base .dp b])
        fun s => s.padding (l, t, r, b)
  | padding (x : SlotValue.Padding Loose) : Method .padding (.padding x) fun s => s.padding x
  | backgroundColor (c : Color) : Method .background (.base .color c) fun s => s.background c
  | backgroundShaped (c : Color) (shape : Shape) :
      Method .background (.tuple [.base .color c, .base .shape shape])
        fun s => s.background (c, shape)
  | background (x : SlotValue.Background Loose) :
      Method .background (.background x) fun s => s.background x
  | borderStroke (stroke : Stroke) : Method .border (.base .stroke stroke) fun s => s.border stroke
  | borderWidthColor (w : Dp) (c : Color) :
      Method .border (.tuple [.base .dp w, .base .color c]) fun s => s.border (w, c)
  | borderStrokeShape (stroke : Stroke) (shape : Shape) :
      Method .border (.tuple [.base .stroke stroke, .base .shape shape])
        fun s => s.border (stroke, shape)
  | borderWidthColorShape (w : Dp) (c : Color) (shape : Shape) :
      Method .border (.tuple [.base .dp w, .base .color c, .base .shape shape])
        fun s => s.border (w, c, shape)
  | borderWidthBrushShape (w : Dp) (b : Brush) (shape : Shape) :
      Method .border (.tuple [.base .dp w, .base .brush b, .base .shape shape])
        fun s => s.border (w, b, shape)
  | border (x : SlotValue.Border Loose) : Method .border (.border x) fun s => s.border x
  | width (d : Dp) : Method .width (.base .dp d) fun s => s.width d
  | height (d : Dp) : Method .height (.base .dp d) fun s => s.height d
  | fillMaxWidth (x : Binary32) :
      Method .fillMaxWidth (.base .float32 x) fun s => s.fillMaxWidth x
  | fillWholeWidth : Method .fillMaxWidth (.tuple []) fun s => s.fillWholeWidth
  | fillMaxHeight (x : Binary32) :
      Method .fillMaxHeight (.base .float32 x) fun s => s.fillMaxHeight x
  | fillWholeHeight : Method .fillMaxHeight (.tuple []) fun s => s.fillWholeHeight
  | fillMaxSize (x : Binary32) : Method .fillMaxSize (.base .float32 x) fun s => s.fillMaxSize x
  | fillWholeSize : Method .fillMaxSize (.tuple []) fun s => s.fillWholeSize
  | wrapContentAlign (a : Alignment) :
      Method .wrapContentSize (.base .alignment a) fun s => s.wrapContentSize a
  | wrapContentUnbounded (b : Bool) :
      Method .wrapContentSize (.base .bool b) fun s => s.wrapContentSize b
  | wrapContentAlignUnbounded (a : Alignment) (b : Bool) :
      Method .wrapContentSize (.tuple [.base .alignment a, .base .bool b])
        fun s => s.wrapContentSize (a, b)
  | wrapContent (x : SlotValue.WrapContent Loose) :
      Method .wrapContentSize (.wrapContent x) fun s => s.wrapContentSize x
  | sizeSquare (d : Dp) : Method .size (.base .dp d) fun s => s.size d
  | sizeWidthHeight (w h : Dp) :
      Method .size (.tuple [.base .dp w, .base .dp h]) fun s => s.size (w, h)
  | sizeExtent (e : Extent) : Method .size (.base .extent e) fun s => s.size e
  | size (x : SlotValue.Size Loose) : Method .size (.size x) fun s => s.size x
  | focusableEnabled (b : Bool) : Method .focusable (.base .bool b) fun s => s.focusable b
  | focusableSource (source : InteractionSource) :
      Method .focusable (.base .source source) fun s => s.focusable source
  | focusableEnabledSource (b : Bool) (source : InteractionSource) :
      Method .focusable (.tuple [.base .bool b, .base .source source])
        fun s => s.focusable (b, source)
  | focusable (x : SlotValue.Focusable Loose) :
      Method .focusable (.focusable x) fun s => s.focusable x
  | onClick (h : ClickHandler) : Method .onClick (.base .clickHandler h) fun s => s.onClick h
  | onKeyEvent (h : KeyHandler) : Method .onKeyEvent (.base .keyHandler h) fun s => s.onKeyEvent h
  | pointerHandler (type : PointerEventType) (h : PointerHandler) :
      Method .onPointerEvent (.tuple [.base .eventType type, .base .pointerHandler h])
        fun s => s.onPointerEvent (type, h)
  | pointerPassHandler (type : PointerEventType) (pass : PointerEventPass) (h : PointerHandler) :
      Method .onPointerEvent
        (.tuple [.base .eventType type, .base .eventPass pass, .base .pointerHandler h])
        fun s => s.onPointerEvent (type, pass, h)
  | pointerInput (x : SlotValue.PointerInput Loose) :
      Method .onPointerEvent (.pointerInput x) fun s => s.onPointerEvent x

/-! ### The calls that are found -/

/-- A slot with several shapes converts values only where its method takes them. -/
private theorem UnionSlot.method_of_ofTyped? {u : UnionSlot} {l : Loose} {x : u.Value}
    (h : u.ofTyped? l = some x) (own : (u.assignment x).slot.group = u.slot.group) :
    u.slot.Method l fun s => s.assign (u.assignment x) own := by
  cases u with
  | padding =>
    simp only [ofTyped?, SlotValue.Padding.ofTyped?] at h
    split at h <;> cases h
    · exact .padding _
    · exact .paddingEdges _
    · exact .paddingAll _
    · exact .paddingSymmetric _ _
    · exact .paddingEach _ _ _ _
  | background =>
    simp only [ofTyped?, SlotValue.Background.ofTyped?] at h
    split at h <;> cases h
    · exact .background _
    · exact .backgroundColor _
    · exact .backgroundShaped _ _
  | border =>
    simp only [ofTyped?, SlotValue.Border.ofTyped?] at h
    split at h <;> cases h
    · exact .border _
    · exact .borderStroke _
    · exact .borderWidthColor _ _
    · exact .borderStrokeShape _ _
    · exact .borderWidthColorShape _ _ _
    · exact .borderWidthBrushShape _ _ _
  | wrapContentSize =>
    simp only [ofTyped?, SlotValue.WrapContent.ofTyped?] at h
    split at h <;> cases h
    · exact .wrapContent _
    · exact .wrapContentAlign _
    · exact .wrapContentUnbounded _
    · exact .wrapContentAlignUnbounded _ _
  | size =>
    simp only [ofTyped?, SlotValue.Size.ofTyped?] at h
    split at h <;> cases h
    · exact .size _
    · exact .sizeExtent _
    · exact .sizeSquare _
    · exact .sizeWidthHeight _ _
  | focusable =>
    simp only [ofTyped?, SlotValue.Focusable.ofTyped?] at h
    split at h <;> cases h
    · exact .focusable _
    · exact .focusableEnabled _
    · exact .focusableSource _
    · exact .focusableEnabledSource _ _
  | onPointerEvent =>
    simp only [ofTyped?, SlotValue.PointerInput.ofTyped?] at h
    split at h <;> cases h
    · exact .pointerInput _
    · exact .pointerHandler _ _
    · exact .pointerPassHandler _ _ _

namespace Slot

variable {slot : Slot} {v : Loose} {a : Assignment} {method : Scope slot.group → Scope slot.group}

/-- What is found for a value is a call of the slot's method with it. -/
theorem method_of_typed? (typed : v.typed? slot = some a) (own : a.slot.group = slot.group) :
    slot.Method v fun s => s.assign a own := by
  induction slot using UnionSlot.slot_cases with
  | union u =>
    rw [u.typed?_slot] at typed
    obtain ⟨x, hx, rfl⟩ := Option.map_eq_some_iff.mp typed
    exact UnionSlot.method_of_ofTyped? hx own
  | width =>
    obtain ⟨d, hd, rfl⟩ := Option.map_eq_some_iff.mp typed
    obtain rfl := Loose.read?_eq_some_iff.mp hd
    exact .width d
  | height =>
    obtain ⟨d, hd, rfl⟩ := Option.map_eq_some_iff.mp typed
    obtain rfl := Loose.read?_eq_some_iff.mp hd
    exact .height d
  | fillMaxWidth =>
    obtain ⟨x, hx, rfl⟩ := Option.map_eq_some_iff.mp typed
    unfold Loose.typedFraction? at hx
    split at hx <;> cases hx
    · exact .fillWholeWidth
    · exact .fillMaxWidth x
  | fillMaxHeight =>
    obtain ⟨x, hx, rfl⟩ := Option.map_eq_some_iff.mp typed
    unfold Loose.typedFraction? at hx
    split at hx <;> cases hx
    · exact .fillWholeHeight
    · exact .fillMaxHeight x
  | fillMaxSize =>
    obtain ⟨x, hx, rfl⟩ := Option.map_eq_some_iff.mp typed
    unfold Loose.typedFraction? at hx
    split at hx <;> cases hx
    · exact .fillWholeSize
    · exact .fillMaxSize x
  | onClick =>
    obtain ⟨h, hh, rfl⟩ := Option.map_eq_some_iff.mp typed
    obtain rfl := Loose.read?_eq_some_iff.mp hh
    exact .onClick h
  | onKeyEvent =>
    obtain ⟨h, hh, rfl⟩ := Option.map_eq_some_iff.mp typed
    obtain rfl := Loose.read?_eq_some_iff.mp hh
    exact .onKeyEvent h

/-- A call of the slot's method with a value is found, and is one assignment. -/
theorem Method.exists_typed? (h : slot.Method v method) :
    ∃ (a : Assignment) (own : a.slot.group = slot.group),
      v.typed? slot = some a ∧ method = fun s => s.assign a own := by
  cases h <;> exact ⟨_, rfl, rfl, rfl⟩

/-- The calls that there are, are those that are found. -/
theorem method_iff_typed? :
    slot.Method v method ↔
      ∃ (a : Assignment) (own : a.slot.group = slot.group),
        v.typed? slot = some a ∧ method = fun s => s.assign a own :=
  ⟨Method.exists_typed?, fun ⟨_, own, typed, heq⟩ => heq ▸ method_of_typed? typed own⟩

/-! ### The same values given loosely -/

/-- A value that a method takes has nothing around it. -/
theorem Method.give_eq (h : slot.Method v method) : v.give = v := by
  cases h <;> rfl

/-- Given loosely, a value has the effect that it has in a call of the slot's method: each trial
before that of its own type fails. -/
theorem Method.set_give_eq (h : slot.Method v method) (s : Scope slot.group) :
    s.set slot v.give = method s := by
  cases h <;> rfl

end Slot

/-- Given loosely, a value that a method takes is assigned as by the method. -/
theorem Loose.assignment_of_typed? {v : Loose} {slot : Slot} {a : Assignment}
    (typed : v.typed? slot = some a) : v.assignment slot = a := by
  have own : a.slot.group = slot.group := congrArg Slot.group (slot_of_typed? typed)
  have hmethod := Slot.method_of_typed? typed own
  have hset := hmethod.set_give_eq .empty
  rw [hmethod.give_eq, Scope.set_of_group_eq _ rfl] at hset
  -- both assignments are what the slot has recorded
  have hvalues := congrArg (fun s => s.values slot) hset
  simpa [Scope.values_assign, slot_of_typed? typed] using hvalues

/-- The value says of another that a slot did not recognize it. -/
def Loose.IsUnrecognized (v : Loose) : Prop :=
  ∃ (u : UnionSlot) (given : Loose), v = u.toLoose (u.unrecognized given)

theorem Loose.not_isUnrecognized_tuple (vs : List Loose) : ¬ (tuple vs).IsUnrecognized := by
  rintro ⟨u, given, h⟩
  cases u <;> cases h

/-- A slot's own value stands for an operation, unless it says that something was not
recognized. -/
theorem UnionSlot.isSome_resolve {u : UnionSlot} {x : u.Value}
    (h : ¬ (u.toLoose x).IsUnrecognized) : (u.resolve x).isSome := by
  cases hop : u.resolve x with
  | some op => rfl
  | none =>
    obtain ⟨given, rfl⟩ := exists_unrecognized_of_resolve_eq_none hop
    exact absurd ⟨u, given, rfl⟩ h

/-- A call of a slot's method contributes, unless its value says that something was not
recognized. -/
theorem Slot.Method.isSome_op? {slot : Slot} {v : Loose}
    {method : Scope slot.group → Scope slot.group} (h : slot.Method v method)
    (recognized : ¬ v.IsUnrecognized) : (v.assignment slot).op?.isSome := by
  cases h with
  | padding x => exact UnionSlot.isSome_resolve (u := .padding) recognized
  | background x => exact UnionSlot.isSome_resolve (u := .background) recognized
  | border x => exact UnionSlot.isSome_resolve (u := .border) recognized
  | wrapContent x => exact UnionSlot.isSome_resolve (u := .wrapContentSize) recognized
  | size x => exact UnionSlot.isSome_resolve (u := .size) recognized
  | focusable x => exact UnionSlot.isSome_resolve (u := .focusable) recognized
  | pointerInput x => exact UnionSlot.isSome_resolve (u := .onPointerEvent) recognized
  | _ => rfl

end StyleChain
