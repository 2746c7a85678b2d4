import StyleChain.Proofs.Slot.Accepts
import StyleChain.Proofs.Slot.Method
import StyleChain.Proofs.Slot.Union

/-!
# Renaming of handlers

A renaming replaces handlers by handlers of the same type, wherever they are: in an operation, in a
value given loosely, however deep it is nested, and in an assignment. Slots read what they are given
without looking at handlers, so reading a renamed value is renaming what was read.

There is one lemma for each reader (`Loose.read?_rename` and those after it). A slot that takes
several shapes tries its readers one after the other, and a renamed value passes the same trial as
the value itself, so each slot follows from its readers at once (`UnionSlot.ofShape?_rename`).
`Loose.assignment_rename` puts the slots together for values of any type, `Loose.typed?_rename` for
values of a known type.
-/

namespace StyleChain

/-- A replacement of handlers by handlers of the same type. -/
structure Renaming where
  /-- What answers clicks in place of a handler. -/
  click : ClickHandler → ClickHandler
  /-- What answers key events in place of a handler. -/
  key : KeyHandler → KeyHandler
  /-- What answers pointer events in place of a handler. -/
  pointer : PointerHandler → PointerHandler

variable (ρ : Renaming)

/-! ### Renamed data -/

/-- The operation with its handler renamed, if it has one. -/
def Op.rename : Op → Op
  | .clickable h => .clickable (ρ.click h)
  | .keyEvent h => .keyEvent (ρ.key h)
  | .pointerInput t s h => .pointerInput t s (ρ.pointer h)
  | a => a

/-- Renames what a value of a base type holds. -/
def BaseType.rename : (t : BaseType) → t.Carrier → t.Carrier
  | .clickHandler, h => ρ.click h
  | .keyHandler, h => ρ.key h
  | .pointerHandler, h => ρ.pointer h
  | .op, a => a.rename ρ
  | _, v => v

namespace Loose

mutual

/-- The value with all handlers renamed that it holds. -/
def rename : Loose → Loose
  | .base t v => .base t (BaseType.rename ρ t v)
  | .padding v => .padding (renamePadding v)
  | .background v => .background (renameBackground v)
  | .border v => .border (renameBorder v)
  | .wrapContent v => .wrapContent (renameWrapContent v)
  | .size v => .size (renameSize v)
  | .focusable v => .focusable (renameFocusable v)
  | .pointerInput v => .pointerInput (renamePointerInput v)
  | .tuple vs => .tuple (renameAll vs)
  | .wrapped v => .wrapped (rename v)

/-- No shape of padding holds a handler. -/
def renamePadding : SlotValue.Padding Loose → SlotValue.Padding Loose
  | .unrecognized v => .unrecognized (rename v)
  | v => v

/-- No shape of background holds a handler. -/
def renameBackground : SlotValue.Background Loose → SlotValue.Background Loose
  | .unrecognized v => .unrecognized (rename v)
  | v => v

/-- No shape of border holds a handler. -/
def renameBorder : SlotValue.Border Loose → SlotValue.Border Loose
  | .unrecognized v => .unrecognized (rename v)
  | v => v

/-- No way to have one's own size holds a handler. -/
def renameWrapContent : SlotValue.WrapContent Loose → SlotValue.WrapContent Loose
  | .unrecognized v => .unrecognized (rename v)
  | v => v

/-- No shape of size holds a handler. -/
def renameSize : SlotValue.Size Loose → SlotValue.Size Loose
  | .unrecognized v => .unrecognized (rename v)
  | v => v

/-- No way to have the focus holds a handler. -/
def renameFocusable : SlotValue.Focusable Loose → SlotValue.Focusable Loose
  | .unrecognized v => .unrecognized (rename v)
  | v => v

/-- Both shapes of pointer input hold a handler. -/
def renamePointerInput : SlotValue.PointerInput Loose → SlotValue.PointerInput Loose
  | .handler t h => .handler t (ρ.pointer h)
  | .passHandler t s h => .passHandler t s (ρ.pointer h)
  | .unrecognized v => .unrecognized (rename v)

/-- Several values with all handlers renamed. -/
def renameAll : List Loose → List Loose
  | [] => []
  | v :: vs => rename v :: renameAll vs

end

end Loose

/-- The assignment with all handlers renamed that it holds. -/
def Assignment.rename : Assignment → Assignment
  | .padding v => .padding (Loose.renamePadding ρ v)
  | .background v => .background (Loose.renameBackground ρ v)
  | .border v => .border (Loose.renameBorder ρ v)
  | .wrapContentSize v => .wrapContentSize (Loose.renameWrapContent ρ v)
  | .size v => .size (Loose.renameSize ρ v)
  | .focusable v => .focusable (Loose.renameFocusable ρ v)
  | .onClick h => .onClick (ρ.click h)
  | .onKeyEvent h => .onKeyEvent (ρ.key h)
  | .onPointerEvent v => .onPointerEvent (Loose.renamePointerInput ρ v)
  | .unusable slot v => .unusable slot (v.rename ρ)
  | a => a

/-! ### Operations and assignments -/

@[simp] theorem Op.kind_rename (a : Op) : (a.rename ρ).kind = a.kind := by
  cases a <;> rfl

@[simp] theorem Assignment.slot_rename (a : Assignment) : (a.rename ρ).slot = a.slot := by
  cases a <;> rfl

/-- A renamed assignment stands for the renamed operation. -/
@[simp] theorem Assignment.op?_rename (a : Assignment) :
    (a.rename ρ).op? = a.op?.map (Op.rename ρ) := by
  cases a with
  | padding v | background v | border v | wrapContentSize v | size v | focusable v
  | onPointerEvent v => cases v <;> rfl
  | _ => rfl

namespace Loose

/-! ### Reading renamed values -/

mutual

/-- Renaming keeps the type. -/
theorem type_rename : ∀ v : Loose, (v.rename ρ).type = v.type
  | .base _ _ | .padding _ | .background _ | .border _ | .wrapContent _ | .size _ | .focusable _
  | .pointerInput _ | .wrapped _ => rfl
  | .tuple vs => congrArg LooseType.tuple (types_renameAll vs)

theorem types_renameAll : ∀ vs : List Loose, types (renameAll ρ vs) = types vs
  | [] => rfl
  | v :: vs => by rw [renameAll, types, types, type_rename, types_renameAll]

end

/-- What is around a value does not matter to renaming. -/
theorem unwrap_rename : ∀ v : Loose, (v.rename ρ).unwrap = v.unwrap.rename ρ
  | .base _ _ | .padding _ | .background _ | .border _ | .wrapContent _ | .size _ | .focusable _
  | .pointerInput _ | .tuple _ => rfl
  | .wrapped v => unwrap_rename v

theorem read?_rename (t : BaseType) (v : Loose) :
    (v.rename ρ).read? t = (v.read? t).map (t.rename ρ) := by
  cases v with
  | base s x =>
    by_cases h : s = t
    · subst h
      rw [rename, read?_base_self, read?_base_self, Option.map_some]
    · rw [rename, read?, read?, dif_neg h, dif_neg h, Option.map_none]
  | _ => rfl

/-- No handler denotes a distance. -/
theorem distance?_rename (v : Loose) : (v.rename ρ).distance? = v.distance? := by
  cases v with
  | base t x => cases t <;> rfl
  | _ => rfl

theorem fraction?_rename (v : Loose) : (v.rename ρ).fraction? = v.fraction? := by
  cases v with
  | base t x => cases t <;> rfl
  | tuple vs => cases vs <;> rfl
  | _ => rfl

theorem readPair?_rename (s t : BaseType) (v : Loose) :
    (v.rename ρ).readPair? s t = (v.readPair? s t).map (Prod.map (s.rename ρ) (t.rename ρ)) := by
  cases v with
  | tuple vs =>
    -- a tuple of another length is not read at all
    match vs with
    | [a, b] =>
      simp only [rename, renameAll, readPair?, read?_rename]
      cases a.read? s <;> cases b.read? t <;> rfl
    | [] | [_] | _ :: _ :: _ :: _ => rfl
  | _ => rfl

theorem readTriple?_rename (s t u : BaseType) (v : Loose) :
    (v.rename ρ).readTriple? s t u =
      (v.readTriple? s t u).map
        (Prod.map (s.rename ρ) (Prod.map (t.rename ρ) (u.rename ρ))) := by
  cases v with
  | tuple vs =>
    match vs with
    | [a, b, c] =>
      simp only [rename, renameAll, readTriple?, read?_rename]
      cases a.read? s <;> cases b.read? t <;> cases c.read? u <;> rfl
    | [] | [_] | [_, _] | _ :: _ :: _ :: _ :: _ => rfl
  | _ => rfl

theorem distancePair?_rename (v : Loose) : (v.rename ρ).distancePair? = v.distancePair? := by
  cases v with
  | tuple vs =>
    match vs with
    | [a, b] => simp only [rename, renameAll, distancePair?, type_rename, distance?_rename]
    | [] | [_] | _ :: _ :: _ :: _ => rfl
  | _ => rfl

theorem distanceQuad?_rename (v : Loose) : (v.rename ρ).distanceQuad? = v.distanceQuad? := by
  cases v with
  | tuple vs =>
    match vs with
    | [a, b, c, d] => simp only [rename, renameAll, distanceQuad?, type_rename, distance?_rename]
    | [] | [_] | [_, _] | [_, _, _] | _ :: _ :: _ :: _ :: _ :: _ => rfl
  | _ => rfl

theorem distanceAnd?_rename (t : BaseType) (v : Loose) :
    (v.rename ρ).distanceAnd? t = (v.distanceAnd? t).map (Prod.map id (t.rename ρ)) := by
  cases v with
  | tuple vs =>
    match vs with
    | [a, b] =>
      simp only [rename, renameAll, distanceAnd?, distance?_rename, read?_rename]
      cases a.distance? <;> cases b.read? t <;> rfl
    | [] | [_] | _ :: _ :: _ :: _ => rfl
  | _ => rfl

theorem distanceAndTwo?_rename (s t : BaseType) (v : Loose) :
    (v.rename ρ).distanceAndTwo? s t =
      (v.distanceAndTwo? s t).map (Prod.map id (Prod.map (s.rename ρ) (t.rename ρ))) := by
  cases v with
  | tuple vs =>
    match vs with
    | [a, b, c] =>
      simp only [rename, renameAll, distanceAndTwo?, distance?_rename, read?_rename]
      cases a.distance? <;> cases b.read? s <;> cases c.read? t <;> rfl
    | [] | [_] | [_, _] | _ :: _ :: _ :: _ :: _ => rfl
  | _ => rfl

end Loose

/-! ### What slots make of renamed values -/

/-- What is made of the first success is the first success of what is made. -/
private theorem map_orElse {α β : Type} (f : α → β) (x y : Option α) :
    (x <|> y).map f = (x.map f <|> y.map f) := by
  cases x <;> rfl

namespace UnionSlot

variable {u : UnionSlot} {l : Loose}

/-- The slot's value with all handlers renamed that it holds. -/
def rename : (u : UnionSlot) → u.Value → u.Value
  | padding => Loose.renamePadding ρ
  | background => Loose.renameBackground ρ
  | border => Loose.renameBorder ρ
  | wrapContentSize => Loose.renameWrapContent ρ
  | size => Loose.renameSize ρ
  | focusable => Loose.renameFocusable ρ
  | onPointerEvent => Loose.renamePointerInput ρ

theorem rename_assignment (u : UnionSlot) (x : u.Value) :
    (u.assignment x).rename ρ = u.assignment (u.rename ρ x) := by
  cases u <;> rfl

theorem rename_unrecognized (u : UnionSlot) (l : Loose) :
    u.rename ρ (u.unrecognized l) = u.unrecognized (l.rename ρ) := by
  cases u <;> rfl

theorem own?_rename (u : UnionSlot) (l : Loose) :
    u.own? (l.rename ρ) = (u.own? l).map (u.rename ρ) := by
  cases u <;> cases l <;> rfl

/-- A renamed value has the renamed shape. -/
theorem ofShape?_rename (u : UnionSlot) (l : Loose) :
    u.ofShape? (l.rename ρ) = (u.ofShape? l).map (u.rename ρ) := by
  -- trial by trial, what is read is put into the same constructor
  cases u with
  | padding =>
    simp only [ofShape?, SlotValue.Padding.ofShape?, Loose.read?_rename, Loose.distance?_rename,
      Loose.distancePair?_rename, Loose.distanceQuad?_rename, Option.map_eq_map, Option.map_map,
      map_orElse]
    rfl
  | background =>
    simp only [ofShape?, SlotValue.Background.ofShape?, Loose.read?_rename,
      Loose.readPair?_rename, Option.map_eq_map, Option.map_map, map_orElse]
    rfl
  | border =>
    simp only [ofShape?, SlotValue.Border.ofShape?, Loose.read?_rename, Loose.distanceAnd?_rename,
      Loose.readPair?_rename, Loose.distanceAndTwo?_rename, Option.map_eq_map, Option.map_map,
      map_orElse]
    rfl
  | wrapContentSize =>
    simp only [ofShape?, SlotValue.WrapContent.ofShape?, Loose.read?_rename,
      Loose.readPair?_rename, Option.map_eq_map, Option.map_map, map_orElse]
    rfl
  | size =>
    simp only [ofShape?, SlotValue.Size.ofShape?, Loose.read?_rename, Loose.distance?_rename,
      Loose.distancePair?_rename, Option.map_eq_map, Option.map_map, map_orElse]
    rfl
  | focusable =>
    simp only [ofShape?, SlotValue.Focusable.ofShape?, Loose.read?_rename,
      Loose.readPair?_rename, Option.map_eq_map, Option.map_map, map_orElse]
    rfl
  | onPointerEvent =>
    simp only [ofShape?, SlotValue.PointerInput.ofShape?, Loose.readPair?_rename,
      Loose.readTriple?_rename, Option.map_eq_map, Option.map_map, map_orElse]
    rfl

/-- What a slot makes of a renamed value is what it makes of the value, renamed. -/
theorem ofLoose_rename (u : UnionSlot) (l : Loose) :
    u.ofLoose (l.rename ρ) = u.rename ρ (u.ofLoose l) := by
  rw [ofLoose_eq, ofLoose_eq, own?_rename, ofShape?_rename, ← rename_unrecognized, Option.getD_map,
    Option.getD_map]

theorem ofTyped?_rename {x : u.Value} (h : u.ofTyped? l = some x) :
    u.ofTyped? (l.rename ρ) = some (u.rename ρ x) := by
  cases u with
  | padding =>
    simp only [ofTyped?, SlotValue.Padding.ofTyped?] at h
    split at h <;> cases h <;> rfl
  | background =>
    simp only [ofTyped?, SlotValue.Background.ofTyped?] at h
    split at h <;> cases h <;> rfl
  | border =>
    simp only [ofTyped?, SlotValue.Border.ofTyped?] at h
    split at h <;> cases h <;> rfl
  | wrapContentSize =>
    simp only [ofTyped?, SlotValue.WrapContent.ofTyped?] at h
    split at h <;> cases h <;> rfl
  | size =>
    simp only [ofTyped?, SlotValue.Size.ofTyped?] at h
    split at h <;> cases h <;> rfl
  | focusable =>
    simp only [ofTyped?, SlotValue.Focusable.ofTyped?] at h
    split at h <;> cases h <;> rfl
  | onPointerEvent =>
    simp only [ofTyped?, SlotValue.PointerInput.ofTyped?] at h
    split at h <;> cases h <;> rfl

end UnionSlot

namespace Loose

/-- A slot makes of a renamed value the renamed assignment. -/
theorem assignment_rename (v : Loose) (slot : Slot) :
    (v.rename ρ).assignment slot = (v.assignment slot).rename ρ := by
  induction slot using UnionSlot.slot_cases with
  | union u =>
    rw [u.assignment_ofLoose, u.assignment_ofLoose, u.ofLoose_rename, u.rename_assignment]
  | width | height =>
    rw [assignment, assignment, distance?_rename]
    cases v.distance? <;> rfl
  | fillMaxWidth | fillMaxHeight | fillMaxSize =>
    rw [assignment, assignment, fraction?_rename]
    cases v.fraction? <;> rfl
  | onClick =>
    rw [assignment, assignment, read?_rename]
    cases v.read? .clickHandler <;> rfl
  | onKeyEvent =>
    rw [assignment, assignment, read?_rename]
    cases v.read? .keyHandler <;> rfl

/-- A slot's own method makes of a renamed value the renamed assignment. -/
theorem typed?_rename {v : Loose} {slot : Slot} {a : Assignment} (h : v.typed? slot = some a) :
    (v.rename ρ).typed? slot = some (a.rename ρ) := by
  induction slot using UnionSlot.slot_cases with
  | union u =>
    rw [u.typed?_slot] at h
    obtain ⟨x, hx, rfl⟩ := Option.map_eq_some_iff.mp h
    rw [u.typed?_slot, UnionSlot.ofTyped?_rename ρ hx, Option.map_some, u.rename_assignment]
  | width | height | onClick | onKeyEvent =>
    obtain ⟨x, hx, rfl⟩ := Option.map_eq_some_iff.mp h
    obtain rfl := read?_eq_some_iff.mp hx
    rfl
  | fillMaxWidth | fillMaxHeight | fillMaxSize =>
    obtain ⟨x, hx, rfl⟩ := Option.map_eq_some_iff.mp h
    unfold typedFraction? at hx
    split at hx <;> cases hx <;> rfl

end Loose

end StyleChain
