import StyleChain.Loose.BaseType
import StyleChain.Slot.Value

/-!
# Loosely given values

A loosely given value may have any type, and what type it has is known only by looking at it.
`Loose.type` says what it is, and `Loose.read?` gives it back to whoever asks for the right base
type.

A loosely given value that is itself handed in loosely is not wrapped again: `Loose.give` takes off
what was put around it, and `Loose.unwrap` does so however often that was done, so that a value is
the same however often it was wrapped. As the element of a tuple it keeps its wrapping, because a
tuple has the types of its elements.
-/

namespace StyleChain

/-- A value of any type. The empty tuple is the value that says nothing. -/
inductive Loose where
  /-- A value of a base type. -/
  | base (t : BaseType) (v : t.Carrier)
  /-- A value of the slot for padding. -/
  | padding (v : SlotValue.Padding Loose)
  /-- A value of the slot for the background. -/
  | background (v : SlotValue.Background Loose)
  /-- A value of the slot for the border. -/
  | border (v : SlotValue.Border Loose)
  /-- A value of the slot that lets the content have its own size. -/
  | wrapContent (v : SlotValue.WrapContent Loose)
  /-- A value of the slot for width and height together. -/
  | size (v : SlotValue.Size Loose)
  /-- A value of the slot that lets the box have the focus. -/
  | focusable (v : SlotValue.Focusable Loose)
  /-- A value of the slot for pointer events. -/
  | pointerInput (v : SlotValue.PointerInput Loose)
  /-- Several values in order. -/
  | tuple (elements : List Loose)
  /-- A loosely given value that is taken as a value itself. -/
  | wrapped (inner : Loose)

instance : Inhabited Loose := ⟨.tuple []⟩

/-- The type of a loosely given value. -/
inductive LooseType where
  | base (t : BaseType)
  | padding
  | background
  | border
  | wrapContent
  | size
  | focusable
  | pointerInput
  | tuple (elements : List LooseType)
  | loose
deriving Repr

namespace LooseType

mutual

/-- Whether two types are the same. -/
def same : LooseType → LooseType → Bool
  | base s, base t => decide (s = t)
  | padding, padding => true
  | background, background => true
  | border, border => true
  | wrapContent, wrapContent => true
  | size, size => true
  | focusable, focusable => true
  | pointerInput, pointerInput => true
  | tuple ss, tuple ts => sameAll ss ts
  | loose, loose => true
  | _, _ => false

/-- Whether two lists hold the same types in the same order. -/
def sameAll : List LooseType → List LooseType → Bool
  | [], [] => true
  | s :: ss, t :: ts => same s t && sameAll ss ts
  | _, _ => false

end

mutual

theorem same_iff : ∀ {s t : LooseType}, same s t ↔ s = t := by
  intro s t
  cases s <;> cases t <;> simp [same]
  exact sameAll_iff

theorem sameAll_iff : ∀ {ss ts : List LooseType}, sameAll ss ts ↔ ss = ts
  | [], [] => by simp [sameAll]
  | [], _ :: _ => by simp [sameAll]
  | _ :: _, [] => by simp [sameAll]
  | s :: ss, t :: ts => by simp [sameAll, same_iff, sameAll_iff]

end

instance : DecidableEq LooseType := fun s t => decidable_of_iff (same s t) same_iff

mutual

/-- How a type is written in diagnostics. A tuple of one element has a comma behind it. -/
def name : LooseType → String
  | base t => t.name
  | padding => "understory_modifier_builder::slot::PaddingValue"
  | background => "understory_modifier_builder::slot::BackgroundValue"
  | border => "understory_modifier_builder::slot::BorderValue"
  | wrapContent => "understory_modifier_builder::slot::WrapContentValue"
  | size => "understory_modifier_builder::slot::SizeValue"
  | focusable => "understory_modifier_builder::slot::FocusableValue"
  | pointerInput => "understory_modifier_builder::slot::PointerInputValue"
  | tuple [t] => "(" ++ name t ++ ",)"
  | tuple ts => Text.tuple "" (names ts)
  | loose => "understory_modifier_builder::raw::RawValue"

/-- How each of several types is written. -/
def names : List LooseType → List String
  | [] => []
  | t :: ts => name t :: names ts

end

end LooseType

namespace Loose

mutual

/-- The type of a value. -/
def type : Loose → LooseType
  | base t _ => .base t
  | padding _ => .padding
  | background _ => .background
  | border _ => .border
  | wrapContent _ => .wrapContent
  | size _ => .size
  | focusable _ => .focusable
  | pointerInput _ => .pointerInput
  | tuple elements => .tuple (types elements)
  | wrapped _ => .loose

/-- The types of several values. -/
def types : List Loose → List LooseType
  | [] => []
  | v :: vs => type v :: types vs

end

/-- What is held when a value is given loosely: what it holds, if it was given loosely before, and
else the value itself. Only one wrapping is looked for. -/
def give : Loose → Loose
  | wrapped held => held
  | v => v

/-- The value inside, with every wrapping taken off. -/
def unwrap : Loose → Loose
  | wrapped inner => inner.unwrap
  | v => v

/-- Whether a value is a loosely given value taken as a value itself. -/
def isWrapped : Loose → Bool
  | wrapped _ => true
  | _ => false

@[simp] theorem give_wrapped (v : Loose) : (wrapped v).give = v := rfl

theorem give_of_not_isWrapped {v : Loose} (h : v.isWrapped = false) : v.give = v := by
  cases v <;> first | rfl | simp [isWrapped] at h

theorem unwrap_of_not_isWrapped {v : Loose} (h : v.isWrapped = false) : v.unwrap = v := by
  cases v <;> first | rfl | simp [isWrapped] at h

/-- The value, if it is of the base type `t`. -/
def read? (t : BaseType) : Loose → Option t.Carrier
  | base s v => if h : s = t then some (h ▸ v) else none
  | _ => none

@[simp] theorem read?_base_self (t : BaseType) (v : t.Carrier) : (base t v).read? t = some v := by
  simp [read?]

/-- Reading succeeds exactly on the values of the type read. -/
theorem read?_eq_some_iff {t : BaseType} {l : Loose} {v : t.Carrier} :
    l.read? t = some v ↔ l = base t v := by
  constructor
  · intro h
    cases l with
    | base s w =>
      simp only [read?] at h
      split at h
      · next hs => subst hs; simp only [Option.some.injEq] at h; rw [← h]
      · simp at h
    | _ => simp [read?] at h
  · rintro rfl
    exact read?_base_self t v

/-- The pair held, if it is one of the two base types. -/
def readPair? (s t : BaseType) : Loose → Option (s.Carrier × t.Carrier)
  | tuple [a, b] => do return (← a.read? s, ← b.read? t)
  | _ => none

/-- The triple held, if it is one of the three base types. -/
def readTriple? (s t u : BaseType) : Loose → Option (s.Carrier × t.Carrier × u.Carrier)
  | tuple [a, b, c] => do return (← a.read? s, ← b.read? t, ← c.read? u)
  | _ => none

/-- Diagnostic text: the type, and nothing of what is held. -/
def describe (v : Loose) : String :=
  Text.openRecord "RawValue" [("type_name", Text.quoted v.type.name)]

end Loose

end StyleChain
