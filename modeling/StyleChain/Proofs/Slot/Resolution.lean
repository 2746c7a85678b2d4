import Mathlib.Data.Option.Basic
import StyleChain.Proofs.Scope.Coherence

/-!
# What resolving keeps apart

A slot that takes several shapes lets the same thing be said in several ways, and resolving makes
one operation of them. What a value says is its `normalForm?`: the shape is forgotten and what it
leaves open is filled in, so that a stroke alone is a stroke around a rectangle and a handler alone
listens in the main pass. Paddings and backgrounds leave nothing open and are their own normal
forms. Unrecognized values have none, whatever was given.

For each slot the operation is the normal form written down (`resolve_eq_map_normalForm?`), and two
normal forms are never written alike, so values stand for the same operation exactly when they have
the same normal form (`resolve_eq_iff`). The same is the same here to the bit: `0` and `-0` are
equal distances and resolve to different operations. What is said in different slots is kept apart
by the kinds of operations, of which each belongs to one slot, so what has been contributed shows
where it came from.
-/

namespace StyleChain

namespace SlotValue

variable {ρ : Type}

/-- Where resolving writes down a normal form and no two are written alike, it keeps apart what they
keep apart. -/
private theorem eq_iff_of_eq_map {α ν : Type} {resolve : α → Option Op} {normalForm? : α → Option ν}
    {op : ν → Op} (hop : op.Injective) (hresolve : ∀ v, resolve v = (normalForm? v).map op)
    (v w : α) : resolve v = resolve w ↔ normalForm? v = normalForm? w := by
  rw [hresolve, hresolve]
  exact (Option.map_injective hop).eq_iff

namespace Padding

/-- A recognized padding as it is. -/
def normalForm? : Padding ρ → Option (Padding ρ)
  | unrecognized _ => none
  | v => some v

theorem resolve_eq_iff {v w : Padding ρ} :
    v.resolve = w.resolve ↔ v.normalForm? = w.normalForm? := by
  cases v <;> cases w <;> simp [resolve, normalForm?]

end Padding

namespace Background

/-- A recognized background as it is. -/
def normalForm? : Background ρ → Option (Background ρ)
  | unrecognized _ => none
  | v => some v

theorem resolve_eq_iff {v w : Background ρ} :
    v.resolve = w.resolve ↔ v.normalForm? = w.normalForm? := by
  cases v <;> cases w <;> simp [resolve, normalForm?]

end Background

namespace Border

/-- The width of the line, what it is painted with and the shape that it is drawn around. -/
def normalForm? : Border ρ → Option (Dp × Brush × Shape)
  | stroke s => some (s.width, s.brush, .rectangle)
  | widthColor w c => some (w, .solid c, .rectangle)
  | strokeShape s shape => some (s.width, s.brush, shape)
  | widthBrushShape w b shape => some (w, b, shape)
  | unrecognized _ => none

theorem resolve_eq_map_normalForm? (v : Border ρ) :
    v.resolve = v.normalForm?.map fun n => .border n.1 n.2.1 n.2.2 := by
  cases v <;> rfl

theorem resolve_eq_iff {v w : Border ρ} :
    v.resolve = w.resolve ↔ v.normalForm? = w.normalForm? := by
  refine eq_iff_of_eq_map ?_ resolve_eq_map_normalForm? v w
  rintro ⟨w, b, s⟩ ⟨w', b', s'⟩ h
  cases h
  rfl

end Border

namespace WrapContent

/-- Where the content stands, and whether it may be larger than the box. -/
def normalForm? : WrapContent ρ → Option (Alignment × Bool)
  | align a => some (a, false)
  | unbounded b => some (.center, b)
  | alignUnbounded a b => some (a, b)
  | unrecognized _ => none

theorem resolve_eq_map_normalForm? (v : WrapContent ρ) :
    v.resolve = v.normalForm?.map fun n => .wrapContentSize n.1 n.2 := by
  cases v <;> rfl

theorem resolve_eq_iff {v w : WrapContent ρ} :
    v.resolve = w.resolve ↔ v.normalForm? = w.normalForm? := by
  refine eq_iff_of_eq_map ?_ resolve_eq_map_normalForm? v w
  rintro ⟨a, b⟩ ⟨a', b'⟩ h
  cases h
  rfl

end WrapContent

namespace Size

/-- The width and the height. -/
def normalForm? : Size ρ → Option (Dp × Dp)
  | square side => some (side, side)
  | widthHeight w h => some (w, h)
  | extent e => some (e.width, e.height)
  | unrecognized _ => none

theorem resolve_eq_map_normalForm? (v : Size ρ) :
    v.resolve = v.normalForm?.map fun n => .size ⟨n.1, n.2⟩ := by
  cases v <;> rfl

theorem resolve_eq_iff {v w : Size ρ} :
    v.resolve = w.resolve ↔ v.normalForm? = w.normalForm? := by
  refine eq_iff_of_eq_map ?_ resolve_eq_map_normalForm? v w
  rintro ⟨w, h⟩ ⟨w', h'⟩ heq
  cases heq
  rfl

end Size

namespace Focusable

/-- Whether the box may have the focus, and the source that it reports to, if any. -/
def normalForm? : Focusable ρ → Option (Bool × Option InteractionSource)
  | enabled b => some (b, none)
  | source s => some (true, some s)
  | enabledSource b s => some (b, some s)
  | unrecognized _ => none

theorem resolve_eq_map_normalForm? (v : Focusable ρ) :
    v.resolve = v.normalForm?.map fun n => .focusable n.1 n.2 := by
  cases v <;> rfl

theorem resolve_eq_iff {v w : Focusable ρ} :
    v.resolve = w.resolve ↔ v.normalForm? = w.normalForm? := by
  refine eq_iff_of_eq_map ?_ resolve_eq_map_normalForm? v w
  rintro ⟨b, s⟩ ⟨b', s'⟩ h
  cases h
  rfl

end Focusable

namespace PointerInput

/-- Which events are answered, in which pass and by what. -/
def normalForm? : PointerInput ρ → Option (PointerEventType × PointerEventPass × PointerHandler)
  | handler t h => some (t, .main, h)
  | passHandler t p h => some (t, p, h)
  | unrecognized _ => none

theorem resolve_eq_map_normalForm? (v : PointerInput ρ) :
    v.resolve = v.normalForm?.map fun n => .pointerInput n.1 n.2.1 n.2.2 := by
  cases v <;> rfl

theorem resolve_eq_iff {v w : PointerInput ρ} :
    v.resolve = w.resolve ↔ v.normalForm? = w.normalForm? := by
  refine eq_iff_of_eq_map ?_ resolve_eq_map_normalForm? v w
  rintro ⟨t, p, h⟩ ⟨t', p', h'⟩ heq
  cases heq
  rfl

end PointerInput

end SlotValue

/-! ### Slots -/

/-- Values that stand for operations of one kind are values of one slot. -/
theorem Assignment.slot_eq_of_kind_eq {a b : Assignment} {x y : Op} (ha : a.op? = some x)
    (hb : b.op? = some y) (h : x.kind = y.kind) : a.slot = b.slot := by
  rw [← slot_kind_of_op? ha, ← slot_kind_of_op? hb, h]

/-- What a run has contributed shows by its kind which slot it came from. -/
theorem Builder.slot_of_mem_deltas_run {steps : List Step} {g : Group} {d : Delta}
    (hd : d ∈ ((run steps).scope g).deltas) : d.slot = d.op.kind.slot := by
  rw [deltas_run] at hd
  obtain ⟨a, -, ha⟩ := List.mem_filterMap.mp hd
  obtain ⟨op, hop, rfl⟩ := Option.map_eq_some_iff.mp ha
  exact (Assignment.slot_kind_of_op? hop).symm

/-- **Resolving loses shapes and defaults and nothing else.** Two values of a slot stand for the
same operation, or both for none, exactly when they have the same normal form or both have none.
Values of different slots never stand for operations of one kind, so every contribution of a run
tells by the kind of its operation which slot it came from. -/
theorem SlotValue.resolve_eq_iff_and_slot_of_kind :
    (∀ v w : SlotValue.Padding Loose,
        v.resolve = w.resolve ↔ v.normalForm? = w.normalForm?) ∧
      (∀ v w : SlotValue.Background Loose,
        v.resolve = w.resolve ↔ v.normalForm? = w.normalForm?) ∧
      (∀ v w : SlotValue.Border Loose,
        v.resolve = w.resolve ↔ v.normalForm? = w.normalForm?) ∧
      (∀ v w : SlotValue.WrapContent Loose,
        v.resolve = w.resolve ↔ v.normalForm? = w.normalForm?) ∧
      (∀ v w : SlotValue.Size Loose,
        v.resolve = w.resolve ↔ v.normalForm? = w.normalForm?) ∧
      (∀ v w : SlotValue.Focusable Loose,
        v.resolve = w.resolve ↔ v.normalForm? = w.normalForm?) ∧
      (∀ v w : SlotValue.PointerInput Loose,
        v.resolve = w.resolve ↔ v.normalForm? = w.normalForm?) ∧
      (∀ (a b : Assignment) (x y : Op), a.op? = some x → b.op? = some y → a.slot ≠ b.slot →
        x.kind ≠ y.kind) ∧
      ∀ (steps : List Step) (g : Group), ∀ d ∈ ((Builder.run steps).scope g).deltas,
        d.slot = d.op.kind.slot := by
  refine ⟨fun _ _ => Padding.resolve_eq_iff, fun _ _ => Background.resolve_eq_iff,
    fun _ _ => Border.resolve_eq_iff, fun _ _ => WrapContent.resolve_eq_iff,
    fun _ _ => Size.resolve_eq_iff, fun _ _ => Focusable.resolve_eq_iff,
    fun _ _ => PointerInput.resolve_eq_iff, ?_, fun _ _ _ hd => Builder.slot_of_mem_deltas_run hd⟩
  intro a b x y ha hb hslot hkind
  exact hslot (Assignment.slot_eq_of_kind_eq ha hb hkind)

/-- Content in the middle is bounded content in the middle, an extent with a negative zero is no
square with a positive one, and the kinds of a width and a border tell the two slots apart in a run
that gives both. -/
theorem SlotValue.resolve_eq_iff_and_slot_of_kind_zero :
    let negativeZero : Dp := ⟨.ofMagnitude .double true 0⟩
    let red : Color := .ofRGB 255 0 0
    let centered : WrapContent Loose := .align .center
    let bounded : WrapContent Loose := .unbounded false
    let square : Size Loose := .square .zero
    let extent : Size Loose := .extent ⟨.zero, negativeZero⟩
    let steps : List Step :=
      [.set .width (.base .dp .zero), .set .border (.tuple [.base .dp .zero, .base .color red])]
    centered.resolve = bounded.resolve ∧ square.resolve ≠ extent.resolve ∧
      (Op.width .zero).kind ≠ (Op.border .zero (.solid red) .rectangle).kind ∧
      ∀ d ∈ ((Builder.run steps).scope .size).deltas, d.slot = d.op.kind.slot := by
  intro negativeZero red centered bounded square extent steps
  obtain ⟨-, -, -, hwrap, hsize, -, -, hkind, hdeltas⟩ := SlotValue.resolve_eq_iff_and_slot_of_kind
  refine ⟨(hwrap centered bounded).mpr rfl, ?_, ?_, hdeltas steps .size⟩
  · intro h
    have hne : square.normalForm? ≠ extent.normalForm? := by decide
    exact hne ((hsize square extent).mp h)
  · exact hkind (.width .zero) (.border (.widthColor .zero red)) _ _ rfl rfl (by decide)

end StyleChain
