import Mathlib.Tactic.Tauto
import StyleChain.Proofs.Compare.SelfComparison

/-!
# Equality of values is equality of canonical forms

Two things keep equality of values from being equality of bits: a NaN equals nothing, and the two
zeros equal each other. `hasNaN` accounts for the first and `canonical`, which makes every zero
positive, for the second, and nothing else is lost or added: values are equal exactly when no NaN is
among their numbers and their canonical forms are the same (`valueEq_iff_canonical`, type by type up
to operations). What an equality with these exceptions can be relied on for follows without another
look at the types: it is symmetric and transitive (`Op.valueEq_comm`, `Op.valueEq_trans`). For the
other direction, that values are told apart at all, every operation has one of its kind that it does
not equal (`Op.exists_valueEq_eq_false`).
-/

namespace StyleChain

/-! ### Numbers -/

namespace Binary

variable {f : Format} {x y : Binary f}

/-- The same number, with zero taken positive. -/
def canonical (x : Binary f) : Binary f := if x.key = 0 then zero f else x

theorem natAbs_key (x : Binary f) : x.key.natAbs = x.magnitude := by
  unfold key
  split <;> simp

/-- Away from zero the key is negative exactly when the sign bit is set. -/
theorem negative_iff_key_lt (hx : x.key ≠ 0) : x.negative ↔ x.key < 0 := by
  have hpos : 0 < x.magnitude := by
    rw [← natAbs_key]
    exact Int.natAbs_pos.2 hx
  unfold key
  cases x.negative <;> simp [hpos]

/-- Away from zero a number is determined by its key. -/
theorem eq_of_key_eq (h : x.key = y.key) (hx : x.key ≠ 0) : x = y := by
  have hnegative : x.negative = y.negative := by
    rw [Bool.eq_iff_iff, negative_iff_key_lt hx, negative_iff_key_lt (h ▸ hx), h]
  have hbits : x.bits.toNat = y.bits.toNat := by
    rw [toNat_bits, toNat_bits, hnegative, ← natAbs_key x, h, natAbs_key]
  cases x
  cases y
  exact congrArg mk (BitVec.eq_of_toNat_eq hbits)

@[simp]
theorem key_zero : (zero f).key = 0 := by
  have hmagnitude : (zero f).magnitude = 0 := by
    simp [magnitude, zero, ofMagnitude]
  simp [key, hmagnitude]

@[simp]
theorem key_canonical (x : Binary f) : x.canonical.key = x.key := by
  unfold canonical
  split
  · rw [key_zero, ‹x.key = 0›]
  · rfl

/-- Numbers have the same canonical form exactly when they have the same key. -/
theorem canonical_eq_iff_key_eq : x.canonical = y.canonical ↔ x.key = y.key := by
  constructor
  · intro h
    rw [← key_canonical x, h, key_canonical]
  · intro h
    unfold canonical
    by_cases hx : x.key = 0
    · rw [if_pos hx, if_pos (h ▸ hx)]
    · rw [if_neg hx, if_neg (h ▸ hx), eq_of_key_eq h hx]

theorem valueEq_iff_canonical :
    x.valueEq y ↔ x.isNaN = false ∧ y.isNaN = false ∧ x.canonical = y.canonical := by
  rw [valueEq_iff, canonical_eq_iff_key_eq]

end Binary

/-! ### Distances and shapes -/

/-- The same distance, with zero taken positive. -/
def Dp.canonical (a : Dp) : Dp := ⟨a.value.canonical⟩

theorem Dp.valueEq_iff_canonical {a b : Dp} :
    a.valueEq b ↔ a.hasNaN = false ∧ b.hasNaN = false ∧ a.canonical = b.canonical := by
  simp only [valueEq, Binary.valueEq_iff_canonical, hasNaN, canonical, mk.injEq]

/-- The same extent, with zeros taken positive. -/
def Extent.canonical (a : Extent) : Extent := ⟨a.width.canonical, a.height.canonical⟩

theorem Extent.valueEq_iff_canonical {a b : Extent} :
    a.valueEq b ↔ a.hasNaN = false ∧ b.hasNaN = false ∧ a.canonical = b.canonical := by
  simp only [valueEq, Bool.and_eq_true, Dp.valueEq_iff_canonical, hasNaN, Bool.or_eq_false_iff,
    canonical, mk.injEq]
  tauto

/-- The same distances, with zeros taken positive. -/
def Edges.canonical (a : Edges) : Edges :=
  ⟨a.leading.canonical, a.top.canonical, a.trailing.canonical, a.bottom.canonical⟩

theorem Edges.valueEq_iff_canonical {a b : Edges} :
    a.valueEq b ↔ a.hasNaN = false ∧ b.hasNaN = false ∧ a.canonical = b.canonical := by
  simp only [valueEq, Bool.and_eq_true, Dp.valueEq_iff_canonical, hasNaN, Bool.or_eq_false_iff,
    canonical, mk.injEq]
  tauto

/-- The same radii, with zeros taken positive. -/
def Corners.canonical (c : Corners) : Corners :=
  ⟨c.topLeft.canonical, c.topRight.canonical, c.bottomRight.canonical, c.bottomLeft.canonical⟩

theorem Corners.valueEq_iff_canonical {c d : Corners} :
    c.valueEq d ↔ c.hasNaN = false ∧ d.hasNaN = false ∧ c.canonical = d.canonical := by
  simp only [valueEq, Bool.and_eq_true, Binary.valueEq_iff_canonical, hasNaN,
    Bool.or_eq_false_iff, canonical, mk.injEq]
  tauto

/-- The same outline, with zero radii taken positive. -/
def Shape.canonical : Shape → Shape
  | rectangle => rectangle
  | circle => circle
  | rounded radii => rounded radii.canonical

theorem Shape.valueEq_iff_canonical {s t : Shape} :
    s.valueEq t ↔ s.hasNaN = false ∧ t.hasNaN = false ∧ s.canonical = t.canonical := by
  cases s <;> cases t <;> simp [valueEq, hasNaN, canonical, Corners.valueEq_iff_canonical]

/-! ### Colors and brushes -/

/-- The same color, with zero channels taken positive. -/
def Color.canonical (c : Color) : Color :=
  ⟨c.red.canonical, c.green.canonical, c.blue.canonical, c.alpha.canonical⟩

theorem Color.valueEq_iff_canonical {c d : Color} :
    c.valueEq d ↔ c.hasNaN = false ∧ d.hasNaN = false ∧ c.canonical = d.canonical := by
  simp only [valueEq, Bool.and_eq_true, Binary.valueEq_iff_canonical, hasNaN,
    Bool.or_eq_false_iff, canonical, mk.injEq]
  tauto

/-- The same point, with zero coordinates taken positive. -/
def Point.canonical (a : Point) : Point := ⟨a.x.canonical, a.y.canonical⟩

theorem Point.valueEq_iff_canonical {a b : Point} :
    a.valueEq b ↔ a.hasNaN = false ∧ b.hasNaN = false ∧ a.canonical = b.canonical := by
  simp only [valueEq, Bool.and_eq_true, Binary.valueEq_iff_canonical, hasNaN,
    Bool.or_eq_false_iff, canonical, mk.injEq]
  tauto

/-- The same course, with zeros taken positive. -/
def GradientLine.canonical : GradientLine → GradientLine
  | linear s e => linear s.canonical e.canonical
  | radial c r d q => radial c.canonical r.canonical d.canonical q.canonical
  | sweep c a b => sweep c.canonical a.canonical b.canonical

theorem GradientLine.valueEq_iff_canonical {l m : GradientLine} :
    l.valueEq m ↔ l.hasNaN = false ∧ m.hasNaN = false ∧ l.canonical = m.canonical := by
  cases l <;> cases m <;>
    simp [valueEq, hasNaN, canonical, Point.valueEq_iff_canonical,
      Binary.valueEq_iff_canonical] <;> tauto

namespace ColorStop

/-- The same stop, with zeros taken positive. -/
def canonical (s : ColorStop) : ColorStop := ⟨s.offset.canonical, s.color.canonical, s.encoding⟩

theorem valueEq_iff_canonical {s t : ColorStop} :
    s.valueEq t ↔ s.hasNaN = false ∧ t.hasNaN = false ∧ s.canonical = t.canonical := by
  simp only [valueEq, Bool.and_eq_true, Binary.valueEq_iff_canonical,
    Color.valueEq_iff_canonical, decide_eq_true_eq, hasNaN, Bool.or_eq_false_iff, canonical,
    mk.injEq]
  tauto

/-- Lists of stops are compared stop by stop, and so are their canonical forms. -/
theorem listEq_iff_canonical {ss ts : List ColorStop} :
    listEq ss ts ↔
      ss.any hasNaN = false ∧ ts.any hasNaN = false ∧ ss.map canonical = ts.map canonical := by
  induction ss generalizing ts with
  | nil => cases ts <;> simp [listEq]
  | cons s ss ih =>
    cases ts with
    | nil => simp [listEq]
    | cons t ts =>
      simp only [listEq, Bool.and_eq_true, valueEq_iff_canonical, ih, List.any_cons,
        Bool.or_eq_false_iff, List.map_cons, List.cons.injEq]
      tauto

end ColorStop

/-- The same gradient, with zeros taken positive. -/
def Gradient.canonical (g : Gradient) : Gradient :=
  ⟨g.line.canonical, g.extend, g.mixing, g.stops.map ColorStop.canonical⟩

theorem Gradient.valueEq_iff_canonical {g h : Gradient} :
    g.valueEq h ↔ g.hasNaN = false ∧ h.hasNaN = false ∧ g.canonical = h.canonical := by
  simp only [valueEq, Bool.and_eq_true, GradientLine.valueEq_iff_canonical, decide_eq_true_eq,
    ColorStop.listEq_iff_canonical, hasNaN, Bool.or_eq_false_iff, canonical, mk.injEq]
  tauto

/-- The same brush, with zeros taken positive. -/
def Brush.canonical : Brush → Brush
  | solid c => solid c.canonical
  | gradient g => gradient g.canonical

theorem Brush.valueEq_iff_canonical {b c : Brush} :
    b.valueEq c ↔ b.hasNaN = false ∧ c.hasNaN = false ∧ b.canonical = c.canonical := by
  cases b <;> cases c <;>
    simp [valueEq, hasNaN, canonical, Color.valueEq_iff_canonical, Gradient.valueEq_iff_canonical]

/-! ### Operations -/

namespace Op

/-- The same operation, with zeros taken positive. -/
def canonical : Op → Op
  | paddingValues e => paddingValues e.canonical
  | paddingAll d => paddingAll d.canonical
  | paddingSymmetric h v => paddingSymmetric h.canonical v.canonical
  | paddingEach l t r b => paddingEach l.canonical t.canonical r.canonical b.canonical
  | background c => background c.canonical
  | backgroundShaped c s => backgroundShaped c.canonical s.canonical
  | border w b s => border w.canonical b.canonical s.canonical
  | width d => width d.canonical
  | height d => height d.canonical
  | fillMaxWidth x => fillMaxWidth x.canonical
  | fillMaxHeight x => fillMaxHeight x.canonical
  | fillMaxSize x => fillMaxSize x.canonical
  | wrapContentSize a u => wrapContentSize a u
  | size e => size e.canonical
  | focusable e s => focusable e s
  | clickable h => clickable h
  | keyEvent h => keyEvent h
  | pointerInput t p h => pointerInput t p h

@[simp]
theorem kind_canonical (op : Op) : op.canonical.kind = op.kind := by
  cases op <;> rfl

/-- **Equality of values is equality of canonical forms.** Operations are equal in value exactly
when neither holds a NaN and they are the same except for the signs of zeros. -/
theorem valueEq_iff_canonical {a b : Op} :
    a.valueEq b ↔ a.hasNaN = false ∧ b.hasNaN = false ∧ a.canonical = b.canonical := by
  by_cases hk : a.kind = b.kind
  · cases a <;> cases b <;> cases hk
    all_goals
      simp [valueEq, hasNaN, canonical, Binary.valueEq_iff_canonical, Dp.valueEq_iff_canonical,
        Extent.valueEq_iff_canonical, Edges.valueEq_iff_canonical, Shape.valueEq_iff_canonical,
        Color.valueEq_iff_canonical, Brush.valueEq_iff_canonical]
    all_goals tauto
  · -- operations of different kinds are neither equal nor of one form
    refine iff_of_false (mt kind_eq_of_valueEq hk) ?_
    rintro ⟨-, -, h⟩
    exact hk (by rw [← kind_canonical a, h, kind_canonical])

/-- Nothing is equal to an operation that holds a NaN. -/
theorem valueEq_eq_false_of_hasNaN {a b : Op} (h : b.hasNaN) : a.valueEq b = false := by
  refine Bool.eq_false_iff.mpr fun heq => ?_
  have hb : b.hasNaN = false := (valueEq_iff_canonical.1 heq).2.1
  exact Bool.false_ne_true (hb.symm.trans h)

/-- No operation is equal to all of its kind: one that holds a NaN differs where there are numbers,
and another alignment, setting or handler does where there are none. -/
theorem exists_valueEq_eq_false (op : Op) : ∃ r : Op, r.kind = op.kind ∧ op.valueEq r = false := by
  let nan : Dp := ⟨.nan .double⟩
  let faint : Color := ⟨.zero .single, .zero .single, .zero .single, .nan .single⟩
  cases op with
  | paddingValues e =>
    exact ⟨.paddingValues (.all nan), rfl, valueEq_eq_false_of_hasNaN (by decide)⟩
  | paddingAll d => exact ⟨.paddingAll nan, rfl, valueEq_eq_false_of_hasNaN (by decide)⟩
  | paddingSymmetric h v =>
    exact ⟨.paddingSymmetric nan nan, rfl, valueEq_eq_false_of_hasNaN (by decide)⟩
  | paddingEach l t r b =>
    exact ⟨.paddingEach nan nan nan nan, rfl, valueEq_eq_false_of_hasNaN (by decide)⟩
  | background c => exact ⟨.background faint, rfl, valueEq_eq_false_of_hasNaN (by decide)⟩
  | backgroundShaped c s =>
    exact ⟨.backgroundShaped faint .circle, rfl, valueEq_eq_false_of_hasNaN (by decide)⟩
  | border w b s =>
    exact ⟨.border nan (.solid faint) .circle, rfl, valueEq_eq_false_of_hasNaN (by decide)⟩
  | width d => exact ⟨.width nan, rfl, valueEq_eq_false_of_hasNaN (by decide)⟩
  | height d => exact ⟨.height nan, rfl, valueEq_eq_false_of_hasNaN (by decide)⟩
  | fillMaxWidth x =>
    exact ⟨.fillMaxWidth (.nan .single), rfl, valueEq_eq_false_of_hasNaN (by decide)⟩
  | fillMaxHeight x =>
    exact ⟨.fillMaxHeight (.nan .single), rfl, valueEq_eq_false_of_hasNaN (by decide)⟩
  | fillMaxSize x =>
    exact ⟨.fillMaxSize (.nan .single), rfl, valueEq_eq_false_of_hasNaN (by decide)⟩
  | wrapContentSize a u => exact ⟨.wrapContentSize a (!u), rfl, by simp [valueEq]⟩
  | size e => exact ⟨.size ⟨nan, nan⟩, rfl, valueEq_eq_false_of_hasNaN (by decide)⟩
  | focusable e s => exact ⟨.focusable (!e) s, rfl, by simp [valueEq]⟩
  | clickable h => exact ⟨.clickable ⟨h.token + 1⟩, rfl, by cases h; simp [valueEq]⟩
  | keyEvent h => exact ⟨.keyEvent ⟨h.token + 1⟩, rfl, by cases h; simp [valueEq]⟩
  | pointerInput t p h =>
    exact ⟨.pointerInput t p ⟨h.token + 1⟩, rfl, by cases h; simp [valueEq]⟩

theorem valueEq_comm (a b : Op) : a.valueEq b = b.valueEq a := by
  rw [Bool.eq_iff_iff, valueEq_iff_canonical, valueEq_iff_canonical]
  exact ⟨fun ⟨ha, hb, h⟩ => ⟨hb, ha, h.symm⟩, fun ⟨hb, ha, h⟩ => ⟨ha, hb, h.symm⟩⟩

theorem valueEq_trans {a b c : Op} (hab : a.valueEq b) (hbc : b.valueEq c) : a.valueEq c := by
  obtain ⟨ha, -, h⟩ := valueEq_iff_canonical.1 hab
  obtain ⟨-, hc, h'⟩ := valueEq_iff_canonical.1 hbc
  exact valueEq_iff_canonical.2 ⟨ha, hc, h.trans h'⟩

end Op

end StyleChain
