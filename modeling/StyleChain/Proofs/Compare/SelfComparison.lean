import StyleChain.Proofs.Compare.FirstMismatch

/-!
# A chain compared with itself

Numbers are compared by value, and what is not a number has none, so comparing is not reflexive on
all chains. `hasNaN` says of everything that an operation can hold whether a NaN is among its
numbers; equality of values with itself is then the absence of one, type by type
(`valueEq_self`, down to `Op.valueEq_self`). Handlers, sources and alignments hold no number and
never keep a chain from being equal to itself.

So a chain agrees with itself under a policy exactly when no operation that the policy compares by
value holds a NaN, and is equivalent to itself exactly when no operation holds one
(`mismatch?_self_eq_none_and_equivalent_self`). Where it does not agree with itself, the first such
operation is reported, as differing from itself (`mismatch?_self_reports_first_nan`).
-/

namespace StyleChain

@[simp]
theorem Binary.valueEq_self {f : Format} (x : Binary f) : x.valueEq x = !x.isNaN := by
  simp [valueEq]

/-! ### Distances and shapes -/

/-- Whether the distance is undefined. -/
def Dp.hasNaN (a : Dp) : Bool := a.value.isNaN

@[simp]
theorem Dp.valueEq_self (a : Dp) : a.valueEq a = !a.hasNaN := by
  simp [valueEq, hasNaN]

/-- Whether a side is undefined. -/
def Extent.hasNaN (a : Extent) : Bool := a.width.hasNaN || a.height.hasNaN

@[simp]
theorem Extent.valueEq_self (a : Extent) : a.valueEq a = !a.hasNaN := by
  simp [valueEq, hasNaN]

/-- Whether the distance at some side is undefined. -/
def Edges.hasNaN (a : Edges) : Bool :=
  a.leading.hasNaN || a.top.hasNaN || a.trailing.hasNaN || a.bottom.hasNaN

@[simp]
theorem Edges.valueEq_self (a : Edges) : a.valueEq a = !a.hasNaN := by
  simp [valueEq, hasNaN]

/-- Whether some radius is undefined. -/
def Corners.hasNaN (c : Corners) : Bool :=
  c.topLeft.isNaN || c.topRight.isNaN || c.bottomRight.isNaN || c.bottomLeft.isNaN

@[simp]
theorem Corners.valueEq_self (c : Corners) : c.valueEq c = !c.hasNaN := by
  simp [valueEq, hasNaN]

/-- Whether some radius is undefined; only rounded shapes have radii. -/
def Shape.hasNaN : Shape → Bool
  | rectangle => false
  | circle => false
  | rounded radii => radii.hasNaN

@[simp]
theorem Shape.valueEq_self (s : Shape) : s.valueEq s = !s.hasNaN := by
  cases s <;> simp [valueEq, hasNaN]

/-! ### Colors and brushes -/

/-- Whether some channel is undefined. -/
def Color.hasNaN (c : Color) : Bool :=
  c.red.isNaN || c.green.isNaN || c.blue.isNaN || c.alpha.isNaN

@[simp]
theorem Color.valueEq_self (c : Color) : c.valueEq c = !c.hasNaN := by
  simp [valueEq, hasNaN]

/-- Whether some coordinate is undefined. -/
def Point.hasNaN (a : Point) : Bool := a.x.isNaN || a.y.isNaN

@[simp]
theorem Point.valueEq_self (a : Point) : a.valueEq a = !a.hasNaN := by
  simp [valueEq, hasNaN]

/-- Whether some coordinate, radius or angle is undefined. -/
def GradientLine.hasNaN : GradientLine → Bool
  | linear s e => s.hasNaN || e.hasNaN
  | radial c r d q => c.hasNaN || r.isNaN || d.hasNaN || q.isNaN
  | sweep c a b => c.hasNaN || a.isNaN || b.isNaN

@[simp]
theorem GradientLine.valueEq_self (l : GradientLine) : l.valueEq l = !l.hasNaN := by
  cases l <;> simp [valueEq, hasNaN]

/-- Whether the place or a channel of the color is undefined. -/
def ColorStop.hasNaN (s : ColorStop) : Bool := s.offset.isNaN || s.color.hasNaN

@[simp]
theorem ColorStop.valueEq_self (s : ColorStop) : s.valueEq s = !s.hasNaN := by
  simp [valueEq, hasNaN]

/-- One undefined stop is enough, however many there are. -/
@[simp]
theorem ColorStop.listEq_self (stops : List ColorStop) :
    listEq stops stops = !stops.any hasNaN := by
  induction stops with
  | nil => rfl
  | cons s stops ih => simp [listEq, ih]

/-- Whether a number of the course or of a stop is undefined. -/
def Gradient.hasNaN (g : Gradient) : Bool := g.line.hasNaN || g.stops.any ColorStop.hasNaN

@[simp]
theorem Gradient.valueEq_self (g : Gradient) : g.valueEq g = !g.hasNaN := by
  simp only [valueEq, GradientLine.valueEq_self, decide_true, Bool.and_true,
    ColorStop.listEq_self, hasNaN, Bool.not_or]

/-- Whether a number of the color or the gradient is undefined. -/
def Brush.hasNaN : Brush → Bool
  | solid c => c.hasNaN
  | gradient g => g.hasNaN

@[simp]
theorem Brush.valueEq_self (b : Brush) : b.valueEq b = !b.hasNaN := by
  cases b <;> simp [valueEq, hasNaN]

/-! ### Operations -/

namespace Op

/-- Whether a number that the operation holds is undefined. -/
def hasNaN : Op → Bool
  | paddingValues e => e.hasNaN
  | paddingAll d => d.hasNaN
  | paddingSymmetric h v => h.hasNaN || v.hasNaN
  | paddingEach l t r b => l.hasNaN || t.hasNaN || r.hasNaN || b.hasNaN
  | background c => c.hasNaN
  | backgroundShaped c s => c.hasNaN || s.hasNaN
  | border w b s => w.hasNaN || b.hasNaN || s.hasNaN
  | width d => d.hasNaN
  | height d => d.hasNaN
  | fillMaxWidth x => x.isNaN
  | fillMaxHeight x => x.isNaN
  | fillMaxSize x => x.isNaN
  | wrapContentSize _ _ => false
  | size e => e.hasNaN
  | focusable _ _ => false
  | clickable _ => false
  | keyEvent _ => false
  | pointerInput _ _ _ => false

@[simp]
theorem valueEq_self (op : Op) : op.valueEq op = !op.hasNaN := by
  cases op <;> simp [valueEq, hasNaN]

/-- Operations that hold a handler hold no number. -/
theorem hasNaN_of_mem_callbackKinds {op : Op} (h : op.kind ∈ Policy.callbackKinds) :
    op.hasNaN = false := by
  cases op with
  | clickable _ => rfl
  | keyEvent _ => rfl
  | pointerInput _ _ _ => rfl
  | _ => simp [kind, Policy.callbackKinds] at h

/-- An operation that lets the box have the focus holds no number, whatever source it has. -/
theorem hasNaN_of_kind_eq_focusable {op : Op} (h : op.kind = .focusable) : op.hasNaN = false := by
  cases op with
  | focusable _ _ => rfl
  | _ => cases h

end Op

namespace Policy

/-- The policy compares the operation by value, and a number that it holds is undefined. -/
def SeesNaN (p : Policy) (op : Op) : Prop := p.equality op.kind = .value ∧ op.hasNaN = true

theorem not_seesNaN_iff {p : Policy} {op : Op} :
    ¬ p.SeesNaN op ↔ (p.equality op.kind = .value → op.hasNaN = false) := by
  rw [SeesNaN, not_and, Bool.not_eq_true]

/-- Only operations with numbers can have one that is undefined. -/
theorem SeesNaN.kind_not_mem {p : Policy} {op : Op} (h : p.SeesNaN op) :
    op.kind ≠ .focusable ∧ op.kind ∉ callbackKinds := by
  constructor
  · intro hk
    exact Bool.false_ne_true ((Op.hasNaN_of_kind_eq_focusable hk).symm.trans h.2)
  · intro hk
    exact Bool.false_ne_true ((Op.hasNaN_of_mem_callbackKinds hk).symm.trans h.2)

/-- An operation is reported as differing from itself exactly when the policy sees a NaN in it. -/
theorem mismatchAt?_self_eq_some_iff {p : Policy} {i : Nat} {op : Op} {m : Mismatch} :
    p.mismatchAt? i op op = some m ↔ p.SeesNaN op ∧ m = .payload i op op := by
  have hequal : p.opsEqual op op = false ↔ p.SeesNaN op := by
    rw [← Bool.not_eq_true, opsEqual_iff, Op.valueEq_self, SeesNaN]
    cases p.equality op.kind <;> simp
  unfold mismatchAt?
  rw [if_neg (not_not_intro rfl), ← hequal]
  cases p.opsEqual op op <;> simp [eq_comm]

/-- A position passes in a comparison of a chain with itself unless the operation there is
compared by value and holds a NaN. -/
theorem passesAt_self_iff {p : Policy} {c : Chain} {i : Nat} {op : Op} (hop : c.ops[i]? = some op) :
    p.PassesAt c c i ↔ (p.equality op.kind = .value → op.hasNaN = false) := by
  rw [passesAt_iff_mismatchAt? hop hop, mismatchAt?_eq_none_iff, opsEqual_iff, Op.valueEq_self]
  cases p.equality op.kind <;> simp

end Policy

/-! ### Chains -/

namespace Chain

/-- A chain agrees with itself exactly when no operation compared by value holds a NaN. -/
theorem mismatch?_self_eq_none_iff {p : Policy} {c : Chain} :
    mismatch? p c c = none ↔ ∀ op ∈ c.ops, p.equality op.kind = .value → op.hasNaN = false := by
  rw [mismatch?_eq_none_iff]
  constructor
  · rintro ⟨-, hpass⟩ op hmem
    obtain ⟨i, hi, hop⟩ := List.getElem_of_mem hmem
    exact (Policy.passesAt_self_iff (List.getElem?_eq_some_iff.2 ⟨hi, hop⟩)).1 (hpass i hi)
  · refine fun hall => ⟨rfl, fun i hi => ?_⟩
    have hop : c.ops[i]? = some c.ops[i] := List.getElem?_eq_getElem hi
    exact (Policy.passesAt_self_iff hop).2 (hall _ (List.getElem_mem hi))

/-- Of a chain compared with itself, the first operation is reported in which the policy sees a
NaN. -/
theorem mismatch?_self_eq_some_iff {p : Policy} {c : Chain} {m : Mismatch} :
    mismatch? p c c = some m ↔
      ∃ i op, c.ops[i]? = some op ∧ p.SeesNaN op ∧ m = .payload i op op ∧
        ∀ j < i, ∀ before, c.ops[j]? = some before → ¬ p.SeesNaN before := by
  rw [mismatch?_eq_some_iff_of_size_eq rfl]
  constructor
  · rintro ⟨i, l, r, hl, hr, hat, hpass⟩
    obtain rfl : l = r := Option.some.inj (hl.symm.trans hr)
    obtain ⟨hsees, hm⟩ := Policy.mismatchAt?_self_eq_some_iff.mp hat
    refine ⟨i, l, hl, hsees, hm, ?_⟩
    intro j hj before hbefore
    exact Policy.not_seesNaN_iff.mpr ((Policy.passesAt_self_iff hbefore).mp (hpass j hj))
  · rintro ⟨i, op, hop, hsees, hm, hnone⟩
    refine ⟨i, op, op, hop, hop, Policy.mismatchAt?_self_eq_some_iff.mpr ⟨hsees, hm⟩, ?_⟩
    intro j hj
    have hlt : j < c.ops.length := Nat.lt_trans hj (List.getElem?_eq_some_iff.mp hop).1
    have hbefore : c.ops[j]? = some c.ops[j] := List.getElem?_eq_getElem hlt
    exact (Policy.passesAt_self_iff hbefore).mpr
      (Policy.not_seesNaN_iff.mp (hnone j hj _ hbefore))

/-- **Comparing a chain with itself.** Under any policy it finds nothing exactly when no operation
that the policy compares by value holds a NaN. The default policy leaves out only operations that
hold no number, so a chain is equivalent to itself exactly when none of its operations holds a
NaN. -/
theorem mismatch?_self_eq_none_and_equivalent_self (p : Policy) (c : Chain) :
    (mismatch? p c c = none ↔
      ∀ op ∈ c.ops, p.equality op.kind = .value → op.hasNaN = false) ∧
    (c.equivalent c = true ↔ ∀ op ∈ c.ops, op.hasNaN = false) := by
  refine ⟨mismatch?_self_eq_none_iff, ?_⟩
  rw [equivalent_iff, mismatch?_self_eq_none_iff]
  -- kinds left out by the default policy need no hypothesis, since their operations hold no number
  refine forall₂_congr fun op _ => ⟨fun h => ?_, fun h _ => h⟩
  by_cases hk : op.kind ∈ Policy.callbackKinds
  · exact Op.hasNaN_of_mem_callbackKinds hk
  · exact h (by rw [Policy.equality_standard, if_neg hk])

/-- Comparing is not reflexive: a chain whose only operation sets an undefined width is reported
as different from itself. -/
theorem undefined_width_not_equivalent_self :
    mismatch? .standard (ofList [.width ⟨.nan .double⟩]) (ofList [.width ⟨.nan .double⟩]) =
        some (.payload 0 (.width ⟨.nan .double⟩) (.width ⟨.nan .double⟩)) ∧
      (ofList [.width ⟨.nan .double⟩]).equivalent (ofList [.width ⟨.nan .double⟩]) = false := by
  decide

/-- **What is reported of a chain compared with itself.** Nothing exactly when the policy sees no
NaN in any operation, and otherwise the first operation in which it does, as differing from itself
at its position. Operations with handlers and sources are never reported, under no policy. -/
theorem mismatch?_self_reports_first_nan (p : Policy) (c : Chain) :
    (mismatch? p c c = none ↔ ∀ op ∈ c.ops, ¬ p.SeesNaN op) ∧
    (∀ m, mismatch? p c c = some m ↔
      ∃ i op, c.ops[i]? = some op ∧ p.SeesNaN op ∧ m = .payload i op op ∧
        ∀ j < i, ∀ before, c.ops[j]? = some before → ¬ p.SeesNaN before) ∧
    ∀ i l r, mismatch? p c c = some (.payload i l r) →
      l.kind ≠ .focusable ∧ l.kind ∉ Policy.callbackKinds := by
  refine ⟨?_, ?_, ?_⟩
  · rw [mismatch?_self_eq_none_iff]
    exact forall₂_congr fun op _ => Policy.not_seesNaN_iff.symm
  · intro m
    exact mismatch?_self_eq_some_iff
  · intro i l r h
    obtain ⟨j, op, -, hsees, hm, -⟩ := mismatch?_self_eq_some_iff.mp h
    cases hm
    exact hsees.kind_not_mem

/-- A source, a handler and a width without a number before a gradient with an undefined stop: where
widths are compared by value the width is reported, and where only their kind counts the border. -/
theorem mismatch?_self_reports_first_nan_border :
    let clear : Color := ⟨.zero .single, .zero .single, .zero .single, .zero .single⟩
    let fade : Gradient := ⟨.linear ⟨.zero .double, .zero .double⟩ ⟨.zero .double, .zero .double⟩,
      .pad, .standard, [⟨.zero .single, clear, .screen⟩, ⟨.nan .single, clear, .screen⟩]⟩
    let border : Op := .border .zero (.gradient fade) .circle
    let width : Op := .width ⟨.nan .double⟩
    let c := ofList [.focusable true (some ⟨0⟩), .clickable ⟨0⟩, width, border]
    mismatch? .strict c c = some (.payload 2 width width) ∧
      mismatch? (Policy.strict.set .width .kindOnly) c c = some (.payload 3 border border) ∧
      border.kind ≠ .focusable ∧ border.kind ∉ Policy.callbackKinds := by
  intro clear fade border width c
  have hwidth : mismatch? .strict c c = some (.payload 2 width width) := by decide
  have hborder : mismatch? (Policy.strict.set .width .kindOnly) c c =
      some (.payload 3 border border) := by
    decide
  obtain ⟨-, -, hkind⟩ := mismatch?_self_reports_first_nan (Policy.strict.set .width .kindOnly) c
  exact ⟨hwidth, hborder, hkind _ _ _ hborder⟩

end Chain

end StyleChain
