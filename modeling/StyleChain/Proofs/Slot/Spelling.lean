import Mathlib.Data.List.Forall2
import StyleChain.Proofs.Number.Widening
import StyleChain.Proofs.Slot.Accepts
import StyleChain.Proofs.Slot.Union

/-!
# Spelling distances

A distance can be written in four scalar types. Which one is used is a matter of spelling: of two
values that arrange the same distances in the same way, each in one scalar type throughout, a slot
makes the same. What is spelled is an `Arrangement`: a distance alone, a tuple of distances, or a
distance in front of elements that are none; `Loose.Spells` says that a value spells one in a scalar
type.

Each reader sees of a spelled value no more than what is spelled (`Spells.distance?_eq_some` and
those after it), so two spellings of an arrangement read alike (`Spells.distance?_congr` and those
after it). A slot looks at a value through readers only, so it finds the same shape in both
(`Spells.shape?_congr`), and what is found is all that is assigned. Where it finds no shape the two
values themselves are kept, which differ, but neither contributes anything.

Fractions are where the types are not on a par. A distance proper is no fraction, and while numbers
of the 64-bit format are rounded, numbers of the 32-bit format are taken as they are; that this
comes to the same is what `Binary.convert_convert` says, of all that are numbers.
-/

namespace StyleChain

/-- The ways in which distances stand in a value. -/
inductive Arrangement where
  /-- A distance alone. -/
  | single (d : Dp)
  /-- Any number of distances. -/
  | several (ds : List Dp)
  /-- A distance in front of other elements. -/
  | leading (d : Dp) (rest : List Loose)

/-- The distances that are arranged. -/
def Arrangement.distances : Arrangement → List Dp
  | single d => [d]
  | several ds => ds
  | leading d _ => [d]

/-- The fraction that is spelled: a number alone, rounded to the 32-bit format, or nothing, which
means the whole. -/
def Arrangement.fraction? : Arrangement → Option Binary32
  | single d => some (d.value.convert .single)
  | several [] => some (.one .single)
  | _ => none

/-- The slots that take a fraction of what is left. -/
def Slot.takesFraction : Slot → Bool
  | fillMaxWidth | fillMaxHeight | fillMaxSize => true
  | _ => false

/-- The value gives the distances of an arrangement by one scalar type, and what stands behind a
leading distance denotes none. -/
inductive Loose.Spells : Loose → Scalar → Arrangement → Prop
  | single {v : Loose} {t : Scalar} {d : Dp} (h : v.Denotes t d) : Spells v t (.single d)
  | several {vs : List Loose} {t : Scalar} {ds : List Dp}
      (h : List.Forall₂ (fun v d => v.Denotes t d) vs ds) : Spells (.tuple vs) t (.several ds)
  | leading {v : Loose} {t : Scalar} {d : Dp} {rest : List Loose} (h : v.Denotes t d)
      (hrest : ∀ r ∈ rest, ∀ u e, ¬ r.Denotes u e) :
      Spells (.tuple (v :: rest)) t (.leading d rest)

namespace Loose

open SlotValue

/-! ### Reading one distance -/

namespace Denotes

variable {v : Loose} {t : Scalar} {d : Dp}

theorem distance?_eq (h : v.Denotes t d) : v.distance? = some d :=
  distance?_eq_some_iff.mpr ⟨t, h⟩

theorem unique (h : v.Denotes t d) {u : Scalar} {e : Dp} (h' : v.Denotes u e) : d = e :=
  Option.some.inj (h.distance?_eq.symm.trans h'.distance?_eq)

/-- A distance is no value of a type that denotes none. -/
theorem read?_eq_none (h : v.Denotes t d) {s : BaseType} (hs : ∀ x, s.distance? x = none) :
    v.read? s = none := by
  refine Option.eq_none_iff_forall_ne_some.mpr fun x hx => ?_
  obtain rfl := read?_eq_some_iff.mp hx
  have hd : s.distance? x = some d := h.distance?_eq
  rw [hs x] at hd
  cases hd

/-- As a fraction a number means what it means as a distance, rounded to the 32-bit format. -/
theorem fraction?_eq (h : v.Denotes t d) (ht : t ≠ .dp) (hd : d.value.isNaN = false) :
    v.fraction? = some (d.value.convert .single) := by
  cases h with
  | dp d => exact absurd rfl ht
  | float64 x => rfl
  | int32 i => rfl
  | float32 x =>
    have hx : x.isNaN = false :=
      Bool.eq_false_iff.mpr fun hnan =>
        Bool.eq_false_iff.mp hd (Binary.isNaN_convert_double hnan)
    exact congrArg some (Binary.convert_convert Format.single_embeds_double hx).symm

end Denotes

/-! ### Reading an arrangement -/

namespace Spells

variable {v w : Loose} {t u : Scalar} {a : Arrangement} {r s : BaseType}

theorem eq_base_or_eq_tuple (h : v.Spells t a) :
    (∃ s x, v = .base s x) ∨ ∃ vs, v = .tuple vs := by
  cases h with
  | single h => cases h <;> exact .inl ⟨_, _, rfl⟩
  | several _ => exact .inr ⟨_, rfl⟩
  | leading _ _ => exact .inr ⟨_, rfl⟩

/-- The first element of a spelled tuple is a distance. -/
theorem exists_denotes_head {vs : List Loose} (h : (tuple (v :: vs)).Spells t a) :
    ∃ d, v.Denotes t d := by
  cases h with
  | single h => cases h
  | several h =>
    cases h with
    | cons h _ => exact ⟨_, h⟩
  | leading h _ => exact ⟨_, h⟩

theorem read?_eq_none (h : v.Spells t a) (hs : ∀ x, s.distance? x = none) : v.read? s = none := by
  cases h with
  | single h => exact h.read?_eq_none hs
  | several _ => rfl
  | leading _ _ => rfl

theorem readPair?_eq_none (h : v.Spells t a) (hr : ∀ x, r.distance? x = none) :
    v.readPair? r s = none := by
  refine Option.eq_none_iff_forall_ne_some.mpr fun p hp => ?_
  obtain rfl := readPair?_eq_some_iff.mp hp
  obtain ⟨d, hd⟩ := h.exists_denotes_head
  exact Option.some_ne_none _ ((read?_base_self r p.1).symm.trans (hd.read?_eq_none hr))

theorem readTriple?_eq_none {q : BaseType} (h : v.Spells t a) (hr : ∀ x, r.distance? x = none) :
    v.readTriple? r s q = none := by
  refine Option.eq_none_iff_forall_ne_some.mpr fun p hp => ?_
  obtain rfl := readTriple?_eq_some_iff.mp hp
  obtain ⟨d, hd⟩ := h.exists_denotes_head
  exact Option.some_ne_none _ ((read?_base_self r p.1).symm.trans (hd.read?_eq_none hr))

/-- A distance is read where one alone is spelled. -/
theorem distance?_eq_some (h : v.Spells t a) {d : Dp} : v.distance? = some d ↔ a = .single d := by
  cases h with
  | single h => rw [h.distance?_eq, Option.some.injEq, Arrangement.single.injEq]
  | several _ => simp [distance?]
  | leading _ _ => simp [distance?]

/-- Two distances are read where two are spelled. -/
theorem distancePair?_eq_some (h : v.Spells t a) {d e : Dp} :
    v.distancePair? = some (d, e) ↔ a = .several [d, e] := by
  rw [distancePair?_eq_some_iff]
  constructor
  · rintro ⟨t', x, y, rfl, hx, hy⟩
    cases h with
    | single h => cases h
    | several h =>
      rcases h with _ | ⟨hx', _ | ⟨hy', _ | _⟩⟩
      rw [hx.unique hx', hy.unique hy']
    | leading _ hrest => exact absurd hy (hrest y (.head _) _ _)
  · rintro rfl
    cases h with
    | several h =>
      rcases h with _ | ⟨hx, _ | ⟨hy, _ | _⟩⟩
      exact ⟨t, _, _, rfl, hx, hy⟩

/-- Four distances are read where four are spelled. -/
theorem distanceQuad?_eq_some (h : v.Spells t a) {d₁ d₂ d₃ d₄ : Dp} :
    v.distanceQuad? = some (d₁, d₂, d₃, d₄) ↔ a = .several [d₁, d₂, d₃, d₄] := by
  rw [distanceQuad?_eq_some_iff]
  constructor
  · rintro ⟨t', v₁, v₂, v₃, v₄, rfl, h₁, h₂, h₃, h₄⟩
    cases h with
    | single h => cases h
    | several h =>
      rcases h with _ | ⟨h₁', _ | ⟨h₂', _ | ⟨h₃', _ | ⟨h₄', _ | _⟩⟩⟩⟩
      rw [h₁.unique h₁', h₂.unique h₂', h₃.unique h₃', h₄.unique h₄']
    | leading _ hrest => exact absurd h₂ (hrest v₂ (.head _) _ _)
  · rintro rfl
    cases h with
    | several h =>
      rcases h with _ | ⟨h₁, _ | ⟨h₂, _ | ⟨h₃, _ | ⟨h₄, _ | _⟩⟩⟩⟩
      exact ⟨t, _, _, _, _, rfl, h₁, h₂, h₃, h₄⟩

/-- A distance is read together with what stands behind it. -/
theorem distanceAnd?_eq_some (h : v.Spells t a) (hs : ∀ x, s.distance? x = none) {d : Dp}
    {x : s.Carrier} : v.distanceAnd? s = some (d, x) ↔ a = .leading d [.base s x] := by
  rw [distanceAnd?_eq_some_iff]
  constructor
  · rintro ⟨t', y, rfl, hy⟩
    cases h with
    | single h => cases h
    | several h =>
      rcases h with _ | ⟨_, _ | ⟨hx, _ | _⟩⟩
      exact absurd (hx.distance?_eq.symm.trans (hs x)) (Option.some_ne_none _)
    | leading hy' _ => rw [hy.unique hy']
  · rintro rfl
    cases h with
    | leading hy _ => exact ⟨t, _, rfl, hy⟩

theorem distanceAndTwo?_eq_some (h : v.Spells t a) (hr : ∀ x, r.distance? x = none) {d : Dp}
    {x : r.Carrier} {y : s.Carrier} :
    v.distanceAndTwo? r s = some (d, x, y) ↔ a = .leading d [.base r x, .base s y] := by
  rw [distanceAndTwo?_eq_some_iff]
  constructor
  · rintro ⟨t', z, rfl, hz⟩
    cases h with
    | single h => cases h
    | several h =>
      rcases h with _ | ⟨_, _ | ⟨hx, _ | ⟨_, _ | _⟩⟩⟩
      exact absurd (hx.distance?_eq.symm.trans (hr x)) (Option.some_ne_none _)
    | leading hz' _ => rw [hz.unique hz']
  · rintro rfl
    cases h with
    | leading hz _ => exact ⟨t, _, rfl, hz⟩

theorem fraction?_eq (h : v.Spells t a) (ht : t ≠ .dp)
    (hnan : ∀ d ∈ a.distances, d.value.isNaN = false) : v.fraction? = a.fraction? := by
  cases h with
  | single h => exact h.fraction?_eq ht (hnan _ (.head _))
  | several h => cases h <;> rfl
  | leading _ _ => rfl

/-! ### Two spellings of one arrangement -/

theorem read?_congr (hv : v.Spells t a) (hw : w.Spells u a) (hs : ∀ x, s.distance? x = none) :
    v.read? s = w.read? s :=
  (hv.read?_eq_none hs).trans (hw.read?_eq_none hs).symm

theorem readPair?_congr (hv : v.Spells t a) (hw : w.Spells u a)
    (hr : ∀ x, r.distance? x = none) : v.readPair? r s = w.readPair? r s :=
  (hv.readPair?_eq_none hr).trans (hw.readPair?_eq_none hr).symm

theorem readTriple?_congr {q : BaseType} (hv : v.Spells t a) (hw : w.Spells u a)
    (hr : ∀ x, r.distance? x = none) : v.readTriple? r s q = w.readTriple? r s q :=
  (hv.readTriple?_eq_none hr).trans (hw.readTriple?_eq_none hr).symm

theorem distance?_congr (hv : v.Spells t a) (hw : w.Spells u a) : v.distance? = w.distance? :=
  Option.ext fun _ => hv.distance?_eq_some.trans hw.distance?_eq_some.symm

theorem distancePair?_congr (hv : v.Spells t a) (hw : w.Spells u a) :
    v.distancePair? = w.distancePair? :=
  Option.ext fun _ => hv.distancePair?_eq_some.trans hw.distancePair?_eq_some.symm

theorem distanceQuad?_congr (hv : v.Spells t a) (hw : w.Spells u a) :
    v.distanceQuad? = w.distanceQuad? :=
  Option.ext fun _ => hv.distanceQuad?_eq_some.trans hw.distanceQuad?_eq_some.symm

theorem distanceAnd?_congr (hv : v.Spells t a) (hw : w.Spells u a)
    (hs : ∀ x, s.distance? x = none) : v.distanceAnd? s = w.distanceAnd? s :=
  Option.ext fun _ => (hv.distanceAnd?_eq_some hs).trans (hw.distanceAnd?_eq_some hs).symm

theorem distanceAndTwo?_congr (hv : v.Spells t a) (hw : w.Spells u a)
    (hr : ∀ x, r.distance? x = none) : v.distanceAndTwo? r s = w.distanceAndTwo? r s :=
  Option.ext fun _ => (hv.distanceAndTwo?_eq_some hr).trans (hw.distanceAndTwo?_eq_some hr).symm

end Spells

/-! ### Shapes -/

/-- What a slot makes of a value that is none of its own, if it finds a shape in it. -/
def shape? (v : Loose) : Slot → Option Assignment
  | .padding => (Padding.ofShape? v).map .padding
  | .background => (Background.ofShape? v).map .background
  | .border => (Border.ofShape? v).map .border
  | .width => v.distance?.map .width
  | .height => v.distance?.map .height
  | .fillMaxWidth => v.fraction?.map .fillMaxWidth
  | .fillMaxHeight => v.fraction?.map .fillMaxHeight
  | .fillMaxSize => v.fraction?.map .fillMaxSize
  | .wrapContentSize => (WrapContent.ofShape? v).map .wrapContentSize
  | .size => (Size.ofShape? v).map .size
  | .focusable => (Focusable.ofShape? v).map .focusable
  | .onClick => (v.read? .clickHandler).map .onClick
  | .onKeyEvent => (v.read? .keyHandler).map .onKeyEvent
  | .onPointerEvent => (PointerInput.ofShape? v).map .onPointerEvent

theorem shape?_slot (v : Loose) (u : UnionSlot) :
    v.shape? u.slot = (u.ofShape? v).map u.assignment := by
  cases u <;> rfl

namespace Spells

variable {v w : Loose} {t u : Scalar} {a : Arrangement}

/-- A spelled value is none of a slot's own. -/
theorem own?_eq_none (h : v.Spells t a) (u : UnionSlot) : u.own? v = none := by
  obtain ⟨s, x, rfl⟩ | ⟨vs, rfl⟩ := h.eq_base_or_eq_tuple <;> cases u <;> rfl

/-- What is assigned of a spelled value is the shape found in it or else stands for nothing. -/
theorem exists_assignment_eq_getD (h : v.Spells t a) (slot : Slot) :
    ∃ rest, rest.op? = none ∧ v.assignment slot = (v.shape? slot).getD rest := by
  induction slot using UnionSlot.slot_cases with
  | union u =>
    refine ⟨u.assignment (u.unrecognized v), ?_, ?_⟩
    · rw [u.op?_assignment, u.resolve_unrecognized]
    · rw [u.assignment_ofLoose, u.ofLoose_eq, h.own?_eq_none, Option.getD_none, shape?_slot,
        Option.getD_map]
  | _ => exact ⟨.unusable _ _, rfl, rfl⟩

/-- In two spellings of an arrangement a slot finds the same shape. For fractions both have to spell
numbers. -/
theorem shape?_congr (hv : v.Spells t a) (hw : w.Spells u a) {slot : Slot}
    (hslot : slot.takesFraction → t ≠ .dp ∧ u ≠ .dp ∧ ∀ d ∈ a.distances, d.value.isNaN = false) :
    v.shape? slot = w.shape? slot := by
  have hfraction (h : slot.takesFraction) : v.fraction? = w.fraction? := by
    obtain ⟨ht, hu, hnan⟩ := hslot h
    rw [hv.fraction?_eq ht hnan, hw.fraction?_eq hu hnan]
  cases slot with
  | padding =>
    rw [shape?, shape?, Padding.ofShape?, Padding.ofShape?, hv.read?_congr hw fun _ => rfl,
      hv.distance?_congr hw, hv.distancePair?_congr hw, hv.distanceQuad?_congr hw]
  | background =>
    rw [shape?, shape?, Background.ofShape?, Background.ofShape?, hv.read?_congr hw fun _ => rfl,
      hv.readPair?_congr hw fun _ => rfl]
  | border =>
    rw [shape?, shape?, Border.ofShape?, Border.ofShape?, hv.read?_congr hw fun _ => rfl,
      hv.distanceAnd?_congr hw fun _ => rfl, hv.readPair?_congr hw fun _ => rfl,
      hv.distanceAndTwo?_congr hw fun _ => rfl, hv.distanceAndTwo?_congr hw fun _ => rfl]
  | width => rw [shape?, shape?, hv.distance?_congr hw]
  | height => rw [shape?, shape?, hv.distance?_congr hw]
  | fillMaxWidth => rw [shape?, shape?, hfraction rfl]
  | fillMaxHeight => rw [shape?, shape?, hfraction rfl]
  | fillMaxSize => rw [shape?, shape?, hfraction rfl]
  | wrapContentSize =>
    rw [shape?, shape?, WrapContent.ofShape?, WrapContent.ofShape?,
      hv.read?_congr hw fun _ => rfl, hv.read?_congr hw fun _ => rfl,
      hv.readPair?_congr hw fun _ => rfl]
  | size =>
    rw [shape?, shape?, Size.ofShape?, Size.ofShape?, hv.read?_congr hw fun _ => rfl,
      hv.distance?_congr hw, hv.distancePair?_congr hw]
  | focusable =>
    rw [shape?, shape?, Focusable.ofShape?, Focusable.ofShape?, hv.read?_congr hw fun _ => rfl,
      hv.read?_congr hw fun _ => rfl, hv.readPair?_congr hw fun _ => rfl]
  | onClick => rw [shape?, shape?, hv.read?_congr hw fun _ => rfl]
  | onKeyEvent => rw [shape?, shape?, hv.read?_congr hw fun _ => rfl]
  | onPointerEvent =>
    rw [shape?, shape?, PointerInput.ofShape?, PointerInput.ofShape?,
      hv.readPair?_congr hw fun _ => rfl, hv.readTriple?_congr hw fun _ => rfl]

/-- Two spellings of an arrangement are assigned alike: the same where a shape is found, and nothing
of use where none is. -/
theorem assignment_eq_or (hv : v.Spells t a) (hw : w.Spells u a) {slot : Slot}
    (hslot : slot.takesFraction → t ≠ .dp ∧ u ≠ .dp ∧ ∀ d ∈ a.distances, d.value.isNaN = false) :
    v.assignment slot = w.assignment slot ∨
      (v.assignment slot).op? = none ∧ (w.assignment slot).op? = none := by
  obtain ⟨x, hx, hvx⟩ := hv.exists_assignment_eq_getD slot
  obtain ⟨y, hy, hwy⟩ := hw.exists_assignment_eq_getD slot
  rw [hvx, hwy, hv.shape?_congr hw hslot]
  cases w.shape? slot with
  | none => exact .inr ⟨hx, hy⟩
  | some b => exact .inl rfl

end Spells

end Loose

/-- **A distance means the same in every scalar type.** Two values that spell one arrangement of
distances, each in its own scalar type, contribute the same to a scope in any state, and what a slot
accepts in one spelling it accepts in the other and records as the same. Fractions are spelled by
numbers only, and not by what is not a number. -/
theorem Scope.set_eq_of_spells {g : Group} (s : Scope g) (slot : Slot) {v w : Loose} {t u : Scalar}
    {a : Arrangement} (hv : v.Spells t a) (hw : w.Spells u a)
    (hslot : slot.takesFraction → t ≠ .dp ∧ u ≠ .dp ∧ ∀ d ∈ a.distances, d.value.isNaN = false) :
    (∃ ds, (s.set slot v).deltas = s.deltas ++ ds ∧ (s.set slot w).deltas = s.deltas ++ ds) ∧
      ∀ op, slot.Accepts v op → slot.Accepts w op ∧ s.set slot v = s.set slot w := by
  have h := hv.assignment_eq_or hw hslot
  constructor
  · have hdelta : (v.assignment slot).delta? = (w.assignment slot).delta? := by
      rcases h with h | ⟨hv', hw'⟩
      · rw [h]
      · rw [Assignment.delta?, Assignment.delta?, hv', hw']
        rfl
    by_cases own : slot.group = g
    · refine ⟨(w.assignment slot).delta?.toList, ?_, ?_⟩
      · rw [set_of_group_eq s own, deltas_assign, hdelta]
      · rw [set_of_group_eq s own, deltas_assign]
    · refine ⟨[], ?_, ?_⟩ <;> rw [set_of_group_ne s own, List.append_nil]
  · intro op hop
    have heq : v.assignment slot = w.assignment slot := by
      refine h.resolve_right fun hnone => ?_
      exact Option.some_ne_none op (hop.op?_assignment.symm.trans hnone.1)
    refine ⟨Slot.op?_assignment_eq_some_iff.mp (heq ▸ hop.op?_assignment), ?_⟩
    by_cases own : slot.group = g
    · simp only [set_of_group_eq s own, heq]
    · rw [set_of_group_ne s own, set_of_group_ne s own]

/-- A border of width two is the same by a number of the 32-bit format and by an integer, and so is
two as a fraction. -/
theorem Scope.set_eq_of_spells_two :
    let red : Color := .ofRGB 255 0 0
    let two : Loose := .base .float32 (.ofInt .single 2)
    let integer : Loose := .base .int32 2
    let appearance : Scope .appearance := .empty
    let size : Scope .size := .empty
    appearance.set .border (.tuple [two, .base .color red]) =
        appearance.set .border (.tuple [integer, .base .color red]) ∧
      size.set .fillMaxWidth two = size.set .fillMaxWidth integer := by
  intro red two integer appearance size
  have htwo : two.Denotes .float32 ⟨.ofInt .double 2⟩ := by
    have hwiden : (Binary.ofInt .single 2).convert .double = .ofInt .double 2 := by decide +kernel
    exact hwiden ▸ Loose.Denotes.float32 _
  have hinteger : integer.Denotes .int32 ⟨.ofInt .double 2⟩ := .int32 2
  have hcolor : ∀ r ∈ [Loose.base .color red], ∀ u e, ¬ r.Denotes u e := by
    intro r hr u e he
    obtain rfl := List.mem_singleton.mp hr
    cases he
  obtain ⟨-, hborder⟩ := appearance.set_eq_of_spells .border (.leading htwo hcolor)
    (.leading hinteger hcolor) fun h => by cases h
  obtain ⟨-, hfraction⟩ := size.set_eq_of_spells .fillMaxWidth (.single htwo) (.single hinteger)
    fun _ => ⟨by decide, by decide, fun d hd => by
      obtain rfl := List.mem_singleton.mp hd
      decide +kernel⟩
  exact ⟨(hborder _ (.borderWidthColor htwo red)).2, (hfraction _ (.fillMaxWidth (.float32 _))).2⟩

end StyleChain
