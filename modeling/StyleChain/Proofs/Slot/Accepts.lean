import Mathlib.Data.Option.Basic
import StyleChain.Proofs.Number.Nearest
import StyleChain.Proofs.Slot.Union
import StyleChain.Scope.Methods

/-!
# The values that slots accept

A slot finds out by itself what a loosely given value is, trying one shape after the other.
`Slot.Accepts` says the same without an order of trials: for each slot the shapes it accepts, and
for each shape the operation that it becomes. A shape fixes the type of every element, so no value
has two, and nothing else is accepted: `deltas_set_of_accepts_or_not` states that a value of an
accepted shape contributes its operation once, and that any other value contributes nothing.

Distances enter through `Loose.Denotes`, which names the scalar type a distance is given by.
Where a shape holds several distances, they share that type. Values are meant as they are held,
with nothing around them (`Loose.unwrap`); a wrapped value within a tuple keeps its own type, which
is the type of no element of a shape.

Each reader of a shape has one lemma that says when it succeeds (`distance?_eq_some_iff` and those
after it), and each slot that takes several shapes one lemma that takes its trials apart
(`Padding.accepts_of_ofShape?` and those after it). How trials stand to the slot's own values is the
same for all of them (`UnionSlot.accepts_of_resolve_ofLoose`).
-/

namespace StyleChain

/-! ### The grammar -/

/-- The types of which every value denotes a distance. -/
inductive Scalar where
  | dp
  | float64
  | float32
  | int32
deriving DecidableEq, Repr

/-- The value is of the given scalar type, and the distance is the one that it denotes: itself, or
as many pixels as the number says. -/
inductive Loose.Denotes : Loose → Scalar → Dp → Prop
  | dp (d : Dp) : Denotes (.base .dp d) .dp d
  | float64 (x : Binary64) : Denotes (.base .float64 x) .float64 ⟨x⟩
  | float32 (x : Binary32) : Denotes (.base .float32 x) .float32 ⟨x.convert .double⟩
  | int32 (i : Int32) : Denotes (.base .int32 i) .int32 ⟨.ofInt .double i.toInt⟩

/-- The fraction that a value denotes: a number of the 32-bit format is one, other numbers are
rounded to that format, and saying nothing means the whole. -/
inductive Loose.DenotesFraction : Loose → Binary32 → Prop
  | whole : DenotesFraction (.tuple []) (.one .single)
  | float32 (x : Binary32) : DenotesFraction (.base .float32 x) x
  | float64 (x : Binary64) : DenotesFraction (.base .float64 x) (x.convert .single)
  | int32 (i : Int32) :
      DenotesFraction (.base .int32 i) ((Binary.ofInt .double i.toInt).convert .single)

namespace Loose

/-- A 32-bit integer has few enough bits for the 64-bit format. -/
theorem natAbs_toInt_lt (i : Int32) : i.toInt.natAbs < 2 ^ (Format.double.fractionBits + 1) := by
  have hle := i.le_toInt
  have hlt := i.toInt_lt
  exact show i.toInt.natAbs < 2 ^ 53 by omega

/-- An integer denotes as many pixels as it says. -/
theorem Denotes.worth_int32 {i : Int32} {t : Scalar} {d : Dp}
    (h : (base .int32 i).Denotes t d) :
    d.value.isNaN = false ∧ d.value.worth = i.toInt * 2 ^ Format.double.unitBits := by
  cases h
  obtain ⟨hnan, -, hworth⟩ := Binary.worth_ofInt (natAbs_toInt_lt i) (by decide)
  exact ⟨hnan, hworth⟩

/-- So does a number of the 32-bit format. -/
theorem Denotes.worth_float32 {x : Binary32} {t : Scalar} {d : Dp}
    (h : (base .float32 x).Denotes t d) (hx : x.magnitude < Format.single.infinity) :
    d.value.worth * 2 ^ Format.single.unitBits = x.worth * 2 ^ Format.double.unitBits := by
  cases h
  exact Binary.worth_convert Format.single_embeds_double hx

/-- Saying nothing denotes the whole. -/
theorem DenotesFraction.worth_whole {x : Binary32} (h : (tuple []).DenotesFraction x) :
    x.worth = 2 ^ Format.single.unitBits := by
  cases h
  exact Binary.worth_one (by decide)

/-- A number of the 64-bit format denotes the nearest fraction. -/
theorem DenotesFraction.dist_float64_le {x : Binary64} {r y : Binary32}
    (h : (base .float64 x).DenotesFraction r) (hx : x.magnitude < Format.double.infinity)
    (hy : y.isNaN = false) :
    (r.worth * 2 ^ Format.double.unitBits - x.worth * 2 ^ Format.single.unitBits).natAbs ≤
      (y.worth * 2 ^ Format.double.unitBits - x.worth * 2 ^ Format.single.unitBits).natAbs := by
  cases h
  exact Binary.dist_convert_le (by decide) hx hy

/-- An integer denotes the nearest fraction. -/
theorem DenotesFraction.dist_int32_le {i : Int32} {r y : Binary32}
    (h : (base .int32 i).DenotesFraction r) (hy : y.isNaN = false) :
    (r.worth - i.toInt * 2 ^ Format.single.unitBits).natAbs ≤
      (y.worth - i.toInt * 2 ^ Format.single.unitBits).natAbs := by
  cases h
  exact Binary.dist_convert_ofInt_le (natAbs_toInt_lt i) (by decide) (by decide) hy

end Loose

/-- The slot accepts the value, which becomes the operation. -/
inductive Slot.Accepts : Slot → Loose → Op → Prop
  | paddingValues (e : Edges) : Accepts .padding (.base .edges e) (.paddingValues e)
  | paddingAll {v : Loose} {t : Scalar} {d : Dp} (h : v.Denotes t d) :
      Accepts .padding v (.paddingAll d)
  | paddingSymmetric {v w : Loose} {t : Scalar} {d e : Dp} (hv : v.Denotes t d)
      (hw : w.Denotes t e) : Accepts .padding (.tuple [v, w]) (.paddingSymmetric d e)
  | paddingEach {v₁ v₂ v₃ v₄ : Loose} {t : Scalar} {d₁ d₂ d₃ d₄ : Dp} (h₁ : v₁.Denotes t d₁)
      (h₂ : v₂.Denotes t d₂) (h₃ : v₃.Denotes t d₃) (h₄ : v₄.Denotes t d₄) :
      Accepts .padding (.tuple [v₁, v₂, v₃, v₄]) (.paddingEach d₁ d₂ d₃ d₄)
  | padding {v : SlotValue.Padding Loose} {op : Op} (h : v.resolve = some op) :
      Accepts .padding (.padding v) op
  | backgroundColor (c : Color) : Accepts .background (.base .color c) (.background c)
  | backgroundShaped (c : Color) (s : Shape) :
      Accepts .background (.tuple [.base .color c, .base .shape s]) (.backgroundShaped c s)
  | background {v : SlotValue.Background Loose} {op : Op} (h : v.resolve = some op) :
      Accepts .background (.background v) op
  | borderStroke (s : Stroke) :
      Accepts .border (.base .stroke s) (.border s.width s.brush .rectangle)
  | borderWidthColor {v : Loose} {t : Scalar} {d : Dp} (h : v.Denotes t d) (c : Color) :
      Accepts .border (.tuple [v, .base .color c]) (.border d (.solid c) .rectangle)
  | borderStrokeShape (s : Stroke) (shape : Shape) :
      Accepts .border (.tuple [.base .stroke s, .base .shape shape])
        (.border s.width s.brush shape)
  | borderWidthColorShape {v : Loose} {t : Scalar} {d : Dp} (h : v.Denotes t d) (c : Color)
      (shape : Shape) :
      Accepts .border (.tuple [v, .base .color c, .base .shape shape])
        (.border d (.solid c) shape)
  | borderWidthBrushShape {v : Loose} {t : Scalar} {d : Dp} (h : v.Denotes t d) (b : Brush)
      (shape : Shape) :
      Accepts .border (.tuple [v, .base .brush b, .base .shape shape]) (.border d b shape)
  | border {v : SlotValue.Border Loose} {op : Op} (h : v.resolve = some op) :
      Accepts .border (.border v) op
  | width {v : Loose} {t : Scalar} {d : Dp} (h : v.Denotes t d) : Accepts .width v (.width d)
  | height {v : Loose} {t : Scalar} {d : Dp} (h : v.Denotes t d) : Accepts .height v (.height d)
  | fillMaxWidth {v : Loose} {x : Binary32} (h : v.DenotesFraction x) :
      Accepts .fillMaxWidth v (.fillMaxWidth x)
  | fillMaxHeight {v : Loose} {x : Binary32} (h : v.DenotesFraction x) :
      Accepts .fillMaxHeight v (.fillMaxHeight x)
  | fillMaxSize {v : Loose} {x : Binary32} (h : v.DenotesFraction x) :
      Accepts .fillMaxSize v (.fillMaxSize x)
  | wrapContentAlign (a : Alignment) :
      Accepts .wrapContentSize (.base .alignment a) (.wrapContentSize a false)
  | wrapContentUnbounded (b : Bool) :
      Accepts .wrapContentSize (.base .bool b) (.wrapContentSize .center b)
  | wrapContentAlignUnbounded (a : Alignment) (b : Bool) :
      Accepts .wrapContentSize (.tuple [.base .alignment a, .base .bool b]) (.wrapContentSize a b)
  | wrapContent {v : SlotValue.WrapContent Loose} {op : Op} (h : v.resolve = some op) :
      Accepts .wrapContentSize (.wrapContent v) op
  | sizeExtent (e : Extent) : Accepts .size (.base .extent e) (.size e)
  | sizeSquare {v : Loose} {t : Scalar} {d : Dp} (h : v.Denotes t d) :
      Accepts .size v (.size ⟨d, d⟩)
  | sizeWidthHeight {v w : Loose} {t : Scalar} {d e : Dp} (hv : v.Denotes t d)
      (hw : w.Denotes t e) : Accepts .size (.tuple [v, w]) (.size ⟨d, e⟩)
  | size {v : SlotValue.Size Loose} {op : Op} (h : v.resolve = some op) :
      Accepts .size (.size v) op
  | focusableEnabled (b : Bool) : Accepts .focusable (.base .bool b) (.focusable b none)
  | focusableSource (s : InteractionSource) :
      Accepts .focusable (.base .source s) (.focusable true (some s))
  | focusableEnabledSource (b : Bool) (s : InteractionSource) :
      Accepts .focusable (.tuple [.base .bool b, .base .source s]) (.focusable b (some s))
  | focusable {v : SlotValue.Focusable Loose} {op : Op} (h : v.resolve = some op) :
      Accepts .focusable (.focusable v) op
  | onClick (h : ClickHandler) : Accepts .onClick (.base .clickHandler h) (.clickable h)
  | onKeyEvent (h : KeyHandler) : Accepts .onKeyEvent (.base .keyHandler h) (.keyEvent h)
  | pointerHandler (type : PointerEventType) (h : PointerHandler) :
      Accepts .onPointerEvent (.tuple [.base .eventType type, .base .pointerHandler h])
        (.pointerInput type .main h)
  | pointerPassHandler (type : PointerEventType) (pass : PointerEventPass) (h : PointerHandler) :
      Accepts .onPointerEvent
        (.tuple [.base .eventType type, .base .eventPass pass, .base .pointerHandler h])
        (.pointerInput type pass h)
  | pointerInput {v : SlotValue.PointerInput Loose} {op : Op} (h : v.resolve = some op) :
      Accepts .onPointerEvent (.pointerInput v) op

/-! ### When each reader succeeds -/

namespace Loose

theorem readPair?_eq_some_iff {s t : BaseType} {l : Loose} {p : s.Carrier × t.Carrier} :
    l.readPair? s t = some p ↔ l = .tuple [.base s p.1, .base t p.2] := by
  constructor
  · intro h
    unfold readPair? at h
    split at h
    · simp only [Option.pure_def, Option.bind_eq_bind, Option.bind_eq_some_iff,
        Option.some.injEq, read?_eq_some_iff] at h
      obtain ⟨x, rfl, y, rfl, rfl⟩ := h
      rfl
    · cases h
  · rintro rfl
    simp [readPair?]

theorem readTriple?_eq_some_iff {s t u : BaseType} {l : Loose}
    {p : s.Carrier × t.Carrier × u.Carrier} :
    l.readTriple? s t u = some p ↔ l = .tuple [.base s p.1, .base t p.2.1, .base u p.2.2] := by
  constructor
  · intro h
    unfold readTriple? at h
    split at h
    · simp only [Option.pure_def, Option.bind_eq_bind, Option.bind_eq_some_iff,
        Option.some.injEq, read?_eq_some_iff] at h
      obtain ⟨x, rfl, y, rfl, z, rfl, rfl⟩ := h
      rfl
    · cases h
  · rintro rfl
    simp [readTriple?]

/-- A distance is read from exactly the values that denote it. -/
theorem distance?_eq_some_iff {v : Loose} {d : Dp} :
    v.distance? = some d ↔ ∃ t, v.Denotes t d := by
  constructor
  · intro h
    cases v with
    | base t x =>
      cases t with
      | dp => cases h; exact ⟨_, .dp d⟩
      | float64 => cases h; exact ⟨_, .float64 x⟩
      | float32 => cases h; exact ⟨_, .float32 x⟩
      | int32 => cases h; exact ⟨_, .int32 x⟩
      | _ => cases h
    | _ => cases h
  · rintro ⟨t, h⟩
    cases h <;> rfl

theorem fraction?_eq_some_iff {v : Loose} {x : Binary32} :
    v.fraction? = some x ↔ v.DenotesFraction x := by
  constructor
  · intro h
    unfold fraction? at h
    split at h
    · cases h; exact .whole
    · cases h; exact .float32 _
    · cases h; exact .float64 _
    · cases h; exact .int32 _
    · cases h
  · intro h
    cases h <;> rfl

/-- Values that denote distances are of one type exactly when their scalar types agree. -/
theorem Denotes.type_eq_iff {v w : Loose} {t u : Scalar} {d e : Dp} (hv : v.Denotes t d)
    (hw : w.Denotes u e) : v.type = w.type ↔ t = u := by
  cases hv <;> cases hw <;> simp [type]

theorem distancePair?_eq_some_iff {l : Loose} {d e : Dp} :
    l.distancePair? = some (d, e) ↔
      ∃ t v w, l = .tuple [v, w] ∧ v.Denotes t d ∧ w.Denotes t e := by
  constructor
  · intro h
    unfold distancePair? at h
    split at h
    · next v w =>
      split at h
      · next htype =>
        simp only [Option.pure_def, Option.bind_eq_bind, Option.bind_eq_some_iff,
          Option.some.injEq, distance?_eq_some_iff, Prod.mk.injEq] at h
        obtain ⟨_, ⟨t, hv⟩, _, ⟨u, hw⟩, rfl, rfl⟩ := h
        obtain rfl := (hv.type_eq_iff hw).mp htype
        exact ⟨t, v, w, rfl, hv, hw⟩
      · cases h
    · cases h
  · rintro ⟨t, v, w, rfl, hv, hw⟩
    have htype := (hv.type_eq_iff hw).mpr rfl
    have hd := distance?_eq_some_iff.mpr ⟨t, hv⟩
    have he := distance?_eq_some_iff.mpr ⟨t, hw⟩
    simp [distancePair?, htype, hd, he]

theorem distanceQuad?_eq_some_iff {l : Loose} {d₁ d₂ d₃ d₄ : Dp} :
    l.distanceQuad? = some (d₁, d₂, d₃, d₄) ↔
      ∃ t v₁ v₂ v₃ v₄, l = .tuple [v₁, v₂, v₃, v₄] ∧ v₁.Denotes t d₁ ∧ v₂.Denotes t d₂ ∧
        v₃.Denotes t d₃ ∧ v₄.Denotes t d₄ := by
  constructor
  · intro h
    unfold distanceQuad? at h
    split at h
    · next v₁ v₂ v₃ v₄ =>
      split at h
      · next htype =>
        simp only [Option.pure_def, Option.bind_eq_bind, Option.bind_eq_some_iff,
          Option.some.injEq, distance?_eq_some_iff, Prod.mk.injEq] at h
        obtain ⟨_, ⟨t₁, h₁⟩, _, ⟨t₂, h₂⟩, _, ⟨t₃, h₃⟩, _, ⟨t₄, h₄⟩, rfl, rfl, rfl, rfl⟩ := h
        -- the types are compared pairwise, so the four scalar types become one after another
        obtain ⟨h₁₂, h₂₃, h₃₄⟩ := htype
        obtain rfl := (h₁.type_eq_iff h₂).mp h₁₂
        obtain rfl := (h₂.type_eq_iff h₃).mp h₂₃
        obtain rfl := (h₃.type_eq_iff h₄).mp h₃₄
        exact ⟨_, v₁, v₂, v₃, v₄, rfl, h₁, h₂, h₃, h₄⟩
      · cases h
    · cases h
  · rintro ⟨t, v₁, v₂, v₃, v₄, rfl, h₁, h₂, h₃, h₄⟩
    have htype₁₂ := (h₁.type_eq_iff h₂).mpr rfl
    have htype₂₃ := (h₂.type_eq_iff h₃).mpr rfl
    have htype₃₄ := (h₃.type_eq_iff h₄).mpr rfl
    have hd₁ := distance?_eq_some_iff.mpr ⟨t, h₁⟩
    have hd₂ := distance?_eq_some_iff.mpr ⟨t, h₂⟩
    have hd₃ := distance?_eq_some_iff.mpr ⟨t, h₃⟩
    have hd₄ := distance?_eq_some_iff.mpr ⟨t, h₄⟩
    simp [distanceQuad?, htype₁₂, htype₂₃, htype₃₄, hd₁, hd₂, hd₃, hd₄]

theorem distanceAnd?_eq_some_iff {t : BaseType} {l : Loose} {d : Dp} {x : t.Carrier} :
    l.distanceAnd? t = some (d, x) ↔ ∃ s v, l = .tuple [v, .base t x] ∧ v.Denotes s d := by
  constructor
  · intro h
    unfold distanceAnd? at h
    split at h
    · simp only [Option.pure_def, Option.bind_eq_bind, Option.bind_eq_some_iff,
        Option.some.injEq, distance?_eq_some_iff, read?_eq_some_iff, Prod.mk.injEq] at h
      obtain ⟨_, ⟨s, hv⟩, _, rfl, rfl, rfl⟩ := h
      exact ⟨s, _, rfl, hv⟩
    · cases h
  · rintro ⟨s, v, rfl, hv⟩
    have hd := distance?_eq_some_iff.mpr ⟨s, hv⟩
    simp [distanceAnd?, hd]

theorem distanceAndTwo?_eq_some_iff {t u : BaseType} {l : Loose} {d : Dp} {x : t.Carrier}
    {y : u.Carrier} :
    l.distanceAndTwo? t u = some (d, x, y) ↔
      ∃ s v, l = .tuple [v, .base t x, .base u y] ∧ v.Denotes s d := by
  constructor
  · intro h
    unfold distanceAndTwo? at h
    split at h
    · simp only [Option.pure_def, Option.bind_eq_bind, Option.bind_eq_some_iff,
        Option.some.injEq, distance?_eq_some_iff, read?_eq_some_iff, Prod.mk.injEq] at h
      obtain ⟨_, ⟨s, hv⟩, _, rfl, _, rfl, rfl, rfl, rfl⟩ := h
      exact ⟨s, _, rfl, hv⟩
    · cases h
  · rintro ⟨s, v, rfl, hv⟩
    have hd := distance?_eq_some_iff.mpr ⟨s, hv⟩
    simp [distanceAndTwo?, hd]

end Loose

/-! ### What each slot makes of a value -/

namespace SlotValue

theorem Padding.accepts_of_ofShape? {l : Loose} {v : Padding Loose} {op : Op}
    (hv : ofShape? l = some v) (hop : v.resolve = some op) : Slot.Accepts .padding l op := by
  simp only [ofShape?, Option.orElse_eq_some, Option.map_eq_map, Option.map_eq_some_iff,
    Prod.exists] at hv
  obtain ⟨e, he, rfl⟩ | ⟨-, ⟨d, hd, rfl⟩ | ⟨-, ⟨d, e, hde, rfl⟩ |
    ⟨-, d₁, d₂, d₃, d₄, hd, rfl⟩⟩⟩ := hv
  · cases hop
    obtain rfl := Loose.read?_eq_some_iff.mp he
    exact .paddingValues e
  · cases hop
    obtain ⟨t, ht⟩ := Loose.distance?_eq_some_iff.mp hd
    exact .paddingAll ht
  · cases hop
    obtain ⟨t, v, w, rfl, hv, hw⟩ := Loose.distancePair?_eq_some_iff.mp hde
    exact .paddingSymmetric hv hw
  · cases hop
    obtain ⟨t, v₁, v₂, v₃, v₄, rfl, h₁, h₂, h₃, h₄⟩ := Loose.distanceQuad?_eq_some_iff.mp hd
    exact .paddingEach h₁ h₂ h₃ h₄

theorem Background.accepts_of_ofShape? {l : Loose} {v : Background Loose} {op : Op}
    (hv : ofShape? l = some v) (hop : v.resolve = some op) : Slot.Accepts .background l op := by
  simp only [ofShape?, Option.orElse_eq_some, Option.map_eq_map, Option.map_eq_some_iff,
    Prod.exists] at hv
  obtain ⟨c, hc, rfl⟩ | ⟨-, c, s, hcs, rfl⟩ := hv
  · cases hop
    obtain rfl := Loose.read?_eq_some_iff.mp hc
    exact .backgroundColor c
  · cases hop
    obtain rfl := Loose.readPair?_eq_some_iff.mp hcs
    exact .backgroundShaped c s

theorem Border.accepts_of_ofShape? {l : Loose} {v : Border Loose} {op : Op}
    (hv : ofShape? l = some v) (hop : v.resolve = some op) : Slot.Accepts .border l op := by
  simp only [ofShape?, Option.orElse_eq_some, Option.map_eq_map, Option.map_eq_some_iff,
    Prod.exists] at hv
  obtain ⟨s, hs, rfl⟩ | ⟨-, ⟨w, c, hwc, rfl⟩ | ⟨-, ⟨s, shape, hs, rfl⟩ |
    ⟨-, ⟨w, c, shape, hwc, rfl⟩ | ⟨-, w, b, shape, hwb, rfl⟩⟩⟩⟩ := hv
  · cases hop
    obtain rfl := Loose.read?_eq_some_iff.mp hs
    exact .borderStroke s
  · cases hop
    obtain ⟨t, v, rfl, hv⟩ := Loose.distanceAnd?_eq_some_iff.mp hwc
    exact .borderWidthColor hv c
  · cases hop
    obtain rfl := Loose.readPair?_eq_some_iff.mp hs
    exact .borderStrokeShape s shape
  · cases hop
    obtain ⟨t, v, rfl, hv⟩ := Loose.distanceAndTwo?_eq_some_iff.mp hwc
    exact .borderWidthColorShape hv c shape
  · cases hop
    obtain ⟨t, v, rfl, hv⟩ := Loose.distanceAndTwo?_eq_some_iff.mp hwb
    exact .borderWidthBrushShape hv b shape

theorem WrapContent.accepts_of_ofShape? {l : Loose} {v : WrapContent Loose} {op : Op}
    (hv : ofShape? l = some v) (hop : v.resolve = some op) :
    Slot.Accepts .wrapContentSize l op := by
  simp only [ofShape?, Option.orElse_eq_some, Option.map_eq_map, Option.map_eq_some_iff,
    Prod.exists] at hv
  obtain ⟨a, ha, rfl⟩ | ⟨-, ⟨b, hb, rfl⟩ | ⟨-, a, b, hab, rfl⟩⟩ := hv
  · cases hop
    obtain rfl := Loose.read?_eq_some_iff.mp ha
    exact .wrapContentAlign a
  · cases hop
    obtain rfl := Loose.read?_eq_some_iff.mp hb
    exact .wrapContentUnbounded b
  · cases hop
    obtain rfl := Loose.readPair?_eq_some_iff.mp hab
    exact .wrapContentAlignUnbounded a b

theorem Size.accepts_of_ofShape? {l : Loose} {v : Size Loose} {op : Op}
    (hv : ofShape? l = some v) (hop : v.resolve = some op) : Slot.Accepts .size l op := by
  simp only [ofShape?, Option.orElse_eq_some, Option.map_eq_map, Option.map_eq_some_iff,
    Prod.exists] at hv
  obtain ⟨e, he, rfl⟩ | ⟨-, ⟨d, hd, rfl⟩ | ⟨-, d, e, hde, rfl⟩⟩ := hv
  · cases hop
    obtain rfl := Loose.read?_eq_some_iff.mp he
    exact .sizeExtent e
  · cases hop
    obtain ⟨t, ht⟩ := Loose.distance?_eq_some_iff.mp hd
    exact .sizeSquare ht
  · cases hop
    obtain ⟨t, v, w, rfl, hv, hw⟩ := Loose.distancePair?_eq_some_iff.mp hde
    exact .sizeWidthHeight hv hw

theorem Focusable.accepts_of_ofShape? {l : Loose} {v : Focusable Loose} {op : Op}
    (hv : ofShape? l = some v) (hop : v.resolve = some op) : Slot.Accepts .focusable l op := by
  simp only [ofShape?, Option.orElse_eq_some, Option.map_eq_map, Option.map_eq_some_iff,
    Prod.exists] at hv
  obtain ⟨b, hb, rfl⟩ | ⟨-, ⟨s, hs, rfl⟩ | ⟨-, b, s, hbs, rfl⟩⟩ := hv
  · cases hop
    obtain rfl := Loose.read?_eq_some_iff.mp hb
    exact .focusableEnabled b
  · cases hop
    obtain rfl := Loose.read?_eq_some_iff.mp hs
    exact .focusableSource s
  · cases hop
    obtain rfl := Loose.readPair?_eq_some_iff.mp hbs
    exact .focusableEnabledSource b s

theorem PointerInput.accepts_of_ofShape? {l : Loose} {v : PointerInput Loose} {op : Op}
    (hv : ofShape? l = some v) (hop : v.resolve = some op) : Slot.Accepts .onPointerEvent l op := by
  simp only [ofShape?, Option.orElse_eq_some, Option.map_eq_map, Option.map_eq_some_iff,
    Prod.exists] at hv
  obtain ⟨type, handler, hth, rfl⟩ | ⟨-, type, pass, handler, hth, rfl⟩ := hv
  · cases hop
    obtain rfl := Loose.readPair?_eq_some_iff.mp hth
    exact .pointerHandler type handler
  · cases hop
    obtain rfl := Loose.readTriple?_eq_some_iff.mp hth
    exact .pointerPassHandler type pass handler

end SlotValue

namespace UnionSlot

variable {u : UnionSlot} {l : Loose} {op : Op}

/-- A slot accepts its own values. -/
theorem accepts_toLoose {x : u.Value} (h : u.resolve x = some op) :
    u.slot.Accepts (u.toLoose x) op := by
  cases u with
  | padding => exact .padding h
  | background => exact .background h
  | border => exact .border h
  | wrapContentSize => exact .wrapContent h
  | size => exact .size h
  | focusable => exact .focusable h
  | onPointerEvent => exact .pointerInput h

/-- A slot accepts the values of its shapes. -/
theorem accepts_of_ofShape? {x : u.Value} (hx : u.ofShape? l = some x)
    (h : u.resolve x = some op) : u.slot.Accepts l op := by
  cases u with
  | padding => exact SlotValue.Padding.accepts_of_ofShape? hx h
  | background => exact SlotValue.Background.accepts_of_ofShape? hx h
  | border => exact SlotValue.Border.accepts_of_ofShape? hx h
  | wrapContentSize => exact SlotValue.WrapContent.accepts_of_ofShape? hx h
  | size => exact SlotValue.Size.accepts_of_ofShape? hx h
  | focusable => exact SlotValue.Focusable.accepts_of_ofShape? hx h
  | onPointerEvent => exact SlotValue.PointerInput.accepts_of_ofShape? hx h

/-- A value that is classified as one that stands for an operation is the slot's own or of one of
its shapes. -/
theorem accepts_of_resolve_ofLoose (h : u.resolve (u.ofLoose l) = some op) :
    u.slot.Accepts l op := by
  rw [ofLoose_eq] at h
  cases hown : u.own? l with
  | some x =>
    rw [hown, Option.getD_some] at h
    obtain rfl := own?_eq_some_iff.mp hown
    exact accepts_toLoose h
  | none =>
    rw [hown, Option.getD_none] at h
    cases hshape : u.ofShape? l with
    | some x =>
      rw [hshape, Option.getD_some] at h
      exact accepts_of_ofShape? hshape h
    | none =>
      rw [hshape, Option.getD_none, u.resolve_unrecognized] at h
      cases h

end UnionSlot

namespace Slot

/-- A value of an accepted shape makes an assignment that stands for the shape's operation. The
shapes are told apart by the types of their elements, so every earlier trial fails. -/
theorem Accepts.op?_assignment {slot : Slot} {v : Loose} {op : Op} (h : slot.Accepts v op) :
    (v.assignment slot).op? = some op := by
  cases h with
  | paddingAll h | sizeSquare h | width h | height h | borderWidthColor h c
  | borderWidthColorShape h c s | borderWidthBrushShape h b s => cases h <;> rfl
  | paddingSymmetric hv hw | sizeWidthHeight hv hw => cases hv <;> cases hw <;> rfl
  | paddingEach h₁ h₂ h₃ h₄ => cases h₁ <;> cases h₂ <;> cases h₃ <;> cases h₄ <;> rfl
  | fillMaxWidth h | fillMaxHeight h | fillMaxSize h => cases h <;> rfl
  | padding h | background h | border h | wrapContent h | size h | focusable h
  | pointerInput h => exact h
  | _ => rfl

/-- A value of a slot that takes one sort of value stands for an operation only if it was read. -/
private theorem exists_read {α : Type} {read : Option α} {f : α → Assignment} {slot : Slot}
    {v : Loose} {op : Op} (h : ((read.map f).getD (.unusable slot v)).op? = some op) :
    ∃ a, read = some a ∧ (f a).op? = some op := by
  cases read with
  | none => cases h
  | some a => exact ⟨a, rfl, h⟩

/-- An assignment of a loosely given value stands for an operation only if the slot accepts the
value. -/
theorem accepts_of_op?_assignment {slot : Slot} {v : Loose} {op : Op}
    (h : (v.assignment slot).op? = some op) : slot.Accepts v op := by
  induction slot using UnionSlot.slot_cases with
  | union u =>
    rw [u.assignment_ofLoose, u.op?_assignment] at h
    exact UnionSlot.accepts_of_resolve_ofLoose h
  | width =>
    obtain ⟨d, hd, hop⟩ := exists_read h
    obtain ⟨t, ht⟩ := Loose.distance?_eq_some_iff.mp hd
    cases hop
    exact .width ht
  | height =>
    obtain ⟨d, hd, hop⟩ := exists_read h
    obtain ⟨t, ht⟩ := Loose.distance?_eq_some_iff.mp hd
    cases hop
    exact .height ht
  | fillMaxWidth =>
    obtain ⟨x, hx, hop⟩ := exists_read h
    cases hop
    exact .fillMaxWidth (Loose.fraction?_eq_some_iff.mp hx)
  | fillMaxHeight =>
    obtain ⟨x, hx, hop⟩ := exists_read h
    cases hop
    exact .fillMaxHeight (Loose.fraction?_eq_some_iff.mp hx)
  | fillMaxSize =>
    obtain ⟨x, hx, hop⟩ := exists_read h
    cases hop
    exact .fillMaxSize (Loose.fraction?_eq_some_iff.mp hx)
  | onClick =>
    obtain ⟨handler, hh, hop⟩ := exists_read h
    obtain rfl := Loose.read?_eq_some_iff.mp hh
    cases hop
    exact .onClick handler
  | onKeyEvent =>
    obtain ⟨handler, hh, hop⟩ := exists_read h
    obtain rfl := Loose.read?_eq_some_iff.mp hh
    cases hop
    exact .onKeyEvent handler

theorem op?_assignment_eq_some_iff {slot : Slot} {v : Loose} {op : Op} :
    (v.assignment slot).op? = some op ↔ slot.Accepts v op :=
  ⟨accepts_of_op?_assignment, Accepts.op?_assignment⟩

/-- Two distances given by different types are no pair of distances. -/
example :
    ((Loose.tuple [.base .float64 (.zero _), .base .int32 2]).assignment .padding).op? = none :=
  rfl

end Slot

/-- **Slots accept exactly their grammar.** Given to the scope that owns the slot, a value that the
slot accepts contributes the operation it becomes, once and behind all earlier contributions, and
a value that the slot accepts as nothing contributes nothing. -/
theorem Scope.deltas_set_of_accepts_or_not (slot : Slot) (v : Loose) (s : Scope slot.group) :
    (∀ op, slot.Accepts v op → (s.set slot v).deltas = s.deltas ++ [⟨slot, op⟩]) ∧
      ((∀ op, ¬ slot.Accepts v op) → (s.set slot v).deltas = s.deltas) := by
  rw [set_of_group_eq s rfl, deltas_assign]
  constructor
  · intro op h
    have hop := h.op?_assignment
    simp [Assignment.delta?, hop]
  · intro h
    have hnone : (v.assignment slot).op? = none :=
      Option.eq_none_iff_forall_ne_some.mpr fun op hop => h op (Slot.accepts_of_op?_assignment hop)
    simp [Assignment.delta?, hnone]

end StyleChain
