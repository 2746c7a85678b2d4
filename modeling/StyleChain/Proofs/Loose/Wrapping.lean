import StyleChain.Proofs.Slot.Accepts
import StyleChain.Proofs.Slot.Union

/-!
# Values given loosely more than once

Giving a value loosely looks for one wrapping only (`Loose.give`). That no more is needed depends on
what can be met: a loosely given value comes from giving something, it may then be put into a tuple,
kept by a slot that does not recognize it, or given again, and nothing else puts one value around
another. `Loose.Made` and `Loose.Given` say so for values at large and for what is held by loosely
given ones. By induction on how it was made, what is held is never itself a loosely given value
(`Given.isWrapped_eq_false`). So one step is enough, and `Loose.unwrap`, which takes any number,
does the same on every value that can be met (`Made.unwrap_eq_give`).

Classification keeps to this: what a slot keeps because it does not recognize it was given
(`Given.of_ofLoose_eq_unrecognized`), and to classify once more changes nothing, since a slot takes
its own values as they are and no other slot has a shape for them.
-/

namespace StyleChain

namespace Loose

/-! ### Values that can be met -/

mutual

/-- The value can be made: whatever was given loosely within it has been given. -/
inductive Made : Loose → Prop
  /-- Values of base types hold nothing that was given loosely. -/
  | base (t : BaseType) (v : t.Carrier) : Made (.base t v)
  /-- A value of a slot holds what the slot did not recognize, if anything. -/
  | ofSlot (u : UnionSlot) (x : u.Value) {v : Loose} (hv : v = u.toLoose x)
      (h : ∀ r, x = u.unrecognized r → Given r) : Made v
  /-- A tuple holds its elements. -/
  | tuple {vs : List Loose} (h : ∀ v ∈ vs, Made v) : Made (.tuple vs)
  /-- A loosely given value is a value too. -/
  | wrapped {r : Loose} (h : Given r) : Made (.wrapped r)

/-- The value is what a loosely given value holds. -/
inductive Given : Loose → Prop
  /-- A value that can be made was given loosely. -/
  | give {v : Loose} (h : Made v) : Given v.give

end

/-- A value of a slot is not a loosely given value. -/
theorem isWrapped_toLoose (u : UnionSlot) (x : u.Value) : (u.toLoose x).isWrapped = false := by
  cases u <;> rfl

/-- What a loosely given value holds is not a loosely given value. -/
theorem Given.isWrapped_eq_false : ∀ {r : Loose}, Given r → r.isWrapped = false
  | _, .give (.base _ _) => rfl
  | _, .give (.ofSlot u x hv _) => by
    have hslot : (u.toLoose x).isWrapped = false := isWrapped_toLoose u x
    rw [hv, give_of_not_isWrapped hslot, hslot]
  | _, .give (.tuple _) => rfl
  | _, .give (.wrapped h) => h.isWrapped_eq_false

/-- The type of a value tells whether it is a loosely given value. -/
theorem type_eq_loose_iff {v : Loose} : v.type = .loose ↔ v.isWrapped := by
  cases v <;> simp [type, isWrapped]

/-- What is held can be made: it is what was given, or what that held. -/
theorem Given.made : ∀ {r : Loose}, Given r → Made r
  | _, .give (.base t v) => .base t v
  | _, .give (.ofSlot u x hv h) => by
    rw [hv, give_of_not_isWrapped (isWrapped_toLoose u x)]
    exact .ofSlot u x rfl h
  | _, .give (.tuple h) => .tuple h
  | _, .give (.wrapped h) => h.made

/-- On values that can be met, taking off one wrapping is taking off all. -/
theorem Made.unwrap_eq_give {v : Loose} (h : Made v) : v.unwrap = v.give := by
  cases h with
  | base t v => rfl
  | ofSlot u x hv h =>
    have hslot : (u.toLoose x).isWrapped = false := isWrapped_toLoose u x
    rw [hv, unwrap_of_not_isWrapped hslot, give_of_not_isWrapped hslot]
  | tuple h => rfl
  | wrapped h => exact unwrap_of_not_isWrapped h.isWrapped_eq_false

/-- A value of a slot that can be made keeps nothing unrecognized but what was given. -/
theorem Made.given_of_unrecognized {u : UnionSlot} {r : Loose}
    (h : Made (u.toLoose (u.unrecognized r))) : Given r := by
  generalize hv : u.toLoose (u.unrecognized r) = v at h
  cases h with
  | ofSlot w x hw h =>
    -- the slot and its value can be read off the value given loosely
    obtain rfl : u = w := UnionSlot.eq_of_toLoose_eq (hv.trans hw)
    exact h r (u.toLoose_injective (hv.trans hw)).symm
  | base t x => cases u <;> cases hv
  | tuple h => cases u <;> cases hv
  | wrapped h => cases u <;> cases hv

/-- What a slot keeps of a given value because it does not recognize it was given. -/
theorem Given.of_ofLoose_eq_unrecognized {u : UnionSlot} {r kept : Loose} (hr : Given r)
    (h : u.ofLoose r = u.unrecognized kept) : Given kept := by
  obtain rfl | rfl := UnionSlot.eq_of_ofLoose_eq_unrecognized h
  · exact hr
  · exact hr.made.given_of_unrecognized

/-! ### Giving again -/

/-- What is held when a value is given loosely, and the outcome given loosely `n` times more. -/
def giveAgain (v : Loose) : Nat → Loose
  | 0 => v.give
  | n + 1 => (wrapped (v.giveAgain n)).give

/-- However often a value is given, the outcome is the same as after the first time. -/
theorem giveAgain_eq_give (v : Loose) (n : Nat) : v.giveAgain n = v.give := by
  induction n with
  | zero => rfl
  | succ n ih => rw [giveAgain, ih, give_wrapped]

theorem give_toLoose (u : UnionSlot) (x : u.Value) : (u.toLoose x).give = u.toLoose x :=
  give_of_not_isWrapped (isWrapped_toLoose u x)

end Loose

/-! ### Slots -/

/-- Distances are not loosely given values. -/
theorem Loose.Denotes.isWrapped_eq_false {v : Loose} {t : Scalar} {d : Dp} (h : v.Denotes t d) :
    v.isWrapped = false := by
  cases h <;> rfl

/-- No tuple that a slot accepts has a loosely given value in it. -/
theorem Slot.Accepts.isWrapped_eq_false_of_mem {slot : Slot} {vs : List Loose} {op : Op}
    (h : slot.Accepts (.tuple vs) op) : ∀ v ∈ vs, v.isWrapped = false := by
  generalize htuple : Loose.tuple vs = l at h
  cases h with
  | paddingAll h | sizeSquare h | width h | height h => cases h <;> cases htuple
  | fillMaxWidth h | fillMaxHeight h | fillMaxSize h =>
    -- nothing said is the one fraction that is a tuple, and it has no elements
    cases h <;> cases htuple
    simp
  | paddingSymmetric h₁ h₂ | sizeWidthHeight h₁ h₂ =>
    cases htuple
    simp [h₁.isWrapped_eq_false, h₂.isWrapped_eq_false]
  | paddingEach h₁ h₂ h₃ h₄ =>
    cases htuple
    simp [h₁.isWrapped_eq_false, h₂.isWrapped_eq_false, h₃.isWrapped_eq_false,
      h₄.isWrapped_eq_false]
  | borderWidthColor h c | borderWidthColorShape h c s | borderWidthBrushShape h b s =>
    cases htuple
    simpa [Loose.isWrapped] using h.isWrapped_eq_false
  | _ => cases htuple <;> simp [Loose.isWrapped]

/-- The assignment that keeps a value of which the slot can make nothing. -/
def Slot.refuse (l : Loose) : Slot → Assignment
  | .padding => .padding (.unrecognized l)
  | .background => .background (.unrecognized l)
  | .border => .border (.unrecognized l)
  | .wrapContentSize => .wrapContentSize (.unrecognized l)
  | .size => .size (.unrecognized l)
  | .focusable => .focusable (.unrecognized l)
  | .onPointerEvent => .onPointerEvent (.unrecognized l)
  | slot => .unusable slot l

theorem Slot.op?_refuse (slot : Slot) (l : Loose) : (slot.refuse l).op? = none := by
  cases slot <;> rfl

/-- Every other slot refuses the values of a slot. -/
theorem UnionSlot.assignment_toLoose_of_ne {u : UnionSlot} {slot : Slot} (hne : slot ≠ u.slot)
    (x : u.Value) : (u.toLoose x).assignment slot = slot.refuse (u.toLoose x) := by
  cases u <;> cases slot <;> first | rfl | exact absurd rfl hne

namespace Loose

/-- **Wrapping cannot be seen.** What a loosely given value holds is not itself a loosely given
value, and neither is what a slot keeps of it unrecognized. To give a value several times is to give
it once, so that no question about the outcome, of what type it is, how that is written or what a
slot makes of it, has another answer, and takes off all that is around the value. Within a tuple
values stay as they were given, and no slot accepts such a tuple. To classify what was classified
before changes nothing, a value of a slot is taken by the slot as it is, and every other slot
refuses it. -/
theorem giveAgain_eq_give_and_ofLoose_ofLoose :
    (∀ r, Given r → r.isWrapped = false ∧ r.type ≠ .loose ∧
      ∀ (u : UnionSlot) (kept : Loose), u.ofLoose r = u.unrecognized kept → Given kept) ∧
    (∀ (v : Loose) (n : Nat), v.giveAgain n = v.give ∧ (v.giveAgain n).type = v.give.type ∧
      (v.giveAgain n).type.name = v.give.type.name ∧
      ∀ slot, (v.giveAgain n).assignment slot = v.give.assignment slot) ∧
    (∀ v, Made v → Given v.give ∧ v.unwrap = v.give) ∧
    (∀ vs, (tuple vs).give = tuple vs ∧
      ∀ r, wrapped r ∈ vs → ∀ slot, ((tuple vs).assignment slot).op? = none) ∧
    (∀ (u : UnionSlot) (r : Loose), u.ofLoose (u.toLoose (u.ofLoose r)).give = u.ofLoose r) ∧
    (∀ (u : UnionSlot) (x : u.Value), u.ofLoose (u.toLoose x).give = x) ∧
    ∀ (u : UnionSlot) (x : u.Value),
      (∀ w : UnionSlot, w ≠ u → w.ofLoose (u.toLoose x).give = w.unrecognized (u.toLoose x)) ∧
      ∀ slot, slot ≠ u.slot →
        (u.toLoose x).give.assignment slot = slot.refuse (u.toLoose x) ∧
          ((u.toLoose x).give.assignment slot).op? = none := by
  refine ⟨fun r hr => ⟨hr.isWrapped_eq_false, ?_, ?_⟩, fun v n => ?_, ?_, ?_, ?_, ?_, ?_⟩
  · rw [ne_eq, type_eq_loose_iff, hr.isWrapped_eq_false]
    exact Bool.false_ne_true
  · intro u kept
    exact hr.of_ofLoose_eq_unrecognized
  · rw [giveAgain_eq_give]
    exact ⟨rfl, rfl, rfl, fun _ => rfl⟩
  · intro v hv
    exact ⟨.give hv, hv.unwrap_eq_give⟩
  · intro vs
    refine ⟨rfl, fun r hr slot => Option.eq_none_iff_forall_ne_some.mpr fun op hop => ?_⟩
    have haccepts : slot.Accepts (.tuple vs) op := Slot.accepts_of_op?_assignment hop
    exact Bool.noConfusion (haccepts.isWrapped_eq_false_of_mem _ hr)
  · intro u r
    rw [give_toLoose, u.ofLoose_toLoose]
  · intro u x
    rw [give_toLoose, u.ofLoose_toLoose]
  · intro u x
    rw [give_toLoose]
    refine ⟨fun w hne => UnionSlot.ofLoose_toLoose_of_ne hne x, fun slot hne => ?_⟩
    rw [UnionSlot.assignment_toLoose_of_ne hne]
    exact ⟨rfl, slot.op?_refuse _⟩

/-- A text that the padding does not recognize, given twice: padding takes what it has kept as it
is, and the border does not recognize it. In a pair with a number, given loosely, it is no
padding. -/
theorem giveAgain_eq_give_and_ofLoose_ofLoose_text :
    let text : Loose := .base .text "wide"
    let kept : Loose := UnionSlot.toLoose .padding (.unrecognized text)
    let elements : List Loose := [.base .int32 2, .wrapped text]
    Given text ∧ text.isWrapped = false ∧
      (giveAgain (.wrapped text) 2).type.name = text.type.name ∧
      UnionSlot.ofLoose .padding text = UnionSlot.unrecognized .padding text ∧ Given text ∧
      Made (.wrapped text) ∧ unwrap (.wrapped text) = text ∧
      UnionSlot.ofLoose .padding kept.give = .unrecognized text ∧
      UnionSlot.border ≠ .padding ∧
      UnionSlot.ofLoose .border kept.give = .unrecognized kept ∧
      Slot.border ≠ UnionSlot.slot .padding ∧
      (kept.give.assignment .border).op? = none ∧
      .wrapped text ∈ elements ∧ ((Loose.tuple elements).assignment .padding).op? = none := by
  intro text kept elements
  have htext : Given text := .give (.base .text "wide")
  have hkept : UnionSlot.ofLoose .padding text = UnionSlot.unrecognized .padding text := rfl
  have hwrapped : Made (.wrapped text) := .wrapped htext
  have hunion : UnionSlot.border ≠ .padding := by decide
  have hslot : Slot.border ≠ UnionSlot.slot .padding := by decide
  have helement : .wrapped text ∈ elements := by simp [elements]
  obtain ⟨hgiven, hagain, hmade, htuple, -, hown, hother⟩ := giveAgain_eq_give_and_ofLoose_ofLoose
  obtain ⟨hborder, hrefused⟩ := hother .padding (.unrecognized text)
  exact ⟨htext, (hgiven text htext).1, (hagain (.wrapped text) 2).2.2.1, hkept,
    (hgiven text htext).2.2 .padding text hkept, hwrapped, (hmade _ hwrapped).2,
    hown .padding _, hunion, hborder .border hunion, hslot,
    (hrefused .border hslot).2, helement, (htuple elements).2 text helement .padding⟩

end Loose

end StyleChain
