import Mathlib.Data.List.Forall2
import StyleChain.Proofs.Builder.Stability
import StyleChain.Proofs.Slot.Method

/-!
# Typed and loose assignments are interchangeable

A slot is given a value in two ways: by its own method, where the type of the value says which
shape is meant, or loosely, where the slot finds the shape out by itself. Within one scope the two
ways are equal at once (`Slot.Method.set_give_eq`).

In a program they are actions of different kinds. The method is called where the slot's group is
configured, which opens the group; the loose value opens the group only by contributing. A value
that is recognized does contribute, so both open the group, and the two actions agree
(`act_configure_eq_act_set`). `acts_eq_acts_of_interchangeable` replaces any number of actions, in
either direction, with any others between them.
-/

namespace StyleChain

/-- Two actions that give a slot the same recognized value: a single call of one of the slot's own
methods where the slot's group is configured, and the value given loosely; or the same action
twice. -/
inductive Action.Interchangeable : Action → Action → Prop
  | same (a : Action) : Interchangeable a a
  | loosen {slot : Slot} {v : Loose} {method : Scope slot.group → Scope slot.group}
      (h : slot.Method v method) (recognized : ¬ v.IsUnrecognized) :
      Interchangeable (.configure slot.group method) (.set slot v.give)
  | tighten {slot : Slot} {v : Loose} {method : Scope slot.group → Scope slot.group}
      (h : slot.Method v method) (recognized : ¬ v.IsUnrecognized) :
      Interchangeable (.set slot v.give) (.configure slot.group method)

namespace Builder

/-- A call of a slot's own method and the same value given loosely do the same, because a
recognized value opens its group either way. -/
theorem act_configure_eq_act_set {slot : Slot} {v : Loose}
    {method : Scope slot.group → Scope slot.group} (h : slot.Method v method)
    (recognized : ¬ v.IsUnrecognized) (b : Builder) :
    b.act (.configure slot.group method) = b.act (.set slot v.give) := by
  have hop := h.isSome_op? recognized
  rw [h.give_eq]
  obtain ⟨a, own, typed, rfl⟩ := h.exists_typed?
  obtain rfl := Loose.assignment_of_typed? typed
  -- as steps, the two assign the same, open the same group and ask for no order
  refine step_eq_step (t := .configure slot.group [.assign _ own]) (u := .set slot v) (fun g => ?_)
    ?_ rfl b
  · simp [Step.assignments, Call.assignment?]
  · simp [Step.opens?, hop]

theorem act_eq_of_interchangeable {a a' : Action} (h : a.Interchangeable a') (b : Builder) :
    b.act a = b.act a' := by
  cases h with
  | same => rfl
  | loosen h recognized => exact act_configure_eq_act_set h recognized b
  | tighten h recognized => exact (act_configure_eq_act_set h recognized b).symm

/-- Actions that differ by interchangeable ones lead from a builder to the same builder. -/
theorem acts_eq_acts_of_interchangeable {as as' : List Action}
    (h : List.Forall₂ Action.Interchangeable as as') (b : Builder) : b.acts as = b.acts as' := by
  unfold acts
  induction h generalizing b with
  | nil => rfl
  | cons ha _ ih =>
    rw [List.foldl_cons, List.foldl_cons, act_eq_of_interchangeable ha]
    exact ih _

/-- **Typed and loose assignments agree.** In every state of a scope, a value given loosely has the
effect of a call of the slot's own method with it, for every value that such a method takes, and the
methods take what `Loose.typed?` finds. In a program, any number of single calls of a slot's own
method with a recognized value may be replaced by the value given loosely, or the other way round,
whatever else is done between them, without a difference to the builder: not to what it has recorded
or contributed, nor to the order, nor to any chain built. -/
theorem set_eq_method_and_acts_eq_acts :
    (∀ (slot : Slot) (v : Loose) (method : Scope slot.group → Scope slot.group),
      slot.Method v method → ∀ s : Scope slot.group, s.set slot v.give = method s) ∧
    (∀ (slot : Slot) (v : Loose) (method : Scope slot.group → Scope slot.group),
      slot.Method v method ↔
        ∃ (a : Assignment) (own : a.slot.group = slot.group),
          v.typed? slot = some a ∧ method = fun s => s.assign a own) ∧
    ∀ as as' : List Action, List.Forall₂ Action.Interchangeable as as' →
      ∀ b : Builder, b.acts as = b.acts as' :=
  ⟨fun _ _ _ h => h.set_give_eq, fun _ _ _ => Slot.method_iff_typed?,
    fun _ _ h => acts_eq_acts_of_interchangeable h⟩

/-- A border by width, color and shape and the whole width, each by its method or loosely, in a
scope and in a program that goes the one way with the first and the other way with the second. -/
theorem set_eq_method_and_acts_eq_acts_border :
    let red : Color := .ofRGB 255 0 0
    let border : Loose := .tuple [.base .dp .zero, .base .color red, .base .shape .circle]
    let bordered : Scope .appearance → Scope .appearance :=
      fun s => s.border (Dp.zero, red, Shape.circle)
    let wide : Scope .size → Scope .size := fun s => s.fillWholeWidth
    Slot.Method .border border bordered ∧ Slot.Method .fillMaxWidth (.tuple []) wide ∧
      (Scope.empty : Scope .appearance).set .border border.give = bordered .empty ∧
      (Scope.empty : Scope .size).set .fillMaxWidth (.tuple []) = wide .empty ∧
      empty.acts [.configure .appearance bordered, .configure .size fun _ => .empty,
          .set .fillMaxWidth (.tuple [])] =
        empty.acts [.set .border border, .configure .size fun _ => .empty,
          .configure .size wide] := by
  intro red border bordered wide
  have hborder : Slot.Method .border border bordered := .borderWidthColorShape .zero red .circle
  have hwide : Slot.Method .fillMaxWidth (.tuple []) wide := .fillWholeWidth
  obtain ⟨hset, -, hacts⟩ := set_eq_method_and_acts_eq_acts
  exact ⟨hborder, hwide, hset _ _ _ hborder .empty, hset _ _ _ hwide .empty,
    hacts _ _ (.cons (.loosen hborder (Loose.not_isUnrecognized_tuple _))
      (.cons (.same _) (.cons (.tighten hwide (Loose.not_isUnrecognized_tuple _)) .nil))) .empty⟩

end Builder

end StyleChain
