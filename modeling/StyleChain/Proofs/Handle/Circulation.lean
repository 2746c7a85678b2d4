import StyleChain.Proofs.Builder.History
import StyleChain.Proofs.Slot.Accepts
import StyleChain.Proofs.Slot.Union

/-!
# Where sources go

An interaction source may be given to a slot as it is, with whether the focus is enabled, or deep
inside a value that the slot does not recognize, and from there it goes on into what the slot
records, into contributions and into the chain that is built. `Holds` says for each of these which
sources are in it, so that a source can be taken out again.

No source comes from nowhere. What a slot makes of a value holds only sources that the value holds
(`Assignment.Holds.of_assignment`), and an operation reports to none that the assignment does not
hold (`Assignment.Holds.of_op?`). From these two, what a scope, a builder or a chain holds after a
step was held before it or by what the step was given (`Scope.Holds.of_record`,
`Builder.Holds.of_step`, `Chain.Holds.of_buildOn`).
-/

namespace StyleChain

variable {s : InteractionSource}

/-! ### Sources of data -/

/-- The source that an operation reports to. -/
def Op.source? : Op → Option InteractionSource
  | .focusable _ source => source
  | _ => none

/-- The source that a value of the slot was given with. -/
def SlotValue.Focusable.source? {ρ : Type} : Focusable ρ → Option InteractionSource
  | .source s | .enabledSource _ s => some s
  | .enabled _ | .unrecognized _ => none

/-- A source is in a value. -/
inductive Loose.Holds (s : InteractionSource) : Loose → Prop
  /-- The value is the source. -/
  | source : Holds s (.base .source s)
  /-- The value is an operation that reports to the source. -/
  | op {op : Op} (h : op.source? = some s) : Holds s (.base .op op)
  /-- The value is one of the slot that takes sources. -/
  | focusable {x : SlotValue.Focusable Loose} (h : x.source? = some s) : Holds s (.focusable x)
  /-- The value is one that a slot did not recognize. -/
  | unrecognized (u : UnionSlot) {v given : Loose} (hv : v = u.toLoose (u.unrecognized given))
      (h : Holds s given) : Holds s v
  /-- The value is a tuple. -/
  | element {v : Loose} {elements : List Loose} (hv : v ∈ elements) (h : Holds s v) :
      Holds s (.tuple elements)
  /-- The value is wrapped around another. -/
  | wrapped {v : Loose} (h : Holds s v) : Holds s (.wrapped v)

/-- A source is in an assignment. -/
inductive Assignment.Holds (s : InteractionSource) : Assignment → Prop
  /-- It is in the value assigned. -/
  | value (u : UnionSlot) {x : u.Value} {a : Assignment} (ha : a = u.assignment x)
      (h : (u.toLoose x).Holds s) : Holds s a
  /-- It is in a value of which the slot can make nothing. -/
  | unusable {slot : Slot} {given : Loose} (h : given.Holds s) : Holds s (.unusable slot given)

/-- A source is in the latest value of a slot or in a contribution. -/
def Scope.Holds {g : Group} (s : InteractionSource) (c : Scope g) : Prop :=
  (∃ slot, ∃ a ∈ c.values slot, a.Holds s) ∨ ∃ d ∈ c.deltas, d.op.source? = some s

/-- A source is in the configuration of a group. -/
def Builder.Holds (s : InteractionSource) (b : Builder) : Prop := ∃ g, (b.scope g).Holds s

/-- An operation of the chain reports to the source. -/
def Chain.Holds (s : InteractionSource) (c : Chain) : Prop := ∃ op ∈ c.ops, op.source? = some s

/-- The source is in what the call was given. -/
def Call.Holds {g : Group} (s : InteractionSource) : Call g → Prop
  | .assign a _ => a.Holds s
  | .set _ v => v.Holds s

/-- The source is in what the step was given. -/
def Step.Holds (s : InteractionSource) : Step → Prop
  | .withOrder _ => False
  | .configure _ calls => ∃ call ∈ calls, call.Holds s
  | .set _ v => v.Holds s

/-! ### Values and what slots make of them -/

/-- A slot's value holds the source of the operation it stands for, or what is in the value that it
does not recognize. -/
theorem UnionSlot.resolve_or_unrecognized_of_holds {u : UnionSlot} {x : u.Value}
    (h : (u.toLoose x).Holds s) :
    (∃ op, u.resolve x = some op ∧ op.source? = some s) ∨
      ∃ given, x = u.unrecognized given ∧ given.Holds s := by
  generalize hv : u.toLoose x = v at h
  cases h with
  | @focusable y hy =>
    obtain rfl : u = .focusable := eq_of_toLoose_eq (w := .focusable) hv
    obtain rfl : x = y := toLoose_injective .focusable hv
    left
    cases x with
    | enabled b | unrecognized given => cases hy
    | source t | enabledSource b t => exact ⟨_, rfl, hy⟩
  | unrecognized w hw h =>
    obtain rfl : u = w := eq_of_toLoose_eq (hv.trans hw)
    exact .inr ⟨_, u.toLoose_injective (hv.trans hw), h⟩
  | source | op | element | wrapped => cases u <;> cases hv

/-- A value that a slot accepts holds the source of the operation that it becomes. -/
theorem Slot.Accepts.holds {slot : Slot} {v : Loose} {op : Op} (h : slot.Accepts v op)
    (hs : op.source? = some s) : v.Holds s := by
  cases h with
  | focusableSource t =>
    obtain rfl : t = s := Option.some.inj hs
    exact .source
  | focusableEnabledSource b t =>
    obtain rfl : t = s := Option.some.inj hs
    exact .element (v := .base .source t) (by simp) .source
  | @focusable x op h =>
    cases x with
    | enabled b | source t | enabledSource b t => cases h; exact .focusable hs
    | unrecognized given => cases h
  -- no other slot makes an operation that reports
  | @padding x op h | @background x op h | @border x op h | @wrapContent x op h | @size x op h
  | @pointerInput x op h => cases x <;> cases h <;> cases hs
  | _ => cases hs

/-- What a slot takes a value for holds only sources of the value. -/
theorem UnionSlot.holds_of_holds_ofLoose {u : UnionSlot} {v : Loose}
    (h : (u.toLoose (u.ofLoose v)).Holds s) : v.Holds s := by
  obtain ⟨op, hop, hs⟩ | ⟨given, hgiven, hkept⟩ := resolve_or_unrecognized_of_holds h
  · rw [← op?_assignment, ← assignment_ofLoose] at hop
    exact (Slot.accepts_of_op?_assignment hop).holds hs
  · obtain rfl | rfl := eq_of_ofLoose_eq_unrecognized hgiven
    · exact hkept
    · exact .unrecognized u rfl hkept

namespace Assignment

/-- The operation that an assignment stands for reports to no source but one that the assignment
holds. -/
theorem Holds.of_op? {a : Assignment} {op : Op} (hop : a.op? = some op)
    (hs : op.source? = some s) : a.Holds s := by
  cases a with
  | focusable x =>
    refine .value .focusable rfl (.focusable ?_)
    cases x with
    | enabled b | source t | enabledSource b t => cases hop; exact hs
    | unrecognized given => cases hop
  | padding x | background x | border x | wrapContentSize x | size x | onPointerEvent x =>
    cases x <;> cases hop <;> cases hs
  | _ => cases hop <;> cases hs

theorem Holds.of_mem_delta? {a : Assignment} {d : Delta} (hd : d ∈ a.delta?)
    (hs : d.op.source? = some s) : a.Holds s := by
  obtain ⟨op, hop, rfl⟩ := Option.map_eq_some_iff.mp hd
  exact .of_op? hop hs

/-- A value that could not be read is kept as it was given. -/
private theorem eq_of_getD_map_eq_unusable {α : Type} {read : Option α} {f : α → Assignment}
    {slot other : Slot} {v given : Loose} (hf : ∀ x, f x ≠ .unusable other given)
    (h : (read.map f).getD (.unusable slot v) = .unusable other given) : v = given := by
  cases read with
  | none => exact (unusable.inj h).2
  | some x => exact absurd h (hf x)

/-- What a slot makes of a value holds only sources that the value holds. -/
theorem Holds.of_assignment {v : Loose} {slot : Slot} (h : (v.assignment slot).Holds s) :
    v.Holds s := by
  generalize ha : v.assignment slot = a at h
  cases h with
  | value u hx h =>
    obtain rfl : slot = u.slot := by rw [← v.slot_assignment slot, ha, hx, u.slot_assignment]
    rw [hx, u.assignment_ofLoose] at ha
    rw [← u.assignment_injective ha] at h
    exact UnionSlot.holds_of_holds_ofLoose h
  | unusable h =>
    cases slot with
    | width | height | fillMaxWidth | fillMaxHeight | fillMaxSize | onClick | onKeyEvent =>
      obtain rfl := eq_of_getD_map_eq_unusable (fun _ => Assignment.noConfusion) ha
      exact h
    | _ => cases ha

end Assignment

/-! ### Steps -/

/-- After assignments, a scope holds what it held before and what is in the assignments. -/
theorem Scope.Holds.of_record {g : Group} {c : Scope g} {as : List Assignment}
    (h : (c.record as).Holds s) : c.Holds s ∨ ∃ a ∈ as, a.Holds s := by
  obtain ⟨slot, a, ha, hs⟩ | ⟨d, hd, hs⟩ := h
  · rw [values_record, Option.mem_def, Option.or_eq_some_iff] at ha
    obtain hlast | ⟨-, hbefore⟩ := ha
    · exact .inr ⟨a, (List.mem_filter.mp (List.mem_of_getLast? hlast)).1, hs⟩
    · exact .inl (.inl ⟨slot, a, hbefore, hs⟩)
  · rw [deltas_record, List.mem_append, List.mem_filterMap] at hd
    obtain hbefore | ⟨a, ha, hd⟩ := hd
    · exact .inl (.inr ⟨d, hbefore, hs⟩)
    · exact .inr ⟨a, ha, .of_mem_delta? hd hs⟩

/-- The assignment that a call makes holds only what the call was given. -/
theorem Call.holds_of_mem_assignment? {g : Group} {call : Call g} {a : Assignment}
    (ha : a ∈ call.assignment?) (h : a.Holds s) : call.Holds s := by
  cases call with
  | assign b own => cases ha; exact h
  | set slot v =>
    obtain ⟨-, hv⟩ := Option.ite_none_right_eq_some.mp ha
    obtain rfl := Option.some.inj hv
    exact h.of_assignment

theorem Step.holds_of_mem_assignments {g : Group} {t : Step} {a : Assignment}
    (ha : a ∈ t.assignments g) (h : a.Holds s) : t.Holds s := by
  cases t with
  | withOrder o => cases ha
  | configure g' calls =>
    rw [assignments] at ha
    split at ha
    · next hg =>
      obtain ⟨call, hcall, ha⟩ := List.mem_filterMap.mp ha
      exact ⟨call, hcall, Call.holds_of_mem_assignment? ha h⟩
    · cases ha
  | set slot v =>
    rw [assignments] at ha
    split at ha
    · obtain rfl := List.mem_singleton.mp ha
      exact h.of_assignment
    · cases ha

/-- After a call, a scope holds what it held before and what the call was given. -/
theorem Scope.Holds.of_perform {g : Group} {c : Scope g} {call : Call g}
    (h : (c.perform call).Holds s) : c.Holds s ∨ call.Holds s := by
  rw [perform_eq_record] at h
  obtain h | ⟨a, ha, h⟩ := h.of_record
  · exact .inl h
  · exact .inr (Call.holds_of_mem_assignment? (Option.mem_toList.mp ha) h)

theorem Builder.Holds.of_step {b : Builder} {t : Step} (h : (b.step t).Holds s) :
    b.Holds s ∨ t.Holds s := by
  obtain ⟨g, h⟩ := h
  rw [scope_step] at h
  obtain h | ⟨a, ha, h⟩ := h.of_record
  · exact .inl ⟨g, h⟩
  · exact .inr (Step.holds_of_mem_assignments ha h)

theorem Scope.not_holds_empty {g : Group} : ¬(empty : Scope g).Holds s := by
  simp [Holds]

theorem Builder.not_holds_empty : ¬empty.Holds s := by
  rintro ⟨g, h⟩
  rw [scope_empty] at h
  exact Scope.not_holds_empty h

/-- A chain made of the contributions of a scope holds what the scope and the base hold. -/
theorem Chain.Holds.of_foldOnto {g : Group} {c : Scope g} {base : Chain}
    (h : (c.foldOnto base).Holds s) : base.Holds s ∨ c.Holds s := by
  obtain ⟨op, hop, hs⟩ := h
  rw [Scope.ops_foldOnto, List.mem_append, List.mem_map] at hop
  obtain hbase | ⟨d, hd, rfl⟩ := hop
  · exact .inl ⟨op, hbase, hs⟩
  · exact .inr (.inr ⟨d, hd, hs⟩)

/-- A chain that is built holds what the builder and the base hold. -/
theorem Chain.Holds.of_buildOn {b : Builder} {base : Chain} (h : (b.buildOn base).Holds s) :
    base.Holds s ∨ b.Holds s := by
  obtain ⟨op, hop, hs⟩ := h
  rw [Builder.ops_buildOn, List.mem_append, List.mem_flatMap] at hop
  obtain hbase | ⟨g, -, hg⟩ := hop
  · exact .inl ⟨op, hbase, hs⟩
  · obtain ⟨d, hd, rfl⟩ := List.mem_map.mp hg
    exact .inr ⟨g, .inr ⟨d, hd, hs⟩⟩

end StyleChain
