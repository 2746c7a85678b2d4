import StyleChain.Proofs.Builder.History

/-!
# What one value given from outside changes

A value that a builder is given for a slot goes to the scope of the slot's group. That scope looks
among its own slots for the one named, and the groups' lists of own slots are kept apart from
`Slot.group`, so it is a theorem that a slot is never foreign where it is sent
(`Scope.values_set_self`) and always foreign elsewhere (`Scope.set_of_group_ne`).

Within the scope the value of one slot changes, and the contributions stay or grow by one at their
end. The builder then opens the group or leaves it closed by looking at the number of contributions
alone; since that number tells whether there is a new one (`Builder.opened_set`), nothing else is
ever opened, and nothing is opened without a contribution. `Builder.set_changes_own_slot_only` puts
this together with all that does not change.
-/

namespace StyleChain

namespace Scope

variable {g : Group} {slot : Slot}

/-- The slot's own group records what the slot makes of the value. -/
theorem values_set_self (s : Scope g) (own : slot.group = g) (v : Loose) :
    (s.set slot v).values slot = some (v.assignment slot) := by
  have hslot : slot = (v.assignment slot).slot := (Loose.slot_assignment v slot).symm
  rw [set_of_group_eq s own, values_assign, if_pos hslot]

/-- No other slot has its value changed, in whatever group. -/
theorem values_set_of_ne (s : Scope g) {other : Slot} (hne : other ≠ slot) (v : Loose) :
    (s.set slot v).values other = s.values other := by
  by_cases own : slot.group = g
  · rw [set_of_group_eq s own, values_assign, Loose.slot_assignment, if_neg hne]
  · rw [set_of_group_ne s own]

/-- The slot's own group gets one contribution from the slot, behind all others, if the value stands
for an operation. -/
theorem deltas_set_self (s : Scope g) (own : slot.group = g) (v : Loose) :
    (s.set slot v).deltas = s.deltas ++ ((v.assignment slot).op?.map (⟨slot, ·⟩)).toList := by
  rw [set_of_group_eq s own, deltas_assign, Assignment.delta?, Loose.slot_assignment]

/-- There are other contributions than before exactly if the value stands for an operation. -/
theorem deltas_set_ne_iff (s : Scope g) (own : slot.group = g) (v : Loose) :
    (s.set slot v).deltas ≠ s.deltas ↔ (v.assignment slot).op?.isSome := by
  rw [deltas_set_self s own]
  cases (v.assignment slot).op? <;> simp

end Scope

namespace Builder

theorem scope_set_of_group_ne (b : Builder) {slot : Slot} {g : Group} (hne : g ≠ slot.group)
    (v : Loose) : (b.set slot v).scope g = b.scope g := by
  rw [scope_set, Scope.set_of_group_ne _ hne.symm]

theorem fixed_set (b : Builder) (slot : Slot) (v : Loose) : (b.set slot v).fixed = b.fixed := by
  have hstep := fixed_step b (.set slot v)
  rwa [Step.order?, Option.none_or] at hstep

/-- The slot's group is opened, if it was not, exactly when it gets a contribution. -/
theorem opened_set (b : Builder) (slot : Slot) (v : Loose) :
    (b.set slot v).opened =
      if ((b.set slot v).scope slot.group).deltas ≠ (b.scope slot.group).deltas ∧
        slot.group ∉ b.opened
      then b.opened ++ [slot.group] else b.opened := by
  have hstep : (b.set slot v).opened = _ := opened_step b (.set slot v)
  rw [hstep, scope_set, Step.opens?]
  simp only [Scope.deltas_set_ne_iff _ rfl]
  by_cases hop : (v.assignment slot).op?.isSome
  · by_cases hopen : slot.group ∈ b.opened <;> simp [hop, hopen]
  · simp [hop]

/-- **One value changes one slot.** A value that a builder is given for a slot leaves the other
groups and the order asked for as they are. In the slot's own group it is recorded under the slot,
and no other slot has another value; the contributions are what they were, or one by the slot has
come behind them, which depends on the value alone. The slot's group is opened, behind the groups
that are open, exactly if there is a new contribution and it was closed. A scope of another group
stays as it is in every state. -/
theorem set_changes_own_slot_only (b : Builder) (slot : Slot) (v : Loose) :
    let own := b.scope slot.group
    let own' := (b.set slot v).scope slot.group
    (∀ g, g ≠ slot.group → (b.set slot v).scope g = b.scope g) ∧
      (b.set slot v).fixed = b.fixed ∧
      (∀ other, other ≠ slot → own'.values other = own.values other) ∧
      own'.values slot = some (v.assignment slot) ∧
      ((v.assignment slot).op? = none ∧ own'.deltas = own.deltas ∨
        ∃ op, (v.assignment slot).op? = some op ∧ own'.deltas = own.deltas ++ [⟨slot, op⟩]) ∧
      ((b.set slot v).opened =
        if own'.deltas ≠ own.deltas ∧ slot.group ∉ b.opened then b.opened ++ [slot.group]
        else b.opened) ∧
      ∀ (g : Group) (s : Scope g), slot.group ≠ g → s.set slot v = s := by
  intro own own'
  have hown : own' = own.set slot v := scope_set b slot v slot.group
  refine ⟨?_, fixed_set b slot v, ?_, ?_, ?_, opened_set b slot v, ?_⟩
  · intro g hne
    exact scope_set_of_group_ne b hne v
  · intro other hne
    rw [hown, own.values_set_of_ne hne]
  · rw [hown, own.values_set_self rfl]
  · rw [hown, own.deltas_set_self rfl]
    cases hop : (v.assignment slot).op? with
    | none => exact .inl ⟨rfl, List.append_nil _⟩
    | some op => exact .inr ⟨op, rfl, rfl⟩
  · intro g s foreign
    exact s.set_of_group_ne foreign v

/-- A border by width and color opens the group of appearances behind that of sizes and changes
nothing there; a text for the border is recorded in its stead, and the border that was contributed
stays. -/
theorem set_changes_own_slot_only_border :
    let red : Color := .ofRGB 255 0 0
    let b := run [.set .width (.base .int32 2)]
    let c := b.set .border (.tuple [.base .dp .zero, .base .color red])
    let d := c.set .border (.base .text "thin")
    c.scope .size = b.scope .size ∧ c.opened = [.size, .appearance] ∧
      (c.scope .appearance).deltas = [⟨.border, .border .zero (.solid red) .rectangle⟩] ∧
      (d.scope .appearance).values .border = some (.border (.unrecognized (.base .text "thin"))) ∧
      (d.scope .appearance).values .padding = (c.scope .appearance).values .padding ∧
      (d.scope .appearance).deltas = (c.scope .appearance).deltas ∧ d.opened = c.opened ∧
      (b.scope .size).set .border (.base .text "thin") = b.scope .size := by
  intro red b c d
  obtain ⟨hscope, -, -, -, -, hopened, -⟩ :=
    set_changes_own_slot_only b .border (.tuple [.base .dp .zero, .base .color red])
  obtain ⟨-, -, hvalues, hvalue, hdeltas, hopened', hforeign⟩ :=
    set_changes_own_slot_only c .border (.base .text "thin")
  have hdeltas' : (d.scope .appearance).deltas = (c.scope .appearance).deltas := by
    obtain ⟨-, hsame⟩ | ⟨op, hop, -⟩ := hdeltas
    · exact hsame
    · cases hop
  refine ⟨hscope .size (by decide), hopened.trans (by decide), by decide, hvalue,
    hvalues .padding (by decide), hdeltas', ?_, hforeign .size (b.scope .size) (by decide)⟩
  exact hopened'.trans (if_neg fun h => h.1 hdeltas')

end Builder

end StyleChain
