import StyleChain.Proofs.Builder.History
import StyleChain.Proofs.Slot.Union

/-!
# Recorded values and contributions

A scope keeps two things that change in different ways. The value of a slot is replaced by the next
one, recognized or not; a contribution stays, and only recognized values make one. `Scope.Coherent`
says what is nevertheless true of the two together: contributions come from the group's own slots
and are of kinds that these produce, a value is recorded under its own slot, and if it is
recognized, then it is the one that the slot has contributed last. A slot that has been given
something unusable since keeps its earlier contributions, but no recognized value.

One call preserves this (`Coherent.perform`), whether it is made by a slot's own method or names any
slot with any value, and hence so do several (`Coherent.performAll`). What a call does to the
number of a slot's contributions is stated likewise (`countP_deltas_perform`) and added up over the
calls. `performAll_values_and_deltas` puts the parts together for a scope configured from nothing.
-/

namespace StyleChain

/-! ### Values and operations -/

/-- An assignment stands for an operation: a distance for the side that its slot names, a fraction
for the filling that its slot names, a handler for the events that its slot listens to, and the
value of a slot that takes several shapes for what it is resolved to. -/
inductive Assignment.StandsFor : Assignment → Op → Prop
  | width (d : Dp) : StandsFor (.width d) (.width d)
  | height (d : Dp) : StandsFor (.height d) (.height d)
  | fillMaxWidth (x : Binary32) : StandsFor (.fillMaxWidth x) (.fillMaxWidth x)
  | fillMaxHeight (x : Binary32) : StandsFor (.fillMaxHeight x) (.fillMaxHeight x)
  | fillMaxSize (x : Binary32) : StandsFor (.fillMaxSize x) (.fillMaxSize x)
  | onClick (h : ClickHandler) : StandsFor (.onClick h) (.clickable h)
  | onKeyEvent (h : KeyHandler) : StandsFor (.onKeyEvent h) (.keyEvent h)
  | resolved (u : UnionSlot) {x : u.Value} {op : Op} (h : u.resolve x = some op) :
      StandsFor (u.assignment x) op

/-- An assignment stands for at most one operation, which is found. -/
theorem Assignment.op?_eq_some_iff {a : Assignment} {op : Op} :
    a.op? = some op ↔ a.StandsFor op := by
  constructor
  · intro h
    cases a with
    | padding x => exact .resolved .padding h
    | background x => exact .resolved .background h
    | border x => exact .resolved .border h
    | wrapContentSize x => exact .resolved .wrapContentSize h
    | size x => exact .resolved .size h
    | focusable x => exact .resolved .focusable h
    | onPointerEvent x => exact .resolved .onPointerEvent h
    | unusable slot given => cases h
    | width | height | fillMaxWidth | fillMaxHeight | fillMaxSize | onClick | onKeyEvent =>
      cases h
      constructor
  · rintro (_ | _ | _ | _ | _ | _ | _ | ⟨u, h⟩)
    case resolved => cases u <;> exact h
    all_goals rfl

/-! ### Slots and kinds -/

/-- The slot whose values stand for operations of a kind. -/
def Kind.slot : Kind → Slot
  | .paddingValues | .paddingAll | .paddingSymmetric | .paddingEach => .padding
  | .background | .backgroundShaped => .background
  | .border => .border
  | .width => .width
  | .height => .height
  | .fillMaxWidth => .fillMaxWidth
  | .fillMaxHeight => .fillMaxHeight
  | .fillMaxSize => .fillMaxSize
  | .wrapContentSize => .wrapContentSize
  | .size => .size
  | .focusable => .focusable
  | .clickable => .onClick
  | .keyEvent => .onKeyEvent
  | .pointerInput => .onPointerEvent

namespace Assignment

/-- A value stands for an operation of a kind that belongs to its slot. -/
theorem slot_kind_of_op? {a : Assignment} {op : Op} (h : a.op? = some op) :
    op.kind.slot = a.slot := by
  cases a with
  | padding v | background v | border v | wrapContentSize v | size v | focusable v
  | onPointerEvent v => cases v <;> cases h <;> rfl
  | _ => cases h <;> rfl

theorem slot_of_mem_delta? {a : Assignment} {d : Delta} (h : d ∈ a.delta?) : d.slot = a.slot := by
  obtain ⟨op, -, rfl⟩ := Option.map_eq_some_iff.mp h
  rfl

end Assignment

/-- A slot can produce exactly the operations whose kinds belong to it. -/
theorem Op.slot_kind_eq_iff {op : Op} {slot : Slot} :
    op.kind.slot = slot ↔ ∃ a : Assignment, a.slot = slot ∧ a.op? = some op := by
  constructor
  · rintro rfl
    cases op with
    | paddingValues e => exact ⟨.padding (.edges e), rfl, rfl⟩
    | paddingAll d => exact ⟨.padding (.all d), rfl, rfl⟩
    | paddingSymmetric h v => exact ⟨.padding (.symmetric h v), rfl, rfl⟩
    | paddingEach l t r b => exact ⟨.padding (.each l t r b), rfl, rfl⟩
    | background c => exact ⟨.background (.color c), rfl, rfl⟩
    | backgroundShaped c s => exact ⟨.background (.shaped c s), rfl, rfl⟩
    | border w b s => exact ⟨.border (.widthBrushShape w b s), rfl, rfl⟩
    | width d => exact ⟨.width d, rfl, rfl⟩
    | height d => exact ⟨.height d, rfl, rfl⟩
    | fillMaxWidth x => exact ⟨.fillMaxWidth x, rfl, rfl⟩
    | fillMaxHeight x => exact ⟨.fillMaxHeight x, rfl, rfl⟩
    | fillMaxSize x => exact ⟨.fillMaxSize x, rfl, rfl⟩
    | wrapContentSize a u => exact ⟨.wrapContentSize (.alignUnbounded a u), rfl, rfl⟩
    | size e => exact ⟨.size (.extent e), rfl, rfl⟩
    | focusable e s =>
      cases s with
      | none => exact ⟨.focusable (.enabled e), rfl, rfl⟩
      | some s => exact ⟨.focusable (.enabledSource e s), rfl, rfl⟩
    | clickable h => exact ⟨.onClick h, rfl, rfl⟩
    | keyEvent h => exact ⟨.onKeyEvent h, rfl, rfl⟩
    | pointerInput t p h => exact ⟨.onPointerEvent (.passHandler t p h), rfl, rfl⟩
  · rintro ⟨a, rfl, hop⟩
    exact Assignment.slot_kind_of_op? hop

/-! ### What a call names and gives -/

namespace Call

variable {g : Group}

/-- The slot that a call names. -/
def slot : Call g → Slot
  | .assign a _ => a.slot
  | .set s _ => s

/-- The value that a call gives the slot. -/
def value : Call g → Assignment
  | .assign a _ => a
  | .set s v => v.assignment s

/-- Whether a call gives a slot of the group a value that it recognizes. -/
def contributesTo (c : Call g) (s : Slot) : Bool :=
  decide (c.slot = s) && decide (s.group = g) && c.value.isRecognized

@[simp] theorem slot_value (c : Call g) : c.value.slot = c.slot := by
  cases c with
  | assign a own => rfl
  | set s v => exact Loose.slot_assignment v s

end Call

namespace Scope

variable {g : Group}

/-! ### One call -/

/-- A call assigns its value if the group owns the slot that it names. -/
theorem perform_of_group_eq (s : Scope g) {c : Call g} (own : c.slot.group = g) :
    s.perform c = s.assign c.value (by rwa [Call.slot_value]) := by
  cases c with
  | assign a _ => rfl
  | set slot v => exact set_of_group_eq s own v

/-- A call that names a slot of another group does nothing. -/
theorem perform_of_group_ne (s : Scope g) {c : Call g} (foreign : c.slot.group ≠ g) :
    s.perform c = s := by
  cases c with
  | assign a own => exact absurd own foreign
  | set slot v => exact set_of_group_ne s foreign v

/-- Contributions are of the group's own slots and of kinds that these produce, values are recorded
under their own slots, and a recognized value is the one that its slot has contributed last. -/
structure Coherent (s : Scope g) : Prop where
  /-- Contributing slots belong to the group. -/
  group_of_mem : ∀ d ∈ s.deltas, d.slot.group = g
  /-- Contributions are of kinds that their slots produce. -/
  slot_of_mem : ∀ d ∈ s.deltas, d.op.kind.slot = d.slot
  /-- Values are recorded under their own slots. -/
  slot_of_values : ∀ slot a, s.values slot = some a → a.slot = slot
  /-- Recognized values are contributed last. -/
  last_of_values : ∀ slot a, s.values slot = some a → a.isRecognized →
    (s.deltas.filter (·.slot = slot)).getLast? = a.delta?

theorem coherent_empty : (empty : Scope g).Coherent where
  group_of_mem _ hd := absurd hd List.not_mem_nil
  slot_of_mem _ hd := absurd hd List.not_mem_nil
  slot_of_values _ a h := absurd h (Option.some_ne_none a).symm
  last_of_values _ a h := absurd h (Option.some_ne_none a).symm

/-- An assignment adds to the contributions of its own slot and of no other. -/
theorem filter_deltas_assign (s : Scope g) {a : Assignment} (own : a.slot.group = g)
    (slot : Slot) :
    (s.assign a own).deltas.filter (·.slot = slot) =
      s.deltas.filter (·.slot = slot) ++ if a.slot = slot then a.delta?.toList else [] := by
  rw [deltas_assign, List.filter_append]
  congr 1
  cases hd : a.delta? with
  | none => simp
  | some d =>
    have hslot : d.slot = a.slot := Assignment.slot_of_mem_delta? hd
    by_cases h : a.slot = slot <;> simp [hslot, h]

/-- One assignment keeps a scope coherent. -/
theorem Coherent.assign {s : Scope g} (hs : s.Coherent) {a : Assignment}
    (own : a.slot.group = g) : (s.assign a own).Coherent where
  group_of_mem d hd := by
    rcases List.mem_append.mp hd with hd | hd
    · exact hs.group_of_mem d hd
    · rw [Assignment.slot_of_mem_delta? (Option.mem_toList.mp hd), own]
  slot_of_mem d hd := by
    rcases List.mem_append.mp hd with hd | hd
    · exact hs.slot_of_mem d hd
    · obtain ⟨op, hop, rfl⟩ := Option.map_eq_some_iff.mp (Option.mem_toList.mp hd)
      exact Assignment.slot_kind_of_op? hop
  slot_of_values slot b hb := by
    rw [values_assign] at hb
    by_cases hslot : slot = a.slot
    · rw [if_pos hslot] at hb
      obtain rfl := Option.some.inj hb
      exact hslot.symm
    · rw [if_neg hslot] at hb
      exact hs.slot_of_values slot b hb
  last_of_values slot b hb hrecognized := by
    rw [values_assign] at hb
    rw [filter_deltas_assign]
    by_cases hslot : slot = a.slot
    · -- the value just recorded is recognized, so it was contributed too
      rw [if_pos hslot] at hb
      obtain rfl := Option.some.inj hb
      obtain ⟨d, hd⟩ := Option.isSome_iff_exists.mp (a.isSome_delta?.trans hrecognized)
      simp [hslot, hd]
    · rw [if_neg hslot] at hb
      rw [if_neg (Ne.symm hslot), List.append_nil]
      exact hs.last_of_values slot b hb hrecognized

/-- One call keeps a scope coherent. -/
theorem Coherent.perform {s : Scope g} (hs : s.Coherent) (c : Call g) :
    (s.perform c).Coherent := by
  by_cases own : c.slot.group = g
  · rw [perform_of_group_eq s own]
    exact hs.assign _
  · rw [perform_of_group_ne s own]
    exact hs

/-- A call replaces the value of the slot that it names, if the group owns it, and no other. -/
theorem values_perform (s : Scope g) (c : Call g) (slot : Slot) :
    (s.perform c).values slot =
      if c.slot = slot ∧ slot.group = g then some c.value else s.values slot := by
  by_cases own : c.slot.group = g
  · rw [perform_of_group_eq s own, values_assign, Call.slot_value]
    by_cases hslot : c.slot = slot
    · subst hslot
      rw [if_pos rfl, if_pos ⟨rfl, own⟩]
    · rw [if_neg (Ne.symm hslot), if_neg fun h => hslot h.1]
  · rw [perform_of_group_ne s own, if_neg]
    rintro ⟨rfl, h⟩
    exact own h

/-- A call adds one to the contributions of a slot if it contributes to it, and else nothing. -/
theorem countP_deltas_perform (s : Scope g) (c : Call g) (slot : Slot) :
    (s.perform c).deltas.countP (·.slot = slot) =
      s.deltas.countP (·.slot = slot) + if c.contributesTo slot then 1 else 0 := by
  by_cases own : c.slot.group = g
  · rw [perform_of_group_eq s own, List.countP_eq_length_filter, filter_deltas_assign,
      List.length_append, ← List.countP_eq_length_filter, Call.slot_value]
    congr 1
    by_cases hslot : c.slot = slot
    · subst hslot
      have hlength : c.value.delta?.toList.length = if c.value.isRecognized then 1 else 0 := by
        rw [← Assignment.isSome_delta?]
        cases c.value.delta? <;> rfl
      simpa [Call.contributesTo, own] using hlength
    · simp [Call.contributesTo, hslot]
  · rw [perform_of_group_ne s own]
    have hnot : c.contributesTo slot = false := by
      by_cases hslot : c.slot = slot
      · subst hslot
        simp [Call.contributesTo, own]
      · simp [Call.contributesTo, hslot]
    simp [hnot]

/-! ### Several calls -/

theorem performAll_concat (s : Scope g) (calls : List (Call g)) (c : Call g) :
    s.performAll (calls ++ [c]) = (s.performAll calls).perform c := by
  simp [performAll]

theorem Coherent.performAll {s : Scope g} (hs : s.Coherent) (calls : List (Call g)) :
    (s.performAll calls).Coherent := by
  induction calls generalizing s with
  | nil => exact hs
  | cons c calls ih => exact ih (hs.perform c)

/-- A slot of the group has the value that it was given last, if it was given any. -/
theorem values_performAll (s : Scope g) (calls : List (Call g)) {slot : Slot}
    (own : slot.group = g) :
    (s.performAll calls).values slot =
      ((calls.filter (·.slot = slot)).getLast?.map Call.value).or (s.values slot) := by
  induction calls using List.reverseRecOn with
  | nil => rfl
  | append_singleton calls c ih =>
    rw [performAll_concat, values_perform, ih, List.filter_append, List.getLast?_append]
    by_cases hslot : c.slot = slot
    · simp [hslot, own]
    · simp [hslot]

/-- A slot of another group is never given a value. -/
theorem values_performAll_of_group_ne (s : Scope g) (calls : List (Call g)) {slot : Slot}
    (foreign : slot.group ≠ g) : (s.performAll calls).values slot = s.values slot := by
  induction calls generalizing s with
  | nil => rfl
  | cons c calls ih =>
    exact (ih (s.perform c)).trans ((values_perform s c slot).trans (if_neg fun h => foreign h.2))

/-- As many contributions come from a slot as calls contribute to it. -/
theorem countP_deltas_performAll (s : Scope g) (calls : List (Call g)) (slot : Slot) :
    (s.performAll calls).deltas.countP (·.slot = slot) =
      s.deltas.countP (·.slot = slot) + calls.countP (·.contributesTo slot) := by
  induction calls generalizing s with
  | nil => rfl
  | cons c calls ih =>
    rw [List.countP_cons, Nat.add_comm (calls.countP _), ← Nat.add_assoc,
      ← countP_deltas_perform]
    exact ih (s.perform c)

/-- What has been contributed stays, and stays in front of what comes later. -/
theorem deltas_prefix_performAll (s : Scope g) (calls : List (Call g)) :
    s.deltas <+: (s.performAll calls).deltas := by
  rw [performAll_eq_record, deltas_record]
  exact List.prefix_append _ _

/-- **Recorded values and contributions agree.** In a scope that is configured from nothing by any
calls, contributions come from slots of the group and are of kinds that their slots produce; a slot
has a value exactly if the group owns it and a call has named it, and then the one that the last
such call gave it; if that value is recognized, what the slot has contributed last is the operation
that the value stands for; a slot has contributed once for each recognized value that it was
given; and contributions made earlier stand in front of those made later. The operations that a
slot can produce at all are those whose kinds belong to it. -/
theorem performAll_values_and_deltas (g : Group) (calls : List (Call g)) :
    let s := (empty : Scope g).performAll calls
    (∀ d ∈ s.deltas, d.slot.group = g ∧ d.op.kind.slot = d.slot) ∧
      (∀ slot, (s.values slot).isSome ↔ slot.group = g ∧ ∃ c ∈ calls, c.slot = slot) ∧
      (∀ slot, slot.group = g →
        s.values slot = (calls.filter (·.slot = slot)).getLast?.map Call.value) ∧
      (∀ slot a, s.values slot = some a → a.isRecognized →
        ∃ op, a.StandsFor op ∧ (s.deltas.filter (·.slot = slot)).getLast? = some ⟨slot, op⟩) ∧
      (∀ slot, s.deltas.countP (·.slot = slot) = calls.countP fun c =>
        decide (c.slot = slot) && decide (slot.group = g) && c.value.isRecognized) ∧
      (∀ more, s.deltas <+: ((empty : Scope g).performAll (calls ++ more)).deltas) ∧
      (∀ (a : Assignment) (op : Op), a.op? = some op ↔ a.StandsFor op) ∧
      ∀ (op : Op) (slot : Slot), op.kind.slot = slot ↔
        ∃ a : Assignment, a.slot = slot ∧ a.StandsFor op := by
  intro s
  have hs : s.Coherent := coherent_empty.performAll calls
  have hvalues : ∀ slot, slot.group = g →
      s.values slot = (calls.filter (·.slot = slot)).getLast?.map Call.value := fun slot own => by
    rw [values_performAll _ _ own, values_empty, Option.or_none]
  refine ⟨fun d hd => ⟨hs.group_of_mem d hd, hs.slot_of_mem d hd⟩, fun slot => ?_, hvalues,
    fun slot a ha hrecognized => ?_, fun slot => ?_, fun more => ?_,
    fun a op => Assignment.op?_eq_some_iff, fun op slot => ?_⟩
  · by_cases own : slot.group = g
    · rw [hvalues slot own, Option.isSome_map, List.getLast?_isSome, ne_eq,
        List.filter_eq_nil_iff]
      simp [own]
    · rw [values_performAll_of_group_ne _ _ own]
      simp [own]
  · obtain rfl : a.slot = slot := hs.slot_of_values slot a ha
    obtain ⟨op, hop⟩ := Option.isSome_iff_exists.mp (a.isSome_op?.trans hrecognized)
    refine ⟨op, Assignment.op?_eq_some_iff.mp hop, ?_⟩
    rw [hs.last_of_values a.slot a ha hrecognized, Assignment.delta?, hop, Option.map_some]
  · rw [countP_deltas_performAll, deltas_empty, List.countP_nil, Nat.zero_add]
    rfl
  · have hmore : (empty : Scope g).performAll (calls ++ more) = s.performAll more :=
      List.foldl_append
    rw [hmore]
    exact deltas_prefix_performAll s more
  · simp only [← Assignment.op?_eq_some_iff]
    exact Op.slot_kind_eq_iff

/-- A border by its own method, an unusable one, a foreign width and a border by width and color:
the border contributes twice, and the last value is the one contributed last. -/
theorem performAll_values_and_deltas_border :
    let red : Color := .ofRGB 255 0 0
    let calls : List (Call .appearance) :=
      [.assign (.border (.stroke (.solid .zero red))) rfl, .set .border (.base .text "thin"),
        .set .width (.base .int32 2), .set .border (.tuple [.base .dp .zero, .base .color red])]
    let s := (empty : Scope .appearance).performAll calls
    s.values .border = some (.border (.widthColor .zero red)) ∧
      (∃ op, (Assignment.border (.widthColor .zero red)).StandsFor op ∧
        (s.deltas.filter (·.slot = .border)).getLast? = some ⟨.border, op⟩) ∧
      (s.values .width).isSome = false ∧ s.deltas.countP (·.slot = .border) = 2 := by
  intro red calls s
  obtain ⟨-, hsome, hvalues, hlast, hcount, -⟩ := performAll_values_and_deltas .appearance calls
  have hborder : s.values .border = some (.border (.widthColor .zero red)) := hvalues .border rfl
  refine ⟨hborder, hlast .border _ hborder rfl, ?_, hcount .border⟩
  exact Bool.eq_false_iff.mpr fun h => absurd ((hsome .width).mp h).1 (by decide)

end Scope

end StyleChain
