import StyleChain.Proofs.Builder.History

/-!
# Ignored assignments

An assignment is ignored if its slot does not recognize the value, or if the group that is told to
make it does not own the slot. `IgnoredInsertion` puts one such assignment somewhere into a run:
as a step that gives a slot a value from outside, or among the calls of a step that configures a
group.

Read as a history, the longer run makes the same assignments in every group except for the one
inserted (`IgnoredInsertion.exists_assignments`), opens the same groups and asks for the same
order. An assignment that stands for nothing contributes nothing, so the order, the contributions
and every chain built stay what they were. What can change is the value recorded for the slot
itself, and only until it is assigned again.
-/

namespace StyleChain

/-! ### Inserting an ignored assignment -/

/-- Nothing comes of the call: it names a slot of another group, or a value that its slot does not
recognize. -/
def Call.IsIgnored {g : Group} (c : Call g) : Prop := ∀ a ∈ c.assignment?, a.isRecognized = false

/-- `IgnoredInsertion made later ss ts` says that the run `ts` is the run `ss` with one ignored
assignment more. `made` is that assignment, or nothing if the slot is foreign to the group that is
told to make it, and `later` is what of the run comes after it. -/
inductive IgnoredInsertion : Option Assignment → List Step → List Step → List Step → Prop
  /-- As a step. -/
  | step (before later : List Step) {slot : Slot} {v : Loose}
      (ignored : (v.assignment slot).isRecognized = false) :
      IgnoredInsertion (some (v.assignment slot)) later (before ++ later)
        (before ++ .set slot v :: later)
  /-- As a call within a step. -/
  | call (before later : List Step) {g : Group} (calls rest : List (Call g)) {c : Call g}
      (ignored : c.IsIgnored) :
      IgnoredInsertion c.assignment? (.configure g rest :: later)
        (before ++ .configure g (calls ++ rest) :: later)
        (before ++ .configure g (calls ++ c :: rest) :: later)

/-! ### The two histories -/

/-- The assignment that a call makes is of a slot of its group. -/
theorem Call.group_of_mem_assignment? {g : Group} {c : Call g} {a : Assignment}
    (h : a ∈ c.assignment?) : a.slot.group = g := by
  cases c with
  | assign b own =>
    obtain rfl := Option.some.inj h
    exact own
  | set slot v =>
    by_cases own : slot.group = g
    · rw [assignment?, if_pos own] at h
      obtain rfl := Option.some.inj h
      rw [Loose.slot_assignment, own]
    · rw [assignment?, if_neg own] at h
      cases h

namespace Step

theorem assignments_set (g : Group) (slot : Slot) (v : Loose) :
    (Step.set slot v).assignments g =
      ((some (v.assignment slot)).filter (·.slot.group = g)).toList := by
  by_cases own : slot.group = g <;> simp [assignments, Option.filter, own]

theorem assignments_configure_singleton (g : Group) {h : Group} (c : Call h) :
    (Step.configure h [c]).assignments g = (c.assignment?.filter (·.slot.group = g)).toList := by
  cases hc : c.assignment? with
  | none => simp [assignments, hc]
  | some a =>
    have hgroup : a.slot.group = h := Call.group_of_mem_assignment? hc
    by_cases hg : h = g <;> simp [assignments, Option.filter, hc, hgroup, hg]

theorem assignments_configure_append (g : Group) {h : Group} (cs ds : List (Call h)) :
    (Step.configure h (cs ++ ds)).assignments g =
      (Step.configure h cs).assignments g ++ (Step.configure h ds).assignments g := by
  by_cases hg : h = g <;> simp [assignments, hg]

end Step

namespace IgnoredInsertion

variable {made : Option Assignment} {later ss ts : List Step}

theorem isRecognized_of_mem (h : IgnoredInsertion made later ss ts) {a : Assignment}
    (ha : a ∈ made) : a.isRecognized = false := by
  cases h with
  | step _ _ ignored =>
    obtain rfl := Option.some.inj ha
    exact ignored
  | call _ _ _ _ ignored => exact ignored a ha

/-- In each group, the longer run makes the assignments of the shorter one, and before the later
ones the inserted assignment if it is one of the group's. -/
theorem exists_assignments (h : IgnoredInsertion made later ss ts) (g : Group) :
    ∃ earlier, History.assignments g ss = earlier ++ History.assignments g later ∧
      History.assignments g ts =
        earlier ++ ((made.filter (·.slot.group = g)).toList ++ History.assignments g later) := by
  cases h with
  | step before later ignored =>
    refine ⟨History.assignments g before, History.assignments_append g before later, ?_⟩
    rw [History.assignments_append, History.assignments_cons, Step.assignments_set]
  | @call before later h calls rest c ignored =>
    -- the calls in front of the inserted one belong to what comes earlier
    refine ⟨History.assignments g before ++ (Step.configure h calls).assignments g, ?_, ?_⟩
    · rw [History.assignments_append, History.assignments_cons, History.assignments_cons,
        Step.assignments_configure_append]
      simp only [List.append_assoc]
    · rw [History.assignments_append, History.assignments_cons, History.assignments_cons,
        Step.assignments_configure_append, ← List.singleton_append,
        Step.assignments_configure_append, Step.assignments_configure_singleton]
      simp only [List.append_assoc]

/-- The inserted assignment opens no group. A step that it is put into opens its group without
it. -/
theorem openings_eq (h : IgnoredInsertion made later ss ts) :
    History.openings ts = History.openings ss := by
  unfold History.openings
  cases h with
  | @step before later slot v ignored =>
    have hopens : (Step.set slot v).opens? = none := by
      simp [Step.opens?, Assignment.isSome_op?, ignored]
    simp [hopens]
  | call before later calls rest ignored => simp [Step.opens?]

theorem requested?_eq (h : IgnoredInsertion made later ss ts) :
    History.requested? ts = History.requested? ss := by
  unfold History.requested?
  cases h with
  | step before later ignored => simp [Step.order?]
  | call before later calls rest ignored => simp [Step.order?]

end IgnoredInsertion

namespace Builder

variable {made : Option Assignment} {later ss ts : List Step}

/-! ### The two builders -/

theorem order_run_of_ignoredInsertion (h : IgnoredInsertion made later ss ts) :
    (run ts).order = (run ss).order := by
  rw [order, order, fixed_run, fixed_run, opened_run, opened_run, h.openings_eq, h.requested?_eq]

theorem deltas_run_of_ignoredInsertion (h : IgnoredInsertion made later ss ts) (g : Group) :
    ((run ts).scope g).deltas = ((run ss).scope g).deltas := by
  obtain ⟨earlier, hss, hts⟩ := h.exists_assignments g
  have hnothing : (made.filter (·.slot.group = g)).toList.filterMap Assignment.delta? = [] := by
    refine List.filterMap_eq_nil_iff.mpr fun a ha => ?_
    have hmade : a ∈ made := (Option.mem_filter_iff.mp (Option.mem_toList.mp ha)).1
    have hdelta : a.delta?.isSome = false := by
      rw [Assignment.isSome_delta?, h.isRecognized_of_mem hmade]
    exact Option.not_isSome_iff_eq_none.mp (Bool.eq_false_iff.mp hdelta)
  rw [deltas_run, deltas_run, hss, hts, List.filterMap_append, List.filterMap_append,
    List.filterMap_append, hnothing, List.nil_append]

theorem buildOn_run_of_ignoredInsertion (h : IgnoredInsertion made later ss ts) (base : Chain) :
    (run ts).buildOn base = (run ss).buildOn base := by
  refine Chain.ext ?_
  rw [ops_buildOn, ops_buildOn, order_run_of_ignoredInsertion h]
  simp only [deltas_run_of_ignoredInsertion h]

/-- The inserted assignment leaves its own slot another value, if any, and only one that no later
assignment replaces. -/
theorem slot_eq_of_values_run_ne (h : IgnoredInsertion made later ss ts) {g : Group} {slot : Slot}
    (hne : ((run ts).scope g).values slot ≠ ((run ss).scope g).values slot) :
    made.map Assignment.slot = some slot ∧ slot.group = g ∧
      ∀ a ∈ History.assignments g later, a.slot ≠ slot := by
  obtain ⟨earlier, hss, hts⟩ := h.exists_assignments g
  rw [values_run, values_run, hss, hts] at hne
  simp only [List.filter_append, List.getLast?_append] at hne
  -- the last of the later assignments to the slot, if there is one, wins in both runs
  have hlater : ∀ a ∈ History.assignments g later, a.slot ≠ slot := by
    intro a ha hslot
    have hmem : a ∈ (History.assignments g later).filter (·.slot = slot) :=
      List.mem_filter.mpr ⟨ha, decide_eq_true hslot⟩
    cases hlast : ((History.assignments g later).filter (·.slot = slot)).getLast? with
    | none => exact List.ne_nil_of_mem hmem (List.getLast?_eq_none_iff.mp hlast)
    | some b => exact hne (by simp [hlast])
  -- and an assignment of another slot, or of none, is not looked at
  cases made with
  | none => exact absurd (by simp) hne
  | some a =>
    by_cases hgroup : a.slot.group = g
    · by_cases hslot : a.slot = slot
      · exact ⟨by rw [Option.map_some, hslot], by rw [← hslot, hgroup], hlater⟩
      · exact absurd (by simp [hslot, Option.filter, hgroup]) hne
    · exact absurd (by simp [Option.filter, hgroup]) hne

/-- **Ignored values have no influence.** One ignored assignment more, anywhere in a run, leaves
the order, the contributions of every group and every chain built as they were. No slot has
another value recorded than without it, but for the slot that is assigned, if the group told to
assign it owns it and no later assignment of the run sets it again. -/
theorem run_of_ignoredInsertion (h : IgnoredInsertion made later ss ts) :
    (run ts).order = (run ss).order ∧
      (∀ g, ((run ts).scope g).deltas = ((run ss).scope g).deltas) ∧
      (∀ base, (run ts).buildOn base = (run ss).buildOn base) ∧
      ∀ g slot, ((run ts).scope g).values slot ≠ ((run ss).scope g).values slot →
        made.map Assignment.slot = some slot ∧ slot.group = g ∧
          ∀ a ∈ History.assignments g later, a.slot ≠ slot :=
  ⟨order_run_of_ignoredInsertion h, deltas_run_of_ignoredInsertion h,
    buildOn_run_of_ignoredInsertion h, fun _ _ => slot_eq_of_values_run_ne h⟩

/-- A text for the width, put between two calls: it leaves the width a value without use, and
changes nothing else. -/
theorem run_of_ignoredInsertion_width_text :
    let shorter : List Step :=
      [.set .background (.base .color (.ofRGB 255 0 0)),
        .configure .size [.assign (.width .zero) rfl, .set .height (.base .int32 2)]]
    let longer : List Step :=
      [.set .background (.base .color (.ofRGB 255 0 0)),
        .configure .size [.assign (.width .zero) rfl, .set .width (.base .text "wide"),
          .set .height (.base .int32 2)]]
    (run longer).order = (run shorter).order ∧
      (∀ g, ((run longer).scope g).deltas = ((run shorter).scope g).deltas) ∧
      (∀ base, (run longer).buildOn base = (run shorter).buildOn base) ∧
      ∀ g slot, ((run longer).scope g).values slot ≠ ((run shorter).scope g).values slot →
        some Slot.width = some slot ∧ slot.group = g ∧
          ∀ a ∈ History.assignments g [.configure .size [.set .height (.base .int32 2)]],
            a.slot ≠ slot :=
  run_of_ignoredInsertion
    (.call [.set .background (.base .color (.ofRGB 255 0 0))] []
      [.assign (.width .zero) rfl] [.set .height (.base .int32 2)]
      (c := .set .width (.base .text "wide")) fun a ha => by cases ha; rfl)

end Builder

end StyleChain
