import Mathlib.Data.List.Induction
import Mathlib.Data.List.Nodup
import StyleChain.Builder.Run

/-!
# The chain that a run builds

A builder keeps what its steps have left behind: three scopes, the groups opened, the order asked
for. `History` reads the same things off the steps themselves, without a builder: the assignments
made in a group, the groups in the order of their first opening, and the order in which the groups
are put together. The two agree part by part. What one step does to a part is stated once
(`scope_step`, `opened_step`, `fixed_step`), induction carries it over a run (`scope_run`,
`opened_run`, `fixed_run`), and the chain built is then the history written out
(`ops_buildOn_run`): behind the base, group by group, what each assignment stands for.

Two rules meet in `opened_step`. A step that configures a group opens it whatever it contributes,
while a value given from outside opens its group only by contributing, so the builder has to look
at the number of contributions and the history only at the value.
-/

namespace StyleChain

/-! ### Assignments and what they contribute -/

/-- Whether the slot can make something of its value. -/
def Assignment.isRecognized : Assignment → Bool
  | .padding (.unrecognized _) | .background (.unrecognized _) | .border (.unrecognized _)
  | .wrapContentSize (.unrecognized _) | .size (.unrecognized _) | .focusable (.unrecognized _)
  | .onPointerEvent (.unrecognized _) | .unusable _ _ => false
  | _ => true

/-- Recognized values stand for an operation, and no others do. -/
theorem Assignment.isSome_op? (a : Assignment) : a.op?.isSome = a.isRecognized := by
  cases a with
  | padding v | background v | border v | wrapContentSize v | size v | focusable v
  | onPointerEvent v => cases v <;> rfl
  | _ => rfl

theorem Assignment.isSome_delta? (a : Assignment) : a.delta?.isSome = a.isRecognized := by
  rw [delta?, Option.isSome_map, isSome_op?]

/-- The operations among the contributions are those that the assignments stand for. -/
theorem Assignment.map_op_filterMap_delta? (as : List Assignment) :
    (as.filterMap Assignment.delta?).map Delta.op = as.filterMap Assignment.op? := by
  rw [List.map_filterMap]
  congr 1
  funext a
  cases h : a.op? <;> simp [Assignment.delta?, h]

/-! ### Reading a run -/

/-- The assignment that a call makes in its group, unless it names a foreign slot. -/
def Call.assignment? {g : Group} : Call g → Option Assignment
  | .assign a _ => some a
  | .set slot v => if slot.group = g then some (v.assignment slot) else none

/-- The assignments that a step makes in the group `g`, in order. -/
def Step.assignments (g : Group) : Step → List Assignment
  | .withOrder _ => []
  | .configure h calls => if h = g then calls.filterMap Call.assignment? else []
  | .set slot v => if slot.group = g then [v.assignment slot] else []

/-- The group that a step opens, whether or not it was open before. -/
def Step.opens? : Step → Option Group
  | .withOrder _ => none
  | .configure g _ => some g
  | .set slot v => if (v.assignment slot).op?.isSome then some slot.group else none

/-- The order that a step asks for. -/
def Step.order? : Step → Option GroupOrder
  | .withOrder o => some o
  | .configure _ _ | .set _ _ => none

namespace History

/-- The assignments that a run makes in the group `g`, in order. -/
def assignments (g : Group) (steps : List Step) : List Assignment :=
  steps.flatMap (Step.assignments g)

@[simp] theorem assignments_nil (g : Group) : assignments g [] = [] := rfl

theorem assignments_cons (g : Group) (t : Step) (steps : List Step) :
    assignments g (t :: steps) = t.assignments g ++ assignments g steps := rfl

theorem assignments_append (g : Group) (ss ts : List Step) :
    assignments g (ss ++ ts) = assignments g ss ++ assignments g ts :=
  List.flatMap_append

/-- The operations that a run contributes to the group `g`: what each assignment stands for, and
nothing for one that stands for nothing. -/
def contributions (g : Group) (steps : List Step) : List Op :=
  (assignments g steps).filterMap Assignment.op?

/-- The groups that a run opens, in the order of their first opening. -/
def openings (steps : List Step) : List Group := (steps.filterMap Step.opens?).eraseDups

/-- Of a list with one more item, the first occurrences are the old ones, and the item if it is
new. -/
theorem eraseDups_concat (gs : List Group) (g : Group) :
    (gs ++ [g]).eraseDups = if g ∈ gs then gs.eraseDups else gs.eraseDups ++ [g] := by
  rw [List.eraseDups_append]
  by_cases hg : g ∈ gs
  · have hnone : [g].removeAll gs = [] := by simp [List.cons_removeAll, hg]
    rw [hnone, if_pos hg, List.eraseDups_nil, List.append_nil]
  · have hall : [g].removeAll gs = [g] := by simp [List.cons_removeAll, hg]
    rw [hall, if_neg hg, List.eraseDups_cons]
    rfl

/-- One more step opens a group behind all others, unless the group was opened before. -/
theorem openings_concat (steps : List Step) (t : Step) :
    openings (steps ++ [t]) =
      match t.opens? with
      | none => openings steps
      | some g =>
        if g ∈ openings steps then openings steps
        else openings steps ++ [g] := by
  unfold openings
  cases h : t.opens? with
  | none => simp [h]
  | some g =>
    simp only [List.filterMap_append, List.filterMap_cons, h, List.filterMap_nil,
      List.mem_eraseDups, eraseDups_concat]

/-- The order that a run asks for last, if it asks for any. -/
def requested? (steps : List Step) : Option GroupOrder := (steps.filterMap Step.order?).getLast?

/-- The order in which a run's groups are put together: the one asked for, or else the groups
opened, followed by those never opened. -/
def groups (steps : List Step) : List Group :=
  match requested? steps with
  | some o => o.kinds
  | none => openings steps ++ Group.all.filter (· ∉ openings steps)

end History

/-! ### One scope under a list of calls -/

namespace Scope

variable {g : Group}

/-- The scope after assignments of its own slots: a slot has the value that it was assigned last,
and behind all earlier contributions stands what each assignment contributes. -/
def record (s : Scope g) (as : List Assignment) : Scope g where
  values := fun slot => (as.filter (·.slot = slot)).getLast?.or (s.values slot)
  deltas := s.deltas ++ as.filterMap Assignment.delta?

@[simp] theorem deltas_record (s : Scope g) (as : List Assignment) :
    (s.record as).deltas = s.deltas ++ as.filterMap Assignment.delta? := rfl

@[simp] theorem values_record (s : Scope g) (as : List Assignment) (slot : Slot) :
    (s.record as).values slot = (as.filter (·.slot = slot)).getLast?.or (s.values slot) := rfl

@[simp] theorem record_nil (s : Scope g) : s.record [] = s :=
  Scope.ext (funext fun slot => by simp) (by simp)

theorem record_append (s : Scope g) (as bs : List Assignment) :
    s.record (as ++ bs) = (s.record as).record bs :=
  Scope.ext (funext fun slot => by simp [List.getLast?_append, Option.or_assoc])
    (by simp)

theorem assign_eq_record (s : Scope g) {a : Assignment} (own : a.slot.group = g) :
    s.assign a own = s.record [a] := by
  refine Scope.ext (funext fun slot => ?_) ?_
  · rw [values_assign, values_record]
    by_cases h : a.slot = slot
    · simp [h]
    · simp [h, Ne.symm h]
  · rw [deltas_assign, deltas_record]
    cases h : a.delta? <;> simp [h]

/-- A call records its assignment, if it makes one. -/
theorem perform_eq_record (s : Scope g) (c : Call g) :
    s.perform c = s.record c.assignment?.toList := by
  cases c with
  | assign a own => exact assign_eq_record s own
  | set slot v =>
    by_cases own : slot.group = g
    · rw [perform, set_of_group_eq s own, assign_eq_record]
      simp [Call.assignment?, own]
    · rw [perform, set_of_group_ne s own]
      simp [Call.assignment?, own]

theorem performAll_eq_record (s : Scope g) (calls : List (Call g)) :
    s.performAll calls = s.record (calls.filterMap Call.assignment?) := by
  unfold performAll
  induction calls generalizing s with
  | nil => simp
  | cons c calls ih =>
    rw [List.foldl_cons, ih, perform_eq_record, ← record_append]
    cases h : c.assignment? <;> simp [h]

end Scope

namespace Group

/-- Groups given without repetition and all others behind them are all groups. -/
theorem append_filter_perm_all {opened : List Group} (h : opened.Nodup) :
    (opened ++ all.filter (· ∉ opened)).Perm all := by
  have hdisjoint : opened.Disjoint (all.filter (· ∉ opened)) := by
    intro g hg hrest
    simp only [List.mem_filter, decide_eq_true_eq] at hrest
    exact hrest.2 hg
  refine (List.perm_ext_iff_of_nodup (h.append (nodup_all.filter _) hdisjoint) nodup_all).mpr
    fun g => ?_
  simp only [List.mem_append, List.mem_filter, decide_eq_true_eq, mem_all, true_and, iff_true]
  exact em _

/-- Groups opened without repetition come first, and the others follow in canonical order: each
finds one place, and no place is left as it was. -/
theorem openedFirst_of_nodup {opened : List Group} (h : opened.Nodup) :
    openedFirst opened = opened ++ all.filter (· ∉ opened) := by
  have hlength := (append_filter_perm_all h).length_eq
  simp only [openedFirst, hlength, List.drop_length, List.append_nil]
  exact List.take_of_length_le (Nat.le_of_eq hlength)

end Group

namespace Builder

/-! ### One step -/

/-- A value given from outside makes its scope longer exactly when it stands for an operation. -/
theorem length_deltas_lt_set_iff (b : Builder) (slot : Slot) (v : Loose) :
    (b.scope slot.group).deltas.length < ((b.scope slot.group).set slot v).deltas.length ↔
      (v.assignment slot).op?.isSome := by
  rw [Scope.set_of_group_eq _ rfl, Scope.deltas_assign]
  cases h : (v.assignment slot).op? <;> simp [Assignment.delta?, h]

/-- Giving a slot a value from outside is giving it to the scope that owns the slot. -/
theorem scope_set (b : Builder) (slot : Slot) (v : Loose) (g : Group) :
    (b.set slot v).scope g = (b.scope g).set slot v := by
  have hscope : (b.set slot v).scope g =
      (b.withScope slot.group ((b.scope slot.group).set slot v)).scope g := by
    unfold set
    dsimp only
    split <;> simp
  rw [hscope]
  by_cases own : slot.group = g
  · subst own
    rw [scope_withScope_self]
  · rw [scope_withScope_of_ne (Ne.symm own), Scope.set_of_group_ne _ own]

theorem scope_configure_self (b : Builder) (g : Group) (f : Scope g → Scope g) :
    (b.configure g f).scope g = f (b.scope g) := by
  rw [configure, scope_withScope_self]

theorem scope_configure_of_ne {g h : Group} (hne : h ≠ g) (b : Builder) (f : Scope g → Scope g) :
    (b.configure g f).scope h = b.scope h := by
  rw [configure, scope_withScope_of_ne hne, scope_openGroup]

/-- A step records in each group the assignments that it makes there. -/
theorem scope_step (b : Builder) (t : Step) (g : Group) :
    (b.step t).scope g = (b.scope g).record (t.assignments g) := by
  cases t with
  | withOrder o => cases g <;> simp [step, withOrder, scope, Step.assignments]
  | configure h calls =>
    by_cases hg : h = g
    · subst hg
      rw [step, scope_configure_self, Scope.performAll_eq_record]
      simp [Step.assignments]
    · rw [step, scope_configure_of_ne (Ne.symm hg)]
      simp [Step.assignments, hg]
  | set slot v =>
    have hperform := Scope.perform_eq_record (b.scope g) (.set slot v)
    rw [step, scope_set]
    by_cases own : slot.group = g <;>
      simpa [Scope.perform, Call.assignment?, Step.assignments, own] using hperform

/-- A step adds the group that it opens behind the open ones, unless it is among them. -/
theorem opened_step (b : Builder) (t : Step) :
    (b.step t).opened =
      match t.opens? with
      | none => b.opened
      | some g => if g ∈ b.opened then b.opened else b.opened ++ [g] := by
  cases t with
  | withOrder o => rfl
  | configure g calls => rw [step, configure, opened_withScope, opened_openGroup]; rfl
  | set slot v =>
    -- the builder compares numbers of contributions, the history looks at the value
    by_cases h : (v.assignment slot).op?.isSome
    · have hlt := (length_deltas_lt_set_iff b slot v).mpr h
      simp only [step, set, if_pos hlt, opened_openGroup, opened_withScope, Step.opens?, if_pos h]
    · have hlt := mt (length_deltas_lt_set_iff b slot v).mp h
      simp only [step, set, if_neg hlt, opened_withScope, Step.opens?, if_neg h]

/-- A step that asks for an order replaces the one asked for before. -/
theorem fixed_step (b : Builder) (t : Step) : (b.step t).fixed = t.order?.or b.fixed := by
  cases t with
  | withOrder o => rfl
  | configure g calls => rw [step, configure, fixed_withScope, fixed_openGroup]; rfl
  | set slot v =>
    simp only [step, set, Step.order?, Option.none_or]
    split <;> simp

/-- Builders with the same scopes, open groups and order asked for are the same. -/
theorem ext_scope {b c : Builder} (hscope : ∀ g, b.scope g = c.scope g)
    (hopened : b.opened = c.opened) (hfixed : b.fixed = c.fixed) : b = c :=
  Builder.ext (hscope .size) (hscope .appearance) (hscope .interaction) hopened hfixed

/-- All that a step does is to assign, to open and to ask for an order. -/
theorem step_eq_step {t u : Step} (hassignments : ∀ g, t.assignments g = u.assignments g)
    (hopens : t.opens? = u.opens?) (horder : t.order? = u.order?) (b : Builder) :
    b.step t = b.step u :=
  ext_scope (fun g => by rw [scope_step, scope_step, hassignments])
    (by rw [opened_step, opened_step, hopens]) (by rw [fixed_step, fixed_step, horder])

theorem nodup_opened_step {b : Builder} (h : b.opened.Nodup) (t : Step) :
    (b.step t).opened.Nodup := by
  rw [opened_step]
  cases t.opens? with
  | none => exact h
  | some g =>
    by_cases hg : g ∈ b.opened
    · simpa [hg] using h
    · simpa [hg] using h.append (List.nodup_singleton g) (List.disjoint_singleton.mpr hg)

/-! ### A run -/

/-- After a run, each group has recorded the assignments that the run made in it. -/
theorem scope_run (steps : List Step) (g : Group) :
    (run steps).scope g = Scope.empty.record (History.assignments g steps) := by
  induction steps using List.reverseRecOn with
  | nil => rw [run_nil, scope_empty, History.assignments_nil, Scope.record_nil]
  | append_singleton steps t ih =>
    rw [run_concat, scope_step, ih, ← Scope.record_append, History.assignments_append,
      History.assignments_cons, History.assignments_nil, List.append_nil]

/-- After a run, each group's contributions are those of its assignments, in order. -/
theorem deltas_run (steps : List Step) (g : Group) :
    ((run steps).scope g).deltas =
      (History.assignments g steps).filterMap Assignment.delta? := by
  rw [scope_run, Scope.deltas_record, Scope.deltas_empty, List.nil_append]

/-- After a run, a slot has the value that it was assigned last. -/
theorem values_run (steps : List Step) (g : Group) (slot : Slot) :
    ((run steps).scope g).values slot =
      ((History.assignments g steps).filter (·.slot = slot)).getLast? := by
  rw [scope_run, Scope.values_record, Scope.values_empty, Option.or_none]

/-- After a run, the open groups are those that its steps opened, in the order of first opening. -/
theorem opened_run (steps : List Step) : (run steps).opened = History.openings steps := by
  induction steps using List.reverseRecOn with
  | nil => rfl
  | append_singleton steps t ih => rw [run_concat, opened_step, ih, History.openings_concat]

theorem nodup_opened_run (steps : List Step) : (run steps).opened.Nodup := by
  induction steps using List.reverseRecOn with
  | nil => exact List.nodup_nil
  | append_singleton steps t ih =>
    rw [run_concat]
    exact nodup_opened_step ih t

/-- After a run, the order asked for is the last one that a step asked for. -/
theorem fixed_run (steps : List Step) : (run steps).fixed = History.requested? steps := by
  unfold History.requested?
  induction steps using List.reverseRecOn with
  | nil => rfl
  | append_singleton steps t ih =>
    rw [run_concat, fixed_step, ih]
    cases h : t.order? <;> simp [h]

/-! ### The order, and the chain built -/

/-- A builder that has opened no group twice puts the groups together in an order of all of
them. -/
theorem order_perm_all {b : Builder} (h : b.opened.Nodup) : b.order.Perm Group.all := by
  unfold order
  cases b.fixed with
  | some o => exact o.perm
  | none => exact Group.openedFirst_of_nodup h ▸ Group.append_filter_perm_all h

/-- After a run, the groups are put together in the order that the steps say. -/
theorem order_run (steps : List Step) :
    (run steps).order = History.groups steps := by
  unfold order History.groups
  rw [fixed_run]
  cases History.requested? steps with
  | some o => rfl
  | none =>
    rw [← opened_run]
    exact Group.openedFirst_of_nodup (nodup_opened_run steps)

/-- **The chain of a run.** The operations are those of the base, followed by what the run has
contributed to each group, the groups standing in the order that the run says and the operations
of a group in the order of its assignments. An assignment contributes nothing exactly when its
value is not recognized. -/
theorem ops_buildOn_run (steps : List Step) (base : Chain) :
    ((run steps).buildOn base).ops =
        base.ops ++ (History.groups steps).flatMap (History.contributions · steps) ∧
      ∀ a : Assignment, a.op?.isSome = a.isRecognized := by
  refine ⟨?_, Assignment.isSome_op?⟩
  have hgroup : ∀ g, ((run steps).scope g).deltas.map Delta.op = History.contributions g steps :=
    fun g => by
      rw [deltas_run, Assignment.map_op_filterMap_delta?]
      rfl
  rw [ops_buildOn, order_run]
  simp only [hgroup]

/-- Configuring a group opens it even with no call, and a value that its slot does not recognize
opens nothing. -/
example :
    History.groups
        [.configure .interaction [], .set .width (.base .text "wide"),
          .set .background (.base .color ⟨.zero _, .zero _, .zero _, .zero _⟩)] =
      [.interaction, .appearance, .size] := by
  decide

end Builder

end StyleChain
