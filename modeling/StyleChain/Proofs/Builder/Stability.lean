import Mathlib.Data.List.Flatten
import Mathlib.Data.List.Perm.Basic
import StyleChain.Proofs.Builder.Interleaving

/-!
# Groups keep their places

What a builder has put in order it does not rearrange later. Two facts about the open groups carry
this, and `Builder.Ordered` keeps them together: no group is opened twice, and every group that
has contributed an operation is open. The second is what makes the two ways of opening safe. A
value given from outside leaves its group closed only if it contributes nothing, so a group that is
opened later never had an operation that would have to move.

Both facts hold whatever functions configure the groups (`Action`), since configuring opens first
and looks at nothing. One action preserves them (`Ordered.act`) and only adds to the open groups at
their end (`opened_prefix_act`), and so do several. Where the configuration only makes assignments,
contributions grow at their end too, and the chain built before some steps is then found in order
within the chain built after them (`ordered_acts_and_ops_sublist`).
-/

namespace StyleChain

/-! ### Actions -/

/-- A step of a program that configures groups by functions of its own. -/
inductive Action where
  /-- Asks for an order of the groups. -/
  | withOrder (o : GroupOrder)
  /-- Configures a group. -/
  | configure (g : Group) (f : Scope g → Scope g)
  /-- Gives a slot a value of any type. -/
  | set (slot : Slot) (v : Loose)

/-- The calls of a step, one after the other, are one function on a scope. -/
def Step.action : Step → Action
  | .withOrder o => .withOrder o
  | .configure g calls => .configure g fun s => s.performAll calls
  | .set slot v => .set slot v

/-- The step that opens what an action opens, and configures nothing. -/
def Action.opening : Action → Step
  | .withOrder o => .withOrder o
  | .configure g _ => .configure g []
  | .set slot v => .set slot v

namespace Builder

/-- Takes one action. -/
def act (b : Builder) : Action → Builder
  | .withOrder o => b.withOrder o
  | .configure g f => b.configure g f
  | .set slot v => b.set slot v

/-- Takes several actions in order. -/
def acts (b : Builder) (actions : List Action) : Builder := actions.foldl act b

theorem acts_append (b : Builder) (actions more : List Action) :
    b.acts (actions ++ more) = (b.acts actions).acts more :=
  List.foldl_append

theorem acts_concat (b : Builder) (actions : List Action) (a : Action) :
    b.acts (actions ++ [a]) = (b.acts actions).act a :=
  acts_append b actions [a]

theorem step_eq_act (b : Builder) (t : Step) : b.step t = b.act t.action := by
  cases t <;> rfl

/-- A run is a list of actions. -/
theorem run_eq_acts (steps : List Step) : run steps = empty.acts (steps.map Step.action) := by
  have hstep : step = fun b t => b.act t.action := funext fun b => funext fun t => step_eq_act b t
  rw [run, acts, List.foldl_map, hstep]

/-! ### Open groups -/

theorem mem_opened_openGroup (b : Builder) (g : Group) : g ∈ (b.openGroup g).opened := by
  rw [opened_openGroup]
  by_cases hg : g ∈ b.opened
  · rwa [if_pos hg]
  · rw [if_neg hg]
    exact List.mem_append_right _ (List.mem_singleton_self g)

/-- What an action opens does not depend on how it configures. -/
theorem opened_act (b : Builder) (a : Action) : (b.act a).opened = (b.step a.opening).opened := by
  cases a with
  | withOrder o => rfl
  | configure g f => simp only [act, Action.opening, step, configure, opened_withScope]
  | set slot v => rfl

/-- A step leaves the open groups as they are, or opens one more behind them. -/
theorem opened_prefix_step (b : Builder) (t : Step) : b.opened <+: (b.step t).opened := by
  rw [opened_step]
  cases t.opens? with
  | none => exact List.prefix_rfl
  | some g =>
    by_cases hg : g ∈ b.opened
    · simp [hg]
    · simp [hg]

theorem opened_prefix_act (b : Builder) (a : Action) : b.opened <+: (b.act a).opened := by
  rw [opened_act]
  exact opened_prefix_step b a.opening

/-- Open groups stay open, in the same places. -/
theorem opened_prefix_acts (b : Builder) (actions : List Action) :
    b.opened <+: (b.acts actions).opened := by
  induction actions generalizing b with
  | nil => exact List.prefix_rfl
  | cons a actions ih => exact (opened_prefix_act b a).trans (ih (b.act a))

/-- No group is opened twice, and every group that has contributed an operation is open. -/
structure Ordered (b : Builder) : Prop where
  /-- Each group is opened once. -/
  nodup_opened : b.opened.Nodup
  /-- Contributing groups are open. -/
  mem_opened : ∀ g, (b.scope g).deltas ≠ [] → g ∈ b.opened

theorem ordered_empty : empty.Ordered where
  nodup_opened := List.nodup_nil
  mem_opened g h := absurd (by simp) h

/-- A value given from outside opens its group if it contributes to it. -/
private theorem mem_opened_set {b : Builder} (hb : b.Ordered) (slot : Slot) (v : Loose)
    {g : Group} (hne : ((b.set slot v).scope g).deltas ≠ []) : g ∈ (b.set slot v).opened := by
  rw [scope_set] at hne
  by_cases hopen : g ∈ b.opened
  · exact (opened_prefix_act b (.set slot v)).subset hopen
  · have hnil : (b.scope g).deltas = [] := not_not.mp fun h => hopen (hb.mem_opened g h)
    by_cases own : slot.group = g
    · -- there was nothing before, so the value has contributed
      subst own
      have hlonger : (b.scope slot.group).deltas.length <
          ((b.scope slot.group).set slot v).deltas.length := by
        rw [hnil]
        exact List.length_pos_iff.mpr hne
      have hopened : (b.set slot v).opened = (b.openGroup slot.group).opened := by
        simp only [set, if_pos hlonger, opened_openGroup, opened_withScope]
      rw [hopened]
      exact mem_opened_openGroup b slot.group
    · rw [Scope.set_of_group_ne _ own] at hne
      exact absurd hnil hne

/-- Configuring a group opens it, whatever it does to the scope. -/
private theorem mem_opened_configure {b : Builder} (hb : b.Ordered) (g : Group)
    (f : Scope g → Scope g) {h : Group} (hne : ((b.configure g f).scope h).deltas ≠ []) :
    h ∈ (b.configure g f).opened := by
  by_cases hg : h = g
  · subst hg
    rw [configure, opened_withScope]
    exact mem_opened_openGroup b h
  · rw [scope_configure_of_ne hg] at hne
    exact (opened_prefix_act b (.configure g f)).subset (hb.mem_opened h hne)

/-- One action keeps a builder ordered. -/
theorem Ordered.act {b : Builder} (hb : b.Ordered) (a : Action) : (b.act a).Ordered where
  nodup_opened := by
    rw [opened_act]
    exact nodup_opened_step hb.nodup_opened a.opening
  mem_opened g h := by
    cases a with
    | withOrder o => exact hb.mem_opened g (by cases g <;> exact h)
    | configure k f => exact mem_opened_configure hb k f h
    | set slot v => exact mem_opened_set hb slot v h

theorem Ordered.acts {b : Builder} (hb : b.Ordered) (actions : List Action) :
    (b.acts actions).Ordered := by
  induction actions generalizing b with
  | nil => exact hb
  | cons a actions ih => exact ih (hb.act a)

theorem ordered_run (steps : List Step) : (run steps).Ordered := by
  rw [run_eq_acts]
  exact ordered_empty.acts _

/-! ### The order and the chain -/

/-- Without an order asked for, the open groups stand first, and the others follow in canonical
order. -/
theorem Ordered.order_eq {b : Builder} (hb : b.Ordered) (hfixed : b.fixed = none) :
    b.order = b.opened ++ Group.all.filter (· ∉ b.opened) := by
  unfold order
  rw [hfixed]
  exact Group.openedFirst_of_nodup hb.nodup_opened

/-- Without an order asked for, the contributing groups stand in the order of their opening. -/
theorem Ordered.contributing_sublist_opened {b : Builder} (hb : b.Ordered)
    (hfixed : b.fixed = none) : b.contributing.Sublist b.opened := by
  have hrest : (Group.all.filter (· ∉ b.opened)).filter (fun g => !(b.scope g).isEmpty) = [] := by
    refine List.filter_eq_nil_iff.mpr fun g hg hne => ?_
    have hclosed : g ∉ b.opened := by simpa using (List.mem_filter.mp hg).2
    exact hclosed (hb.mem_opened g (by simpa [Scope.isEmpty] using hne))
  rw [contributing, hb.order_eq hfixed, List.filter_append, hrest, List.append_nil]
  exact List.filter_sublist

/-- If groups and contributions only grow at their end and no other order is asked for, then so
does the order of the contributing groups, up to groups put in between. -/
theorem Ordered.contributing_sublist_order {b c : Builder} (hb : b.Ordered) (hc : c.Ordered)
    (hopened : b.opened <+: c.opened) (hfixed : c.fixed = b.fixed) :
    b.contributing.Sublist c.order := by
  cases hb' : b.fixed with
  | none =>
    rw [hc.order_eq (hfixed.trans hb')]
    exact (hb.contributing_sublist_opened hb').trans
      (hopened.sublist.trans (List.sublist_append_left _ _))
  | some o =>
    have horder : c.order = b.order := by simp only [order, hfixed, hb']
    rw [horder]
    exact List.filter_sublist

/-- Then the chain built before is found in order within the chain built after. -/
theorem Ordered.ops_buildOn_sublist {b c : Builder} (hb : b.Ordered) (hc : c.Ordered)
    (hopened : b.opened <+: c.opened) (hfixed : c.fixed = b.fixed)
    (hdeltas : ∀ g, (b.scope g).deltas <+: (c.scope g).deltas) (base : Chain) :
    (b.buildOn base).ops.Sublist (c.buildOn base).ops := by
  have hgroups := hb.contributing_sublist_order hc hopened hfixed
  rw [ops_buildOn_eq_contributing, ops_buildOn]
  refine List.Sublist.append_left (List.Sublist.trans ?_ (hgroups.flatMap _)) base.ops
  exact List.Sublist.flatMap_right _ fun g _ => (hdeltas g).sublist.map Delta.op

/-! ### Continued runs -/

/-- Further steps add contributions behind those already made. -/
theorem deltas_prefix_run (ss ts : List Step) (g : Group) :
    ((run ss).scope g).deltas <+: ((run (ss ++ ts)).scope g).deltas := by
  rw [deltas_run, deltas_run, History.assignments_append, List.filterMap_append]
  exact List.prefix_append _ _

/-- Steps that ask for no order leave the one asked for. -/
theorem fixed_run_append {ss ts : List Step} (h : ∀ o, Step.withOrder o ∉ ts) :
    (run (ss ++ ts)).fixed = (run ss).fixed := by
  have hnone : ts.filterMap Step.order? = [] := by
    refine List.filterMap_eq_nil_iff.mpr fun t ht => ?_
    cases t with
    | withOrder o => exact absurd ht (h o)
    | configure g calls => rfl
    | set slot v => rfl
  rw [fixed_run, fixed_run, History.requested?, History.requested?, List.filterMap_append, hnone,
    List.append_nil]

/-- Further steps add exactly their contributions to a chain. -/
theorem ops_buildOn_run_append_perm (ss ts : List Step) (base : Chain) :
    ((run (ss ++ ts)).buildOn base).ops.Perm
      (((run ss).buildOn base).ops ++ Group.all.flatMap (History.contributions · ts)) := by
  have hdeltas : ∀ g, ((run (ss ++ ts)).scope g).deltas.map Delta.op =
      ((run ss).scope g).deltas.map Delta.op ++ History.contributions g ts := fun g => by
    rw [deltas_run, History.assignments_append, List.filterMap_append, List.map_append,
      ← deltas_run, Assignment.map_op_filterMap_delta?]
    rfl
  -- in any one order of the groups, old and new contributions are told apart group by group
  have hsplit : ((run (ss ++ ts)).order.flatMap fun g =>
        ((run (ss ++ ts)).scope g).deltas.map Delta.op).Perm
      ((Group.all.flatMap fun g => ((run ss).scope g).deltas.map Delta.op) ++
        Group.all.flatMap (History.contributions · ts)) := by
    simp only [hdeltas]
    exact ((order_perm_all (nodup_opened_run _)).flatMap_right _).trans
      (List.flatMap_append_perm _ _ _).symm
  rw [ops_buildOn, ops_buildOn, List.append_assoc]
  refine List.Perm.append_left base.ops (hsplit.trans ?_)
  exact ((order_perm_all (nodup_opened_run ss)).flatMap_right _).symm.append_right _

/-- **Groups keep their places.** Whatever functions configure the groups, no group is opened
twice, the groups are put together in an order that names each of them once, which starts with the
open groups and leaves the others in canonical order unless another order was asked for, and every
group that has contributed an operation is open. Further actions only add to the open groups at
their end. If groups are configured by assignments, further steps that ask for no order leave the
operations of every chain built in the order in which they were, and add their own contributions
to them and nothing else. -/
theorem ordered_acts_and_ops_sublist :
    (∀ actions : List Action,
      (empty.acts actions).opened.Nodup ∧
        (empty.acts actions).order.Perm Group.all ∧
        ((empty.acts actions).fixed = none →
          (empty.acts actions).opened <+: (empty.acts actions).order ∧
            (empty.acts actions).order = (empty.acts actions).opened ++
              Group.all.filter (· ∉ (empty.acts actions).opened)) ∧
        ∀ g, ((empty.acts actions).scope g).deltas ≠ [] → g ∈ (empty.acts actions).opened) ∧
      (∀ actions more : List Action,
        (empty.acts actions).opened <+: (empty.acts (actions ++ more)).opened) ∧
      ∀ (ss ts : List Step) (base : Chain), (∀ o, Step.withOrder o ∉ ts) →
        ((run ss).buildOn base).ops.Sublist ((run (ss ++ ts)).buildOn base).ops ∧
          ((run (ss ++ ts)).buildOn base).ops.Perm
            (((run ss).buildOn base).ops ++ Group.all.flatMap (History.contributions · ts)) := by
  refine ⟨fun actions => ?_, fun actions more => ?_, fun ss ts base hts => ⟨?_, ?_⟩⟩
  · have hb : (empty.acts actions).Ordered := ordered_empty.acts actions
    refine ⟨hb.nodup_opened, order_perm_all hb.nodup_opened, fun hfixed => ?_, hb.mem_opened⟩
    have horder := hb.order_eq hfixed
    exact ⟨horder ▸ List.prefix_append _ _, horder⟩
  · rw [acts_append]
    exact opened_prefix_acts _ more
  · have hopened : (run ss).opened <+: (run (ss ++ ts)).opened := by
      rw [run_eq_acts, run_eq_acts, List.map_append, acts_append]
      exact opened_prefix_acts _ _
    exact (ordered_run ss).ops_buildOn_sublist (ordered_run (ss ++ ts)) hopened
      (fixed_run_append hts) (deltas_prefix_run ss ts) base
  · exact ops_buildOn_run_append_perm ss ts base

/-- A background and an empty group; then a text for the border, which opens nothing, a width and
one more background. The width comes last, behind both backgrounds. -/
theorem ordered_acts_and_ops_sublist_width_last :
    let ss : List Step :=
      [.set .background (.base .color (.ofRGB 255 0 0)), .configure .interaction []]
    let ts : List Step :=
      [.set .border (.base .text "thin"), .configure .size [.assign (.width .zero) rfl],
        .set .background (.base .color (.ofRGB 0 0 255))]
    (∀ o, Step.withOrder o ∉ ts) ∧
      (run (ss ++ ts)).order = [.appearance, .interaction, .size] ∧
      (run ss).build.ops.Sublist (run (ss ++ ts)).build.ops ∧
      (run (ss ++ ts)).build.ops.Perm
        ((run ss).build.ops ++ Group.all.flatMap (History.contributions · ts)) := by
  intro ss ts
  have hts : ∀ o, Step.withOrder o ∉ ts := fun o => by simp [ts]
  exact ⟨hts, by decide, ordered_acts_and_ops_sublist.2.2 ss ts .empty hts⟩

end Builder

end StyleChain
