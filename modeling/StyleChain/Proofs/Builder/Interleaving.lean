import StyleChain.Proofs.Builder.History

/-!
# Interleaving the configuration of groups

The groups of a builder do not know of each other, so it makes no difference to a group what
happens between two assignments of its own. `Scope.performAll_empty_eq_scope_run` says it for one
group: what a run leaves in it is what its assignments leave in a scope that is configured on its
own.

For the chain that is built there remains the order, and of the order only the groups that have
something to contribute (`Builder.contributing`); the others may stand anywhere
(`Builder.ops_buildOn_eq_contributing`). Two runs with the same assignments in each group and the
same order of contributing groups therefore build the same chains, and `accumulate`, which puts
three scopes together without a builder, builds the same as well if that order is the canonical
one.
-/

namespace StyleChain

/-- Calls on a scope of its own lead to what a run with the same assignments leaves in the
group. -/
theorem Scope.performAll_empty_eq_scope_run {g : Group} {calls : List (Call g)}
    {steps : List Step}
    (h : calls.filterMap Call.assignment? = History.assignments g steps) :
    (Scope.empty : Scope g).performAll calls = (Builder.run steps).scope g := by
  rw [performAll_eq_record, h, Builder.scope_run]

/-- The assignments that a step makes in a group can be made by calls on the group alone. -/
theorem Step.exists_calls (g : Group) (t : Step) :
    ∃ calls : List (Call g), calls.filterMap Call.assignment? = t.assignments g := by
  cases t with
  | withOrder o => exact ⟨[], rfl⟩
  | configure h calls =>
    by_cases hg : h = g
    · subst hg
      exact ⟨calls, by simp [assignments]⟩
    · exact ⟨[], by simp [assignments, hg]⟩
  | set slot v =>
    by_cases own : slot.group = g
    · exact ⟨[.set slot v], by simp [assignments, Call.assignment?, own]⟩
    · exact ⟨[], by simp [assignments, own]⟩

/-- What a run assigns in a group can be assigned in a scope of its own. -/
theorem History.exists_calls (g : Group) (steps : List Step) :
    ∃ calls : List (Call g), calls.filterMap Call.assignment? = assignments g steps := by
  induction steps with
  | nil => exact ⟨[], rfl⟩
  | cons t steps ih =>
    obtain ⟨first, hfirst⟩ := t.exists_calls g
    obtain ⟨rest, hrest⟩ := ih
    exact ⟨first ++ rest, by rw [List.filterMap_append, hfirst, hrest, assignments_cons]⟩

/-- Three scopes are put together in canonical order. -/
theorem ops_accumulate (scopes : ∀ g, Scope g) :
    (accumulate (scopes .size) (scopes .appearance) (scopes .interaction)).ops =
      Group.all.flatMap fun g => (scopes g).deltas.map Delta.op := by
  simp [accumulate, Scope.ops_foldOnto, Group.all]

namespace Builder

/-- The groups that have contributed an operation, in the order in which groups are put
together. -/
def contributing (b : Builder) : List Group :=
  b.order.filter fun g => !(b.scope g).isEmpty

/-- A group that has contributed nothing adds nothing, wherever it stands. -/
private theorem flatMap_filter_not_isEmpty (b : Builder) (gs : List Group) :
    ((gs.filter fun g => !(b.scope g).isEmpty).flatMap fun g => (b.scope g).deltas.map Delta.op) =
      gs.flatMap fun g => (b.scope g).deltas.map Delta.op := by
  induction gs with
  | nil => rfl
  | cons g gs ih =>
    cases hg : (b.scope g).isEmpty with
    | true =>
      have hnil : (b.scope g).deltas = [] := List.isEmpty_iff.mp hg
      rw [List.filter_cons_of_neg (by simp [hg]), List.flatMap_cons, hnil, ih]
      rfl
    | false =>
      rw [List.filter_cons_of_pos (by simp [hg]), List.flatMap_cons, List.flatMap_cons, ih]

/-- Of the order, only the contributing groups matter to a chain. -/
theorem ops_buildOn_eq_contributing (b : Builder) (base : Chain) :
    (b.buildOn base).ops =
      base.ops ++ b.contributing.flatMap fun g => (b.scope g).deltas.map Delta.op := by
  rw [ops_buildOn, contributing, flatMap_filter_not_isEmpty]

/-- Builders with the same contributing groups, and with the same contributions in each, build the
same chains. -/
theorem buildOn_eq_buildOn {b c : Builder} (hcontributing : b.contributing = c.contributing)
    (hdeltas : ∀ g, (b.scope g).deltas = (c.scope g).deltas) (base : Chain) :
    b.buildOn base = c.buildOn base := by
  refine Chain.ext ?_
  rw [ops_buildOn_eq_contributing, ops_buildOn_eq_contributing, hcontributing]
  simp only [hdeltas]

/-- Contributing groups in canonical order are those that `Group.all` leaves when the others are
struck out. -/
theorem contributing_eq_filter_all {b : Builder} (horder : b.order.Perm Group.all)
    (h : b.contributing.Sublist Group.all) :
    b.contributing = Group.all.filter fun g => !(b.scope g).isEmpty := by
  have hsub : b.contributing.Sublist (Group.all.filter fun g => !(b.scope g).isEmpty) := by
    have hfilter := h.filter fun g => !(b.scope g).isEmpty
    simp only [contributing, List.filter_filter, Bool.and_self] at hfilter
    exact hfilter
  have hperm : b.contributing.Perm (Group.all.filter fun g => !(b.scope g).isEmpty) :=
    horder.filter _
  exact hsub.eq_of_length hperm.length_eq

/-- A builder whose contributing groups stand in canonical order builds what accumulating its
scopes gives. -/
theorem build_eq_accumulate {b : Builder} (horder : b.order.Perm Group.all)
    (h : b.contributing.Sublist Group.all) :
    b.build = accumulate (b.scope .size) (b.scope .appearance) (b.scope .interaction) := by
  refine Chain.ext ?_
  rw [build, ops_buildOn_eq_contributing, contributing_eq_filter_all horder h,
    flatMap_filter_not_isEmpty, ops_accumulate b.scope, Chain.ops_empty, List.nil_append]

/-- **Interleaving does not matter.** Two runs that make the same assignments in each group, and
in which the contributing groups stand in the same order, build the same on every base, however
they interleave, split or reopen the groups. If that order is the canonical one, the same chain is
got by accumulating three scopes that are each configured on their own, by any calls that make the
group's assignments; and there always are such calls. -/
theorem buildOn_run_eq_buildOn_run_and_accumulate {ss ts : List Step}
    (hassignments : ∀ g, History.assignments g ss = History.assignments g ts)
    (hcontributing : (run ss).contributing = (run ts).contributing) :
    (∀ base, (run ss).buildOn base = (run ts).buildOn base) ∧
      (∀ g, ∃ calls : List (Call g), calls.filterMap Call.assignment? = History.assignments g ss) ∧
      ((run ss).contributing.Sublist Group.all →
        ∀ (sizes : List (Call .size)) (appearances : List (Call .appearance))
          (interactions : List (Call .interaction)),
          sizes.filterMap Call.assignment? = History.assignments .size ss →
          appearances.filterMap Call.assignment? = History.assignments .appearance ss →
          interactions.filterMap Call.assignment? = History.assignments .interaction ss →
          (run ss).build =
            accumulate (Scope.empty.performAll sizes) (Scope.empty.performAll appearances)
              (Scope.empty.performAll interactions)) := by
  refine ⟨?_, fun g => History.exists_calls g ss, ?_⟩
  · have hdeltas : ∀ g, ((run ss).scope g).deltas = ((run ts).scope g).deltas := fun g => by
      rw [deltas_run, deltas_run, hassignments]
    exact buildOn_eq_buildOn hcontributing hdeltas
  · intro hcanonical sizes appearances interactions hsizes happearances hinteractions
    rw [build_eq_accumulate (order_perm_all (nodup_opened_run ss)) hcanonical,
      Scope.performAll_empty_eq_scope_run hsizes,
      Scope.performAll_empty_eq_scope_run happearances,
      Scope.performAll_empty_eq_scope_run hinteractions]

/-- A width, a background and a height, once with the background between the two and once in one
piece behind an empty group, and the same accumulated. -/
theorem buildOn_run_eq_buildOn_run_and_accumulate_split :
    let split : List Step :=
      [.configure .size [.assign (.width .zero) rfl],
        .set .background (.base .color (.ofRGB 255 0 0)), .set .height (.base .int32 2)]
    let joined : List Step :=
      [.configure .interaction [],
        .configure .size [.assign (.width .zero) rfl, .set .background (.base .bool true),
          .set .height (.base .int32 2)],
        .configure .appearance [.assign (.background (.color (.ofRGB 255 0 0))) rfl]]
    (run split).order ≠ (run joined).order ∧
      (∀ base, (run split).buildOn base = (run joined).buildOn base) ∧
      (run split).build =
        accumulate
          (Scope.empty.performAll [.assign (.width .zero) rfl, .set .height (.base .int32 2)])
          (Scope.empty.performAll [.set .background (.base .color (.ofRGB 255 0 0))])
          (Scope.empty.performAll []) := by
  intro split joined
  have hassignments : ∀ g, History.assignments g split = History.assignments g joined := by
    intro g
    cases g <;> rfl
  have hcontributing : (run split).contributing = (run joined).contributing := by decide
  have hcanonical : (run split).contributing.Sublist Group.all := by decide
  obtain ⟨hbuild, -, haccumulate⟩ :=
    buildOn_run_eq_buildOn_run_and_accumulate hassignments hcontributing
  refine ⟨by decide, hbuild, ?_⟩
  exact haccumulate hcanonical [.assign (.width .zero) rfl, .set .height (.base .int32 2)]
    [.set .background (.base .color (.ofRGB 255 0 0))] [] rfl rfl rfl

end Builder

end StyleChain
