import StyleChain.Proofs.Compare.Congruence
import StyleChain.Proofs.Handle.Conservation

/-!
# Building commutes with renaming handlers

A builder passes handlers on without looking at them. Renaming the handlers of all values that a run
is given, typed or loose, renames the handlers in the builder that results and changes nothing else,
and so it does in every chain built (`Builder.run_rename`, `Builder.buildOn_rename`). One step
commutes with renaming because a step is known by the assignments that it makes, by the group that
it opens and by the order that it asks for, and of these only the assignments hold handlers.

Commuting with renaming does not say that a handler stays in its place, since handlers might still
be exchanged for one another or left out. `Builder.map_handlers_build_run` says that they are not:
the operations of the chain hold the handlers of the recognized assignments, one by one. Chains
built from the same values with other handlers then compare alike under the default policy, to which
handlers do not show (`Chain.mismatch?_rename`).
-/

namespace StyleChain

variable (ρ : Renaming)

/-! ### Renamed runs, builders and chains -/

/-- The call with the handlers renamed of the value that it gives. -/
def Call.rename {g : Group} : Call g → Call g
  | .assign a own => .assign (a.rename ρ) ((congrArg Slot.group (a.slot_rename ρ)).trans own)
  | .set slot v => .set slot (v.rename ρ)

/-- The step with the handlers renamed of all values that it gives. -/
def Step.rename : Step → Step
  | .withOrder o => .withOrder o
  | .configure g calls => .configure g (calls.map (Call.rename ρ))
  | .set slot v => .set slot (v.rename ρ)

/-- The contribution with the handler renamed of its operation. -/
def Delta.rename (d : Delta) : Delta := ⟨d.slot, d.op.rename ρ⟩

/-- The scope with the handlers renamed of its values and its contributions. -/
def Scope.rename {g : Group} (s : Scope g) : Scope g where
  values := fun slot => (s.values slot).map (Assignment.rename ρ)
  deltas := s.deltas.map (Delta.rename ρ)

/-- The builder with the handlers renamed of its scopes. -/
def Builder.rename (b : Builder) : Builder :=
  ⟨b.size.rename ρ, b.appearance.rename ρ, b.interaction.rename ρ, b.opened, b.fixed⟩

/-- The chain with the handlers renamed of its operations. -/
def Chain.rename (c : Chain) : Chain := .ofList (c.ops.map (Op.rename ρ))

/-! ### Comparing renamed chains -/

/-- All that renaming changes in an operation is the handler. -/
theorem Op.rehandled_rename (a : Op) : a.Rehandled (a.rename ρ) := by
  cases a with
  | clickable h => exact .clickable h (ρ.click h)
  | keyEvent h => exact .keyEvent h (ρ.key h)
  | pointerInput t s h => exact .pointerInput t t s s h (ρ.pointer h)
  | _ => exact .same _

namespace Chain

theorem size_rename (c : Chain) : (c.rename ρ).size = c.size := List.length_map _

theorem kinds_rename (c : Chain) : (c.rename ρ).kinds = c.kinds := by
  have hkind : Op.kind ∘ Op.rename ρ = Op.kind := funext (Op.kind_rename ρ)
  rw [kinds, rename, ops_ofList, List.map_map, hkind, kinds]

/-- The default policy does not see which handlers a chain has. -/
theorem mismatch?_rename (c x : Chain) :
    mismatch? .standard (c.rename ρ) x = mismatch? .standard c x := by
  have hrehandled : List.Forall₂ Op.Rehandled c.ops (c.rename ρ).ops :=
    List.forall₂_map_right_iff.mpr (List.forall₂_same.mpr fun a _ => a.rehandled_rename ρ)
  have hsame : List.Forall₂ Op.Rehandled x.ops x.ops := List.forall₂_same.mpr fun a _ => .same a
  exact (mismatch?_standard_eq_of_rehandled hrehandled hsame).symm

/-- A renamed chain has the renamed handlers, in the same places. -/
theorem map_handlers_rename (c : Chain) :
    (c.rename ρ).ops.map Op.handlers =
      c.ops.map fun a => a.handlers.map (Handler.rename ρ) := by
  have hhandlers : Op.handlers ∘ Op.rename ρ = fun a => a.handlers.map (Handler.rename ρ) :=
    funext (Op.handlers_rename ρ)
  rw [rename, ops_ofList, List.map_map, hhandlers]

end Chain

/-! ### What a renamed step does -/

theorem Call.assignment?_rename {g : Group} (c : Call g) :
    (c.rename ρ).assignment? = c.assignment?.map (Assignment.rename ρ) := by
  cases c with
  | assign a own => rfl
  | set slot v =>
    by_cases own : slot.group = g
    · simp [rename, assignment?, own, Loose.assignment_rename]
    · simp [rename, assignment?, own]

namespace Step

theorem assignments_rename (g : Group) (t : Step) :
    (t.rename ρ).assignments g = (t.assignments g).map (Assignment.rename ρ) := by
  cases t with
  | withOrder o => rfl
  | configure h calls =>
    have hcalls : (calls.map (Call.rename ρ)).filterMap Call.assignment? =
        (calls.filterMap Call.assignment?).map (Assignment.rename ρ) := by
      rw [List.filterMap_map, List.map_filterMap]
      exact congrArg (calls.filterMap ·) (funext (Call.assignment?_rename ρ))
    by_cases hg : h = g
    · rw [rename, assignments, assignments, if_pos hg, if_pos hg, hcalls]
    · rw [rename, assignments, assignments, if_neg hg, if_neg hg, List.map_nil]
  | set slot v =>
    by_cases own : slot.group = g
    · simp [rename, assignments, own, Loose.assignment_rename]
    · simp [rename, assignments, own]

/-- Handlers do not decide which group is opened. -/
theorem opens?_rename (t : Step) : (t.rename ρ).opens? = t.opens? := by
  cases t with
  | withOrder o => rfl
  | configure g calls => rfl
  | set slot v =>
    rw [rename, opens?, opens?, Loose.assignment_rename, Assignment.op?_rename, Option.isSome_map]

theorem order?_rename (t : Step) : (t.rename ρ).order? = t.order? := by
  cases t <;> rfl

end Step

theorem Assignment.delta?_rename (a : Assignment) :
    (a.rename ρ).delta? = a.delta?.map (Delta.rename ρ) := by
  rw [delta?, delta?, op?_rename, slot_rename, Option.map_map, Option.map_map]
  rfl

/-- Recording renamed assignments in a renamed scope gives the renamed scope. -/
theorem Scope.record_rename {g : Group} (s : Scope g) (as : List Assignment) :
    (s.rename ρ).record (as.map (Assignment.rename ρ)) = (s.record as).rename ρ := by
  refine Scope.ext (funext fun slot => ?_) ?_
  · -- renaming keeps the slots, so it keeps which assignment is the last to a slot
    simp only [rename, values_record, List.filter_map, Function.comp_def, Assignment.slot_rename,
      List.getLast?_map, Option.map_or]
  · have hdeltas : (as.map (Assignment.rename ρ)).filterMap Assignment.delta? =
        (as.filterMap Assignment.delta?).map (Delta.rename ρ) := by
      rw [List.filterMap_map, List.map_filterMap]
      exact congrArg (as.filterMap ·) (funext (Assignment.delta?_rename ρ))
    rw [deltas_record, hdeltas, rename, rename, deltas_record, List.map_append]

namespace Builder

/-! ### Steps, runs and chains -/

theorem scope_rename (b : Builder) (g : Group) : (b.rename ρ).scope g = (b.scope g).rename ρ := by
  cases g <;> rfl

/-- A renamed step leads from a renamed builder to the renamed builder. -/
theorem step_rename (b : Builder) (t : Step) :
    (b.rename ρ).step (t.rename ρ) = (b.step t).rename ρ := by
  refine ext_scope (fun g => ?_) ?_ ?_
  · rw [scope_step, scope_rename, Step.assignments_rename, Scope.record_rename, ← scope_step,
      scope_rename]
  · rw [opened_step, Step.opens?_rename]
    exact (opened_step b t).symm
  · rw [fixed_step, Step.order?_rename]
    exact (fixed_step b t).symm

/-- A renamed run leads to the renamed builder. -/
theorem run_rename (steps : List Step) :
    run (steps.map (Step.rename ρ)) = (run steps).rename ρ := by
  induction steps using List.reverseRecOn with
  | nil => rfl
  | append_singleton steps t ih =>
    rw [List.map_append, List.map_singleton, run_concat, run_concat, ih, step_rename]

/-- A renamed builder builds the renamed chain. -/
theorem buildOn_rename (b : Builder) (base : Chain) :
    (b.rename ρ).buildOn (base.rename ρ) = (b.buildOn base).rename ρ := by
  refine Chain.ext ?_
  have hgroup : ∀ g, ((b.rename ρ).scope g).deltas.map Delta.op =
      ((b.scope g).deltas.map Delta.op).map (Op.rename ρ) := fun g => by
    rw [scope_rename, Scope.rename, List.map_map, List.map_map]
    rfl
  have horder : (b.rename ρ).order = b.order := rfl
  simp only [ops_buildOn, Chain.rename, Chain.ops_ofList, horder, hgroup, List.map_append,
    List.map_flatMap]

/-- The operations of a run's chain hold the handlers of the recognized assignments, in the same
places. -/
theorem map_handlers_build_run (steps : List Step) :
    (run steps).build.ops.map Op.handlers =
      (History.groups steps).flatMap fun g =>
        ((History.assignments g steps).filter Assignment.isRecognized).map Assignment.handlers := by
  rw [build, ops_buildOn, Chain.ops_empty, List.nil_append, order_run, List.map_flatMap]
  simp only [deltas_run, Assignment.map_op_filterMap_delta?, Assignment.map_handlers_filterMap_op?]

/-- **Building commutes with renaming handlers.** A run given renamed values leads to the renamed
builder and builds the renamed chain on every renamed base. So the chain has the same length and the
same kinds, and only its handlers are renamed, each in its place. The places are those of the
values: an operation holds the handlers of the assignment that it stands for, and this holds the
handlers of the value that the slot was given, loosely or by type, whatever was wrapped around it.
Under the default policy the chains compare in the same way with every third. -/
theorem build_rename_and_handlers_conserved (steps : List Step) :
    let renamed := steps.map (Step.rename ρ)
    run renamed = (run steps).rename ρ ∧
      (∀ base, (run renamed).buildOn (base.rename ρ) = ((run steps).buildOn base).rename ρ) ∧
      (run renamed).build = (run steps).build.rename ρ ∧
      (run renamed).build.size = (run steps).build.size ∧
      (run renamed).build.kinds = (run steps).build.kinds ∧
      ((run renamed).build.ops.map Op.handlers =
        (run steps).build.ops.map fun a => a.handlers.map (Handler.rename ρ)) ∧
      ((run steps).build.ops.map Op.handlers =
        (History.groups steps).flatMap fun g =>
          ((History.assignments g steps).filter Assignment.isRecognized).map Assignment.handlers) ∧
      (∀ v : Loose, (v.rename ρ).unwrap = v.unwrap.rename ρ ∧ v.unwrap.handlers = v.handlers ∧
        (v.rename ρ).handlers = v.handlers.map (Handler.rename ρ) ∧
        ∀ slot, (v.assignment slot).handlers = v.handlers) ∧
      (∀ (v : Loose) (slot : Slot) (a : Assignment), v.typed? slot = some a →
        (v.rename ρ).typed? slot = some (a.rename ρ) ∧ a.handlers = v.handlers) ∧
      ∀ x, Chain.mismatch? .standard (run steps).build x =
        Chain.mismatch? .standard (run renamed).build x := by
  intro renamed
  have hrun : run renamed = (run steps).rename ρ := run_rename ρ steps
  have hbuildOn : ∀ base,
      (run renamed).buildOn (base.rename ρ) = ((run steps).buildOn base).rename ρ := fun base => by
    rw [hrun, buildOn_rename]
  -- the empty chain is its own renaming
  have hbuild : (run renamed).build = (run steps).build.rename ρ := hbuildOn .empty
  refine ⟨hrun, hbuildOn, hbuild, ?_, ?_, ?_, map_handlers_build_run steps, fun v => ?_,
    fun v slot a typed => ⟨?_, ?_⟩, fun x => ?_⟩
  · rw [hbuild, Chain.size_rename]
  · rw [hbuild, Chain.kinds_rename]
  · rw [hbuild, Chain.map_handlers_rename]
  · exact ⟨v.unwrap_rename ρ, v.handlers_unwrap, v.handlers_rename ρ, v.handlers_assignment⟩
  · exact Loose.typed?_rename ρ typed
  · rw [← Loose.assignment_of_typed? typed, Loose.handlers_assignment]
  · rw [hbuild, Chain.mismatch?_rename]

/-- A press and a click are answered, the one by a value given loosely and the other by type; a
handler given for the width is renamed where it is recorded and reaches no operation. -/
theorem build_rename_and_handlers_conserved_press :
    let next : Renaming := ⟨fun h => ⟨h.token + 1⟩, id, fun h => ⟨h.token + 1⟩⟩
    let press : Loose := .tuple [.base .eventType .press, .base .pointerHandler ⟨0⟩]
    let steps : List Step :=
      [.set .width (.base .clickHandler ⟨7⟩), .set .onPointerEvent press,
        .configure .interaction [.assign (.onClick ⟨3⟩) rfl]]
    let renamed := steps.map (Step.rename next)
    press.typed? .onPointerEvent = some (.onPointerEvent (.handler .press ⟨0⟩)) ∧
      (press.rename next).typed? .onPointerEvent =
        some (.onPointerEvent (.handler .press ⟨1⟩)) ∧
      (run renamed).size.values .width = some (.unusable .width (.base .clickHandler ⟨8⟩)) ∧
      (run renamed).build.ops = [.pointerInput .press .main ⟨1⟩, .clickable ⟨4⟩] ∧
      (run steps).build.ops.map Op.handlers = [[.pointer ⟨0⟩], [.click ⟨3⟩]] ∧
      Chain.mismatch? .standard (run steps).build (run renamed).build =
        Chain.mismatch? .standard (run renamed).build (run renamed).build := by
  intro next press steps renamed
  obtain ⟨hrun, -, hbuild, -, -, -, hhandlers, -, htyped, hmismatch⟩ :=
    build_rename_and_handlers_conserved next steps
  have hpress : press.typed? .onPointerEvent =
      some (.onPointerEvent (.handler .press ⟨0⟩)) := rfl
  exact ⟨hpress, (htyped _ _ _ hpress).1, congrArg (fun b => b.size.values .width) hrun,
    congrArg Chain.ops hbuild, hhandlers, hmismatch (run renamed).build⟩

end Builder

end StyleChain
