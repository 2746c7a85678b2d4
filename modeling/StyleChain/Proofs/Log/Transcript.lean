import StyleChain.Log.Writing
import StyleChain.Proofs.Log.Reading
import StyleChain.Proofs.Scope.Coherence

/-!
# What the log tells

Steps that write as they go do what the steps do, and write their entries (`Scope.run_setLogged` and
those after it, up to `Builder.run_runLogged`). So a question about the log of a run is one about
entries, and entries do not depend on the state they were written in.

What a run contributed is what its entries say was appended. For one call this is
`Call.contributionsTo_entry` and for a run `Builder.contributionsTo_flatMap_entries`: told apart by
group, the entries are the contributions that the group holds, in order. The only entry that names
an order is the one of the building, so the kinds in a chain can be read from the lines of the log
alone (`Builder.log_tells_steps_and_chain`).
-/

namespace StyleChain

/-! ### Steps that write -/

/-- Steps that do what steps do and write what they write do so one after the other. -/
theorem run_foldlM {σ α : Type} {f : σ → α → Logged σ} {step : σ → α → σ}
    {entries : α → List LogEntry}
    (h : ∀ s x log, (f s x).run log = (step s x, log ++ entries x)) (s : σ) (xs : List α)
    (log : List LogEntry) :
    (xs.foldlM f s).run log = (xs.foldl step s, log ++ xs.flatMap entries) := by
  induction xs generalizing s log with
  | nil => rw [List.flatMap_nil, List.append_nil]; rfl
  | cons x xs ih =>
    rw [List.foldlM_cons, StateT.run_bind, h]
    exact (ih _ _).trans (by rw [List.foldl_cons, List.flatMap_cons, List.append_assoc])

namespace Scope

variable {g : Group}

theorem run_assignLogged (s : Scope g) {a : Assignment} (own : a.slot.group = g)
    (log : List LogEntry) :
    (s.assignLogged a).run log = (s.assign a own, log ++ [a.entry]) := by
  have hassign : s.assign a own =
      ⟨fun slot => if slot = a.slot then some a else s.values slot,
        s.deltas ++ (a.op?.map (⟨a.slot, ·⟩)).toList⟩ := rfl
  rw [hassign, assignLogged, Assignment.entry]
  cases a.op? with
  | none => rw [Option.map_none, Option.toList_none, List.append_nil]; rfl
  | some op => rfl

theorem run_passOver (s : Scope g) (slot : Slot) (log : List LogEntry) :
    (s.passOver slot).run log = (s, log ++ [.foreign g slot]) := rfl

theorem assignRead_eq (s : Scope g) {α : Type} (slot : Slot) (v : Loose) (read : Option α)
    (f : α → Assignment) :
    s.assignRead slot v read f = s.assignLogged ((read.map f).getD (.unusable slot v)) := by
  cases read <;> rfl

/-- A slot of the group is assigned what it makes of the value. -/
theorem setLogged_of_group_eq (s : Scope g) {slot : Slot} (own : slot.group = g) (v : Loose) :
    s.setLogged slot v = s.assignLogged (v.assignment slot) := by
  subst own
  cases slot with
  | width | height => exact assignRead_eq s _ v v.distance? _
  | fillMaxWidth | fillMaxHeight | fillMaxSize => exact assignRead_eq s _ v v.fraction? _
  | onClick => exact assignRead_eq s _ v (v.read? .clickHandler) _
  | onKeyEvent => exact assignRead_eq s _ v (v.read? .keyHandler) _
  | _ => rfl

theorem setLogged_of_group_ne (s : Scope g) {slot : Slot} (foreign : slot.group ≠ g) (v : Loose) :
    s.setLogged slot v = s.passOver slot := by
  cases g <;> cases slot <;> first | rfl | exact absurd rfl foreign

theorem run_setLogged (s : Scope g) (slot : Slot) (v : Loose) (log : List LogEntry) :
    (s.setLogged slot v).run log = (s.set slot v, log ++ [g.entry slot v]) := by
  by_cases own : slot.group = g
  · have hslot : (v.assignment slot).slot.group = g := by rw [v.slot_assignment, own]
    rw [setLogged_of_group_eq s own, run_assignLogged s hslot, set_of_group_eq s own, Group.entry,
      if_pos own]
  · rw [setLogged_of_group_ne s own, run_passOver, set_of_group_ne s own, Group.entry, if_neg own]

theorem run_performLogged (s : Scope g) (c : Call g) (log : List LogEntry) :
    (s.performLogged c).run log = (s.perform c, log ++ [c.entry]) := by
  cases c with
  | assign a own => exact run_assignLogged s own log
  | set slot v => exact run_setLogged s slot v log

theorem run_performAllLogged (s : Scope g) (calls : List (Call g)) (log : List LogEntry) :
    (s.performAllLogged calls).run log = (s.performAll calls, log ++ calls.map Call.entry) := by
  rw [performAllLogged, run_foldlM run_performLogged, performAll, List.map_eq_flatMap]

end Scope

namespace Builder

theorem run_configureLogged (b : Builder) (g : Group) (calls : List (Call g))
    (log : List LogEntry) :
    (b.configureLogged g fun s => s.performAllLogged calls).run log =
      (b.configure g fun s => s.performAll calls, log ++ calls.map Call.entry) := by
  rw [configureLogged, StateT.run_bind, Scope.run_performAllLogged, configure, scope_openGroup]
  rfl

theorem run_setLogged (b : Builder) (slot : Slot) (v : Loose) (log : List LogEntry) :
    (b.setLogged slot v).run log = (b.set slot v, log ++ [slot.group.entry slot v]) := by
  rw [setLogged, StateT.run_bind, Scope.run_setLogged]
  rfl

theorem run_stepLogged (b : Builder) (t : Step) (log : List LogEntry) :
    (b.stepLogged t).run log = (b.step t, log ++ t.entries) := by
  cases t with
  | withOrder o => rw [Step.entries, List.append_nil]; rfl
  | configure g calls => exact run_configureLogged b g calls log
  | set slot v => exact run_setLogged b slot v log

theorem run_runLogged (steps : List Step) (log : List LogEntry) :
    (runLogged steps).run log = (run steps, log ++ steps.flatMap Step.entries) :=
  run_foldlM run_stepLogged empty steps log

theorem run_buildOnLogged (b : Builder) (base : Chain) (log : List LogEntry) :
    (b.buildOnLogged base).run log = (b.buildOn base, log ++ [b.entry]) := rfl

/-- Whatever is built behind a run, the log is the transcript of the run. -/
theorem run_runLogged_buildOnLogged (steps : List Step) (base : Chain) :
    (runLogged steps >>= (buildOnLogged · base)).run [] =
      ((run steps).buildOn base, transcript steps) := by
  rw [StateT.run_bind, run_runLogged]
  exact run_buildOnLogged _ _ _

end Builder

/-! ### What a run tells -/

/-- What a contribution is named by in the log. -/
def Delta.label (d : Delta) : Slot × Kind := (d.slot, d.op.kind)

open LogEntry

/-- The entry of an assignment tells what the assignment contributes. -/
theorem Assignment.contribution?_entry (a : Assignment) :
    a.entry.contribution? = a.delta?.map Delta.label := by
  rw [entry, delta?]
  cases a.op? <;> rfl

theorem Assignment.contributionsTo_entry (a : Assignment) (g : Group) :
    contributionsTo g [a.entry] =
      if a.slot.group = g then a.delta?.toList.map Delta.label else [] := by
  unfold contributionsTo
  rw [List.filterMap_cons, List.filterMap_nil, contribution?_entry]
  cases h : a.delta? with
  | none => simp
  | some d =>
    rw [← slot_of_mem_delta? h]
    by_cases own : d.slot.group = g <;> simp [own, Delta.label]

/-- A call tells what it contributes to its group, and nothing of other groups. -/
theorem Call.contributionsTo_entry {h : Group} (c : Call h) (g : Group) :
    contributionsTo g [c.entry] =
      if h = g then (c.assignment?.toList.filterMap Assignment.delta?).map Delta.label else [] := by
  cases c with
  | assign a own =>
    rw [entry, a.contributionsTo_entry, own]
    cases hd : a.delta? <;> simp [assignment?, hd]
  | set slot v =>
    by_cases own : slot.group = h
    · rw [entry, Group.entry, if_pos own, Assignment.contributionsTo_entry, Loose.slot_assignment,
        own]
      cases hd : (v.assignment slot).delta? <;> simp [assignment?, own, hd]
    · rw [entry, Group.entry, if_neg own, assignment?, if_neg own]
      exact (ite_self _).symm

theorem Call.contributionsTo_map_entry {h : Group} (calls : List (Call h)) (g : Group) :
    contributionsTo g (calls.map Call.entry) =
      if h = g then
        ((calls.filterMap Call.assignment?).filterMap Assignment.delta?).map Delta.label
      else [] := by
  induction calls with
  | nil => exact (ite_self _).symm
  | cons c calls ih =>
    have hcons : (c :: calls).filterMap Call.assignment? =
        c.assignment?.toList ++ calls.filterMap Call.assignment? := by
      cases ha : c.assignment? <;> simp [ha]
    rw [List.map_cons, ← List.singleton_append, contributionsTo_append, contributionsTo_entry, ih,
      hcons, List.filterMap_append, List.map_append]
    by_cases hg : h = g
    · rw [if_pos hg, if_pos hg, if_pos hg]
    · rw [if_neg hg, if_neg hg, if_neg hg, List.append_nil]

/-- A step tells what it contributes to each group. -/
theorem Step.contributionsTo_entries (t : Step) (g : Group) :
    contributionsTo g t.entries =
      ((t.assignments g).filterMap Assignment.delta?).map Delta.label := by
  cases t with
  | withOrder o => rfl
  | configure h calls =>
    rw [entries, Call.contributionsTo_map_entry, assignments]
    by_cases hg : h = g <;> simp [hg]
  | set slot v =>
    have hcall := Call.contributionsTo_entry (h := slot.group) (.set slot v) g
    rw [Call.entry] at hcall
    rw [entries, hcall, assignments, Call.assignment?, if_pos rfl]
    by_cases hg : slot.group = g <;> simp [hg]

/-- No step names an order. -/
theorem Step.order?_of_mem_entries (t : Step) {e : LogEntry} (h : e ∈ t.entries) :
    e.order? = none := by
  have hassign : ∀ a : Assignment, a.entry.order? = none := fun a => by
    rw [Assignment.entry]
    cases a.op? <;> rfl
  have hset : ∀ (g : Group) (slot : Slot) (v : Loose), (g.entry slot v).order? = none := by
    intro g slot v
    rw [Group.entry]
    split
    · exact hassign _
    · rfl
  cases t with
  | withOrder o => exact absurd h List.not_mem_nil
  | configure g calls =>
    obtain ⟨c, -, rfl⟩ := List.mem_map.mp h
    cases c with
    | assign a own => exact hassign a
    | set slot v => exact hset g slot v
  | set slot v => exact List.mem_singleton.mp h ▸ hset slot.group slot v

namespace Builder

/-- A run tells the contributions that each group holds after it, in order. -/
theorem contributionsTo_flatMap_entries (steps : List Step) (g : Group) :
    contributionsTo g (steps.flatMap Step.entries) =
      ((run steps).scope g).deltas.map Delta.label := by
  rw [deltas_run]
  induction steps with
  | nil => rfl
  | cons t steps ih =>
    rw [List.flatMap_cons, contributionsTo_append, ih, t.contributionsTo_entries,
      History.assignments_cons, List.filterMap_append, List.map_append]

theorem contributionsTo_transcript (steps : List Step) (g : Group) :
    contributionsTo g (transcript steps) = ((run steps).scope g).deltas.map Delta.label := by
  rw [transcript, contributionsTo_append, contributionsTo_flatMap_entries]
  exact List.append_nil _

/-- A run names no order before it is built. -/
theorem order?_of_mem_flatMap_entries {steps : List Step} {e : LogEntry}
    (h : e ∈ steps.flatMap Step.entries) : e.order? = none := by
  obtain ⟨t, -, he⟩ := List.mem_flatMap.mp h
  exact t.order?_of_mem_entries he

/-- A transcript names one order, the one in which the groups were put together. -/
theorem filterMap_order?_transcript (sources : Sources) (steps : List Step) :
    ((transcript steps).map (·.render sources)).filterMap LogLine.order? =
      [(run steps).order] := by
  have hread : ∀ e ∈ transcript steps, LogLine.order? (e.render sources) = e.order? := by
    intro e he
    refine LogLine.order?_render sources fun kinds hkinds => ?_
    obtain hstep | hbuild := List.mem_append.mp he
    · rw [order?_of_mem_flatMap_entries hstep] at hkinds
      exact absurd hkinds (Option.not_mem_none _)
    · rw [List.mem_singleton.mp hbuild] at hkinds
      obtain rfl := Option.some.inj hkinds
      exact order_perm_all (nodup_opened_run steps)
  have hentries : (transcript steps).filterMap order? = [(run steps).order] := by
    have hnone : (steps.flatMap Step.entries).filterMap order? = [] :=
      List.filterMap_eq_nil_iff.mpr fun _ => order?_of_mem_flatMap_entries
    rw [transcript, List.filterMap_append, hnone]
    rfl
  rw [List.filterMap_map, ← hentries]
  exact List.filterMap_congr hread

/-- The kinds behind those of the base stand in the lines of a transcript. -/
theorem kinds_buildOn_run (sources : Sources) (steps : List Step) (base : Chain) :
    ((run steps).buildOn base).kinds =
      base.kinds ++ LogLine.builtKinds ((transcript steps).map (·.render sources)) := by
  have hkinds : ∀ g, (LogLine.contributionsTo g
        ((transcript steps).map (·.render sources))).map Prod.snd =
      (((run steps).scope g).deltas.map Delta.op).map Op.kind := fun g => by
    rw [LogLine.contributionsTo_map_render, contributionsTo_transcript, List.map_map, List.map_map]
    rfl
  rw [Chain.kinds, ops_buildOn, List.map_append, List.map_flatMap, LogLine.builtKinds,
    filterMap_order?_transcript]
  simp only [List.getLast?_singleton, hkinds]
  rfl

end Builder

/-! ### One call -/

namespace Scope

variable {g : Group}

/-- A call of one of the group's own slots contributes an operation of the kind that it writes, or
contributes nothing and writes so. -/
theorem exists_entry_perform (s : Scope g) {c : Call g} (own : c.slot.group = g) :
    (∃ op, (s.perform c).deltas = s.deltas ++ [⟨c.slot, op⟩] ∧
      c.entry = .appending c.slot op.kind) ∨
    (s.perform c).deltas = s.deltas ∧ c.entry = .ignoring c.value := by
  have hentry : c.entry = c.value.entry := by
    cases c with
    | assign a _ => rfl
    | set slot v => exact if_pos own
  rw [perform_of_group_eq s own, deltas_assign, hentry, Assignment.entry, Assignment.delta?,
    Call.slot_value]
  cases c.value.op? with
  | none => exact .inr ⟨List.append_nil _, rfl⟩
  | some op => exact .inl ⟨op, rfl, rfl⟩

theorem entry_of_group_ne {c : Call g} (foreign : c.slot.group ≠ g) :
    c.entry = .foreign g c.slot := by
  cases c with
  | assign a own => exact absurd own foreign
  | set slot v => exact if_neg foreign

end Scope

namespace Builder

/-- **The log is a faithful transcript.** A call writes one record, whatever the scope and the log.
If it names one of the group's own slots, the record is a trace that names the slot and the kind
exactly when an operation was appended, and a note that names the slot exactly when its value was
ignored; if it names a foreign slot, the record is a note that says so, and nothing else happens.
Asking for an order and opening a group write nothing, a value given from outside writes what the
call in its own group writes, and building writes a trace that names the groups in the order in
which they are put together.

So the lines that a run and the building behind it have written tell the order, group by group the
slots and kinds of all contributions, in order, and the kinds of the operations built. -/
theorem log_tells_steps_and_chain (sources : Sources) :
    (∀ (g : Group) (s : Scope g) (c : Call g) (log : List LogEntry),
      (s.performLogged c).run log = (s.perform c, log ++ [c.entry]) ∧
      (c.slot.group = g →
        (c.entry.level = "TRACE" ↔ ∃ op, (s.perform c).deltas = s.deltas ++ [⟨c.slot, op⟩] ∧
          c.entry.message sources = c.slot.name ++ ": appending " ++ op.kind.name) ∧
        (c.entry.level = "DEBUG" ↔ (s.perform c).deltas = s.deltas ∧
          c.entry.message sources =
            c.slot.name ++ ": ignoring unrecognized value " ++ c.value.describe sources) ∧
        (c.entry.level = "TRACE" ∨ c.entry.level = "DEBUG")) ∧
      (c.slot.group ≠ g →
        s.perform c = s ∧ c.entry.level = "DEBUG" ∧
        c.entry.message sources = g.name ++ " group has no `" ++ c.slot.name ++
          "` slot (it belongs to " ++ c.slot.group.name ++ "); ignoring")) ∧
    (∀ (b : Builder) (o : GroupOrder) (log : List LogEntry),
      (b.stepLogged (.withOrder o)).run log = (b.step (.withOrder o), log)) ∧
    (∀ (b : Builder) (g : Group) (calls : List (Call g)) (log : List LogEntry),
      (b.stepLogged (.configure g calls)).run log =
        (b.step (.configure g calls), log ++ calls.map Call.entry) ∧
      (b.step (.configure g calls)).scope g = (b.scope g).performAll calls) ∧
    (∀ (b : Builder) (slot : Slot) (v : Loose) (log : List LogEntry),
      let c : Call slot.group := .set slot v
      (b.stepLogged (.set slot v)).run log = (b.step (.set slot v), log ++ [c.entry]) ∧
      (b.step (.set slot v)).scope slot.group = (b.scope slot.group).perform c) ∧
    (∀ (b : Builder) (base : Chain) (log : List LogEntry),
      (b.buildOnLogged base).run log = (b.buildOn base, log ++ [b.entry]) ∧
      b.entry.level = "TRACE" ∧
      b.entry.message sources = "building modifier groups in order " ++
        " -> ".intercalate (b.order.map Group.name) ∧
      (b.buildOn base).ops =
        base.ops ++ b.order.flatMap fun g => (b.scope g).deltas.map Delta.op) ∧
    ∀ (steps : List Step) (base : Chain),
      let lines := (transcript steps).map (·.render sources)
      (runLogged steps >>= (buildOnLogged · base)).run [] =
        ((run steps).buildOn base, transcript steps) ∧
      lines.filterMap LogLine.order? = [(run steps).order] ∧
      (∀ g, LogLine.contributionsTo g lines =
        ((run steps).scope g).deltas.map fun d => (d.slot, d.op.kind)) ∧
      ((run steps).buildOn base).kinds = base.kinds ++ LogLine.builtKinds lines := by
  refine ⟨fun g s c log => ⟨s.run_performLogged c log, fun own => ?_, fun foreign => ?_⟩,
    fun b o log => ?_, fun b g calls log => ⟨run_stepLogged b _ log, scope_configure_self b g _⟩,
    fun b slot v log => ⟨run_stepLogged b _ log, scope_set b slot v _⟩,
    fun b base log => ⟨run_buildOnLogged b base log, rfl, rfl, ops_buildOn b base⟩,
    fun steps base => ⟨run_runLogged_buildOnLogged steps base,
      filterMap_order?_transcript sources steps, fun g => ?_, kinds_buildOn_run sources steps base⟩⟩
  · obtain ⟨op, hdeltas, hentry⟩ | ⟨hdeltas, hentry⟩ := s.exists_entry_perform own
    · have hlevel : c.entry.level = "TRACE" := by rw [hentry]; rfl
      have hne : (s.perform c).deltas ≠ s.deltas := by simp [hdeltas]
      exact ⟨iff_of_true hlevel ⟨op, hdeltas, by rw [hentry]; rfl⟩,
        iff_of_false (by simp [hlevel]) fun h => hne h.1, .inl hlevel⟩
    · have hlevel : c.entry.level = "DEBUG" := by rw [hentry]; rfl
      exact ⟨iff_of_false (by simp [hlevel]) fun ⟨op, h, _⟩ => by simp [hdeltas] at h,
        iff_of_true hlevel ⟨hdeltas, by rw [hentry, ← c.slot_value]; rfl⟩, .inr hlevel⟩
  · have hentry : c.entry = .foreign g c.slot := Scope.entry_of_group_ne foreign
    exact ⟨Scope.perform_of_group_ne s foreign, by rw [hentry]; rfl, by rw [hentry]; rfl⟩
  · rw [run_stepLogged, Step.entries, List.append_nil]
  · exact (LogLine.contributionsTo_map_render sources g _).trans
      (contributionsTo_transcript steps g)

/-- A border, a text for the border and a width, all given to appearances: the log has a trace, a
note and a word on the foreign slot. In a run, with a size set behind them, the border comes
first. -/
theorem log_tells_steps_and_chain_border :
    let red : Color := .ofRGB 255 0 0
    let border : Call .appearance := .set .border (.tuple [.base .dp .zero, .base .color red])
    let text : Call .appearance := .set .border (.base .text "thin")
    let width : Call .appearance := .set .width (.base .dp .zero)
    let steps : List Step :=
      [.configure .appearance [border, text, width], .set .size (.base .dp .zero)]
    let lines := (transcript steps).map (·.render .empty)
    let s : Scope .appearance := .empty
    border.slot.group = .appearance ∧ border.entry.level = "TRACE" ∧
      (s.perform border).deltas = s.deltas ++ [⟨.border, .border .zero (.solid red) .rectangle⟩] ∧
      text.slot.group = .appearance ∧ text.entry.level = "DEBUG" ∧
      (s.perform text).deltas = s.deltas ∧
      width.slot.group ≠ .appearance ∧ s.perform width = s ∧
      width.entry.message .empty =
        "appearance group has no `width` slot (it belongs to size); ignoring" ∧
      lines.length = 5 ∧
      lines.filterMap LogLine.order? = [[.appearance, .size, .interaction]] ∧
      LogLine.contributionsTo .appearance lines = [(.border, .border)] ∧
      LogLine.builtKinds lines = [.border, .size] := by
  intro red border text width steps lines s
  have hborder : border.slot.group = .appearance := rfl
  have htext : text.slot.group = .appearance := rfl
  have hwidth : width.slot.group ≠ .appearance := by decide
  obtain ⟨hcall, -, -, -, -, hrun⟩ := log_tells_steps_and_chain .empty
  obtain ⟨-, hown, -⟩ := hcall .appearance s border []
  obtain ⟨-, hignored, -⟩ := hcall .appearance s text []
  obtain ⟨-, -, hforeign⟩ := hcall .appearance s width []
  obtain ⟨hkept, -, hmessage⟩ := hforeign hwidth
  obtain ⟨-, horder, htold, hkinds⟩ := hrun steps .empty
  have hshown : width.entry.message .empty =
      "appearance group has no `width` slot (it belongs to size); ignoring" :=
    hmessage.trans (by decide)
  have hnone : Chain.empty.kinds = [] := rfl
  have hbuilt : ((run steps).buildOn .empty).kinds = [.border, .size] := by decide
  rw [hnone, List.nil_append] at hkinds
  exact ⟨hborder, (hown hborder).1.mpr ⟨_, rfl, rfl⟩, rfl, htext,
    (hignored htext).2.1.mpr ⟨rfl, rfl⟩, rfl, hwidth, hkept, hshown, rfl,
    horder.trans (by decide), (htold .appearance).trans (by decide), hkinds.symm.trans hbuilt⟩

end Builder

end StyleChain
