import Mathlib.Data.List.Nodup
import StyleChain.Compare.Mismatch
import StyleChain.Proofs.Handle.Circulation

/-!
# Sources are shared logs

A program creates sources, puts copies of them into values, configures with these, builds chains
and emits, in any order. `World` is what there is at any time: the logs, and what the program has
kept. The one rule is that a program uses no source that it cannot find in something kept
(`World.Allows`).

What an event does is said by `World.after`, and `Accounted` is what every event preserves
(`Accounted.after`): a source that can be found was created, no two creations gave the same source,
and every log holds what was emitted into it. Hence, by induction over a run, the log read through a
source is what was emitted through sources equal to it, wherever the source was found. Which
creation a source comes from (`CreatedAt`) settles which sources it equals, and never changes.

Emissions change logs and nothing else. Worlds that differ in logs only stay so under equal events
(`mute_after_congr`), so a run keeps the same things, and compares them the same, with and without
its emissions (`mute_run_quiet`).
-/

namespace StyleChain

/-! ### What a program keeps -/

/-- What a program can keep. -/
inductive Item where
  | source (s : InteractionSource)
  | value (v : Loose)
  | scope {g : Group} (c : Scope g)
  | builder (b : Builder)
  | chain (c : Chain)

/-- The source can be found in an item. -/
def Item.Holds (s : InteractionSource) : Item → Prop
  | .source t => t = s
  | .value v => v.Holds s
  | .scope c => c.Holds s
  | .builder b => b.Holds s
  | .chain c => c.Holds s

/-- A way to make an item. -/
inductive Making where
  /-- A copy of a source. -/
  | copy (s : InteractionSource)
  /-- A value of any type. -/
  | value (v : Loose)
  /-- The configuration of a group in which nothing is assigned. -/
  | scope (g : Group)
  /-- A configuration after one more call. -/
  | perform {g : Group} (c : Scope g) (call : Call g)
  /-- A builder with nothing configured. -/
  | builder
  /-- A builder after one more step. -/
  | step (b : Builder) (t : Step)
  /-- A chain of operations. -/
  | chain (c : Chain)
  /-- The contributions of a configuration behind a chain. -/
  | fold {g : Group} (c : Scope g) (base : Chain)
  /-- The contributions of a builder behind a chain. -/
  | build (b : Builder) (base : Chain)

namespace Making

/-- The item that is made. -/
def item : Making → Item
  | copy s => .source s
  | value v => .value v
  | scope g => .scope (.empty : Scope g)
  | perform c call => .scope (c.perform call)
  | builder => .builder .empty
  | step b t => .builder (b.step t)
  | chain c => .chain c
  | fold c base => .chain (c.foldOnto base)
  | build b base => .chain (b.buildOn base)

/-- The source is in something that the item is made from. -/
def Uses (s : InteractionSource) : Making → Prop
  | copy t => t = s
  | value v => v.Holds s
  | scope _ | builder => False
  | perform c call => c.Holds s ∨ call.Holds s
  | step b t => b.Holds s ∨ t.Holds s
  | chain c => c.Holds s
  | fold c base => base.Holds s ∨ c.Holds s
  | build b base => base.Holds s ∨ b.Holds s

/-- What is made holds no source but those it was made with. -/
theorem uses_of_holds_item {m : Making} {s : InteractionSource} (h : m.item.Holds s) :
    m.Uses s := by
  cases m with
  | copy t | value v | chain c => exact h
  | scope g => exact Scope.not_holds_empty h
  | perform c call => exact Scope.Holds.of_perform h
  | builder => exact Builder.not_holds_empty h
  | step b t => exact Builder.Holds.of_step h
  | fold c base => exact Chain.Holds.of_foldOnto h
  | build b base => exact Chain.Holds.of_buildOn h

end Making

/-! ### Runs of a program -/

/-- Something that a program does. -/
inductive Event where
  /-- Creates a source. -/
  | create
  /-- Makes an item. -/
  | make (m : Making)
  /-- Emits into a source. -/
  | emit (s : InteractionSource) (i : Interaction)

namespace Event

/-- The interaction that is emitted into a source. -/
def emitted? (s : InteractionSource) : Event → Option Interaction
  | emit t i => if t = s then some i else none
  | create | make _ => none

/-- Whether something is emitted. -/
def isEmission : Event → Bool
  | emit _ _ => true
  | create | make _ => false

end Event

/-- What there is while a program runs. -/
structure World where
  /-- The logs. -/
  sources : Sources
  /-- The sources created, first the one created first. -/
  created : List InteractionSource
  /-- What the program has kept. -/
  items : List Item

namespace World

/-- Nothing is created and nothing kept. -/
def empty : World := ⟨.empty, [], []⟩

/-- The source can be found in something kept. -/
def Holds (s : InteractionSource) (w : World) : Prop := ∃ x ∈ w.items, x.Holds s

/-- What there is after an event. A source that is created is kept, and so is what is made. -/
def after (w : World) : Event → World
  | .create =>
    let (source, sources) := w.sources.create
    ⟨sources, w.created ++ [source], w.items ++ [.source source]⟩
  | .make m => { w with items := w.items ++ [m.item] }
  | .emit s i => { w with sources := w.sources.emit s i }

/-- An event uses only sources that can be found. -/
def Allows (w : World) : Event → Prop
  | .create => True
  | .make m => ∀ s, m.Uses s → w.Holds s
  | .emit s _ => w.Holds s

/-- What there is after several events. -/
def run (events : List Event) : World := events.foldl after empty

/-- Each event uses only sources that can be found when it happens. -/
inductive Legal : List Event → Prop
  | nil : Legal []
  | concat {events : List Event} {e : Event} (h : Legal events) (he : (run events).Allows e) :
      Legal (events ++ [e])

/-- What was emitted into a source, oldest first. -/
def emitted (s : InteractionSource) (events : List Event) : List Interaction :=
  events.filterMap (Event.emitted? s)

/-- The events without the emissions. -/
def quiet (events : List Event) : List Event := events.filter fun e => !e.isEmission

/-- The source was given by the creation with this number, counted from zero. -/
def CreatedAt (w : World) (i : Nat) (s : InteractionSource) : Prop := w.created[i]? = some s

/-- The chain kept at a place. -/
def chain? (w : World) (i : Nat) : Option Chain :=
  match w.items[i]? with
  | some (.chain c) => some c
  | _ => none

/-- What comes of comparing the chains kept at two places. -/
def compare? (w : World) (p : Policy) (i j : Nat) : Option (Option Mismatch) :=
  return Chain.mismatch? p (← w.chain? i) (← w.chain? j)

variable {w : World} {events : List Event} {e : Event} {s : InteractionSource}

theorem run_concat (events : List Event) (e : Event) : run (events ++ [e]) = (run events).after e :=
  List.foldl_concat ..

/-! ### Sources and their logs -/

/-- The logs are those of the sources created, and hold what was emitted. -/
structure Accounted (w : World) (events : List Event) : Prop where
  /-- What can be found was created. -/
  created_of_holds : ∀ s, w.Holds s → s ∈ w.created
  /-- The next source will be none of those created. -/
  token_lt : ∀ s ∈ w.created, s.token < w.sources.next
  /-- No two creations gave the same source. -/
  nodup : w.created.Nodup
  /-- A log holds what was emitted into its source. -/
  interactions_eq : ∀ s, w.sources.interactions s = emitted s events
  /-- Nothing was emitted into a source before it was created. -/
  interactions_of_not_created : ∀ s, s ∉ w.created → w.sources.interactions s = []

theorem accounted_empty : empty.Accounted [] where
  created_of_holds _ := fun ⟨_, hx, _⟩ => absurd hx List.not_mem_nil
  token_lt _ hs := absurd hs List.not_mem_nil
  nodup := List.nodup_nil
  interactions_eq _ := rfl
  interactions_of_not_created _ _ := rfl

/-- After an event, no source can be found that could not be found before, except one created. -/
theorem holds_of_holds_after (he : w.Allows e) (h : (w.after e).Holds s) :
    w.Holds s ∨ e = .create ∧ s = w.sources.create.1 := by
  obtain ⟨x, hx, hs⟩ := h
  cases e with
  | create =>
    obtain hx | hx := List.mem_append.mp hx
    · exact .inl ⟨x, hx, hs⟩
    · obtain rfl := List.mem_singleton.mp hx
      exact .inr ⟨rfl, Eq.symm hs⟩
  | make m =>
    obtain hx | hx := List.mem_append.mp hx
    · exact .inl ⟨x, hx, hs⟩
    · obtain rfl := List.mem_singleton.mp hx
      exact .inl (he s (Making.uses_of_holds_item hs))
  | emit t i => exact .inl ⟨x, hx, hs⟩

namespace Accounted

theorem not_created_create (h : w.Accounted events) : w.sources.create.1 ∉ w.created :=
  fun hmem => Nat.lt_irrefl _ (h.token_lt _ hmem)

/-- A source that is created brings an empty log, which changes none of the logs. -/
theorem interactions_create (h : w.Accounted events) (s : InteractionSource) :
    w.sources.create.2.interactions s = w.sources.interactions s := by
  by_cases hs : s = w.sources.create.1
  · rw [hs, Sources.interactions_create_self, h.interactions_of_not_created _ h.not_created_create]
  · exact if_neg hs

theorem create (h : w.Accounted events) : (w.after .create).Accounted (events ++ [.create]) where
  created_of_holds s hs := by
    obtain hs | ⟨-, rfl⟩ := holds_of_holds_after (e := .create) trivial hs
    · exact List.mem_append_left _ (h.created_of_holds s hs)
    · exact List.mem_append_right _ (List.mem_singleton.mpr rfl)
  token_lt s hs := by
    obtain hs | hs := List.mem_append.mp hs
    · exact Nat.lt_succ_of_lt (h.token_lt s hs)
    · obtain rfl := List.mem_singleton.mp hs
      exact Nat.lt_succ_self _
  nodup := h.nodup.append (List.nodup_singleton _)
    (List.disjoint_singleton.mpr h.not_created_create)
  interactions_eq s := by
    rw [emitted, List.filterMap_append]
    exact (h.interactions_create s).trans ((h.interactions_eq s).trans (List.append_nil _).symm)
  interactions_of_not_created s hs :=
    (h.interactions_create s).trans
      (h.interactions_of_not_created s fun hmem => hs (List.mem_append_left _ hmem))

theorem make (h : w.Accounted events) {m : Making} (hm : w.Allows (.make m)) :
    (w.after (.make m)).Accounted (events ++ [.make m]) where
  created_of_holds s hs := by
    obtain hs | ⟨hne, -⟩ := holds_of_holds_after hm hs
    · exact h.created_of_holds s hs
    · cases hne
  token_lt := h.token_lt
  nodup := h.nodup
  interactions_eq s := by
    rw [emitted, List.filterMap_append]
    exact (h.interactions_eq s).trans (List.append_nil _).symm
  interactions_of_not_created := h.interactions_of_not_created

theorem emit (h : w.Accounted events) {t : InteractionSource} (ht : w.Holds t) (i : Interaction) :
    (w.after (.emit t i)).Accounted (events ++ [.emit t i]) where
  created_of_holds := h.created_of_holds
  token_lt := h.token_lt
  nodup := h.nodup
  interactions_eq s := by
    rw [emitted, List.filterMap_append]
    by_cases hs : s = t
    · subst hs
      have hemit : Event.emitted? s (.emit s i) = some i := if_pos rfl
      rw [List.filterMap_cons_some hemit, ← emitted, ← h.interactions_eq]
      exact Sources.interactions_emit_self _ _ _
    · have hemit : Event.emitted? s (.emit t i) = none := if_neg (Ne.symm hs)
      rw [List.filterMap_cons_none hemit, List.filterMap_nil, List.append_nil, ← emitted,
        ← h.interactions_eq]
      exact Sources.interactions_emit_of_ne hs i
  interactions_of_not_created s hs := by
    have hne : s ≠ t := fun heq => hs (heq ▸ h.created_of_holds t ht)
    exact (Sources.interactions_emit_of_ne hne i).trans (h.interactions_of_not_created s hs)

/-- One event keeps the logs accounted for. -/
theorem after (h : w.Accounted events) (he : w.Allows e) :
    (w.after e).Accounted (events ++ [e]) := by
  cases e with
  | create => exact h.create
  | make m => exact h.make he
  | emit t i => exact h.emit he i

end Accounted

/-- After a run, the logs are accounted for. -/
theorem Legal.accounted (h : Legal events) : (run events).Accounted events := by
  induction h with
  | nil => exact accounted_empty
  | concat _ he ih =>
    rw [run_concat]
    exact ih.after he

/-! ### Where a source comes from -/

/-- What a creation gave is what it gave ever after. -/
theorem CreatedAt.after {i : Nat} (h : w.CreatedAt i s) (e : Event) :
    (w.after e).CreatedAt i s := by
  cases e with
  | create => exact (List.getElem?_append_left (List.getElem?_eq_some_iff.mp h).1).trans h
  | make m | emit t j => exact h

/-- What can be found once can be found ever after. -/
theorem Holds.after (h : w.Holds s) (e : Event) : (w.after e).Holds s := by
  obtain ⟨x, hx, hs⟩ := h
  cases e with
  | create | make m => exact ⟨x, List.mem_append_left _ hx, hs⟩
  | emit t i => exact ⟨x, hx, hs⟩

/-- What one event preserves is preserved by several. -/
theorem run_append_induction {P : World → Prop} (hP : ∀ w e, P w → P (w.after e))
    (h : P (run events)) (more : List Event) : P (run (events ++ more)) := by
  induction more using List.reverseRecOn with
  | nil => rwa [List.append_nil]
  | append_singleton more e ih =>
    rw [← List.append_assoc, run_concat]
    exact hP _ _ ih

namespace Accounted

/-- A source that can be found was given by a creation. -/
theorem exists_createdAt (h : w.Accounted events) (hs : w.Holds s) : ∃ i, w.CreatedAt i s :=
  List.mem_iff_getElem?.mp (h.created_of_holds s hs)

/-- Sources are equal when they come from the same creation. -/
theorem eq_iff_of_createdAt (h : w.Accounted events) {t : InteractionSource} {i j : Nat}
    (hs : w.CreatedAt i s) (ht : w.CreatedAt j t) : s = t ↔ i = j := by
  obtain ⟨hi, rfl⟩ := List.getElem?_eq_some_iff.mp hs
  obtain ⟨hj, rfl⟩ := List.getElem?_eq_some_iff.mp ht
  exact h.nodup.getElem_inj_iff

end Accounted

/-! ### Emissions are not noticed -/

/-- The world with nothing in the logs. -/
def mute (w : World) : World := { w with sources := ⟨w.sources.next, fun _ => []⟩ }

/-- An event does the same to worlds that differ in logs only. -/
theorem mute_after_congr {v w : World} (h : v.mute = w.mute) (e : Event) :
    (v.after e).mute = (w.after e).mute := by
  have hnext : v.sources.next = w.sources.next := congrArg (fun u => u.sources.next) h
  have hcreated : v.created = w.created := (congrArg created h :)
  have hitems : v.items = w.items := (congrArg items h :)
  cases e <;> simp [mute, World.after, Sources.create, Sources.emit, hnext, hcreated, hitems]

/-- An emission changes logs only. -/
theorem mute_after_of_isEmission (h : e.isEmission) (w : World) : (w.after e).mute = w.mute := by
  cases e with
  | create | make m => cases h
  | emit s i => rfl

/-- A run without its emissions does what the run does, but for the logs. -/
theorem mute_run_quiet (events : List Event) : (run (quiet events)).mute = (run events).mute := by
  induction events using List.reverseRecOn with
  | nil => rfl
  | append_singleton events e ih =>
    rw [quiet, List.filter_append, run_concat]
    cases he : e.isEmission with
    | true =>
      have hnone : [e].filter (fun e => !e.isEmission) = [] := by simp [he]
      rw [hnone, List.append_nil, mute_after_of_isEmission he]
      exact ih
    | false =>
      have hone : [e].filter (fun e => !e.isEmission) = [e] := by simp [he]
      rw [hone, run_concat]
      exact mute_after_congr ih e

theorem mute_run_congr {others : List Event} (h : quiet others = quiet events) :
    (run others).mute = (run events).mute := by
  rw [← mute_run_quiet, h, mute_run_quiet]

/-- **Sources are shared logs.** After a run, the log read through a source, wherever the source was
found, is what was emitted through sources equal to it, in order. To emit into one source changes no
other.

No creation gives a source that was given before: a new one cannot be found anywhere, can be found
once it is created, and has an empty log. A source that can be found, in a value that was recorded,
in a contribution or in a chain that was built, comes from a creation. It equals those that come
from the same one, and later events change neither. So operations that let the box have the focus,
compared by value, are equal when they say the same and report to sources of the same creation.

Whatever the emissions, and wherever they stand among the other events, the same things are kept,
and comparing chains among them gives the same. -/
theorem interactions_eq_emitted_and_compare?_eq {events : List Event} (h : Legal events) :
    (∀ s, (run events).sources.interactions s = emitted s events) ∧
    (∀ s t i, t ≠ s →
      ((run events).after (.emit s i)).sources.interactions t =
        (run events).sources.interactions t) ∧
    (run events).created.Nodup ∧
    (∀ s, (run events).sources.create.1 = s →
      ¬(run events).Holds s ∧ s ∉ (run events).created ∧
      (run (events ++ [.create])).created = (run events).created ++ [s] ∧
      (run (events ++ [.create])).Holds s ∧
      (run (events ++ [.create])).sources.interactions s = []) ∧
    (∀ s, (run events).Holds s →
      (∃ i, (run events).CreatedAt i s) ∧ ∀ more, (run (events ++ more)).Holds s) ∧
    (∀ i s, (run events).CreatedAt i s →
      (∀ j t, (run events).CreatedAt j t → (s = t ↔ i = j)) ∧
      ∀ more, (run (events ++ more)).CreatedAt i s) ∧
    (∀ (p : Policy) (enabled enabled' : Bool) (s t : InteractionSource) (i j : Nat),
      p.equality .focusable = .value → (run events).CreatedAt i s → (run events).CreatedAt j t →
      (p.opsEqual (.focusable enabled (some s)) (.focusable enabled' (some t)) ↔
        enabled = enabled' ∧ i = j)) ∧
    ∀ others, quiet others = quiet events →
      (run others).items = (run events).items ∧
      ∀ p i j, (run others).compare? p i j = (run events).compare? p i j := by
  have haccounted := h.accounted
  have hfresh := haccounted.not_created_create
  refine ⟨haccounted.interactions_eq, fun s t i hne => Sources.interactions_emit_of_ne hne i,
    haccounted.nodup, fun s hs => ?_,
    fun s hs => ⟨haccounted.exists_createdAt hs,
      run_append_induction (P := Holds s) (fun _ e h => h.after e) hs⟩,
    fun i s hs => ⟨fun j t => haccounted.eq_iff_of_createdAt hs,
      run_append_induction (P := (·.CreatedAt i s)) (fun _ e h => h.after e) hs⟩,
    fun p enabled enabled' s t i j hp hs ht => ?_, fun others hquiet => ?_⟩
  · subst hs
    refine ⟨mt (haccounted.created_of_holds _) hfresh, hfresh, ?_⟩
    rw [run_concat]
    exact ⟨rfl, ⟨.source _, List.mem_append_right _ List.mem_cons_self, rfl⟩,
      Sources.interactions_create_self _⟩
  · rw [Policy.opsEqual_iff, ← haccounted.eq_iff_of_createdAt hs ht]
    simp [Op.kind, Op.valueEq, hp]
  · have hitems : (run others).items = (run events).items :=
      (congrArg items (mute_run_congr hquiet) :)
    exact ⟨hitems, fun p i j => by simp only [compare?, chain?, hitems]⟩

/-- A source is given to a builder in a pair, and interactions are emitted into it before and after
the chain is built. They are read through the source found in the chain, and the other source, whose
log is empty, is told from it all along. -/
theorem interactions_eq_emitted_and_compare?_eq_press :
    let first : InteractionSource := ⟨0⟩
    let second : InteractionSource := ⟨1⟩
    let t : Step := .set .focusable (.tuple [.base .bool true, .base .source first])
    let b : Builder := .step .empty t
    let c : Chain := .ofList [.focusable true (some second)]
    let events : List Event :=
      [.create, .make (.step .empty t), .emit first .press, .make (.build b .empty), .create,
        .make (.chain c), .emit first .release]
    Legal events ∧ b.build.Holds first ∧ (run events).Holds first ∧ (run events).Holds second ∧
      (run events).sources.interactions first = [.press, .release] ∧
      (run events).sources.interactions second = [] ∧ first ≠ second ∧
      (run events).CreatedAt 0 first ∧ (run events).CreatedAt 1 second ∧
      (run events).created.Nodup ∧ ¬(run events).Holds ⟨2⟩ ∧
      Policy.strict.equality .focusable = .value ∧
      Policy.strict.opsEqual (.focusable true (some first)) (.focusable true (some second)) =
        false ∧
      quiet (quiet events) = quiet events ∧
      (run events).compare? .strict 2 4 =
        some (some (.payload 0 (.focusable true (some first)) (.focusable true (some second)))) ∧
      (run (quiet events)).compare? .strict 2 4 = (run events).compare? .strict 2 4 := by
  intro first second t b c events
  have hpair : ∀ s, t.Holds s → s = first := by
    intro s h
    cases h with
    | element hv h =>
      obtain rfl | rfl : _ = Loose.base .bool true ∨ _ = Loose.base .source first := by
        simpa using hv
      · cases h with
        | unrecognized u hv => cases u <;> cases hv
      · cases h with
        | source => rfl
        | unrecognized u hv => cases u <;> cases hv
    | unrecognized u hv => cases u <;> cases hv
  have hlegal : Legal events := by
    refine ((((((Legal.nil.concat (e := .create) trivial).concat
      (e := .make (.step .empty t)) ?_).concat
      (e := .emit first .press) ?_).concat
      (e := .make (.build b .empty)) ?_).concat
      (e := .create) trivial).concat
      (e := .make (.chain c)) ?_).concat
      (e := .emit first .release) ?_
    · rintro s (h | h)
      · exact absurd h Builder.not_holds_empty
      · exact ⟨.source first, .head _, (hpair s h).symm⟩
    · exact ⟨.source first, .head _, rfl⟩
    · rintro s (⟨op, hop, -⟩ | h)
      · cases hop
      · exact ⟨.builder b, .tail _ (.head _), h⟩
    · rintro s ⟨op, hop, hs⟩
      obtain rfl := List.mem_singleton.mp hop
      exact ⟨.source second, .tail _ (.tail _ (.tail _ (.head _))), Option.some.inj hs⟩
    · exact ⟨.source first, .head _, rfl⟩
  have hchain : b.build.Holds first := ⟨.focusable true (some first), by decide, rfl⟩
  have hfirst : (run events).Holds first := ⟨.chain b.build, .tail _ (.tail _ (.head _)), hchain⟩
  have hsecond : (run events).Holds second :=
    ⟨.source second, .tail _ (.tail _ (.tail _ (.head _))), rfl⟩
  have hquiet : quiet (quiet events) = quiet events := rfl
  have hfirstCreated : (run events).CreatedAt 0 first := rfl
  have hsecondCreated : (run events).CreatedAt 1 second := rfl
  obtain ⟨hlog, -, hnodup, hnew, -, hcreation, hequal, hsame⟩ :=
    interactions_eq_emitted_and_compare?_eq hlegal
  have hne : first ≠ second :=
    mt ((hcreation 0 first hfirstCreated).1 1 second hsecondCreated).mp Nat.zero_ne_one
  refine ⟨hlegal, hchain, hfirst, hsecond, hlog first, hlog second, hne, hfirstCreated,
    hsecondCreated, hnodup, (hnew _ rfl).1, rfl, ?_, hquiet, by decide,
    (hsame _ hquiet).2 .strict 2 4⟩
  exact Bool.eq_false_iff.mpr fun h => Nat.zero_ne_one
    ((hequal .strict true true first second 0 1 rfl hfirstCreated hsecondCreated).mp h).2

end World

end StyleChain
