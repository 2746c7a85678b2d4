import StyleChain.Proofs.Builder.Stability

/-!
# Normal form of configurations

Groups may be configured in any order and as often as one likes, by functions that read what is
there, add to it, replace it or throw it away. Only three things of such a list of actions matter to
a builder: the order asked for last, the groups in the order in which they are opened first, and for
each group the composite of the functions that configure it. `Action.normalForm` asks for the order
and then configures each group once, by its composite.

A builder after several actions is described by the same three things (`Builder.scope_acts`,
`Builder.opened_acts`, `Builder.fixed_acts`), each by induction along the actions, and the normal
form does not change them (`Action.composite_normalForm`, `Action.openings_normalForm`,
`Action.requested?_normalForm`). So nothing has to be said about which actions may be exchanged.

The one thing asked of the actions is that each opens what it changes: a value that its slot does
not recognize changes a group that may be closed, and then no configuration stands for it.
-/

namespace StyleChain

namespace Action

/-! ### What actions do to one group -/

/-- The function that an action applies to the scope of the group `g`, unless it passes the group
over. -/
def effect? (g : Group) : Action → Option (Scope g → Scope g)
  | .withOrder _ => none
  | .configure h f => if own : h = g then some (own ▸ f) else none
  | .set slot v => if slot.group = g then some (·.set slot v) else none

@[simp] theorem effect?_configure_self (g : Group) (f : Scope g → Scope g) :
    (configure g f).effect? g = some f := by
  rw [effect?, dif_pos rfl]

theorem effect?_configure_of_ne {g h : Group} (hne : h ≠ g) (f : Scope h → Scope h) :
    (configure h f).effect? g = none := by
  rw [effect?, dif_neg hne]

/-- The functions that actions apply to the scope of the group `g`, one after the other. -/
def composite (g : Group) (actions : List Action) (s : Scope g) : Scope g :=
  (actions.filterMap (effect? g)).foldl (fun s f => f s) s

theorem composite_append (g : Group) (actions more : List Action) :
    composite g (actions ++ more) = composite g more ∘ composite g actions := by
  funext s
  rw [Function.comp, composite, List.filterMap_append, List.foldl_append]
  rfl

theorem composite_singleton (g : Group) (a : Action) :
    composite g [a] = (a.effect? g).getD id := by
  funext s
  cases h : a.effect? g <;> simp [composite, h]

/-- Actions that all pass over a group leave its scope as it is. -/
theorem composite_eq_id {g : Group} {actions : List Action}
    (h : ∀ a ∈ actions, a.effect? g = none) : composite g actions = id := by
  funext s
  rw [composite, List.filterMap_eq_nil_iff.mpr h]
  rfl

/-! ### The normal form -/

/-- The groups that actions open, in the order of their first opening. -/
def openings (actions : List Action) : List Group := History.openings (actions.map opening)

theorem openings_concat (actions : List Action) (a : Action) :
    openings (actions ++ [a]) =
      match a.opening.opens? with
      | none => openings actions
      | some g => if g ∈ openings actions then openings actions else openings actions ++ [g] := by
  rw [openings, List.map_append]
  exact History.openings_concat (actions.map opening) a.opening

/-- The order that actions ask for last, if they ask for any. -/
def requested? (actions : List Action) : Option GroupOrder :=
  History.requested? (actions.map opening)

/-- The order asked for last, and then one configuration of each group that is opened, in the order
of first opening, by all that was done to the group. -/
def normalForm (actions : List Action) : List Action :=
  (requested? actions).toList.map withOrder ++
    (openings actions).map fun g => configure g (composite g actions)

theorem nodup_openings (actions : List Action) : (openings actions).Nodup := by
  rw [openings, ← Builder.opened_run]
  exact Builder.nodup_opened_run _

/-- Groups without repetition are what is left of them when repetitions are left out. -/
private theorem eraseDups_of_nodup {gs : List Group} (h : gs.Nodup) : gs.eraseDups = gs := by
  induction gs using List.reverseRecOn with
  | nil => rfl
  | append_singleton gs g ih =>
    obtain ⟨hgs, -, hdisjoint⟩ := List.nodup_append.mp h
    have hg : g ∉ gs := fun hg => hdisjoint g hg g (List.mem_singleton_self g) rfl
    rw [History.eraseDups_concat, if_neg hg, ih hgs]

/-- Of one configuration for each of several groups, that of a group alone changes it. -/
private theorem filterMap_effect?_configure (f : (g : Group) → Scope g → Scope g)
    {gs : List Group} (h : gs.Nodup) (g : Group) :
    (gs.map fun k => configure k (f k)).filterMap (effect? g) = if g ∈ gs then [f g] else [] := by
  induction gs with
  | nil => rfl
  | cons k gs ih =>
    obtain ⟨hk, hgs⟩ := List.nodup_cons.mp h
    by_cases hkg : k = g
    · -- the group does not come again, so nothing further changes it
      subst hkg
      simp [ih hgs, hk]
    · simp [ih hgs, effect?_configure_of_ne hkg, Ne.symm hkg]

/-- What the normal form opens and asks for. -/
private theorem map_opening_normalForm (actions : List Action) :
    (normalForm actions).map opening =
      (requested? actions).toList.map Step.withOrder ++
        (openings actions).map (Step.configure · []) := by
  rw [normalForm, List.map_append, List.map_map, List.map_map]
  rfl

theorem openings_normalForm (actions : List Action) :
    openings (normalForm actions) = openings actions := by
  have horder : ((requested? actions).toList.map Step.withOrder).filterMap Step.opens? = [] := by
    cases requested? actions <;> rfl
  have hgroups : ((openings actions).map (Step.configure · [])).filterMap Step.opens? =
      openings actions := by
    rw [List.filterMap_map]
    exact List.filterMap_some
  rw [openings, map_opening_normalForm, History.openings, List.filterMap_append, horder, hgroups,
    List.nil_append, eraseDups_of_nodup (nodup_openings actions)]

theorem requested?_normalForm (actions : List Action) :
    requested? (normalForm actions) = requested? actions := by
  have hgroups : ((openings actions).map (Step.configure · [])).filterMap Step.order? = [] := by
    rw [List.filterMap_map]
    exact List.filterMap_eq_nil_iff.mpr fun g _ => rfl
  rw [requested?, map_opening_normalForm, History.requested?, List.filterMap_append, hgroups,
    List.append_nil]
  cases requested? actions <;> rfl

/-- An action that changes a group opens it, if the value that it gives is recognized. -/
theorem opens?_opening_of_effect? {a : Action} {g : Group}
    (h : ∀ slot v, a = set slot v → (v.assignment slot).isRecognized)
    (heffect : a.effect? g ≠ none) : a.opening.opens? = some g := by
  cases a with
  | withOrder o => exact absurd rfl heffect
  | configure k f =>
    have hk : k = g := not_not.mp fun hne => heffect (effect?_configure_of_ne hne f)
    exact congrArg some hk
  | set slot v =>
    have hslot : slot.group = g := not_not.mp fun hne => heffect (if_neg hne)
    have hop : (v.assignment slot).op?.isSome := by
      rw [Assignment.isSome_op?]
      exact h slot v rfl
    rw [opening, Step.opens?, if_pos hop, hslot]

section Recognized

variable {actions : List Action}
  (h : ∀ slot v, set slot v ∈ actions → (v.assignment slot).isRecognized)

include h

/-- A group that is not opened is not changed either. -/
theorem composite_eq_id_of_not_mem_openings {g : Group} (hg : g ∉ openings actions) :
    composite g actions = id := by
  refine composite_eq_id fun a ha => not_not.mp fun heffect => hg ?_
  have hopens := opens?_opening_of_effect? (fun slot v heq => h slot v (heq ▸ ha)) heffect
  rw [openings, History.openings, List.mem_eraseDups]
  exact List.mem_filterMap.mpr ⟨a.opening, List.mem_map_of_mem ha, hopens⟩

/-- The normal form does to each group what the actions do to it. -/
theorem composite_normalForm (g : Group) :
    composite g (normalForm actions) = composite g actions := by
  have horder : ((requested? actions).toList.map withOrder).filterMap (effect? g) = [] := by
    cases requested? actions <;> rfl
  have hgroups := filterMap_effect?_configure (composite · actions) (nodup_openings actions) g
  have hcomposite : composite g (normalForm actions) =
      if g ∈ openings actions then composite g actions else id := by
    funext s
    rw [composite, normalForm, List.filterMap_append, horder, hgroups, List.nil_append]
    split <;> rfl
  rw [hcomposite]
  by_cases hg : g ∈ openings actions
  · rw [if_pos hg]
  · rw [if_neg hg, composite_eq_id_of_not_mem_openings h hg]

end Recognized

end Action

namespace Builder

open StyleChain.Action

/-! ### A builder after several actions -/

/-- An action applies its function to the scope of each group. -/
theorem scope_act (b : Builder) (a : Action) (g : Group) :
    (b.act a).scope g = (a.effect? g).getD id (b.scope g) := by
  cases a with
  | withOrder o => cases g <;> rfl
  | configure k f =>
    by_cases hk : k = g
    · subst hk
      rw [act, scope_configure_self, effect?_configure_self, Option.getD_some]
    · rw [act, scope_configure_of_ne (Ne.symm hk), effect?_configure_of_ne hk]
      rfl
  | set slot v =>
    rw [act, scope_set, effect?]
    by_cases own : slot.group = g
    · rw [if_pos own, Option.getD_some]
    · rw [if_neg own, Scope.set_of_group_ne _ own]
      rfl

/-- Each scope has gone through the functions of its own group, whatever was done to the others. -/
theorem scope_acts (b : Builder) (actions : List Action) (g : Group) :
    (b.acts actions).scope g = composite g actions (b.scope g) := by
  induction actions using List.reverseRecOn with
  | nil => rfl
  | append_singleton actions a ih =>
    rw [acts_concat, scope_act, ih, composite_append, composite_singleton]
    rfl

/-- The groups opened by actions stand behind those that were open. -/
theorem opened_acts (b : Builder) (actions : List Action) :
    (b.acts actions).opened = b.opened ++ (openings actions).filter (· ∉ b.opened) := by
  -- from the end, since what an action opens depends on what the earlier ones have opened
  induction actions using List.reverseRecOn with
  | nil => exact (List.append_nil _).symm
  | append_singleton actions a ih =>
    rw [acts_concat, opened_act, opened_step, ih, openings_concat]
    cases a.opening.opens? with
    | none => rfl
    | some g =>
      by_cases hb : g ∈ b.opened <;> by_cases hg : g ∈ openings actions <;> simp [hb, hg]

theorem fixed_act (b : Builder) (a : Action) : (b.act a).fixed = (b.step a.opening).fixed := by
  cases a with
  | withOrder o => rfl
  | configure g f => simp only [act, Action.opening, step, configure, fixed_withScope]
  | set slot v => rfl

/-- The order asked for is the last one that an action asks for. -/
theorem fixed_acts (b : Builder) (actions : List Action) :
    (b.acts actions).fixed = (requested? actions).or b.fixed := by
  unfold requested? History.requested?
  induction actions using List.reverseRecOn with
  | nil => rfl
  | append_singleton actions a ih =>
    rw [acts_concat, fixed_act, fixed_step, ih]
    cases h : a.opening.order? <;> simp [h]

/-- **Normal form.** Actions that open what they change lead every builder to the same builder as
their normal form does: the order asked for last, and then for each group opened, in the order of
first opening, one configuration by the composite of the functions that configure the group. This
is so for all functions, and in particular for lists of actions that give no value from outside,
where nothing is asked of the actions. A group that is configured again goes on from where it was
left, whatever was done to other groups in between. -/
theorem acts_eq_acts_normalForm (b : Builder) (actions : List Action)
    (h : ∀ slot v, Action.set slot v ∈ actions → (v.assignment slot).isRecognized) :
    b.acts actions = b.acts (normalForm actions) ∧
      normalForm actions =
        (History.requested? (actions.map Action.opening)).toList.map Action.withOrder ++
          (History.openings (actions.map Action.opening)).map (fun g =>
            .configure g fun s => (actions.filterMap (effect? g)).foldl (fun s f => f s) s) ∧
      (History.openings (actions.map Action.opening)).Nodup ∧
      ∀ (more : List Action) (g : Group) (f : Scope g → Scope g),
        (∀ a ∈ more, a.effect? g = none) →
        (b.acts (actions ++ more ++ [.configure g f])).scope g = f ((b.acts actions).scope g) := by
  refine ⟨ext_scope (fun g => ?_) ?_ ?_, rfl, nodup_openings actions, fun more g f hmore => ?_⟩
  · rw [scope_acts, scope_acts, composite_normalForm h]
  · rw [opened_acts, opened_acts, openings_normalForm]
  · rw [fixed_acts, fixed_acts, requested?_normalForm]
  · rw [scope_acts, scope_acts, composite_append, composite_append, composite_eq_id hmore,
      composite_singleton, effect?_configure_self]
    rfl

/-- Sizes are configured, left for a background and for interactions, and taken up again by a
function that throws them away if there are any. In normal form the two functions stand together,
behind the later of the two orders. -/
theorem acts_eq_acts_normalForm_restart :
    let red : Color := .ofRGB 255 0 0
    let restart : Scope .size → Scope .size :=
      fun s => if s.isEmpty then s else Scope.empty.height .zero
    let last : GroupOrder := ⟨[.interaction, .size, .appearance], by decide⟩
    let actions : List Action :=
      [.withOrder .canonical, .configure .size (·.width .zero), .set .background (.base .color red),
        .withOrder last, .configure .interaction id, .configure .size restart]
    (∀ slot v, Action.set slot v ∈ actions → (v.assignment slot).isRecognized) ∧
      empty.acts actions =
        empty.acts
          [.withOrder last, .configure .size fun s => restart (s.width .zero),
            .configure .appearance (·.set .background (.base .color red)),
            .configure .interaction id] ∧
      ((empty.acts (actions ++ [.withOrder .canonical] ++ [.configure .size (·.width .zero)])).scope
        .size).deltas.map Delta.slot = [.height, .width] := by
  intro red restart last actions
  have h : ∀ slot v, Action.set slot v ∈ actions → (v.assignment slot).isRecognized := by
    intro slot v hmem
    obtain ⟨rfl, rfl⟩ : slot = .background ∧ v = .base .color red := by simpa [actions] using hmem
    decide
  obtain ⟨hacts, hform, -, hreopen⟩ := acts_eq_acts_normalForm empty actions h
  refine ⟨h, hacts.trans (congrArg empty.acts (hform.trans rfl)), ?_⟩
  rw [hreopen [.withOrder .canonical] .size (·.width .zero) (by simp [effect?])]
  decide

end Builder

end StyleChain
