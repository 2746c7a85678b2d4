import Mathlib.Data.List.Induction
import StyleChain.Proofs.Compare.Leniency

/-!
# Policies made by settings

A policy comes from one of two initial ones by any number of settings. What it does with a kind is
what the last setting of that kind says (`Policy.equality_setAll`), and nothing else of how it was
made can be seen in it.

The second half rests on what a policy keeps. Comparison by value can be said in two ways, by
keeping it and by keeping nothing, so policies that compare alike need not be equal. But no setting
keeps comparison by value (`Policy.Canonical`): the initial policies do not, a setting preserves
that (`Canonical.set`), and hence so do all settings (`Canonical.setAll`). Policies made by settings
are therefore equal as soon as they compare every kind alike (`Canonical.eq_iff`), and the laws of
settings are statements about single kinds.

Comparing alike can also be told from outside, since each policy agrees on chains on which no
stricter policy agrees (`Policy.le_of_forall_mismatch?_eq_none`).
-/

namespace StyleChain

namespace Policy

variable {p q : Policy}

/-! ### Settings -/

/-- The policies that settings start from. -/
def initial : List Policy := [strict, standard]

/-- Sets the comparisons for several kinds, one after the other. -/
def setAll (p : Policy) (settings : List (Kind × Equality)) : Policy :=
  settings.foldl (fun p s => p.set s.1 s.2) p

/-- The comparison that settings give a kind last, if they give it one. -/
def lastSetting? (settings : List (Kind × Equality)) (k : Kind) : Option Equality :=
  (settings.filter (·.1 = k)).getLast?.map Prod.snd

theorem setAll_concat (p : Policy) (settings : List (Kind × Equality)) (k : Kind) (e : Equality) :
    p.setAll (settings ++ [(k, e)]) = (p.setAll settings).set k e :=
  List.foldl_append

theorem lastSetting?_concat (settings : List (Kind × Equality)) (k other : Kind) (e : Equality) :
    lastSetting? (settings ++ [(k, e)]) other =
      if k = other then some e else lastSetting? settings other := by
  by_cases h : k = other <;> simp [lastSetting?, h]

/-- What settings leave a policy to do with a kind is what the last of them for the kind says. -/
theorem equality_setAll (p : Policy) (settings : List (Kind × Equality)) (k : Kind) :
    (p.setAll settings).equality k = (lastSetting? settings k).getD (p.equality k) := by
  induction settings using List.reverseRecOn with
  | nil => rfl
  | append_singleton settings s ih =>
    obtain ⟨other, e⟩ := s
    rw [setAll_concat, lastSetting?_concat]
    by_cases h : other = k
    · subst h
      rw [equality_set_self, if_pos rfl, Option.getD_some]
    · rw [equality_set_of_ne (Ne.symm h), if_neg h, ih]

/-- The default is made from the strictest policy by a setting for each kind with a handler. -/
theorem standard_eq_setAll : standard = strict.setAll (callbackKinds.map (·, .kindOnly)) := rfl

/-! ### What policies keep -/

/-- Comparison by value is not kept for any kind. -/
def Canonical (p : Policy) : Prop := ∀ k, p.overrides k ≠ some .value

theorem canonical_strict : strict.Canonical := fun _ => (Option.some_ne_none _).symm

/-- Setting a kind to comparison by value keeps nothing, and setting it otherwise keeps something
else. -/
theorem Canonical.set (hp : p.Canonical) (k : Kind) (e : Equality) : (p.set k e).Canonical := by
  intro other
  by_cases h : other = k
  · subst h
    cases e with
    | value => simp [Policy.set, erase]
    | kindOnly => simp [Policy.set, insert]
  · rw [overrides_set_of_ne h]
    exact hp other

theorem Canonical.setAll (hp : p.Canonical) (settings : List (Kind × Equality)) :
    (p.setAll settings).Canonical := by
  induction settings using List.reverseRecOn with
  | nil => exact hp
  | append_singleton settings s ih =>
    rw [setAll_concat]
    exact ih.set s.1 s.2

theorem canonical_of_mem_initial (hp : p ∈ initial) : p.Canonical := by
  obtain rfl | rfl : p = strict ∨ p = standard := by simpa [initial] using hp
  · exact canonical_strict
  · rw [standard_eq_setAll]
    exact canonical_strict.setAll _

/-- What is kept for a kind follows from how the kind is compared. -/
theorem Canonical.overrides_eq (hp : p.Canonical) (k : Kind) :
    p.overrides k = if p.equality k = .kindOnly then some .kindOnly else none := by
  cases h : p.overrides k with
  | none => simp [equality, h]
  | some e =>
    cases e with
    | value => exact absurd h (hp k)
    | kindOnly => simp [equality, h]

/-- Policies that keep no comparison by value are equal when they compare every kind alike. -/
theorem Canonical.eq_iff (hp : p.Canonical) (hq : q.Canonical) :
    p = q ↔ ∀ k, p.equality k = q.equality k := by
  refine ⟨fun h _ => h ▸ rfl, fun h => Policy.ext (funext fun k => ?_)⟩
  rw [hp.overrides_eq, hq.overrides_eq, h]

/-- Without the condition they need not be: here comparison by value is kept for the width. -/
example : (∀ k, (strict.insert .width .value).equality k = strict.equality k) ∧
    strict.insert .width .value ≠ strict := by
  refine ⟨fun k => by cases k <;> rfl, by decide⟩

/-! ### Laws of settings -/

theorem Canonical.set_comm (hp : p.Canonical) {k l : Kind} (hne : k ≠ l) (e f : Equality) :
    (p.set k e).set l f = (p.set l f).set k e := by
  refine (((hp.set k e).set l f).eq_iff ((hp.set l f).set k e)).mpr fun other => ?_
  by_cases hl : other = l
  · subst hl
    rw [equality_set_self, equality_set_of_ne hne.symm, equality_set_self]
  · by_cases hk : other = k
    · subst hk
      rw [equality_set_of_ne hl, equality_set_self, equality_set_self]
    · rw [equality_set_of_ne hl, equality_set_of_ne hk, equality_set_of_ne hk,
        equality_set_of_ne hl]

/-- A setting makes all earlier settings of its kind as if they had not been. -/
theorem Canonical.setAll_set (hp : p.Canonical) (settings : List (Kind × Equality)) (k : Kind)
    (e : Equality) :
    (p.setAll settings).set k e = (p.setAll (settings.filter (·.1 ≠ k))).set k e := by
  refine (((hp.setAll _).set k e).eq_iff ((hp.setAll _).set k e)).mpr fun other => ?_
  by_cases h : other = k
  · rw [h, equality_set_self, equality_set_self]
  · rw [equality_set_of_ne h, equality_set_of_ne h, equality_setAll, equality_setAll]
    have hlast : lastSetting? (settings.filter (·.1 ≠ k)) other = lastSetting? settings other := by
      unfold lastSetting?
      rw [List.filter_filter]
      congr 2
      refine List.filter_congr fun s _ => ?_
      by_cases hs : s.1 = other <;> simp [hs, h]
    rw [hlast]

theorem Canonical.set_equality (hp : p.Canonical) (k : Kind) : p.set k (p.equality k) = p := by
  refine ((hp.set k _).eq_iff hp).mpr fun other => ?_
  by_cases h : other = k
  · rw [h, equality_set_self]
  · rw [equality_set_of_ne h]

end Policy

/-! ### Policies told apart by comparing chains -/

namespace Chain

variable {p q : Policy}

/-- Policies that find the same in all chains compare every kind alike. -/
theorem equality_eq_of_forall_mismatch?_eq (h : ∀ a b, mismatch? p a b = mismatch? q a b)
    (k : Kind) : p.equality k = q.equality k := by
  have hle : p ≤ q := Policy.le_of_forall_mismatch?_eq_none fun a b hab => h a b ▸ hab
  have hge : q ≤ p := Policy.le_of_forall_mismatch?_eq_none fun a b hab => (h a b).symm ▸ hab
  cases hp : p.equality k with
  | kindOnly => exact (hle k hp).symm
  | value =>
    cases hq : q.equality k with
    | value => rfl
    | kindOnly => exact absurd ((hge k hq).symm.trans hp) Equality.noConfusion

end Chain

namespace Policy

/-- **Policies are canonical.** However a policy is made by settings from an initial one, it
compares a kind as the last setting of the kind says, or else as the initial policy does. Two such
policies are equal exactly when they compare every kind alike, which is exactly when they find the
same in all chains. So settings of different kinds may be exchanged, a setting undoes all earlier
ones of its kind, and to set what is already so changes nothing. -/
theorem eq_iff_equality_of_mem_initial {p q : Policy} (hp : p ∈ initial) (hq : q ∈ initial)
    (ss ts : List (Kind × Equality)) :
    (∀ k, (p.setAll ss).equality k = (lastSetting? ss k).getD (p.equality k)) ∧
    (p.setAll ss = q.setAll ts ↔
      ∀ k, (p.setAll ss).equality k = (q.setAll ts).equality k) ∧
    (p.setAll ss = q.setAll ts ↔
      ∀ a b, Chain.mismatch? (p.setAll ss) a b = Chain.mismatch? (q.setAll ts) a b) ∧
    (∀ k l e f, k ≠ l → ((p.setAll ss).set k e).set l f = ((p.setAll ss).set l f).set k e) ∧
    (∀ k e, (p.setAll ss).set k e = (p.setAll (ss.filter (·.1 ≠ k))).set k e) ∧
    ∀ k, (p.setAll ss).set k ((p.setAll ss).equality k) = p.setAll ss := by
  have hcp : p.Canonical := canonical_of_mem_initial hp
  have hps : (p.setAll ss).Canonical := hcp.setAll ss
  have hqt : (q.setAll ts).Canonical := (canonical_of_mem_initial hq).setAll ts
  refine ⟨equality_setAll p ss, hps.eq_iff hqt, ⟨fun h a b => h ▸ rfl, fun h => ?_⟩, ?_, ?_, ?_⟩
  · exact (hps.eq_iff hqt).mpr (Chain.equality_eq_of_forall_mismatch?_eq h)
  · intro k l e f hne
    exact hps.set_comm hne e f
  · exact hcp.setAll_set ss
  · exact hps.set_equality

/-- Clicks and widths are compared in other ways, and then as at first: nothing is left of it. From
the other initial policy it takes three settings to get there. -/
theorem eq_iff_equality_of_mem_initial_undone :
    let ss : List (Kind × Equality) :=
      [(.clickable, .value), (.width, .kindOnly), (.clickable, .kindOnly), (.width, .value)]
    let ts : List (Kind × Equality) :=
      [(.pointerInput, .kindOnly), (.clickable, .kindOnly), (.keyEvent, .kindOnly)]
    standard ∈ initial ∧ strict ∈ initial ∧
      (standard.setAll ss).equality .clickable = .kindOnly ∧
      standard.setAll ss = strict.setAll ts ∧
      Kind.clickable ≠ Kind.width ∧
      ((standard.setAll ss).set .clickable .value).set .width .kindOnly =
        ((standard.setAll ss).set .width .kindOnly).set .clickable .value := by
  intro ss ts
  have hstandard : standard ∈ initial := by decide
  have hstrict : strict ∈ initial := by decide
  have hne : Kind.clickable ≠ Kind.width := by decide
  obtain ⟨hlast, heq, -, hcomm, -⟩ := eq_iff_equality_of_mem_initial hstandard hstrict ss ts
  exact ⟨hstandard, hstrict, hlast .clickable, heq.mpr (fun k => by cases k <;> rfl), hne,
    hcomm _ _ _ _ hne⟩

end Policy

end StyleChain
