import StyleChain.Proofs.Compare.Congruence

/-!
# Comparing under more lenient policies

Policies are ordered by leniency: the greater one compares by kind alone whatever the smaller one
does, and perhaps more. `Policy.strict` is below every other.

At one position leniency works in one direction only. Operations that the stricter policy finds
equal the more lenient one finds equal too (`Policy.opsEqual_of_le`), and a mismatch that the more
lenient policy finds there the stricter one finds there as well, and the same one
(`Policy.mismatchAt?_of_le`), because kinds are compared by both policies alike and operations are
reported only when they are compared by value. For chains this means that the first mismatch under
the stricter policy is not behind the first one under the more lenient policy
(`Chain.exists_mismatch?_of_le`). At an earlier position it may well be another one, of operations
that the more lenient policy does not look into, while the later one is of kinds.

No other policies are related so: a policy that agrees whenever another one does is at least as
lenient (`Policy.le_of_forall_mismatch?_eq_none`).
-/

namespace StyleChain

/-- Every kind is the kind of some operation. -/
theorem Kind.exists_op (k : Kind) : ∃ op : Op, op.kind = k := by
  let clear : Color := ⟨.zero .single, .zero .single, .zero .single, .zero .single⟩
  cases k with
  | paddingValues => exact ⟨.paddingValues default, rfl⟩
  | paddingAll => exact ⟨.paddingAll default, rfl⟩
  | paddingSymmetric => exact ⟨.paddingSymmetric default default, rfl⟩
  | paddingEach => exact ⟨.paddingEach default default default default, rfl⟩
  | background => exact ⟨.background clear, rfl⟩
  | backgroundShaped => exact ⟨.backgroundShaped clear default, rfl⟩
  | border => exact ⟨.border default (.solid clear) default, rfl⟩
  | width => exact ⟨.width default, rfl⟩
  | height => exact ⟨.height default, rfl⟩
  | fillMaxWidth => exact ⟨.fillMaxWidth (.one .single), rfl⟩
  | fillMaxHeight => exact ⟨.fillMaxHeight (.one .single), rfl⟩
  | fillMaxSize => exact ⟨.fillMaxSize (.one .single), rfl⟩
  | wrapContentSize => exact ⟨.wrapContentSize default false, rfl⟩
  | size => exact ⟨.size default, rfl⟩
  | focusable => exact ⟨.focusable true none, rfl⟩
  | clickable => exact ⟨.clickable ⟨0⟩, rfl⟩
  | keyEvent => exact ⟨.keyEvent ⟨0⟩, rfl⟩
  | pointerInput => exact ⟨.pointerInput .press default ⟨0⟩, rfl⟩

namespace Policy

/-- The greater policy compares by kind alone what the smaller one does. -/
instance : LE Policy where
  le p q := ∀ k, p.equality k = .kindOnly → q.equality k = .kindOnly

/-- No policy is stricter than the one that compares everything by value. -/
theorem strict_le (q : Policy) : strict ≤ q := by
  intro k hk
  rw [equality_strict] at hk
  cases hk

variable {p q : Policy} {i : Nat} {l r : Op} {a b : Chain}

/-! ### One position -/

theorem opsEqual_of_le (hle : p ≤ q) (h : p.opsEqual l r) : q.opsEqual l r := by
  obtain ⟨hkind, hpass⟩ := opsEqual_iff.mp h
  exact opsEqual_iff.mpr ⟨hkind, hpass.imp_left (hle l.kind)⟩

/-- What is found at a position under the more lenient policy is found there under the stricter
one. -/
theorem mismatchAt?_of_le (hle : p ≤ q) {m : Mismatch} (h : q.mismatchAt? i l r = some m) :
    p.mismatchAt? i l r = some m := by
  unfold mismatchAt? at h ⊢
  by_cases hkind : l.kind = r.kind
  · rw [if_neg (not_not_intro hkind)] at h ⊢
    by_cases hq : q.opsEqual l r
    · rw [if_pos hq] at h
      cases h
    · have hp : ¬ p.opsEqual l r := mt (opsEqual_of_le hle) hq
      rw [if_neg hp]
      rwa [if_neg hq] at h
  · rwa [if_pos hkind] at h ⊢

theorem PassesAt.of_le (hle : p ≤ q) (h : p.PassesAt a b i) : q.PassesAt a b i := by
  obtain ⟨l, r, hl, hr, hkind, hpass⟩ := h
  exact ⟨l, r, hl, hr, hkind, hpass.imp_left (hle l.kind)⟩

end Policy

namespace Chain

variable {p q : Policy} {a b : Chain}

/-! ### Chains -/

/-- Chains that agree under the stricter policy agree under the more lenient one. -/
theorem mismatch?_eq_none_of_le (hle : p ≤ q) (h : mismatch? p a b = none) :
    mismatch? q a b = none := by
  obtain ⟨hsize, hpass⟩ := mismatch?_eq_none_iff.mp h
  exact mismatch?_eq_none_iff.mpr ⟨hsize, fun i hi => (hpass i hi).of_le hle⟩

/-- Lengths are reported under every policy or under none. -/
theorem mismatch?_eq_length_iff_mismatch? (p q : Policy) (a b : Chain) (m n : Nat) :
    mismatch? p a b = some (.length m n) ↔ mismatch? q a b = some (.length m n) :=
  mismatch?_eq_length_iff.trans mismatch?_eq_length_iff.symm

/-- If a position is reported under the more lenient policy, then under the stricter one that
position with the same mismatch is reported, or an earlier one. -/
theorem exists_mismatch?_of_le (hle : p ≤ q) {m : Mismatch} {i : Nat}
    (hm : mismatch? q a b = some m) (hi : m.index? = some i) :
    ∃ m' j, mismatch? p a b = some m' ∧ m'.index? = some j ∧ j ≤ i ∧ (j = i → m' = m) := by
  obtain ⟨hsize, -, l, r, hl, hr, hat⟩ := (mismatch?_eq_some_iff_of_index? hi).mp hm
  have hfound : p.mismatchAt? i l r = some m := Policy.mismatchAt?_of_le hle hat
  have hsome : mismatch? p a b ≠ none := by
    intro hnone
    have hq : mismatch? q a b = none := mismatch?_eq_none_of_le hle hnone
    exact Option.some_ne_none m (hm.symm.trans hq)
  obtain ⟨m', hm'⟩ := Option.ne_none_iff_exists'.mp hsome
  obtain ⟨j, l', r', hl', hr', hat', hbefore⟩ := (mismatch?_eq_some_iff_of_size_eq hsize).mp hm'
  refine ⟨m', j, hm', Policy.index?_of_mismatchAt? hat', ?_, ?_⟩
  · -- were the search under the stricter policy to pass `i`, it would have found nothing there
    by_contra hlt
    have hpass : p.PassesAt a b i := hbefore i (Nat.lt_of_not_le hlt)
    have hnone : p.mismatchAt? i l r = none := (Policy.passesAt_iff_mismatchAt? hl hr).mp hpass
    exact Option.some_ne_none m (hfound.symm.trans hnone)
  · rintro rfl
    obtain rfl : l' = l := Option.some.inj (hl'.symm.trans hl)
    obtain rfl : r' = r := Option.some.inj (hr'.symm.trans hr)
    exact Option.some.inj (hat'.symm.trans hfound)

/-- If a position is reported under the stricter policy, then under the more lenient one nothing is
reported or a position that is not before it. -/
theorem mismatch?_eq_none_or_le_of_le (hle : p ≤ q) {m : Mismatch} {j : Nat}
    (hm : mismatch? p a b = some m) (hj : m.index? = some j) :
    mismatch? q a b = none ∨
      ∃ m' i, mismatch? q a b = some m' ∧ m'.index? = some i ∧ j ≤ i := by
  cases hq : mismatch? q a b with
  | none => exact .inl rfl
  | some m' =>
    cases hi : m'.index? with
    | none =>
      -- only lengths name no position, and they would be reported under both policies
      obtain ⟨x, y, rfl⟩ : ∃ x y, m' = .length x y := by
        cases m' with
        | length x y => exact ⟨x, y, rfl⟩
        | kind _ _ _ => cases hi
        | payload _ _ _ => cases hi
      have hp := (mismatch?_eq_length_iff_mismatch? p q a b x y).mpr hq
      obtain rfl : m = .length x y := Option.some.inj (hm.symm.trans hp)
      cases hj
    | some i =>
      obtain ⟨m'', j', hm'', hj', hle', -⟩ := exists_mismatch?_of_le hle hq hi
      obtain rfl : m = m'' := Option.some.inj (hm.symm.trans hm'')
      obtain rfl : j = j' := Option.some.inj (hj.symm.trans hj')
      exact .inr ⟨m', i, rfl, hi, hle'⟩

end Chain

/-- Only a policy that is at least as lenient agrees on all chains on which another one does. -/
theorem Policy.le_of_forall_mismatch?_eq_none {p q : Policy}
    (h : ∀ a b : Chain, Chain.mismatch? p a b = none → Chain.mismatch? q a b = none) : p ≤ q := by
  intro k hk
  obtain ⟨l, rfl⟩ := k.exists_op
  obtain ⟨r, hkind, hdiffer⟩ := l.exists_valueEq_eq_false
  have hp : p.mismatchAt? 0 l r = none :=
    mismatchAt?_eq_none_iff.mpr (opsEqual_iff.mpr ⟨hkind.symm, .inl hk⟩)
  have hq : q.mismatchAt? 0 l r = none := by
    have hchains := h (.ofList [l]) (.ofList [r])
    rw [Chain.mismatch?_singleton, Chain.mismatch?_singleton] at hchains
    exact hchains hp
  -- the two operations differ in value, so they are equal only by their kind
  obtain ⟨-, honly | hvalue⟩ := opsEqual_iff.mp (mismatchAt?_eq_none_iff.mp hq)
  · exact honly
  · rw [hdiffer] at hvalue
    cases hvalue

namespace Chain

/-- **Leniency moves the first mismatch later or removes it.** A policy is at least as lenient as
another one exactly when all chains that agree under the other agree under it. Then lengths are
reported alike; where the more lenient policy reports a position, the stricter one reports an
earlier position or the same one with the same mismatch; and where the stricter one reports a
position, the more lenient one reports none before it. Chains that agree under the strictest policy
agree under every other. -/
theorem mismatch?_monotone_in_policy (p q : Policy) :
    (p ≤ q ↔ ∀ a b, mismatch? p a b = none → mismatch? q a b = none) ∧
    (p ≤ q → ∀ a b,
      (∀ m n, mismatch? q a b = some (.length m n) ↔ mismatch? p a b = some (.length m n)) ∧
      (∀ m i, mismatch? q a b = some m → m.index? = some i →
        ∃ m' j, mismatch? p a b = some m' ∧ m'.index? = some j ∧ j ≤ i ∧ (j = i → m' = m)) ∧
      ∀ m j, mismatch? p a b = some m → m.index? = some j →
        mismatch? q a b = none ∨
          ∃ m' i, mismatch? q a b = some m' ∧ m'.index? = some i ∧ j ≤ i) ∧
    ∀ a b, mismatch? .strict a b = none → mismatch? q a b = none := by
  refine ⟨⟨?_, Policy.le_of_forall_mismatch?_eq_none⟩, ?_, ?_⟩
  · intro hle a b
    exact mismatch?_eq_none_of_le hle
  · intro hle a b
    refine ⟨mismatch?_eq_length_iff_mismatch? q p a b, ?_, ?_⟩
    · intro m i
      exact exists_mismatch?_of_le hle
    · intro m j
      exact mismatch?_eq_none_or_le_of_le hle
  · intro a b
    exact mismatch?_eq_none_of_le q.strict_le

/-- Chains that differ in a width, and behind it in a kind or a height: a policy that compares
widths by kind reports what is behind, and the strictest policy the width in front of it. -/
theorem width_mismatch_precedes_kind_mismatch :
    let lenient := Policy.strict.set .width .kindOnly
    let undefined : Dp := ⟨.nan .double⟩
    let a := ofList [.width .zero, .height .zero]
    let b := ofList [.width undefined, .clickable ⟨0⟩]
    let c := ofList [.width undefined, .height undefined]
    .strict ≤ lenient ∧
      mismatch? lenient a b = some (.kind 1 .height .clickable) ∧
      (∃ m j, mismatch? .strict a b = some m ∧ m.index? = some j ∧ j ≤ 1 ∧
        (j = 1 → m = .kind 1 .height .clickable)) ∧
      mismatch? .strict a b = some (.payload 0 (.width .zero) (.width undefined)) ∧
      (mismatch? lenient a c = none ∨
        ∃ m i, mismatch? lenient a c = some m ∧ m.index? = some i ∧ 0 ≤ i) ∧
      mismatch? lenient a c = some (.payload 1 (.height .zero) (.height undefined)) ∧
      mismatch? lenient a a = none := by
  intro lenient undefined a b c
  have hle : .strict ≤ lenient := Policy.strict_le lenient
  have hb : mismatch? lenient a b = some (.kind 1 .height .clickable) := by decide
  have hc : mismatch? .strict a c = some (.payload 0 (.width .zero) (.width undefined)) := by decide
  obtain ⟨-, hmono, hstrict⟩ := mismatch?_monotone_in_policy .strict lenient
  exact ⟨hle, hb, (hmono hle a b).2.1 _ 1 hb rfl, by decide, (hmono hle a c).2.2 _ 0 hc rfl,
    by decide, hstrict a a (by decide)⟩

end Chain

end StyleChain
