import StyleChain.Compare.Mismatch

/-!
# Comparison reports the first mismatch

`Policy.PassesAt` says what two chains have to satisfy at one position, without a search: both
have an operation there, of one kind, and the kind is compared by kind alone or the values are
equal. Comparing is then exact in all its answers. It finds nothing exactly for chains of one length
that pass everywhere; chains of different lengths are reported with both lengths, whatever they
hold; and otherwise the mismatch reported is that of the one position that does not pass while
all before it do (`mismatch?_reports_first`).

The search over positions is dealt with once, in `mismatch?_eq_some_iff_of_size_eq`; which of the
two mismatches a position gives is a question about its two operations alone
(`mismatchAt?_eq_kind_iff`, `mismatchAt?_eq_payload_iff`).
-/

namespace StyleChain

/-! ### One position -/

namespace Policy

variable {p : Policy} {i j : Nat} {l r : Op}

/-- The chains agree at a position as far as the policy asks. -/
def PassesAt (p : Policy) (a b : Chain) (i : Nat) : Prop :=
  ∃ l r, a.ops[i]? = some l ∧ b.ops[i]? = some r ∧ l.kind = r.kind ∧
    (p.equality l.kind = .kindOnly ∨ l.valueEq r)

/-- At a position of both chains, passing is finding no mismatch there. -/
theorem passesAt_iff_mismatchAt? {a b : Chain} (hl : a.ops[i]? = some l)
    (hr : b.ops[i]? = some r) : p.PassesAt a b i ↔ p.mismatchAt? i l r = none := by
  rw [mismatchAt?_eq_none_iff, opsEqual_iff]
  constructor
  · rintro ⟨l', r', hl', hr', hpass⟩
    obtain rfl : l' = l := Option.some.inj (hl'.symm.trans hl)
    obtain rfl : r' = r := Option.some.inj (hr'.symm.trans hr)
    exact hpass
  · exact fun hpass => ⟨l, r, hl, hr, hpass⟩

/-- A mismatch found at a position names that position. -/
theorem index?_of_mismatchAt? {m : Mismatch} (h : p.mismatchAt? i l r = some m) :
    m.index? = some i := by
  unfold mismatchAt? at h
  split at h
  · cases h
    rfl
  · split at h <;> cases h
    rfl

/-- Kinds are reported when they differ. -/
theorem mismatchAt?_eq_kind_iff {k k' : Kind} :
    p.mismatchAt? i l r = some (.kind j k k') ↔ i = j ∧ l.kind = k ∧ r.kind = k' ∧ k ≠ k' := by
  unfold mismatchAt?
  by_cases hk : l.kind = r.kind
  · rw [if_neg (not_not_intro hk)]
    constructor
    · intro h
      split at h <;> cases h
    · rintro ⟨-, rfl, rfl, hne⟩
      exact absurd hk hne
  · rw [if_pos hk, Option.some.injEq, Mismatch.kind.injEq]
    constructor
    · rintro ⟨rfl, rfl, rfl⟩
      exact ⟨rfl, rfl, rfl, hk⟩
    · rintro ⟨rfl, rfl, rfl, -⟩
      exact ⟨rfl, rfl, rfl⟩

/-- Operations are reported when they are of one kind, compared by value and differ in value. -/
theorem mismatchAt?_eq_payload_iff {l' r' : Op} :
    p.mismatchAt? i l r = some (.payload j l' r') ↔
      i = j ∧ l = l' ∧ r = r' ∧ l.kind = r.kind ∧ p.equality l.kind = .value ∧
        l.valueEq r = false := by
  unfold mismatchAt?
  by_cases hk : l.kind = r.kind
  · have heq : p.opsEqual l r = false ↔ p.equality l.kind = .value ∧ l.valueEq r = false := by
      rw [← Bool.not_eq_true, opsEqual_iff]
      cases p.equality l.kind <;> simp [hk]
    rw [if_neg (not_not_intro hk), ← heq]
    cases h : p.opsEqual l r <;> simp [hk]
  · rw [if_pos hk]
    simp [hk]

end Policy

/-! ### All positions -/

namespace Chain

variable {p : Policy} {a b : Chain}

/-- A search that is told the positions gives what it finds at the first position where it finds
anything. -/
private theorem findSome?_zipIdx_eq_some_iff {α β : Type} {f : α × Nat → Option β} {y : β}
    (xs : List α) (k : Nat) :
    (xs.zipIdx k).findSome? f = some y ↔
      ∃ i x, xs[i]? = some x ∧ f (x, k + i) = some y ∧
        ∀ j < i, ∃ x', xs[j]? = some x' ∧ f (x', k + j) = none := by
  induction xs generalizing k with
  | nil => simp
  | cons x xs ih =>
    rw [List.zipIdx_cons, List.findSome?_cons]
    cases hx : f (x, k) with
    | some z =>
      -- the search ends here, so no later position can be the first
      constructor
      · exact fun h => ⟨0, x, rfl, hx.trans h, fun j hj => absurd hj (Nat.not_lt_zero j)⟩
      · rintro ⟨i, x', hx', hf, hbefore⟩
        cases i with
        | zero =>
          obtain rfl : x = x' := Option.some.inj hx'
          exact hx.symm.trans hf
        | succ i =>
          obtain ⟨x', hx', hnone⟩ := hbefore 0 (Nat.succ_pos i)
          obtain rfl : x = x' := Option.some.inj hx'
          exact absurd (hx.symm.trans hnone) (Option.some_ne_none z)
    | none =>
      -- the rest is numbered from `k + 1`, which moves every position by one
      refine (ih (k + 1)).trans ⟨?_, ?_⟩
      · rintro ⟨i, x', hx', hf, hbefore⟩
        refine ⟨i + 1, x', hx', by rwa [Nat.add_right_comm] at hf, fun j hj => ?_⟩
        cases j with
        | zero => exact ⟨x, rfl, hx⟩
        | succ j =>
          obtain ⟨x'', hx'', hnone⟩ := hbefore j (Nat.lt_of_succ_lt_succ hj)
          exact ⟨x'', hx'', by rwa [Nat.add_right_comm] at hnone⟩
      · rintro ⟨i, x', hx', hf, hbefore⟩
        cases i with
        | zero =>
          obtain rfl : x = x' := Option.some.inj hx'
          exact absurd (hx.symm.trans hf) (Option.some_ne_none y).symm
        | succ i =>
          refine ⟨i, x', hx', by rwa [Nat.add_right_comm], fun j hj => ?_⟩
          obtain ⟨x'', hx'', hnone⟩ := hbefore (j + 1) (Nat.succ_lt_succ hj)
          exact ⟨x'', hx'', by rwa [Nat.add_right_comm]⟩

/-- A position passes exactly when the pair of operations there is no mismatch. -/
private theorem exists_zip_mismatchAt?_eq_none_iff {i : Nat} :
    (∃ lr, (a.ops.zip b.ops)[i]? = some lr ∧ p.mismatchAt? i lr.1 lr.2 = none) ↔
      p.PassesAt a b i := by
  constructor
  · rintro ⟨lr, hlr, hnone⟩
    obtain ⟨hl, hr⟩ := List.getElem?_zip_eq_some.1 hlr
    exact (Policy.passesAt_iff_mismatchAt? hl hr).2 hnone
  · rintro ⟨l, r, hl, hr, hpass⟩
    refine ⟨(l, r), List.getElem?_zip_eq_some.2 ⟨hl, hr⟩, ?_⟩
    exact (Policy.passesAt_iff_mismatchAt? hl hr).1 ⟨l, r, hl, hr, hpass⟩

/-- For chains of one length the mismatch reported is that of the first position that does not
pass. -/
theorem mismatch?_eq_some_iff_of_size_eq (h : a.size = b.size) {m : Mismatch} :
    mismatch? p a b = some m ↔
      ∃ i l r, a.ops[i]? = some l ∧ b.ops[i]? = some r ∧ p.mismatchAt? i l r = some m ∧
        ∀ j < i, p.PassesAt a b j := by
  rw [mismatch?, if_neg (not_not_intro h), findSome?_zipIdx_eq_some_iff]
  simp only [Nat.zero_add, exists_zip_mismatchAt?_eq_none_iff]
  constructor
  · rintro ⟨i, ⟨l, r⟩, hlr, hm, hbefore⟩
    obtain ⟨hl, hr⟩ := List.getElem?_zip_eq_some.1 hlr
    exact ⟨i, l, r, hl, hr, hm, hbefore⟩
  · rintro ⟨i, l, r, hl, hr, hm, hbefore⟩
    exact ⟨i, (l, r), List.getElem?_zip_eq_some.2 ⟨hl, hr⟩, hm, hbefore⟩

/-- Nothing is reported exactly when the chains are of one length and pass everywhere. -/
theorem mismatch?_eq_none_iff :
    mismatch? p a b = none ↔ a.size = b.size ∧ ∀ i < a.size, p.PassesAt a b i := by
  by_cases h : a.size = b.size
  · have hzip : (a.ops.zip b.ops).length = a.size := by
      rw [List.length_zip, ← size_eq, ← size_eq, ← h, Nat.min_self]
    rw [mismatch?, if_neg (not_not_intro h), List.findSome?_eq_none_iff]
    constructor
    · refine fun hnone => ⟨h, fun i hi => ?_⟩
      have hlr := List.getElem?_eq_getElem (hzip.symm ▸ hi : i < (a.ops.zip b.ops).length)
      exact exists_zip_mismatchAt?_eq_none_iff.1
        ⟨_, hlr, hnone (_, i) (List.mem_zipIdx_iff_getElem?.2 hlr)⟩
    · rintro ⟨-, hpass⟩ ⟨⟨l, r⟩, i⟩ hmem
      have hlr := List.mem_zipIdx_iff_getElem?.1 hmem
      obtain ⟨hl, hr⟩ := List.getElem?_zip_eq_some.1 hlr
      have hi : i < a.size := (List.getElem?_eq_some_iff.1 hl).1
      exact (Policy.passesAt_iff_mismatchAt? hl hr).1 (hpass i hi)
  · rw [mismatch?_of_size_ne h]
    simp [h]

/-- Lengths are reported when they differ. -/
theorem mismatch?_eq_length_iff {m n : Nat} :
    mismatch? p a b = some (.length m n) ↔ a.size ≠ b.size ∧ m = a.size ∧ n = b.size := by
  by_cases h : a.size = b.size
  · refine ⟨fun hm => ?_, fun ⟨hne, _⟩ => absurd h hne⟩
    obtain ⟨i, l, r, -, -, hat, -⟩ := (mismatch?_eq_some_iff_of_size_eq h).1 hm
    exact absurd (Policy.index?_of_mismatchAt? hat).symm (Option.some_ne_none i)
  · rw [mismatch?_of_size_ne h, Option.some.injEq, Mismatch.length.injEq]
    exact ⟨fun ⟨hm, hn⟩ => ⟨h, hm.symm, hn.symm⟩, fun ⟨_, hm, hn⟩ => ⟨hm.symm, hn.symm⟩⟩

/-- A mismatch that names a position is reported when the chains are of one length, the operations
at that position give it, and all positions before pass. -/
theorem mismatch?_eq_some_iff_of_index? {m : Mismatch} {i : Nat} (hi : m.index? = some i) :
    mismatch? p a b = some m ↔
      a.size = b.size ∧ (∀ j < i, p.PassesAt a b j) ∧
        ∃ l r, a.ops[i]? = some l ∧ b.ops[i]? = some r ∧ p.mismatchAt? i l r = some m := by
  by_cases h : a.size = b.size
  · rw [mismatch?_eq_some_iff_of_size_eq h]
    constructor
    · rintro ⟨i', l, r, hl, hr, hm, hbefore⟩
      obtain rfl : i' = i := Option.some.inj ((Policy.index?_of_mismatchAt? hm).symm.trans hi)
      exact ⟨h, hbefore, l, r, hl, hr, hm⟩
    · rintro ⟨-, hbefore, l, r, hl, hr, hm⟩
      exact ⟨i, l, r, hl, hr, hm, hbefore⟩
  · refine ⟨fun hm => ?_, fun ⟨heq, _⟩ => absurd heq h⟩
    rw [mismatch?_of_size_ne h] at hm
    obtain rfl : .length a.size b.size = m := Option.some.inj hm
    exact absurd hi.symm (Option.some_ne_none i)

/-- A position that is reported lies within both chains. -/
theorem index_lt_of_mismatch? {m : Mismatch} {i : Nat} (h : mismatch? p a b = some m)
    (hi : m.index? = some i) : i < a.size ∧ i < b.size := by
  obtain ⟨-, -, l, r, hl, hr, -⟩ := (mismatch?_eq_some_iff_of_index? hi).1 h
  exact ⟨(List.getElem?_eq_some_iff.1 hl).1, (List.getElem?_eq_some_iff.1 hr).1⟩

/-- **Comparing is exact and reports the first mismatch.** Lengths are reported exactly when they
differ. For chains of one length, of the first position that does not pass the kinds are reported
exactly when they differ, and the operations exactly when they are of one kind that is compared by
value and are not equal. Nothing is reported exactly when the lengths agree and every position
passes. -/
theorem mismatch?_reports_first (p : Policy) (a b : Chain) :
    (∀ m n, mismatch? p a b = some (.length m n) ↔
      a.size ≠ b.size ∧ m = a.size ∧ n = b.size) ∧
    (∀ i k k', mismatch? p a b = some (.kind i k k') ↔
      a.size = b.size ∧ (∀ j < i, p.PassesAt a b j) ∧
        ∃ l r, a.ops[i]? = some l ∧ b.ops[i]? = some r ∧ l.kind = k ∧ r.kind = k' ∧ k ≠ k') ∧
    (∀ i l r, mismatch? p a b = some (.payload i l r) ↔
      a.size = b.size ∧ (∀ j < i, p.PassesAt a b j) ∧
        a.ops[i]? = some l ∧ b.ops[i]? = some r ∧ l.kind = r.kind ∧
          p.equality l.kind = .value ∧ l.valueEq r = false) ∧
    (mismatch? p a b = none ↔ a.size = b.size ∧ ∀ i < a.size, p.PassesAt a b i) ∧
    (∀ m, mismatch? p a b = some m → (∀ x y, m ≠ .length x y) →
      ∃ i, m.index? = some i ∧ i < a.size ∧ i < b.size) ∧
    (a.equivalent b = true ↔ mismatch? .standard a b = none) := by
  refine ⟨fun m n => mismatch?_eq_length_iff, fun i k k' => ?_, fun i l r => ?_,
    mismatch?_eq_none_iff, fun m hm hne => ?_, equivalent_iff⟩
  · rw [mismatch?_eq_some_iff_of_index? rfl]
    simp only [Policy.mismatchAt?_eq_kind_iff, true_and]
  · rw [mismatch?_eq_some_iff_of_index? rfl]
    refine and_congr_right fun _ => and_congr_right fun _ => ⟨?_, ?_⟩
    · rintro ⟨l', r', hl, hr, hat⟩
      obtain ⟨-, rfl, rfl, hdiffer⟩ := Policy.mismatchAt?_eq_payload_iff.1 hat
      exact ⟨hl, hr, hdiffer⟩
    · rintro ⟨hl, hr, hdiffer⟩
      exact ⟨l, r, hl, hr, Policy.mismatchAt?_eq_payload_iff.2 ⟨rfl, rfl, rfl, hdiffer⟩⟩
  · obtain ⟨i, hi⟩ : ∃ i, m.index? = some i := by
      cases m with
      | length x y => exact absurd rfl (hne x y)
      | kind i k k' => exact ⟨i, rfl⟩
      | payload i l r => exact ⟨i, rfl⟩
    exact ⟨i, hi, index_lt_of_mismatch? hm hi⟩

end Chain

end StyleChain
