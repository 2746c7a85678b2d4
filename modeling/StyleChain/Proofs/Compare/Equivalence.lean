import Mathlib.Data.List.Zip
import StyleChain.Proofs.Compare.Congruence
import StyleChain.Proofs.Compare.ValueEquality

/-!
# Agreement is symmetric, transitive and substitutive

Under any policy, equality of operations is symmetric and transitive, though not reflexive. For
chains this gives three laws that hold with the mismatches, not only with the verdict. Comparing in
the other direction reports the same mismatch with its sides exchanged (`Mismatch.swap`). A chain
may be replaced by one that it agrees with: of a mismatch with a third chain everything remains but
the operations shown, which may differ in the signs of zeros and in what the policy does not compare
(`Mismatch.outline`). And agreement with the same chain is agreement, which is the case of
replacement where nothing is reported.
-/

namespace StyleChain

/-! ### Mismatches read differently -/

namespace Mismatch

/-- The mismatch of the two chains taken in the other order. -/
def swap : Mismatch → Mismatch
  | length l r => length r l
  | kind i l r => kind i r l
  | payload i l r => payload i r l

/-- What a mismatch says beside the operations it shows. -/
inductive Outline where
  /-- The chains have these lengths. -/
  | length (left right : Nat)
  /-- The operations at a position are of these kinds. -/
  | kind (index : Nat) (left right : Kind)
  /-- The operations at a position hold different values. -/
  | payload (index : Nat)
deriving DecidableEq, Repr

/-- A mismatch without the operations. -/
def outline : Mismatch → Outline
  | length l r => .length l r
  | kind i l r => .kind i l r
  | payload i _ _ => .payload i

end Mismatch

/-! ### One position -/

namespace Policy

variable {p : Policy} {k l r : Op}

theorem opsEqual_comm (p : Policy) (l r : Op) : p.opsEqual l r = p.opsEqual r l := by
  rw [Bool.eq_iff_iff, opsEqual_iff, opsEqual_iff, Op.valueEq_comm, eq_comm]
  exact and_congr_right fun hk => by rw [hk]

theorem opsEqual_trans (hkl : p.opsEqual k l) (hlr : p.opsEqual l r) : p.opsEqual k r := by
  obtain ⟨hkind, hvalue⟩ := opsEqual_iff.1 hkl
  obtain ⟨hkind', hvalue'⟩ := opsEqual_iff.1 hlr
  refine opsEqual_iff.2 ⟨hkind.trans hkind', ?_⟩
  rcases hvalue with honly | hvalue
  · exact .inl honly
  · rcases hvalue' with honly | hvalue'
    · exact .inl (hkind ▸ honly)
    · exact .inr (Op.valueEq_trans hvalue hvalue')

/-- Equal operations are equal to the same operations. -/
theorem opsEqual_congr_left (h : p.opsEqual k l) (r : Op) : p.opsEqual k r = p.opsEqual l r := by
  have h' : p.opsEqual l k := by rwa [opsEqual_comm]
  exact Bool.eq_iff_iff.2 ⟨opsEqual_trans h', opsEqual_trans h⟩

/-- Operations in the other order give the mismatch with its sides exchanged. -/
theorem mismatchAt?_comm (p : Policy) (i : Nat) (l r : Op) :
    p.mismatchAt? i r l = (p.mismatchAt? i l r).map Mismatch.swap := by
  unfold mismatchAt?
  by_cases hk : l.kind = r.kind
  · rw [if_neg (not_not_intro hk), if_neg (not_not_intro hk.symm), opsEqual_comm]
    split <;> rfl
  · rw [if_pos hk, if_pos (Ne.symm hk)]
    rfl

/-- Equal operations give the same mismatch with a third, but for the operations shown. -/
theorem map_outline_mismatchAt?_eq (h : p.opsEqual k l) (i : Nat) (r : Op) :
    (p.mismatchAt? i k r).map Mismatch.outline = (p.mismatchAt? i l r).map Mismatch.outline := by
  have hkind : k.kind = l.kind := (opsEqual_iff.1 h).1
  unfold mismatchAt?
  rw [hkind, opsEqual_congr_left h]
  split
  · rfl
  · split <;> rfl

end Policy

/-! ### Chains -/

namespace Chain

variable {p : Policy} {a b c : Chain}

/-- Comparing in the other direction reports the same with the sides exchanged. -/
theorem mismatch?_comm (p : Policy) (a b : Chain) :
    mismatch? p b a = (mismatch? p a b).map Mismatch.swap := by
  have hat : List.Forall₂ (SameMismatch p id Mismatch.swap) (b.ops.zip a.ops)
      (a.ops.zip b.ops) := by
    rw [← List.zip_swap a.ops b.ops, List.forall₂_map_left_iff, List.forall₂_same]
    intro lr _ i
    rw [Option.map_id, id_eq]
    exact Policy.mismatchAt?_comm p i lr.1 lr.2
  have h : (mismatch? p b a).map id = (mismatch? p a b).map Mismatch.swap :=
    map_mismatch?_congr eq_comm rfl hat
  rwa [Option.map_id, id_eq] at h

/-- Chains that agree compare alike with any third chain, but for the operations shown. -/
theorem map_outline_mismatch?_eq (hab : mismatch? p a b = none) (c : Chain) :
    (mismatch? p a c).map Mismatch.outline = (mismatch? p b c).map Mismatch.outline := by
  refine map_mismatch?_eq_of_forall₂ (mismatch?_eq_none_iff_forall₂.1 hab)
    (List.forall₂_refl c.ops : List.Forall₂ Eq c.ops c.ops) ?_
  rintro l r l' _ hl rfl i
  exact Policy.map_outline_mismatchAt?_eq hl i r

theorem mismatch?_trans (hab : mismatch? p a b = none) (hbc : mismatch? p b c = none) :
    mismatch? p a c = none := by
  -- nothing is reported for `b` and `c`, so there is no outline to have for `a` and `c`
  have h := map_outline_mismatch?_eq hab c
  rwa [hbc, Option.map_none, Option.map_eq_none_iff] at h

/-- **Agreement is symmetric, transitive and substitutive.** Under every policy, comparing in the
other direction reports the same mismatch with its sides exchanged; chains that agree with a common
one in turn agree; and chains that agree give with any third chain no mismatch, or mismatches of the
same variant at the same position with the same lengths or kinds. -/
theorem mismatch?_comm_trans_congr (p : Policy) (a b c : Chain) :
    mismatch? p b a = (mismatch? p a b).map Mismatch.swap ∧
    (mismatch? p a b = none → mismatch? p b c = none → mismatch? p a c = none) ∧
    (mismatch? p a b = none →
      (mismatch? p a c).map Mismatch.outline = (mismatch? p b c).map Mismatch.outline) :=
  ⟨mismatch?_comm p a b, mismatch?_trans, fun hab => map_outline_mismatch?_eq hab c⟩

/-- Widths of `0` and `-0` agree, so both agree with a third that does and differ in the same way
from one that does not, though the operations shown are not the same. -/
theorem signed_zero_widths_compare_alike :
    let zero := ofList [.width .zero]
    let negativeZero := ofList [.width ⟨.ofMagnitude .double true 0⟩]
    let undefined := ofList [.width ⟨.nan .double⟩]
    mismatch? .strict zero negativeZero = none ∧ mismatch? .strict negativeZero zero = none ∧
      mismatch? .strict zero zero = none ∧
      (mismatch? .strict zero undefined).map Mismatch.outline =
        (mismatch? .strict negativeZero undefined).map Mismatch.outline ∧
      mismatch? .strict zero undefined ≠ mismatch? .strict negativeZero undefined := by
  intro zero negativeZero undefined
  have hab : mismatch? .strict zero negativeZero = none := by decide
  have hba : mismatch? .strict negativeZero zero = none := by
    rw [(mismatch?_comm_trans_congr .strict zero negativeZero zero).1, hab, Option.map_none]
  exact ⟨hab, hba, (mismatch?_comm_trans_congr _ _ _ _).2.1 hab hba,
    (mismatch?_comm_trans_congr _ _ _ _).2.2 hab, by decide⟩

end Chain

end StyleChain
