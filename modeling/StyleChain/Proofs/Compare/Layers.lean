import StyleChain.Proofs.Chain.Algebra
import StyleChain.Proofs.Compare.Congruence

/-!
# Comparing chains layer by layer

A chain may be put together from an outer part and an inner one. If the outer parts of two such
chains are equally long, then comparing the chains is comparing the parts: the outer ones first, and
where they agree the inner ones, whose positions are counted from the end of the outer part
(`mismatch?_append_of_size_eq`). Lengths come before either: inner parts of different length are
reported with the lengths of the whole chains, even if the outer parts differ
(`mismatch?_append_of_size_ne`).

So two chains agree exactly when both parts do, and adding an operation to each of two chains keeps
them in agreement exactly when the operations are equal (`mismatch?_push_eq_none_iff`). An operation
that is not equal to itself therefore ends the agreement even if the same one is added to both.
-/

namespace StyleChain

namespace Mismatch

/-- The same mismatch, with its position counted from `n` operations further out. -/
def shift (n : Nat) : Mismatch → Mismatch
  | length l r => length l r
  | kind i l r => kind (n + i) l r
  | payload i l r => payload (n + i) l r

end Mismatch

/-- What is found at a position does not depend on where it is counted from. -/
theorem Policy.mismatchAt?_add (p : Policy) (n i : Nat) (l r : Op) :
    p.mismatchAt? (n + i) l r = (p.mismatchAt? i l r).map (Mismatch.shift n) := by
  unfold mismatchAt?
  split
  · rfl
  · split <;> rfl

namespace Chain

variable {p : Policy} {a a' b b' : Chain}

/-- A search whose positions are counted from `n` operations further out. -/
private theorem findSome?_mismatchAt?_add (lrs : List (Op × Op)) (n k : Nat) :
    ((lrs.zipIdx (n + k)).findSome? fun ((l, r), i) => p.mismatchAt? i l r) =
      ((lrs.zipIdx k).findSome? fun ((l, r), i) => p.mismatchAt? i l r).map
        (Mismatch.shift n) := by
  induction lrs generalizing k with
  | nil => rfl
  | cons lr lrs ih =>
    rw [List.zipIdx_cons, List.zipIdx_cons, List.findSome?_cons, List.findSome?_cons]
    have hat := p.mismatchAt?_add n k lr.1 lr.2
    cases hk : p.mismatchAt? k lr.1 lr.2 with
    | some m =>
      rw [hk, Option.map_some] at hat
      simp only [hat, hk, Option.map_some]
    | none =>
      rw [hk, Option.map_none] at hat
      simpa only [hat, hk, Nat.add_assoc] using ih (k + 1)

/-- Chains with outer parts of one length and inner parts of one length differ as the outer parts
do, and where these agree as the inner parts do, further inwards. -/
theorem mismatch?_append_of_size_eq (ha : a.size = a'.size) (hb : b.size = b'.size) :
    mismatch? p (a ++ b) (a' ++ b') =
      (mismatch? p a a').or ((mismatch? p b b').map (Mismatch.shift a.size)) := by
  have hsize : (a ++ b).size = (a' ++ b').size := by
    rw [size_append, size_append, ha, hb]
  have hzip : (a.ops.zip a'.ops).length = a.size := by
    rw [List.length_zip, ← size_eq, ← size_eq, ← ha, Nat.min_self]
  have hinner := findSome?_mismatchAt?_add (p := p) (b.ops.zip b'.ops) a.size 0
  rw [Nat.add_zero] at hinner
  rw [mismatch?, mismatch?, mismatch?, if_neg (not_not_intro hsize), if_neg (not_not_intro ha),
    if_neg (not_not_intro hb), ops_append, ops_append, List.zip_append ha, List.zipIdx_append,
    List.findSome?_append, Nat.zero_add, hzip, hinner]

/-- Inner parts of different length are reported with the lengths of the whole chains. -/
theorem mismatch?_append_of_size_ne (ha : a.size = a'.size) (hb : b.size ≠ b'.size) :
    mismatch? p (a ++ b) (a' ++ b') = some (.length (a.size + b.size) (a'.size + b'.size)) := by
  have hsize : (a ++ b).size ≠ (a' ++ b').size := by
    rw [size_append, size_append, ha]
    exact fun h => hb (Nat.add_left_cancel h)
  rw [mismatch?_of_size_ne hsize, size_append, size_append]

/-- Chains with outer parts of one length agree exactly when their parts do. -/
theorem mismatch?_append_eq_none_iff (ha : a.size = a'.size) :
    mismatch? p (a ++ b) (a' ++ b') = none ↔
      mismatch? p a a' = none ∧ mismatch? p b b' = none := by
  by_cases hb : b.size = b'.size
  · rw [mismatch?_append_of_size_eq ha hb, Option.or_eq_none_iff, Option.map_eq_none_iff]
  · rw [mismatch?_append_of_size_ne ha hb, mismatch?_of_size_ne hb]
    simp

/-- Chains to which operations are added agree exactly when they did before and the operations are
equal. -/
theorem mismatch?_push_eq_none_iff {l r : Op} :
    mismatch? p (a.push l) (a'.push r) = none ↔ mismatch? p a a' = none ∧ p.opsEqual l r := by
  by_cases ha : a.size = a'.size
  · rw [push_eq_append, push_eq_append, mismatch?_append_eq_none_iff ha, mismatch?_singleton,
      Policy.mismatchAt?_eq_none_iff]
  · have hpush : (a.push l).size ≠ (a'.push r).size := by
      rw [size_push, size_push]
      exact fun h => ha (Nat.add_right_cancel h)
    rw [mismatch?_of_size_ne hpush, mismatch?_of_size_ne ha]
    simp

/-- **Layered chains are compared layer by layer.** Let the outer parts of two chains be equally
long. If the inner parts are not, the lengths of the whole chains are reported, whatever the outer
parts are. Otherwise a mismatch of the outer parts is reported, and if there is none, the mismatch
of the inner parts, as many positions further inwards as the outer parts are long. Hence chains
agree exactly when both parts do, and chains to which an operation is added exactly when they did
before and the operations are equal; and likewise for being equivalent. -/
theorem mismatch?_append_and_push (p : Policy) {a a' : Chain} (ha : a.size = a'.size)
    (b b' : Chain) :
    (b.size ≠ b'.size →
      mismatch? p (a ++ b) (a' ++ b') = some (.length (a ++ b).size (a' ++ b').size)) ∧
    (b.size = b'.size → ∀ m, mismatch? p a a' = some m →
      mismatch? p (a ++ b) (a' ++ b') = some m) ∧
    (b.size = b'.size → mismatch? p a a' = none →
      mismatch? p (a ++ b) (a' ++ b') = (mismatch? p b b').map (Mismatch.shift a.size)) ∧
    (mismatch? p (a ++ b) (a' ++ b') = none ↔
      mismatch? p a a' = none ∧ mismatch? p b b' = none) ∧
    (∀ l r, mismatch? p (a.push l) (a'.push r) = none ↔
      mismatch? p a a' = none ∧ p.opsEqual l r) ∧
    ((a ++ b).equivalent (a' ++ b') ↔ a.equivalent a' ∧ b.equivalent b') ∧
    ∀ l r, (a.push l).equivalent (a'.push r) ↔
      a.equivalent a' ∧ Policy.standard.opsEqual l r := by
  refine ⟨?_, ?_, ?_, mismatch?_append_eq_none_iff ha, ?_, ?_, ?_⟩
  · intro hb
    rw [mismatch?_append_of_size_ne ha hb, size_append, size_append]
  · intro hb m hm
    rw [mismatch?_append_of_size_eq ha hb, hm, Option.some_or]
  · intro hb hnone
    rw [mismatch?_append_of_size_eq ha hb, hnone, Option.none_or]
  · intro l r
    exact mismatch?_push_eq_none_iff
  · rw [equivalent_iff, equivalent_iff, equivalent_iff]
    exact mismatch?_append_eq_none_iff ha
  · intro l r
    rw [equivalent_iff, equivalent_iff]
    exact mismatch?_push_eq_none_iff

/-- An undefined width in the outer part hides a difference of kinds in the inner one and is itself
hidden by inner parts of different length; without it the kinds are reported, two positions further
inwards than in the inner parts alone. The undefined width also keeps chains apart to both of which
it is added. -/
theorem mismatch?_append_and_push_undefined_width :
    let undefined : Op := .width ⟨.nan .double⟩
    let outer := ofList [.width .zero, .height .zero]
    let outer' := ofList [undefined, .height .zero]
    let inner := ofList [.clickable ⟨0⟩, .clickable ⟨1⟩]
    let inner' := ofList [.clickable ⟨2⟩, .keyEvent ⟨3⟩]
    mismatch? .standard (outer ++ inner) (outer' ++ empty) = some (.length 4 2) ∧
      mismatch? .standard (outer ++ inner) (outer' ++ inner') =
        some (.payload 0 (.width .zero) undefined) ∧
      mismatch? .standard inner inner' = some (.kind 1 .clickable .keyEvent) ∧
      mismatch? .standard (outer ++ inner) (outer ++ inner') =
        some (.kind 3 .clickable .keyEvent) ∧
      (outer ++ inner).equivalent (outer ++ ofList [.clickable ⟨4⟩, .clickable ⟨5⟩]) ∧
      ¬ (outer.push undefined).equivalent (outer.push undefined) := by
  intro undefined outer outer' inner inner'
  have houter : mismatch? .standard outer outer' = some (.payload 0 (.width .zero) undefined) := by
    decide
  have hinner : mismatch? .standard inner inner' = some (.kind 1 .clickable .keyEvent) := by decide
  have hsize : outer.size = outer'.size := rfl
  obtain ⟨-, hfirst, -⟩ := mismatch?_append_and_push .standard hsize inner inner'
  obtain ⟨hlength, -⟩ := mismatch?_append_and_push .standard hsize inner empty
  obtain ⟨-, -, hsecond, -⟩ := mismatch?_append_and_push .standard (Eq.refl outer.size) inner inner'
  obtain ⟨-, -, -, -, -, happend, hpush⟩ := mismatch?_append_and_push .standard
    (Eq.refl outer.size) inner (ofList [.clickable ⟨4⟩, .clickable ⟨5⟩])
  refine ⟨hlength (by decide), hfirst rfl _ houter, hinner, ?_, happend.mpr (by decide), ?_⟩
  · rw [hsecond rfl (by decide), hinner]
    rfl
  · exact fun h => absurd ((hpush undefined undefined).mp h).2 (by decide)

end Chain

end StyleChain
