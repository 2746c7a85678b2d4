import StyleChain.Chain.Basic
import StyleChain.Compare.Policy

/-!
# Comparing chains

Two chains agree when they are equally long and the policy finds the operations at every position
equal. Otherwise `Chain.mismatch?` gives the reason: chains of different length are reported as
such whatever they hold, and of all positions where operations differ the outermost is reported.
-/

namespace StyleChain

/-- Why two chains differ. -/
inductive Mismatch where
  /-- They are not equally long. -/
  | length (left right : Nat)
  /-- The operations at a position are of different kinds. -/
  | kind (index : Nat) (left right : Kind)
  /-- The operations at a position are of one kind and hold different values. -/
  | payload (index : Nat) (left right : Op)
deriving DecidableEq, Repr

namespace Mismatch

/-- The position where the chains differ, if one can be named. -/
def index? : Mismatch → Option Nat
  | length _ _ => none
  | kind i _ _ => some i
  | payload i _ _ => some i

/-- What a reader is told. -/
def message (sources : Sources) : Mismatch → String
  | length l r => "chain lengths differ: " ++ toString l ++ " vs " ++ toString r
  | kind i l r =>
    "operation kinds differ at " ++ toString i ++ ": " ++ l.name ++ " vs " ++ r.name
  | payload i l r =>
    "operations differ at " ++ toString i ++ ": " ++ l.describe sources ++ " vs " ++
      r.describe sources

end Mismatch

/-- How the operations at one position differ, if they do. -/
def Policy.mismatchAt? (p : Policy) (i : Nat) (l r : Op) : Option Mismatch :=
  if l.kind ≠ r.kind then some (.kind i l.kind r.kind)
  else if p.opsEqual l r then none
  else some (.payload i l r)

theorem Policy.mismatchAt?_eq_none_iff {p : Policy} {i : Nat} {l r : Op} :
    p.mismatchAt? i l r = none ↔ p.opsEqual l r := by
  unfold Policy.mismatchAt?
  by_cases hk : l.kind = r.kind
  · simp [hk]
  · simp [hk, Policy.opsEqual]

namespace Chain

/-- Why two chains differ under a policy; nothing if they agree. -/
def mismatch? (p : Policy) (a b : Chain) : Option Mismatch :=
  if a.size ≠ b.size then some (.length a.size b.size)
  else (a.ops.zip b.ops).zipIdx.findSome? fun ((l, r), i) => p.mismatchAt? i l r

/-- Whether two chains agree under the default policy. -/
def equivalent (a b : Chain) : Bool := (mismatch? .standard a b).isNone

/-- Different lengths are reported before anything else. -/
theorem mismatch?_of_size_ne {p : Policy} {a b : Chain} (h : a.size ≠ b.size) :
    mismatch? p a b = some (.length a.size b.size) := by
  simp [mismatch?, h]

theorem equivalent_iff {a b : Chain} : a.equivalent b ↔ mismatch? .standard a b = none := by
  simp [equivalent]

end Chain

end StyleChain
