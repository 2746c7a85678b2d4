import StyleChain.Op.Basic

/-!
# Equality policies

A policy says for each kind how two operations of that kind are compared: by value, or by their
kind alone. It keeps the comparisons that were set for single kinds and compares every other kind by
value. Setting a kind back to comparison by value removes what is kept for it, so that nothing is
left of the setting undone. The default compares operations with handlers by kind, since a handler
has no value.
-/

namespace StyleChain

/-- How two operations of one kind are compared. -/
inductive Equality where
  /-- By what they hold. -/
  | value
  /-- By their kind alone, so that any two are equal. -/
  | kindOnly
deriving DecidableEq, Repr

namespace Equality

instance : Inhabited Equality := ⟨value⟩

@[simp] theorem default_eq_value : (default : Equality) = value := rfl

/-- Both ways to compare. -/
def all : List Equality := [value, kindOnly]

/-- Diagnostic text. -/
def describe : Equality → String
  | value => "Value"
  | kindOnly => "KindOnly"

end Equality

/-- How operations of each kind are compared. Policies are equal when they keep the same comparisons
for the same kinds. -/
@[ext]
structure Policy where
  /-- The comparison kept for a kind, if one is kept. -/
  overrides : Kind → Option Equality

namespace Policy

/-- Compares every kind by value. -/
def strict : Policy := ⟨fun _ => none⟩

/-- The comparison for a kind. -/
def equality (p : Policy) (k : Kind) : Equality := (p.overrides k).getD default

/-- Keeps a comparison for one kind, in place of the one kept before. -/
def insert (p : Policy) (k : Kind) (e : Equality) : Policy :=
  ⟨fun other => if other = k then some e else p.overrides other⟩

/-- Keeps no comparison for one kind. -/
def erase (p : Policy) (k : Kind) : Policy :=
  ⟨fun other => if other = k then none else p.overrides other⟩

/-- Sets the comparison for one kind. -/
def set (p : Policy) (k : Kind) (e : Equality) : Policy :=
  match e with
  | .value => p.erase k
  | .kindOnly => p.insert k .kindOnly

/-- The kinds of operations that hold a handler. -/
def callbackKinds : List Kind := [.clickable, .keyEvent, .pointerInput]

/-- Compares operations with handlers by kind and all others by value. -/
def standard : Policy := callbackKinds.foldl (fun p k => p.set k .kindOnly) strict

instance : Inhabited Policy := ⟨standard⟩

@[simp] theorem equality_strict (k : Kind) : strict.equality k = .value := rfl

@[simp] theorem equality_set_self (p : Policy) (k : Kind) (e : Equality) :
    (p.set k e).equality k = e := by
  cases e <;> simp [set, equality, insert, erase]

theorem overrides_set_of_ne {k other : Kind} (h : other ≠ k) (p : Policy) (e : Equality) :
    (p.set k e).overrides other = p.overrides other := by
  cases e <;> simp [set, insert, erase, h]

theorem equality_set_of_ne {k other : Kind} (h : other ≠ k) (p : Policy) (e : Equality) :
    (p.set k e).equality other = p.equality other := by
  rw [equality, overrides_set_of_ne h, equality]

/-- The default compares exactly the kinds with handlers by kind. -/
theorem equality_standard (k : Kind) :
    standard.equality k = if k ∈ callbackKinds then .kindOnly else .value := by
  cases k <;> rfl

instance : DecidableEq Policy := fun p q =>
  decidable_of_iff (∀ k ∈ Kind.all, p.overrides k = q.overrides k)
    ⟨fun h => Policy.ext (funext fun k => h k (Kind.mem_all k)), fun h _ _ => h ▸ rfl⟩

/-- The kinds compared by kind alone, in their order. -/
def kindOnlyKinds (p : Policy) : List Kind :=
  Kind.all.filter fun k => p.equality k = .kindOnly

/-- Whether a policy finds two operations equal. -/
def opsEqual (p : Policy) (a b : Op) : Bool :=
  decide (a.kind = b.kind) &&
    match p.equality a.kind with
    | .kindOnly => true
    | .value => a.valueEq b

theorem opsEqual_iff {p : Policy} {a b : Op} :
    p.opsEqual a b ↔ a.kind = b.kind ∧ (p.equality a.kind = .kindOnly ∨ a.valueEq b) := by
  unfold opsEqual
  cases h : p.equality a.kind <;> simp

end Policy

end StyleChain
