import StyleChain.Chain.Basic
import StyleChain.Slot.Assignment

/-!
# Scopes

A scope is the configuration of one group. Assigning one of the group's slots does two things: it
records the value as the slot's latest, and it contributes the operation that the value stands
for, if any, behind all earlier contributions. An earlier contribution is never taken back, so a
slot that is assigned twice contributes twice.
-/

namespace StyleChain

/-- An operation and the slot that contributed it. -/
structure Delta where
  /-- The slot. -/
  slot : Slot
  /-- The operation. -/
  op : Op
deriving DecidableEq, Repr

/-- Equality of slots and of operations by value. -/
def Delta.valueEq (d e : Delta) : Bool := decide (d.slot = e.slot) && d.op.valueEq e.op

/-- Equality of two lists of contributions: as many, and each equal to its counterpart. -/
def Delta.listEq : List Delta → List Delta → Bool
  | [], [] => true
  | d :: ds, e :: es => d.valueEq e && listEq ds es
  | _, _ => false

/-- What an assignment contributes. -/
def Assignment.delta? (a : Assignment) : Option Delta := a.op?.map (⟨a.slot, ·⟩)

/-- The configuration of the group `g`. -/
@[ext]
structure Scope (g : Group) where
  /-- The latest value of each slot that has been assigned. -/
  values : Slot → Option Assignment
  /-- What has been contributed, oldest first. -/
  deltas : List Delta

namespace Scope

variable {g : Group}

/-- Nothing is assigned. -/
def empty : Scope g := ⟨fun _ => none, []⟩

instance : Inhabited (Scope g) := ⟨empty⟩

/-- Whether nothing was contributed. -/
def isEmpty (s : Scope g) : Bool := s.deltas.isEmpty

/-- Gives one of the group's slots a value. -/
def assign (s : Scope g) (a : Assignment) (_own : a.slot.group = g) : Scope g where
  values := fun slot => if slot = a.slot then some a else s.values slot
  deltas := s.deltas ++ a.delta?.toList

/-- The operations contributed, behind those of a chain. -/
def foldOnto (s : Scope g) (base : Chain) : Chain :=
  s.deltas.foldl (fun chain d => chain.push d.op) base

/-- The operations contributed. -/
def chain (s : Scope g) : Chain := s.foldOnto .empty

/-! ### Values and contributions after each step -/

@[simp] theorem deltas_empty : (empty : Scope g).deltas = [] := rfl

@[simp] theorem values_empty (slot : Slot) : (empty : Scope g).values slot = none := rfl

@[simp] theorem deltas_assign (s : Scope g) {a : Assignment} (own : a.slot.group = g) :
    (s.assign a own).deltas = s.deltas ++ a.delta?.toList := rfl

theorem values_assign (s : Scope g) {a : Assignment} (own : a.slot.group = g) (slot : Slot) :
    (s.assign a own).values slot = if slot = a.slot then some a else s.values slot := rfl

/-- What a scope contributes to a chain is appended to it. -/
theorem foldOnto_eq_append (s : Scope g) (base : Chain) :
    s.foldOnto base = base ++ .ofList (s.deltas.map Delta.op) := by
  rw [foldOnto, ← Chain.foldl_push, List.foldl_map]

theorem ops_foldOnto (s : Scope g) (base : Chain) :
    (s.foldOnto base).ops = base.ops ++ s.deltas.map Delta.op := by
  rw [foldOnto_eq_append, Chain.ops_append, Chain.ops_ofList]

@[simp] theorem ops_chain (s : Scope g) : s.chain.ops = s.deltas.map Delta.op := by
  simp [chain, ops_foldOnto]

end Scope

end StyleChain
