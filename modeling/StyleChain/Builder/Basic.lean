import StyleChain.Builder.Order
import StyleChain.Scope.Methods

/-!
# Builders

A builder holds the three scopes, the groups opened so far in the order of their first opening,
and an order that was asked for, if any. Configuring a group opens it whether or not anything is
contributed; giving a slot a value of any type opens the slot's group only if that contributes an
operation. `Builder.build` puts the contributions of the groups one behind the other, in the order
asked for or else in the order of opening, so that groups are never interleaved.
-/

namespace StyleChain

/-- The configuration of all groups. -/
@[ext]
structure Builder where
  /-- The group of sizes. -/
  size : Scope .size
  /-- The group of appearances. -/
  appearance : Scope .appearance
  /-- The group of interactions. -/
  interaction : Scope .interaction
  /-- The groups that were opened, first the one opened first. -/
  opened : List Group
  /-- The order asked for. -/
  fixed : Option GroupOrder

namespace Builder

/-- Nothing is configured. -/
def empty : Builder := ⟨.empty, .empty, .empty, [], none⟩

instance : Inhabited Builder := ⟨empty⟩

/-- The configuration of a group. -/
def scope (b : Builder) : (g : Group) → Scope g
  | .size => b.size
  | .appearance => b.appearance
  | .interaction => b.interaction

/-- Replaces the configuration of a group. -/
def withScope (b : Builder) : (g : Group) → Scope g → Builder
  | .size, s => { b with size := s }
  | .appearance, s => { b with appearance := s }
  | .interaction, s => { b with interaction := s }

/-- Opens a group, unless it is open. -/
def openGroup (b : Builder) (g : Group) : Builder :=
  if g ∈ b.opened then b else { b with opened := b.opened ++ [g] }

/-- Asks for an order. -/
def withOrder (b : Builder) (o : GroupOrder) : Builder := { b with fixed := some o }

/-- Opens a group and configures it. -/
def configure (b : Builder) (g : Group) (f : Scope g → Scope g) : Builder :=
  (b.openGroup g).withScope g (f (b.scope g))

/-- Gives a slot a value of any type, and opens its group if that contributes an operation. -/
def set (b : Builder) (slot : Slot) (v : Loose) : Builder :=
  let before := b.scope slot.group
  let after := before.set slot v
  let b := b.withScope slot.group after
  if before.deltas.length < after.deltas.length then b.openGroup slot.group else b

/-- The order in which groups are put together. -/
def order (b : Builder) : List Group :=
  match b.fixed with
  | some o => o.kinds
  | none => Group.openedFirst b.opened

/-- The contributions of all groups, behind the operations of a chain. -/
def buildOn (b : Builder) (base : Chain) : Chain :=
  b.order.foldl (fun chain g => (b.scope g).foldOnto chain) base

/-- The contributions of all groups. -/
def build (b : Builder) : Chain := b.buildOn .empty

/-! ### Each part after each step -/

@[simp] theorem scope_empty (g : Group) : empty.scope g = .empty := by
  cases g <;> rfl

@[simp] theorem scope_withScope_self (b : Builder) (g : Group) (s : Scope g) :
    (b.withScope g s).scope g = s := by
  cases g <;> rfl

theorem scope_withScope_of_ne {g h : Group} (hne : h ≠ g) (b : Builder) (s : Scope g) :
    (b.withScope g s).scope h = b.scope h := by
  cases g <;> cases h <;> first | rfl | exact absurd rfl hne

@[simp] theorem opened_withScope (b : Builder) (g : Group) (s : Scope g) :
    (b.withScope g s).opened = b.opened := by
  cases g <;> rfl

@[simp] theorem fixed_withScope (b : Builder) (g : Group) (s : Scope g) :
    (b.withScope g s).fixed = b.fixed := by
  cases g <;> rfl

@[simp] theorem scope_openGroup (b : Builder) (g h : Group) :
    (b.openGroup g).scope h = b.scope h := by
  unfold openGroup
  split <;> cases h <;> rfl

@[simp] theorem fixed_openGroup (b : Builder) (g : Group) : (b.openGroup g).fixed = b.fixed := by
  unfold openGroup
  split <;> rfl

theorem opened_openGroup (b : Builder) (g : Group) :
    (b.openGroup g).opened = if g ∈ b.opened then b.opened else b.opened ++ [g] := by
  unfold openGroup
  split <;> rfl

theorem ops_buildOn (b : Builder) (base : Chain) :
    (b.buildOn base).ops =
      base.ops ++ b.order.flatMap fun g => (b.scope g).deltas.map Delta.op := by
  unfold buildOn
  induction b.order generalizing base with
  | nil => simp
  | cons g gs ih => simp [ih, Scope.ops_foldOnto]

end Builder

/-- The contributions of three scopes in canonical order. -/
def accumulate (size : Scope .size) (appearance : Scope .appearance)
    (interaction : Scope .interaction) : Chain :=
  interaction.foldOnto (appearance.foldOnto size.chain)

end StyleChain
