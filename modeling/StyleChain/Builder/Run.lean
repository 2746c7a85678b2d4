import StyleChain.Builder.Basic

/-!
# Runs of a builder

A run is a list of steps that configure a builder from nothing. A step asks for an order, gives a
slot a value of any type, or configures one group by a list of calls; a call assigns one of the
group's own slots by a value of known type, or any slot by a value of any type.
-/

namespace StyleChain

/-- One assignment within the configuration of the group `g`. -/
inductive Call (g : Group) where
  /-- Assigns one of the group's slots. -/
  | assign (a : Assignment) (own : a.slot.group = g)
  /-- Gives any slot a value of any type; a slot of another group is passed over. -/
  | set (slot : Slot) (v : Loose)

/-- One step in the configuration of a builder. -/
inductive Step where
  /-- Asks for an order of the groups. -/
  | withOrder (o : GroupOrder)
  /-- Configures a group by calls in order. -/
  | configure (g : Group) (calls : List (Call g))
  /-- Gives a slot a value of any type. -/
  | set (slot : Slot) (v : Loose)

/-- Does one assignment. -/
def Scope.perform {g : Group} (s : Scope g) : Call g → Scope g
  | .assign a own => s.assign a own
  | .set slot v => s.set slot v

/-- Does several assignments in order. -/
def Scope.performAll {g : Group} (s : Scope g) (calls : List (Call g)) : Scope g :=
  calls.foldl perform s

namespace Builder

/-- Takes one step. -/
def step (b : Builder) : Step → Builder
  | .withOrder o => b.withOrder o
  | .configure g calls => b.configure g fun s => s.performAll calls
  | .set slot v => b.set slot v

/-- The builder after a run. -/
def run (steps : List Step) : Builder := steps.foldl step empty

@[simp] theorem run_nil : run [] = empty := rfl

@[simp] theorem run_concat (steps : List Step) (t : Step) :
    run (steps ++ [t]) = (run steps).step t := by
  simp [run]

end Builder

end StyleChain
