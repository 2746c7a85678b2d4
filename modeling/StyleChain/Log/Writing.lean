import StyleChain.Log.Entry

/-!
# Writing the log

The steps of a builder once more, taken in the presence of a log to which they write as they go.
Here entries have a place and a moment: an assignment writes before it changes the scope, a foreign
slot is noticed where slots are told apart, and building writes the order first.

What is left of a step without the log is the step itself, and what it writes are its `entries`.
-/

namespace StyleChain

/-- A computation that may write to the log. -/
abbrev Logged := StateM (List LogEntry)

/-- Writes an entry behind all others. -/
def write (e : LogEntry) : Logged Unit := modify (· ++ [e])

namespace Scope

variable {g : Group}

/-- Gives a slot a value, which is one of the group's own wherever a step does so. -/
def assignLogged (s : Scope g) (a : Assignment) : Logged (Scope g) := do
  let deltas ← match a.op? with
    | some op => do
      write (.appending a.slot op.kind)
      pure (s.deltas ++ [⟨a.slot, op⟩])
    | none => do
      write (.ignoring a)
      pure s.deltas
  return ⟨fun slot => if slot = a.slot then some a else s.values slot, deltas⟩

/-- Passes over a slot of another group. -/
def passOver (s : Scope g) (slot : Slot) : Logged (Scope g) := do
  write (.foreign g slot)
  return s

/-- Assigns what was read from a value, or else ignores the value. -/
def assignRead (s : Scope g) {α : Type} (slot : Slot) (v : Loose) (read : Option α)
    (f : α → Assignment) : Logged (Scope g) :=
  match read with
  | some x => s.assignLogged (f x)
  | none => s.assignLogged (.unusable slot v)

/-- Gives a slot a value of any type; a foreign slot is passed over. -/
def setLogged : {g : Group} → Scope g → Slot → Loose → Logged (Scope g)
  | .size, s, slot, v =>
    match slot with
    | .width => s.assignRead .width v v.distance? .width
    | .height => s.assignRead .height v v.distance? .height
    | .fillMaxWidth => s.assignRead .fillMaxWidth v v.fraction? .fillMaxWidth
    | .fillMaxHeight => s.assignRead .fillMaxHeight v v.fraction? .fillMaxHeight
    | .fillMaxSize => s.assignRead .fillMaxSize v v.fraction? .fillMaxSize
    | .wrapContentSize => s.assignLogged (.wrapContentSize (.ofLoose v))
    | .size => s.assignLogged (.size (.ofLoose v))
    | slot => s.passOver slot
  | .appearance, s, slot, v =>
    match slot with
    | .padding => s.assignLogged (.padding (.ofLoose v))
    | .background => s.assignLogged (.background (.ofLoose v))
    | .border => s.assignLogged (.border (.ofLoose v))
    | slot => s.passOver slot
  | .interaction, s, slot, v =>
    match slot with
    | .focusable => s.assignLogged (.focusable (.ofLoose v))
    | .onClick => s.assignRead .onClick v (v.read? .clickHandler) .onClick
    | .onKeyEvent => s.assignRead .onKeyEvent v (v.read? .keyHandler) .onKeyEvent
    | .onPointerEvent => s.assignLogged (.onPointerEvent (.ofLoose v))
    | slot => s.passOver slot

/-- Does one assignment. -/
def performLogged (s : Scope g) : Call g → Logged (Scope g)
  | .assign a _ => s.assignLogged a
  | .set slot v => s.setLogged slot v

/-- Does several assignments in order. -/
def performAllLogged (s : Scope g) (calls : List (Call g)) : Logged (Scope g) :=
  calls.foldlM performLogged s

end Scope

namespace Builder

/-- Opens a group and configures it. -/
def configureLogged (b : Builder) (g : Group) (f : Scope g → Logged (Scope g)) :
    Logged Builder := do
  let b := b.openGroup g
  let after ← f (b.scope g)
  return b.withScope g after

/-- Gives a slot a value of any type, and opens its group if that contributes an operation. -/
def setLogged (b : Builder) (slot : Slot) (v : Loose) : Logged Builder := do
  let before := b.scope slot.group
  let after ← before.setLogged slot v
  let b := b.withScope slot.group after
  return if before.deltas.length < after.deltas.length then b.openGroup slot.group else b

/-- Takes one step. -/
def stepLogged (b : Builder) : Step → Logged Builder
  | .withOrder o => return b.withOrder o
  | .configure g calls => b.configureLogged g fun s => s.performAllLogged calls
  | .set slot v => b.setLogged slot v

/-- Takes the steps of a run. -/
def runLogged (steps : List Step) : Logged Builder := steps.foldlM stepLogged empty

/-- Puts the contributions of all groups behind the operations of a chain. -/
def buildOnLogged (b : Builder) (base : Chain) : Logged Chain := do
  let order := b.order
  write (.building order)
  return order.foldl (fun chain g => (b.scope g).foldOnto chain) base

end Builder

end StyleChain
