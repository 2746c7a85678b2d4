import StyleChain.Chain.Basic

/-!
# Calling the handlers of a chain

`Chain.dispatch` gives every handler of a chain its event, outermost first. It reports, at the
position of each operation that holds a handler, whether a key handler used its event up, and
collects the effects of all of them in the order in which they were called.
-/

namespace StyleChain

variable {κ π ε : Type}

/-- What the handler of an operation answers to its event, and with what effects; nothing for an
operation without a handler. Only key handlers say whether the event was used up. -/
def Op.respond? (b : Behaviour κ π ε) (keyEvent : κ) (pointerEvent : π) :
    Op → Option (Option Bool × List ε)
  | .clickable h => some (none, b.click h)
  | .keyEvent h => some ((b.key h keyEvent).map some id)
  | .pointerInput _ _ h => some (none, b.pointer h pointerEvent)
  | _ => none

/-- The answers of all handlers with their positions, and the effects of all calls. -/
def Chain.dispatch (c : Chain) (b : Behaviour κ π ε) (keyEvent : κ) (pointerEvent : π) :
    List (Nat × Option Bool) × List ε :=
  let responses := c.ops.zipIdx.filterMap fun (op, i) =>
    (op.respond? b keyEvent pointerEvent).map fun (answer, effects) => (i, answer, effects)
  (responses.map fun (i, answer, _) => (i, answer),
    responses.flatMap fun (_, _, effects) => effects)

end StyleChain
