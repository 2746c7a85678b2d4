import StyleChain.Text.Record

/-!
# Interaction sources

An interaction source is a log that many places may share: whoever holds the source emits into
the same log and reads the same log. The source itself is a token, and `Sources` holds the logs.
Its two operations are pinned down by what they do to each log: creating makes an empty one and
changes no other, emitting appends to one and changes no other.
-/

namespace StyleChain

/-- What can happen to a box that takes part in interaction. -/
inductive Interaction where
  | press
  | release
  | focus
  | unfocus
  | hoverEnter
  | hoverExit
deriving DecidableEq, Repr

namespace Interaction

/-- Every interaction. -/
def all : List Interaction := [press, release, focus, unfocus, hoverEnter, hoverExit]

/-- Diagnostic text. -/
def describe : Interaction → String
  | press => "Press"
  | release => "Release"
  | focus => "Focus"
  | unfocus => "Unfocus"
  | hoverEnter => "HoverEnter"
  | hoverExit => "HoverExit"

end Interaction

/-- A log of interactions, known by a token. -/
structure InteractionSource where
  /-- Tells this source from every other. -/
  token : Nat
deriving DecidableEq, Repr

/-- The logs of all interaction sources. -/
structure Sources where
  /-- The token of the next source. -/
  next : Nat
  /-- What was emitted into each source, oldest first. -/
  interactions : InteractionSource → List Interaction

namespace Sources

/-- No source has been created. -/
def empty : Sources := ⟨0, fun _ => []⟩

instance : Inhabited Sources := ⟨empty⟩

/-- A source that differs from all created before, with an empty log. -/
def create (s : Sources) : InteractionSource × Sources :=
  let source : InteractionSource := ⟨s.next⟩
  (source, ⟨s.next + 1, fun other => if other = source then [] else s.interactions other⟩)

/-- Appends an interaction to the log of a source. -/
def emit (s : Sources) (source : InteractionSource) (i : Interaction) : Sources :=
  { s with
    interactions := fun other =>
      if other = source then s.interactions other ++ [i] else s.interactions other }

@[simp] theorem interactions_create_self (s : Sources) :
    s.create.2.interactions s.create.1 = [] := by
  simp [create]

@[simp] theorem interactions_emit_self (s : Sources) (source : InteractionSource)
    (i : Interaction) :
    (s.emit source i).interactions source = s.interactions source ++ [i] := by
  simp [emit]

theorem interactions_emit_of_ne {s : Sources} {source other : InteractionSource}
    (h : other ≠ source) (i : Interaction) :
    (s.emit source i).interactions other = s.interactions other := by
  simp [emit, h]

/-- Diagnostic text of a source: how much was emitted into it, and nothing else. -/
def describe (s : Sources) (source : InteractionSource) : String :=
  Text.openRecord "InteractionSource"
    [("emitted", toString (s.interactions source).length)]

end Sources

end StyleChain
