import StyleChain.Builder.Run
import StyleChain.Compare.Mismatch

/-!
# The log

What a developer can watch: every assignment leaves one entry, which tells whether an operation
was contributed, the value was ignored or the slot was foreign; building leaves one with the order
used; and chains that turn out not to be equivalent leave one with the reason. Opening a group and
asking for an order leave none.

`entries` says what a step writes and depends on the step alone, so the log of a run is the
concatenation of the entries of its steps.
-/

namespace StyleChain

/-- One entry of the log. -/
inductive LogEntry where
  /-- An assignment contributed an operation of the given kind. -/
  | appending (slot : Slot) (kind : Kind)
  /-- The value of an assignment was recorded and nothing contributed. -/
  | ignoring (a : Assignment)
  /-- A group was given a slot of another group. -/
  | foreign (g : Group) (slot : Slot)
  /-- Groups are put together. -/
  | building (kinds : List Group)
  /-- Two chains are not equivalent. -/
  | notEquivalent (m : Mismatch)

namespace LogEntry

/-- How important an entry is. -/
def level : LogEntry → String
  | appending _ _ | building _ => "TRACE"
  | ignoring _ | foreign _ _ | notEquivalent _ => "DEBUG"

/-- The part of the system an entry comes from. -/
def origin : LogEntry → String
  | appending _ _ | ignoring _ | foreign _ _ => "understory_modifier_builder::group"
  | building _ => "understory_modifier_builder::builder"
  | notEquivalent _ => "understory_modifier::compare"

/-- What an entry says. -/
def message (sources : Sources) : LogEntry → String
  | appending slot kind => slot.name ++ ": appending " ++ kind.name
  | ignoring a => a.slot.name ++ ": ignoring unrecognized value " ++ a.describe sources
  | foreign g slot =>
    g.name ++ " group has no `" ++ slot.name ++ "` slot (it belongs to " ++ slot.group.name ++
      "); ignoring"
  | building kinds => "building modifier groups in order " ++ Group.displayAll kinds
  | notEquivalent m => "modifier chains not equivalent: " ++ m.message sources

/-- An entry as a line. -/
def render (sources : Sources) (e : LogEntry) : String :=
  e.level ++ " " ++ e.origin ++ ": " ++ e.message sources

end LogEntry

/-- What assigning one of a group's own slots writes. -/
def Assignment.entry (a : Assignment) : LogEntry :=
  match a.op? with
  | some op => .appending a.slot op.kind
  | none => .ignoring a

/-- What giving a slot a value of any type writes when the group `g` is told to. -/
def Group.entry (g : Group) (slot : Slot) (v : Loose) : LogEntry :=
  if slot.group = g then (v.assignment slot).entry else .foreign g slot

/-- What a call writes. -/
def Call.entry {g : Group} : Call g → LogEntry
  | .assign a _ => a.entry
  | .set slot v => g.entry slot v

/-- What a step writes. -/
def Step.entries : Step → List LogEntry
  | .withOrder _ => []
  | .configure _ calls => calls.map Call.entry
  | .set slot v => [slot.group.entry slot v]

/-- What building writes. -/
def Builder.entry (b : Builder) : LogEntry := .building b.order

/-- What asking whether two chains are equivalent writes. -/
def Chain.equivalenceEntries (a b : Chain) : List LogEntry :=
  ((mismatch? .standard a b).map .notEquivalent).toList

/-- Everything written during a run that ends in building. -/
def Builder.transcript (steps : List Step) : List LogEntry :=
  steps.flatMap Step.entries ++ [(run steps).entry]

end StyleChain
