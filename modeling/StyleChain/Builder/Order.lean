import StyleChain.Slot.Basic
import StyleChain.Text.Record

/-!
# Orders of groups

An order of the groups names each of them once, and `GroupOrder.of?` accepts exactly the lists that
do. `Group.openedFirst` puts given groups first and leaves the others in canonical order behind
them; of groups given without repetition it makes an order.
-/

namespace StyleChain

namespace Group

/-- The canonical order, overwritten place by place with the groups opened so far, in the order of
their opening, and the others behind them, in canonical order. What finds no place is left out. -/
def openedFirst (opened : List Group) : List Group :=
  let kinds := opened ++ all.filter (· ∉ opened)
  kinds.take all.length ++ all.drop kinds.length

/-- How groups in order are shown to a reader. -/
def displayAll (kinds : List Group) : String := " -> ".intercalate (kinds.map name)

end Group

/-- An order of the three groups. -/
@[ext]
structure GroupOrder where
  /-- The groups in order. -/
  kinds : List Group
  /-- Every group is named once. -/
  perm : kinds.Perm Group.all
deriving DecidableEq

namespace GroupOrder

/-- Size, appearance, interaction. -/
def canonical : GroupOrder := ⟨Group.all, .rfl⟩

instance : Inhabited GroupOrder := ⟨canonical⟩

/-- The order that a list of groups gives, if it names each of them once. -/
def of? (kinds : List Group) : Option GroupOrder :=
  if h : kinds.Perm Group.all then some ⟨kinds, h⟩ else none

/-- How an order is shown to a reader. -/
def display (o : GroupOrder) : String := Group.displayAll o.kinds

/-- Diagnostic text. -/
def describe (o : GroupOrder) : String :=
  Text.tuple "GroupOrder" [Text.list (o.kinds.map Group.describe)]

end GroupOrder

end StyleChain
