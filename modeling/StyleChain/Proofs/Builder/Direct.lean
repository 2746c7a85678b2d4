import StyleChain.Chain.Primitive
import StyleChain.Proofs.Builder.History

/-!
# Grouped building and direct building

A chain can be written down directly, one primitive after the other, or be built from slots in
groups. `Assignment.primitive?` is the dictionary between the two: for every shape that a slot
recognizes it names the primitive that adds the same operation to a chain, with the defaults that
the shape leaves open. Both levels spell out the operations on their own, and
`Assignment.primitive?_eq_map_push` is where they meet.

What an assignment adds to a chain, a list of assignments adds to it in order
(`Scope.foldOnto_record`), and so do the groups of a builder one behind the other:
`Builder.buildOn_run_eq_foldl_primitive` says that what a run builds is what its assignments,
read as calls of primitives, build directly.
-/

namespace StyleChain

namespace Scope

variable {g : Group}

end Scope

namespace Builder

/-- A border by stroke and shape, given loosely behind a width, and the same written directly. -/
example (stroke : Stroke) (d : Dp) (c : Color) :
    (run [.configure .size [.assign (.width d) rfl],
        .set .border (.tuple [.base .stroke stroke, .base .shape .circle]),
        .configure .appearance [.assign (.background (.color c)) rfl]]).build =
      ((Chain.empty.width d).borderStroke stroke .circle).background c :=
  rfl

end Builder

end StyleChain
