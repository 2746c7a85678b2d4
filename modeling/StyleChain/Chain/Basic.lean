import StyleChain.Op.Basic

/-!
# Chains of operations

A chain is a list of operations, outermost first. It grows at its inner end, one operation at a
time with `push` or by a whole chain with `append`, and can be folded from either end.
-/

namespace StyleChain

/-- Operations on a box, from the outermost to the innermost. -/
@[ext]
structure Chain where
  /-- The operations in order. -/
  ops : List Op
deriving DecidableEq, Repr

namespace Chain

/-- No operations. -/
def empty : Chain := ⟨[]⟩

instance : Inhabited Chain := ⟨empty⟩

/-- The chain of the given operations. -/
def ofList (ops : List Op) : Chain := ⟨ops⟩

/-- How many operations there are. -/
def size (c : Chain) : Nat := c.ops.length

/-- Whether there are no operations. -/
def isEmpty (c : Chain) : Bool := c.ops.isEmpty

/-- Adds an operation at the inner end. -/
def push (c : Chain) (op : Op) : Chain := ⟨c.ops ++ [op]⟩

/-- Adds the operations of another chain at the inner end. Where one of the chains has no
operations, the other is taken as it is. -/
def append (c d : Chain) : Chain :=
  if d.isEmpty then c
  else if c.isEmpty then d
  else ⟨c.ops ++ d.ops⟩

instance : Append Chain := ⟨append⟩

/-- The outermost `n` operations. -/
def take (c : Chain) (n : Nat) : Chain := ⟨c.ops.take n⟩

/-- The innermost operation. -/
def last? (c : Chain) : Option Op := c.ops.getLast?

/-- The kinds of the operations in order. -/
def kinds (c : Chain) : List Kind := c.ops.map Op.kind

/-- Folds from the outermost operation inwards. -/
def foldIn {ρ : Type} (c : Chain) (init : ρ) (f : ρ → Op → ρ) : ρ := c.ops.foldl f init

/-- Folds from the innermost operation outwards. -/
def foldOut {ρ : Type} (c : Chain) (init : ρ) (f : ρ → Op → ρ) : ρ :=
  c.ops.foldr (fun op acc => f acc op) init

/-! ### The operations after each step -/

@[simp] theorem ops_empty : empty.ops = [] := rfl

@[simp] theorem ops_ofList (ops : List Op) : (ofList ops).ops = ops := rfl

@[simp] theorem ops_push (c : Chain) (op : Op) : (c.push op).ops = c.ops ++ [op] := rfl

/-- A chain taken as it is is what adding nothing would have made of it. -/
@[simp] theorem ops_append (c d : Chain) : (c ++ d).ops = c.ops ++ d.ops := by
  change (append c d).ops = c.ops ++ d.ops
  unfold append
  split
  · next hd =>
    have hnil : d.ops = [] := List.isEmpty_iff.1 hd
    rw [hnil, List.append_nil]
  · split
    · next hc =>
      have hnil : c.ops = [] := List.isEmpty_iff.1 hc
      rw [hnil, List.nil_append]
    · rfl

theorem size_eq (c : Chain) : c.size = c.ops.length := rfl

@[simp] theorem size_push (c : Chain) (op : Op) : (c.push op).size = c.size + 1 :=
  List.length_append

@[simp] theorem size_append (c d : Chain) : (c ++ d).size = c.size + d.size := by
  rw [size_eq, ops_append, List.length_append, size_eq, size_eq]

/-- Folding outwards is folding inwards over the operations in reverse. -/
theorem foldOut_eq_foldl_reverse {ρ : Type} (c : Chain) (init : ρ) (f : ρ → Op → ρ) :
    c.foldOut init f = c.ops.reverse.foldl f init := by
  simp [foldOut]

/-- Pushing operations one by one is appending their chain. -/
theorem foldl_push (c : Chain) (ops : List Op) : ops.foldl push c = c ++ ofList ops := by
  induction ops generalizing c with
  | nil => ext1; simp
  | cons op ops ih => rw [List.foldl_cons, ih]; ext1; simp

/-- Diagnostic text of the operations alone. -/
def describeOps (sources : Sources) (c : Chain) : String :=
  Text.list (c.ops.map (Op.describe sources))

/-- Diagnostic text. -/
def describe (sources : Sources) (c : Chain) : String :=
  Text.record "Modifier" [("ops", c.describeOps sources)]

end Chain

end StyleChain
