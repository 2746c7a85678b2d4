import StyleChain.Chain.Basic

/-!
# The algebra of chains

A chain can be collected from a list, or be grown by pushing operations and appending chains. Only
`push` takes the operations one by one; `append` hands back one of its sides where the other has
no operations, and otherwise joins them at once. None of this can be told from the result:
appending is pushing the operations of the inner chain in order (`append_eq_foldl_push`),
collecting is pushing them onto nothing (`ofList_eq_foldl_push`), and chains are a monoid under
appending.

Both folds split where a chain was appended. Folding inwards goes through the outer part and on
through the inner one, folding outwards comes back the other way (`foldIn_append`,
`foldOut_append`). The step of a fold is a function; one that keeps a memory of its own is the
case where the memory is part of the result.
-/

namespace StyleChain.Chain

variable {ρ : Type}

/-! ### Growing -/

@[simp] theorem append_empty (c : Chain) : c ++ empty = c := rfl

@[simp] theorem empty_append (c : Chain) : empty ++ c = c := by
  ext1
  rw [ops_append, ops_empty, List.nil_append]

theorem append_assoc (a b c : Chain) : a ++ b ++ c = a ++ (b ++ c) := by
  ext1
  simp only [ops_append, List.append_assoc]

/-- Pushing an operation is appending the chain that holds nothing else. -/
theorem push_eq_append (c : Chain) (op : Op) : c.push op = c ++ ofList [op] := by
  ext1
  rw [ops_push, ops_append, ops_ofList]

/-- Appending a chain is pushing its operations one by one. -/
theorem append_eq_foldl_push (c d : Chain) : c ++ d = d.ops.foldl push c :=
  (foldl_push c d.ops).symm

/-- Collecting operations is pushing them one by one onto nothing. -/
theorem ofList_eq_foldl_push (ops : List Op) : ofList ops = ops.foldl push empty := by
  rw [foldl_push, empty_append]

/-! ### Folding -/

/-- Folding inwards goes through the outer part first. -/
theorem foldIn_append (c d : Chain) (init : ρ) (f : ρ → Op → ρ) :
    (c ++ d).foldIn init f = d.foldIn (c.foldIn init f) f := by
  rw [foldIn, foldIn, foldIn, ops_append, List.foldl_append]

/-- Folding outwards goes through the inner part first. -/
theorem foldOut_append (c d : Chain) (init : ρ) (f : ρ → Op → ρ) :
    (c ++ d).foldOut init f = c.foldOut (d.foldOut init f) f := by
  rw [foldOut, foldOut, foldOut, ops_append, List.foldr_append]

/-- The innermost operation is the last that folding inwards comes to. -/
theorem foldIn_push (c : Chain) (op : Op) (init : ρ) (f : ρ → Op → ρ) :
    (c.push op).foldIn init f = f (c.foldIn init f) op := by
  rw [push_eq_append, foldIn_append]
  rfl

/-- The innermost operation is the first that folding outwards comes to. -/
theorem foldOut_push (c : Chain) (op : Op) (init : ρ) (f : ρ → Op → ρ) :
    (c.push op).foldOut init f = c.foldOut (f init op) f := by
  rw [push_eq_append, foldOut_append]
  rfl

/-- Folding outwards is folding inwards through the chain of the operations in reverse. -/
theorem foldOut_eq_foldIn_reverse (c : Chain) (init : ρ) (f : ρ → Op → ρ) :
    c.foldOut init f = (ofList c.ops.reverse).foldIn init f := by
  rw [foldOut_eq_foldl_reverse, foldIn, ops_ofList]

/-- **Ways of growing agree, and folds split where a chain was appended.** Appending a chain,
empty or not, to a chain, empty or not, is pushing its operations one by one; it is associative
and has the empty chain as its unit. Collecting operations is pushing them one by one onto nothing,
and the chain holds them and no others. Folding inwards comes to an operation that was pushed
last, and goes through an appended chain last; folding outwards comes to both first, and is folding
inwards through the chain of the operations in reverse. -/
theorem append_ofList_and_fold_laws (a b c : Chain) (ops : List Op) (init : ρ)
    (f : ρ → Op → ρ) :
    a ++ b = b.ops.foldl push a ∧
    a ++ b ++ c = a ++ (b ++ c) ∧ empty ++ a = a ∧ a ++ empty = a ∧
    ofList ops = ops.foldl push empty ∧ (ofList ops).ops = ops ∧
    (ofList ops).size = ops.length ∧
    (∀ op, (a.push op).foldIn init f = f (a.foldIn init f) op ∧
      (a.push op).foldOut init f = a.foldOut (f init op) f) ∧
    (a ++ b).foldIn init f = b.foldIn (a.foldIn init f) f ∧
    (a ++ b).foldOut init f = a.foldOut (b.foldOut init f) f ∧
    c.foldOut init f = (ofList c.ops.reverse).foldIn init f := by
  refine ⟨append_eq_foldl_push a b, append_assoc a b c, empty_append a, append_empty a,
    ofList_eq_foldl_push ops, ops_ofList ops, ?_, ?_, foldIn_append a b init f,
    foldOut_append a b init f, foldOut_eq_foldIn_reverse c init f⟩
  · rw [size_eq, ops_ofList]
  · intro op
    exact ⟨foldIn_push a op init f, foldOut_push a op init f⟩

/-- The kinds of two chains put together, read from the inside out. -/
example (d : Dp) (x : Binary32) :
    (ofList [.width d] ++ ofList [.height d, .fillMaxSize x]).foldOut []
      (fun kinds op => kinds ++ [op.kind]) = [.fillMaxSize, .height, .width] :=
  rfl

end StyleChain.Chain
