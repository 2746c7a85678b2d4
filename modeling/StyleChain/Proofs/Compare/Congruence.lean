import Mathlib.Data.List.Forall2
import StyleChain.Proofs.Compare.ValueEquality

/-!
# What a comparison depends on

Comparing looks at the lengths of two chains and at one position after the other, so two comparisons
that find the same at every position give the same result. `map_mismatch?_congr` says so for results
that are the same up to a function of the mismatch, which covers a mismatch read backwards or in
outline as well as the mismatch itself.

A policy that compares a kind by kind alone does not look at what operations of that kind hold.
`Policy.Alike` relates operations that differ in nothing else, and exchanging operations for such
ones on both sides leaves the whole result as it is: verdict, position, kinds and the operations
reported. No weaker relation has this property, since operations that are not alike are told apart
by comparing each with a third (`alike_of_forall_mismatch?_eq`). Under the default policy the alike
operations are those that were given another handler (`Op.Rehandled`, `Policy.alike_standard_iff`),
so handlers never show in a comparison (`mismatch?_eq_of_alike_and_equivalent_eq_of_rehandled`).
-/

namespace StyleChain

/-! ### The search, position by position -/

namespace Chain

variable {ρ : Type} {p : Policy} {a a' b b' : Chain} {u v : Mismatch → ρ}

/-- Two pairs of operations differ in the same way, read by `u` in the first pair and by `v` in the
second, wherever they stand. -/
def SameMismatch (p : Policy) (u v : Mismatch → ρ) (lr lr' : Op × Op) : Prop :=
  ∀ i, (p.mismatchAt? i lr.1 lr.2).map u = (p.mismatchAt? i lr'.1 lr'.2).map v

/-- Two searches with the same finds end with the same find. -/
private theorem findSome?_mismatchAt?_congr {lrs lrs' : List (Op × Op)}
    (h : List.Forall₂ (SameMismatch p u v) lrs lrs') (k : Nat) :
    ((lrs.zipIdx k).findSome? fun ((l, r), i) => p.mismatchAt? i l r).map u =
      ((lrs'.zipIdx k).findSome? fun ((l, r), i) => p.mismatchAt? i l r).map v := by
  induction h generalizing k with
  | nil => rfl
  | @cons lr lr' lrs lrs' hat _ ih =>
    simp only [List.zipIdx_cons, List.findSome?_cons]
    -- both searches go on past the first pair or both end there
    have hk := hat k
    cases hm : p.mismatchAt? k lr.1 lr.2 with
    | some m =>
      obtain ⟨m', hm', hread⟩ : ∃ m', p.mismatchAt? k lr'.1 lr'.2 = some m' ∧ v m' = u m := by
        rw [hm, Option.map_some] at hk
        exact Option.map_eq_some_iff.1 hk.symm
      simp only [hm', Option.map_some, hread]
    | none =>
      rw [hm, Option.map_none, eq_comm, Option.map_eq_none_iff] at hk
      simpa only [hk] using ih (k + 1)

/-- Two comparisons give the same if they do so for the lengths and at every position. -/
theorem map_mismatch?_congr (hsize : a.size = b.size ↔ a'.size = b'.size)
    (hlength : u (.length a.size b.size) = v (.length a'.size b'.size))
    (hat : List.Forall₂ (SameMismatch p u v) (a.ops.zip b.ops) (a'.ops.zip b'.ops)) :
    (mismatch? p a b).map u = (mismatch? p a' b').map v := by
  by_cases h : a.size = b.size
  · rw [mismatch?, mismatch?, if_neg (not_not_intro h), if_neg (not_not_intro (hsize.1 h))]
    exact findSome?_mismatchAt?_congr hat 0
  · rw [mismatch?_of_size_ne h, mismatch?_of_size_ne (mt hsize.2 h)]
    exact congrArg some hlength

/-- Related lists are related pairwise when zipped. -/
private theorem forall₂_zip_of_forall₂ {R S : Op → Op → Prop} {ls ls' rs rs' : List Op}
    (hl : List.Forall₂ R ls ls') (hr : List.Forall₂ S rs rs') :
    List.Forall₂ (fun lr lr' => R lr.1 lr'.1 ∧ S lr.2 lr'.2) (ls.zip rs) (ls'.zip rs') := by
  induction hl generalizing rs rs' with
  | nil => exact .nil
  | cons hhead _ ih =>
    cases hr with
    | nil => exact .nil
    | cons hhead' hr => exact .cons ⟨hhead, hhead'⟩ (ih hr)

/-- Exchanging the operations of both chains for related ones gives the same result if exchanging
one pair does. -/
theorem map_mismatch?_eq_of_forall₂ {R S : Op → Op → Prop} (ha : List.Forall₂ R a.ops a'.ops)
    (hb : List.Forall₂ S b.ops b'.ops)
    (hat : ∀ l r l' r', R l l' → S r r' → SameMismatch p u u (l, r) (l', r')) :
    (mismatch? p a b).map u = (mismatch? p a' b').map u := by
  have hsize : a.size = a'.size := ha.length_eq
  have hsize' : b.size = b'.size := hb.length_eq
  refine map_mismatch?_congr (by rw [hsize, hsize']) (by rw [hsize, hsize']) ?_
  exact (forall₂_zip_of_forall₂ ha hb).imp fun lr lr' h => hat _ _ _ _ h.1 h.2

/-- Chains agree exactly when their operations are equal one by one. -/
theorem mismatch?_eq_none_iff_forall₂ :
    mismatch? p a b = none ↔ List.Forall₂ (fun l r => p.opsEqual l r) a.ops b.ops := by
  rw [mismatch?_eq_none_iff, List.forall₂_iff_get]
  refine and_congr_right fun hsize => forall_congr' fun i => ?_
  have hat (ha : i < a.ops.length) (hb : i < b.ops.length) :
      p.PassesAt a b i ↔ p.opsEqual (a.ops.get ⟨i, ha⟩) (b.ops.get ⟨i, hb⟩) := by
    rw [Policy.passesAt_iff_mismatchAt? (List.getElem?_eq_getElem ha)
      (List.getElem?_eq_getElem hb), Policy.mismatchAt?_eq_none_iff]
    rfl
  exact ⟨fun h ha hb => (hat ha hb).1 (h ha),
    fun h ha => (hat ha (lt_of_lt_of_eq ha hsize)).2 (h ha _)⟩

end Chain

/-! ### Operations that a policy does not tell apart -/

namespace Policy

variable {p : Policy} {l l' r r' : Op}

/-- Two operations are of one kind and, unless the policy compares it by kind alone, the same. -/
def Alike (p : Policy) (l l' : Op) : Prop :=
  l.kind = l'.kind ∧ (p.equality l.kind = .value → l = l')

/-- Operations that are alike give the same mismatch, since those that are compared by value, and so
can be reported, are the same. -/
theorem mismatchAt?_eq_of_alike (hl : p.Alike l l') (hr : p.Alike r r') (i : Nat) :
    p.mismatchAt? i l r = p.mismatchAt? i l' r' := by
  obtain ⟨hkl, hvl⟩ := hl
  obtain ⟨hkr, hvr⟩ := hr
  by_cases hk : l.kind = r.kind
  · cases he : p.equality l.kind with
    | value => rw [hvl he, hvr (hk ▸ he)]
    | kindOnly =>
      have hpass : p.mismatchAt? i l r = none :=
        mismatchAt?_eq_none_iff.2 (opsEqual_iff.2 ⟨hk, .inl he⟩)
      have hpass' : p.mismatchAt? i l' r' = none :=
        mismatchAt?_eq_none_iff.2
          (opsEqual_iff.2 ⟨hkl.symm.trans (hk.trans hkr), .inl (hkl ▸ he)⟩)
      rw [hpass, hpass']
  · have hk' : l'.kind ≠ r'.kind := by rwa [← hkl, ← hkr]
    rw [mismatchAt?, mismatchAt?, if_pos hk, if_pos hk', hkl, hkr]

end Policy

/-- The second operation is the first one, or the first one with another handler; a pointer handler
may have been moved to another type of event and another pass as well. -/
inductive Op.Rehandled : Op → Op → Prop where
  /-- Nothing is changed. -/
  | same (op : Op) : Rehandled op op
  /-- Clicks are answered by another handler. -/
  | clickable (h h' : ClickHandler) : Rehandled (.clickable h) (.clickable h')
  /-- Key events are answered by another handler. -/
  | keyEvent (h h' : KeyHandler) : Rehandled (.keyEvent h) (.keyEvent h')
  /-- Other pointer events are answered, in another pass or by another handler. -/
  | pointerInput (t t' : PointerEventType) (s s' : PointerEventPass) (h h' : PointerHandler) :
    Rehandled (.pointerInput t s h) (.pointerInput t' s' h')

/-- The default policy does not tell operations apart exactly when they differ in handlers only. -/
theorem Policy.alike_standard_iff {l l' : Op} : standard.Alike l l' ↔ l.Rehandled l' := by
  constructor
  · rintro ⟨hk, hv⟩
    cases l with
    | clickable h =>
      cases l' with
      | clickable h' => exact .clickable h h'
      | _ => cases hk
    | keyEvent h =>
      cases l' with
      | keyEvent h' => exact .keyEvent h h'
      | _ => cases hk
    | pointerInput t s h =>
      cases l' with
      | pointerInput t' s' h' => exact .pointerInput t t' s s' h h'
      | _ => cases hk
    | _ =>
      -- all other kinds are compared by value
      obtain rfl := hv rfl
      exact .same _
  · rintro (_ | _ | _ | _)
    · exact ⟨rfl, fun _ => rfl⟩
    all_goals exact ⟨rfl, nofun⟩

/-! ### Chains -/

namespace Chain

variable {p : Policy} {a a' b b' : Chain}

/-- Exchanging operations for alike ones changes nothing in the result. -/
theorem mismatch?_eq_of_alike (ha : List.Forall₂ p.Alike a.ops a'.ops)
    (hb : List.Forall₂ p.Alike b.ops b'.ops) : mismatch? p a b = mismatch? p a' b' := by
  simpa only [Option.map_id, id_eq] using
    map_mismatch?_eq_of_forall₂ (u := id) ha hb fun _ _ _ _ hl hr i =>
      congrArg (Option.map id) (Policy.mismatchAt?_eq_of_alike hl hr i)

/-- Exchanging handlers changes nothing in the result under the default policy. -/
theorem mismatch?_standard_eq_of_rehandled (ha : List.Forall₂ Op.Rehandled a.ops a'.ops)
    (hb : List.Forall₂ Op.Rehandled b.ops b'.ops) :
    mismatch? .standard a b = mismatch? .standard a' b' :=
  mismatch?_eq_of_alike (ha.imp fun _ _ => Policy.alike_standard_iff.2)
    (hb.imp fun _ _ => Policy.alike_standard_iff.2)

/-- Comparing two operations is comparing the chains that hold nothing else. -/
theorem mismatch?_singleton (p : Policy) (l r : Op) :
    mismatch? p (ofList [l]) (ofList [r]) = p.mismatchAt? 0 l r := by
  cases h : p.mismatchAt? 0 l r <;> simp [mismatch?, size_eq, h]

/-- Operations that compare in the same way with every third are alike. -/
theorem alike_of_forall_mismatch?_eq {l l' : Op}
    (h : ∀ r, mismatch? p (ofList [l]) (ofList [r]) = mismatch? p (ofList [l']) (ofList [r])) :
    p.Alike l l' := by
  simp only [mismatch?_singleton] at h
  refine ⟨by_contra fun hne => ?_, fun hvalue => ?_⟩
  · -- against `l'` the first of them is reported for its kind, the second cannot be
    have hkind : p.mismatchAt? 0 l l' = some (.kind 0 l.kind l'.kind) :=
      Policy.mismatchAt?_eq_kind_iff.2 ⟨rfl, rfl, rfl, hne⟩
    rw [h l'] at hkind
    exact hne (Policy.mismatchAt?_eq_kind_iff.1 hkind).2.1.symm
  · -- against an operation that `l` differs from, both are reported themselves
    obtain ⟨r, hkr, hdiffer⟩ := l.exists_valueEq_eq_false
    have hpayload : p.mismatchAt? 0 l r = some (.payload 0 l r) :=
      Policy.mismatchAt?_eq_payload_iff.2 ⟨rfl, rfl, rfl, hkr.symm, hvalue, hdiffer⟩
    rw [h r] at hpayload
    exact (Policy.mismatchAt?_eq_payload_iff.1 hpayload).2.1.symm

/-- **What is compared by kind alone does not interfere.** Two comparisons under one policy give the
same result, whatever it is and all it reports included, if the chains on the left and those on the
right have the same kinds and differ only in operations that the policy compares by kind; only such
operations can be exchanged without a comparison that tells. Under the default policy they may be
any operations with handlers, so which handler there is, and for which pointer events in which pass,
has no influence on the result or on being equivalent. -/
theorem mismatch?_eq_of_alike_and_equivalent_eq_of_rehandled (a a' b b' : Chain) :
    (∀ p : Policy, List.Forall₂ p.Alike a.ops a'.ops → List.Forall₂ p.Alike b.ops b'.ops →
      mismatch? p a b = mismatch? p a' b') ∧
    (∀ (p : Policy) (l l' : Op),
      (∀ r, mismatch? p (ofList [l]) (ofList [r]) = mismatch? p (ofList [l']) (ofList [r])) →
        p.Alike l l') ∧
    (List.Forall₂ Op.Rehandled a.ops a'.ops → List.Forall₂ Op.Rehandled b.ops b'.ops →
      mismatch? .standard a b = mismatch? .standard a' b' ∧ a.equivalent b = a'.equivalent b') := by
  refine ⟨fun p ha hb => mismatch?_eq_of_alike ha hb,
    fun p l l' h => alike_of_forall_mismatch?_eq h, fun ha hb => ?_⟩
  have hresult := mismatch?_standard_eq_of_rehandled ha hb
  exact ⟨hresult, congrArg Option.isNone hresult⟩

/-- Neither the widths, where the policy compares widths by kind, nor the handlers show in what is
reported of the heights, and pointer handlers are told from key handlers by their kind alone. -/
theorem height_mismatch_independent_of_width_and_handler :
    mismatch? (Policy.standard.set .width .kindOnly)
        (ofList [.width .zero, .clickable ⟨0⟩, .height .zero])
        (ofList [.width .zero, .clickable ⟨0⟩, .height ⟨.nan .double⟩]) =
      mismatch? (Policy.standard.set .width .kindOnly)
        (ofList [.width ⟨.nan .double⟩, .clickable ⟨1⟩, .height .zero])
        (ofList [.width .zero, .clickable ⟨2⟩, .height ⟨.nan .double⟩]) ∧
    mismatch? (Policy.standard.set .width .kindOnly)
        (ofList [.width .zero, .clickable ⟨0⟩, .height .zero])
        (ofList [.width .zero, .clickable ⟨0⟩, .height ⟨.nan .double⟩]) =
      some (.payload 2 (.height .zero) (.height ⟨.nan .double⟩)) ∧
    mismatch? .standard (ofList [.pointerInput .press .main ⟨0⟩]) (ofList [.keyEvent ⟨0⟩]) =
      mismatch? .standard (ofList [.pointerInput .move .final ⟨7⟩]) (ofList [.keyEvent ⟨5⟩]) :=
  ⟨(mismatch?_eq_of_alike_and_equivalent_eq_of_rehandled _ _ _ _).1 _
      (.cons ⟨rfl, by decide⟩ (.cons ⟨rfl, by decide⟩ (.cons ⟨rfl, fun _ => rfl⟩ .nil)))
      (.cons ⟨rfl, fun _ => rfl⟩ (.cons ⟨rfl, by decide⟩ (.cons ⟨rfl, fun _ => rfl⟩ .nil))),
    by decide,
    ((mismatch?_eq_of_alike_and_equivalent_eq_of_rehandled _ _ _ _).2.2
      (.cons (.pointerInput _ _ _ _ _ _) .nil) (.cons (.keyEvent _ _) .nil)).1⟩

end Chain

end StyleChain
