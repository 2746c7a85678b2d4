import Mathlib.Data.List.Nodup
import Mathlib.Data.List.Permutation
import Mathlib.Data.List.ProdSigma
import StyleChain.Log.Entry

/-!
# Reading the log

An entry becomes a line of text, and what the line tells has to be found again in the text. Two
sorts of lines are read here: those that name a slot and the kind of operation that it contributed
(`LogLine.contribution?`), and those that name the groups in the order in which they were put
together (`LogLine.order?`). Both readers know what such a line looks like, and look for the names
with which it looks like this.

They find what the entry said (`LogLine.contribution?_render`, `LogLine.order?_render`), because no
two entries are read alike: less important entries begin with another letter, the two sorts come
from different parts of the system, and a slot's name contains no colon, so it ends where the first
one stands.
-/

namespace StyleChain

/-! ### What entries and lines tell -/

namespace LogEntry

/-- The slot and the kind of operation that an entry says was appended, if it says so. -/
def contribution? : LogEntry → Option (Slot × Kind)
  | appending slot kind => some (slot, kind)
  | _ => none

/-- The order that an entry says groups were put together in. -/
def order? : LogEntry → Option (List Group)
  | building kinds => some kinds
  | _ => none

/-- What the entries of a log say was appended by the slots of a group. -/
def contributionsTo (g : Group) (log : List LogEntry) : List (Slot × Kind) :=
  (log.filterMap contribution?).filter (·.1.group = g)

theorem contributionsTo_append (g : Group) (log more : List LogEntry) :
    contributionsTo g (log ++ more) = contributionsTo g log ++ contributionsTo g more := by
  simp [contributionsTo]

end LogEntry

namespace LogLine

/-- The slot and the kind of operation that a line says was appended, if it says so. -/
def contribution? (line : String) : Option (Slot × Kind) :=
  (Slot.all ×ˢ Kind.all).find? fun (slot, kind) =>
    line = "TRACE understory_modifier_builder::group: " ++ slot.name ++ ": appending " ++ kind.name

/-- The order that a line says the groups were put together in, if it says so. -/
def order? (line : String) : Option (List Group) :=
  Group.all.permutations'.find? fun kinds =>
    line = "TRACE understory_modifier_builder::builder: building modifier groups in order " ++
      " -> ".intercalate (kinds.map Group.name)

/-- What the lines of a log say was appended by the slots of a group. -/
def contributionsTo (g : Group) (lines : List String) : List (Slot × Kind) :=
  (lines.filterMap contribution?).filter (·.1.group = g)

/-- The kinds of the operations that were put together last, as the lines of a log tell them. -/
def builtKinds (lines : List String) : List Kind :=
  match (lines.filterMap order?).getLast? with
  | some kinds => kinds.flatMap fun g => (contributionsTo g lines).map Prod.snd
  | none => []

end LogLine

/-! ### Names in a text -/

theorem Slot.name_injective {s t : Slot} (h : s.name = t.name) : s = t :=
  List.inj_on_of_nodup_map (show (Slot.all.map Slot.name).Nodup by decide) s.mem_all t.mem_all h

theorem Kind.name_injective {k l : Kind} (h : k.name = l.name) : k = l :=
  List.inj_on_of_nodup_map (show (Kind.all.map Kind.name).Nodup by decide) k.mem_all l.mem_all h

theorem Slot.colon_not_mem_name (s : Slot) : ':' ∉ s.name.toList := by
  cases s <;> decide

/-- What stands before the first of a letter can be told from what stands behind it. -/
theorem eq_and_eq_of_append_cons_eq {c : Char} {n m s t : List Char} (hn : c ∉ n) (hm : c ∉ m)
    (h : n ++ c :: s = m ++ c :: t) : n = m ∧ s = t := by
  induction n generalizing m with
  | nil =>
    cases m with
    | nil => exact ⟨rfl, (List.cons.inj h).2⟩
    | cons d m => exact absurd ((List.cons.inj h).1 ▸ List.mem_cons_self) hm
  | cons d n ih =>
    cases m with
    | nil => exact absurd ((List.cons.inj h).1 ▸ List.mem_cons_self) hn
    | cons e m =>
      obtain ⟨rfl, htail⟩ := List.cons.inj h
      obtain ⟨rfl, hs⟩ := ih (mt (List.mem_cons_of_mem _) hn) (mt (List.mem_cons_of_mem _) hm) htail
      exact ⟨rfl, hs⟩

/-- A line that says what a slot appended names that slot and that kind only. -/
theorem slot_eq_and_kind_eq_of_line_eq {s t : Slot} {k l : Kind}
    (h : "TRACE understory_modifier_builder::group: " ++ s.name ++ ": appending " ++ k.name =
      "TRACE understory_modifier_builder::group: " ++ t.name ++ ": appending " ++ l.name) :
    s = t ∧ k = l := by
  have hlist := congrArg String.toList h
  simp only [String.toList_append, List.append_assoc, List.append_cancel_left_eq] at hlist
  obtain ⟨hname, htail⟩ :=
    eq_and_eq_of_append_cons_eq s.colon_not_mem_name t.colon_not_mem_name hlist
  exact ⟨Slot.name_injective (String.toList_injective hname),
    Kind.name_injective (String.toList_injective (List.append_cancel_left htail))⟩

/-- Groups put together in different orders are shown differently. -/
theorem Group.displayAll_injOn {kinds kinds' : List Group} (h : kinds.Perm Group.all)
    (h' : kinds'.Perm Group.all) (heq : displayAll kinds = displayAll kinds') : kinds = kinds' := by
  have hall : ∀ kinds ∈ Group.all.permutations', ∀ kinds' ∈ Group.all.permutations',
      displayAll kinds = displayAll kinds' → kinds = kinds' := by decide
  exact hall _ (List.mem_permutations'.mpr h) _ (List.mem_permutations'.mpr h') heq

/-! ### Lines of entries -/

namespace LogEntry

variable (sources : Sources)

theorem render_appending (slot : Slot) (kind : Kind) :
    (appending slot kind).render sources =
      "TRACE understory_modifier_builder::group: " ++ slot.name ++ ": appending " ++
        kind.name := by
  have hhead : "TRACE" ++ " " ++ "understory_modifier_builder::group" ++ ": " =
    "TRACE understory_modifier_builder::group: " := by decide
  calc (appending slot kind).render sources
    _ = "TRACE" ++ " " ++ "understory_modifier_builder::group" ++ ": " ++
          (slot.name ++ ": appending " ++ kind.name) := rfl
    _ = "TRACE understory_modifier_builder::group: " ++
          (slot.name ++ ": appending " ++ kind.name) := congrArg (· ++ _) hhead
    _ = _ := by simp only [String.append_assoc]

theorem render_building (kinds : List Group) :
    (building kinds).render sources =
      "TRACE understory_modifier_builder::builder: building modifier groups in order " ++
        Group.displayAll kinds := by
  have hhead : "TRACE" ++ " " ++ "understory_modifier_builder::builder" ++ ": " ++
      "building modifier groups in order " =
    "TRACE understory_modifier_builder::builder: building modifier groups in order " := by decide
  calc (building kinds).render sources
    _ = "TRACE" ++ " " ++ "understory_modifier_builder::builder" ++ ": " ++
          ("building modifier groups in order " ++ Group.displayAll kinds) := rfl
    _ = "TRACE" ++ " " ++ "understory_modifier_builder::builder" ++ ": " ++
          "building modifier groups in order " ++ Group.displayAll kinds :=
        String.append_assoc.symm
    _ = _ := congrArg (· ++ _) hhead

/-- A less important entry begins with another letter. -/
theorem render_ne_of_level {e : LogEntry} (h : e.level = "DEBUG") {line : String}
    (hline : line.toList.head? = some 'T') : e.render sources ≠ line := by
  rintro rfl
  simp [render, h] at hline

/-- A line that names a contribution names no order. -/
theorem render_appending_ne_render_building (slot : Slot) (kind : Kind) (kinds : List Group) :
    (appending slot kind).render sources ≠ (building kinds).render sources := by
  intro h
  have hlist := congrArg String.toList h
  simp [render_appending, render_building] at hlist

end LogEntry

/-- The element of a list that a search looks for is found if there is no other. -/
private theorem find?_eq_some_of_forall_eq {α : Type} {p : α → Bool} {l : List α} {a : α}
    (ha : a ∈ l) (hp : p a) (h : ∀ b ∈ l, p b → b = a) : l.find? p = some a := by
  obtain ⟨b, hb⟩ := Option.isSome_iff_exists.mp (List.find?_isSome.mpr ⟨a, ha, hp⟩)
  rw [hb, h b (List.mem_of_find?_eq_some hb) (List.find?_some hb)]

namespace LogLine

variable (sources : Sources)

theorem contribution?_eq_none {line : String}
    (h : ∀ slot kind, (LogEntry.appending slot kind).render sources ≠ line) :
    contribution? line = none := by
  refine List.find?_eq_none.mpr fun (slot, kind) _ hline => h slot kind ?_
  rw [LogEntry.render_appending, of_decide_eq_true hline]

theorem order?_eq_none {line : String}
    (h : ∀ kinds, (LogEntry.building kinds).render sources ≠ line) : order? line = none := by
  refine List.find?_eq_none.mpr fun kinds _ hline => h kinds ?_
  rw [LogEntry.render_building, of_decide_eq_true hline, Group.displayAll]

/-- The line of an entry tells what the entry says was appended. -/
theorem contribution?_render (e : LogEntry) :
    contribution? (e.render sources) = e.contribution? := by
  have hdebug : ∀ {e : LogEntry}, e.level = "DEBUG" → contribution? (e.render sources) = none :=
    fun h => contribution?_eq_none sources fun slot kind =>
      (LogEntry.render_ne_of_level sources h (by simp [LogEntry.render_appending])).symm
  cases e with
  | appending slot kind =>
    refine find?_eq_some_of_forall_eq
      (List.pair_mem_product.mpr ⟨slot.mem_all, kind.mem_all⟩)
      (decide_eq_true (LogEntry.render_appending sources slot kind))
      fun (slot', kind') _ hline => ?_
    obtain ⟨rfl, rfl⟩ := slot_eq_and_kind_eq_of_line_eq
      ((LogEntry.render_appending sources slot kind).symm.trans (of_decide_eq_true hline))
    rfl
  | building kinds =>
    exact contribution?_eq_none sources fun slot kind =>
      LogEntry.render_appending_ne_render_building sources slot kind kinds
  | ignoring | foreign | notEquivalent => exact hdebug rfl

/-- The line of an entry tells the order that the entry says groups were put together in. -/
theorem order?_render {e : LogEntry} (h : ∀ kinds ∈ e.order?, kinds.Perm Group.all) :
    order? (e.render sources) = e.order? := by
  have hdebug : ∀ {e : LogEntry}, e.level = "DEBUG" → order? (e.render sources) = none :=
    fun h => order?_eq_none sources fun kinds =>
      (LogEntry.render_ne_of_level sources h (by simp [LogEntry.render_building])).symm
  cases e with
  | building kinds =>
    have hkinds : kinds.Perm Group.all := h kinds rfl
    refine find?_eq_some_of_forall_eq (List.mem_permutations'.mpr hkinds)
      (decide_eq_true (LogEntry.render_building sources kinds)) fun kinds' hmem hline => ?_
    have hshown := (LogEntry.render_building sources kinds).symm.trans (of_decide_eq_true hline)
    have hlist := congrArg String.toList hshown
    simp only [String.toList_append, List.append_cancel_left_eq] at hlist
    exact Group.displayAll_injOn (List.mem_permutations'.mp hmem) hkinds
      (String.toList_injective hlist).symm
  | appending slot kind =>
    exact order?_eq_none sources fun kinds =>
      (LogEntry.render_appending_ne_render_building sources slot kind kinds).symm
  | ignoring | foreign | notEquivalent => exact hdebug rfl

/-- The lines of a log tell what its entries tell. -/
theorem contributionsTo_map_render (g : Group) (log : List LogEntry) :
    contributionsTo g (log.map (·.render sources)) = LogEntry.contributionsTo g log := by
  have hread : (contribution? ∘ fun e => e.render sources) = LogEntry.contribution? :=
    funext (contribution?_render sources)
  rw [contributionsTo, List.filterMap_map, hread, LogEntry.contributionsTo]

end LogLine

end StyleChain
