import Mathlib.Data.List.Basic

/-!
# Linked lists in memory

The nodes of a list that are reached from its head one after another, given the successor that
each node has stored. Changing the successor of a node elsewhere leaves the list as it is.
-/

namespace Linked

variable {ν : Type*}

/-- Each node of the list has the one after it as its successor, and the last has none. -/
def Chain (next : ν → Option ν) : List ν → Prop
  | [] => True
  | node :: rest => next node = rest.head? ∧ Chain next rest

variable {next after : ν → Option ν}

/-- A list keeps its links if its nodes keep their successors. -/
theorem Chain.congr {list : List ν} (chain : Chain next list)
    (same : ∀ node ∈ list, after node = next node) : Chain after list := by
  induction list with
  | nil => trivial
  | cons node rest ih =>
    refine ⟨?_, ih chain.2 fun other inside => same other (List.mem_cons_of_mem _ inside)⟩
    rw [same node (List.mem_cons_self ..)]
    exact chain.1

/-- A successor may be stored in a node outside of the list. -/
theorem Chain.update [DecidableEq ν] {list : List ν} {node : ν} (chain : Chain next list)
    (outside : node ∉ list) (successor : Option ν) :
    Chain (Function.update next node successor) list := by
  refine chain.congr fun other inside => Function.update_of_ne ?_ ..
  rintro rfl
  exact outside inside

/-- A node whose successor is the head of a list is the head of a longer one. -/
theorem Chain.push {list : List ν} {node : ν} (chain : Chain next list)
    (links : next node = list.head?) : Chain next (node :: list) := ⟨links, chain⟩

end Linked
