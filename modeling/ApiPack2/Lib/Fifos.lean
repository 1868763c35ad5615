import ApiPack2.Lib.Transition
import Mathlib.Logic.Function.Basic

/-!
# Families of queues

A bag of first-in first-out queues: an element is appended to one of them, or the first is taken
from one of them. Which queue an element is taken from is left open. A machine implements it if
the operations that its steps stand for are accepted, from what its state stands for.
-/

namespace Fifos

variable {κ α : Type*}

/-- An operation on one of the queues. -/
inductive Operation (κ α : Type*)
  /-- An element is appended to a queue. -/
  | append (queue : κ) (element : α)
  /-- The first element of a queue is taken. -/
  | take (queue : κ) (element : α)
  deriving DecidableEq, Repr

variable [DecidableEq κ]

/-- The operations lead from some contents of the queues to others. -/
def Accepts (queues : κ → List α) : List (Operation κ α) → (κ → List α) → Prop
  | [], last => queues = last
  | .append queue element :: operations, last =>
    Accepts (Function.update queues queue (queues queue ++ [element])) operations last
  | .take queue element :: operations, last =>
    ∃ others, queues queue = element :: others ∧
      Accepts (Function.update queues queue others) operations last

/-- The elements appended to a queue. -/
def appended (queue : κ) (operations : List (Operation κ α)) : List α :=
  operations.filterMap fun
    | .append other element => if other = queue then some element else none
    | .take _ _ => none

/-- The elements taken from a queue. -/
def taken (queue : κ) (operations : List (Operation κ α)) : List α :=
  operations.filterMap fun
    | .append _ _ => none
    | .take other element => if other = queue then some element else none

variable {queues middle last : κ → List α}

/-- Operations and those that lead on from there. -/
theorem Accepts.trans {first second : List (Operation κ α)} (leads : Accepts queues first middle)
    (on : Accepts middle second last) : Accepts queues (first ++ second) last := by
  induction first generalizing queues with
  | nil =>
    rw [show queues = middle from leads]
    exact on
  | cons operation first ih =>
    cases operation with
    | append queue element => exact ih leads
    | take queue element =>
      obtain ⟨others, here, rest⟩ := leads
      exact ⟨others, here, ih rest⟩

/-- What is taken from a queue, followed by what is left in it, is what was in it followed by
what is appended to it: elements leave in the order they came. -/
theorem Accepts.in_order {operations : List (Operation κ α)}
    (leads : Accepts queues operations last) (queue : κ) :
    taken queue operations ++ last queue = queues queue ++ appended queue operations := by
  induction operations generalizing queues with
  | nil =>
    rw [show queues = last from leads]
    simp [taken, appended]
  | cons operation operations ih =>
    cases operation with
    | append other element =>
      have rest := ih leads
      simp only [taken, appended, List.filterMap_cons] at rest ⊢
      rw [rest]
      by_cases here : other = queue
      · subst here
        rw [Function.update_self, if_pos rfl, List.append_assoc]
        rfl
      · rw [Function.update_of_ne fun same => here same.symm, if_neg here]
    | take other element =>
      obtain ⟨others, first, leads⟩ := leads
      have rest := ih leads
      simp only [taken, appended, List.filterMap_cons] at rest ⊢
      by_cases here : other = queue
      · subst here
        rw [Function.update_self] at rest
        rw [if_pos rfl, first, List.cons_append, rest, List.cons_append]
      · rw [Function.update_of_ne fun same => here same.symm] at rest
        rw [if_neg here, rest]

end Fifos
