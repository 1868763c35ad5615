import Mathlib.Algebra.BigOperators.Fin
import Mathlib.Algebra.Order.BigOperators.Group.Finset

/-!
# Sums over threads

Any finite number of threads, each in a state of its own. A weight gives each state a number;
what the threads hold together is its sum over all of them. A step of one thread changes the
sum by what it changes of that thread's weight.
-/

namespace Threads

open Function (update)

variable {ι κ : Type*} [Fintype ι]

/-- What the threads hold together. -/
def total (weight : κ → Nat) (threads : ι → κ) : Nat := ∑ thread, weight (threads thread)

variable {weight : κ → Nat} {threads : ι → κ}

/-- No thread holds more than all of them. -/
theorem le_total (weight : κ → Nat) (threads : ι → κ) (thread : ι) :
    weight (threads thread) ≤ total weight threads :=
  Finset.single_le_sum (f := fun thread => weight (threads thread)) (fun _ _ => Nat.zero_le _)
    (Finset.mem_univ thread)

/-- Threads that hold a number each at most hold together at most that for each of them. -/
theorem total_le_mul {most : Nat} (bounded : ∀ state, weight state ≤ most) (threads : ι → κ) :
    total weight threads ≤ Fintype.card ι * most := by
  calc
    total weight threads ≤ ∑ _thread : ι, most := Finset.sum_le_sum fun thread _ => bounded _
    _ = Fintype.card ι * most := by simp

/-- Threads that hold at most one each hold together at most their number. -/
theorem total_le_card (bounded : ∀ state, weight state ≤ 1) (threads : ι → κ) :
    total weight threads ≤ Fintype.card ι :=
  (total_le_mul bounded threads).trans (Nat.le_of_eq (Nat.mul_one _))

/-- Threads that hold nothing each hold nothing together. -/
theorem total_eq_zero (none : ∀ thread, weight (threads thread) = 0) :
    total weight threads = 0 :=
  Finset.sum_eq_zero fun thread _ => none thread

/-- Weights that add up for each thread add up for all. -/
theorem total_add {left right sum : κ → Nat}
    (adds : ∀ thread, left (threads thread) + right (threads thread) = sum (threads thread)) :
    total left threads + total right threads = total sum threads := by
  unfold total
  rw [← Finset.sum_add_distrib]
  exact Finset.sum_congr rfl fun thread _ => adds thread

variable [DecidableEq ι]

/-- Two threads hold no more than all of them. -/
theorem add_le_total (weight : κ → Nat) (threads : ι → κ) {one other : ι}
    (different : other ≠ one) :
    weight (threads one) + weight (threads other) ≤ total weight threads := by
  have rest : weight (threads other) ≤
      ∑ thread ∈ Finset.univ.erase one, weight (threads thread) :=
    Finset.single_le_sum (f := fun thread => weight (threads thread)) (fun _ _ => Nat.zero_le _)
      (Finset.mem_erase.mpr ⟨different, Finset.mem_univ other⟩)
  have whole : total weight threads =
      weight (threads one) + ∑ thread ∈ Finset.univ.erase one, weight (threads thread) :=
    (Finset.add_sum_erase _ _ (Finset.mem_univ one)).symm
  omega

/-- A step of one thread replaces its weight in the sum. -/
theorem total_update (weight : κ → Nat) (threads : ι → κ) (thread : ι) (next : κ) :
    total weight (update threads thread next) + weight (threads thread) =
      total weight threads + weight next := by
  have stepped : total weight (update threads thread next) =
      weight next + ∑ other ∈ Finset.univ.erase thread, weight (threads other) := by
    rw [total, ← Finset.add_sum_erase _ _ (Finset.mem_univ thread), Function.update_self]
    congr 1
    refine Finset.sum_congr rfl fun other different => ?_
    rw [Function.update_of_ne (Finset.ne_of_mem_erase different)]
  have before : total weight threads =
      weight (threads thread) + ∑ other ∈ Finset.univ.erase thread, weight (threads other) :=
    (Finset.add_sum_erase _ _ (Finset.mem_univ thread)).symm
  omega

end Threads
