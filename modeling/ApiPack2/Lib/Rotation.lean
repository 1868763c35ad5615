import Mathlib.Data.List.Nodup
import Mathlib.Data.List.Perm.Subperm
import Mathlib.Data.Nat.ModEq

/-!
# Rotation over the positions of a list

A rotation goes through the positions below a size one after the other and starts again after
the last. As many steps in a row as there are positions take each of them once, so that the
numbers of times that two positions are taken differ by one at most.
-/

namespace Rotation

/-- The positions taken by some steps in a row, from the given one on. -/
def positions (size start steps : Nat) : List Nat :=
  (List.range steps).map fun step => (start + step) % size

variable {size start steps position : Nat}

@[simp]
theorem length_positions : (positions size start steps).length = steps := by
  simp [positions]

/-- Every position taken is below the size. -/
theorem lt_of_mem_positions (positive : 0 < size)
    (taken : position ∈ positions size start steps) : position < size := by
  obtain ⟨step, -, rfl⟩ := List.mem_map.mp taken
  exact Nat.mod_lt _ positive

/-- Steps in a row that do not go round take no position twice. -/
theorem nodup_positions (once : steps ≤ size) : (positions size start steps).Nodup := by
  apply List.Nodup.map_on _ List.nodup_range
  intro left leftInside right rightInside same
  have leftBelow : left < size := by
    have inside := List.mem_range.mp leftInside
    omega
  have rightBelow : right < size := by
    have inside := List.mem_range.mp rightInside
    omega
  have congruent : left ≡ right [MOD size] := Nat.ModEq.add_left_cancel' start same
  exact Nat.ModEq.eq_of_lt_of_lt congruent leftBelow rightBelow

/-- As many steps in a row as there are positions take each position once. -/
theorem positions_perm (positive : 0 < size) (start : Nat) :
    (positions size start size).Perm (List.range size) := by
  have below : positions size start size ⊆ List.range size := by
    intro position taken
    exact List.mem_range.mpr (lt_of_mem_positions positive taken)
  have part : (positions size start size).Subperm (List.range size) :=
    (nodup_positions (Nat.le_refl size)).subperm below
  apply part.perm_of_length_le
  simp

/-- The steps of one time round come before those that follow. -/
theorem positions_add (start first second : Nat) :
    positions size start (first + second) =
      positions size start first ++ positions size (start + first) second := by
  unfold positions
  rw [List.range_add, List.map_append, List.map_map]
  congr 1
  apply List.map_congr_left
  intro step _
  simp only [Function.comp_apply, Nat.add_assoc]

/-- A position is taken once each time round, and at most once more. -/
theorem count_positions (inside : position < size) (start steps : Nat) :
    steps / size ≤ (positions size start steps).count position ∧
      (positions size start steps).count position ≤ steps / size + 1 := by
  have positive : 0 < size := Nat.zero_lt_of_lt inside
  induction steps using Nat.strong_induction_on generalizing start with
  | h steps ih =>
    by_cases round : steps < size
    · have once := List.nodup_iff_count_le_one.mp
        (nodup_positions (Nat.le_of_lt round) : (positions size start steps).Nodup) position
      rw [Nat.div_eq_of_lt round]
      omega
    · have split : steps = size + (steps - size) := by omega
      have rest := ih (steps - size) (by omega) (start + size)
      have one : (positions size start size).count position = 1 := by
        rw [(positions_perm positive start).count_eq]
        exact List.count_eq_one_of_mem List.nodup_range (List.mem_range.mpr inside)
      have quotient : steps / size = (steps - size) / size + 1 :=
        Nat.div_eq_sub_div positive (by omega)
      rw [quotient, split, positions_add, List.count_append, one, ← split]
      omega

/-- Two positions are taken as often as each other, up to one time. -/
theorem count_positions_le {other : Nat} (inside : position < size) (otherInside : other < size)
    (start steps : Nat) :
    (positions size start steps).count position ≤ (positions size start steps).count other + 1 := by
  have upper := (count_positions inside start steps).2
  have lower := (count_positions otherInside start steps).1
  omega

end Rotation
