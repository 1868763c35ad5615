import Mathlib.Data.List.Basic

/-!
# Cutting a list into chunks

The ranges and slices of Python, over integers, and the list comprehension that cuts a list
into slices of one size. With a positive size it puts the first elements in a chunk of their
own and goes on with the rest, so that the chunks in a row are the list.
-/

namespace Chunks

/-- `range(start, stop, step)`, for a positive step. -/
def range (start stop step : Int) : List Int :=
  (List.range ((stop - start + (step - 1)) / step).toNat).map fun (index : Nat) =>
    start + step * index

/-- Where an index of a slice lies in a list of a length: a negative index counts from the end,
and an index outside of the list is moved to the nearer end. -/
def bound (length : Nat) (index : Int) : Nat :=
  if index < 0 then (index + length).toNat else min index.toNat length

variable {α : Type}

/-- `list[start:stop]`. -/
def slice (list : List α) (start stop : Int) : List α :=
  (list.take (bound list.length stop)).drop (bound list.length start)

/-- The slices of a size, one after the other. -/
def cut (size : Int) (list : List α) : List (List α) :=
  (range 0 list.length size).map fun index => slice list index (index + size)

/-- The slice of a size from an index on. -/
theorem slice_eq (list : List α) (index size : Nat) :
    slice list index (index + size) = (list.drop index).take size := by
  have stop : bound list.length (index + size : Int) = min (index + size) list.length := by
    rw [bound, if_neg (by omega)]
    congr 1
  have start : bound list.length (index : Int) = min index list.length := by
    rw [bound, if_neg (by omega)]
    rfl
  have taken : list.take (min (index + size) list.length) = list.take (index + size) := by
    rw [List.take_eq_take_iff, Nat.min_assoc, Nat.min_self]
  rw [slice, stop, start, taken]
  by_cases inside : index ≤ list.length
  · rw [Nat.min_eq_left inside, List.drop_take, Nat.add_sub_cancel_left]
  · have past : list.length ≤ index := Nat.le_of_not_le inside
    rw [Nat.min_eq_right past, List.drop_eq_nil_of_le past, List.take_nil]
    apply List.drop_eq_nil_of_le
    rw [List.length_take]
    exact Nat.min_le_right ..

/-- The slices from each multiple of a size on. -/
theorem cut_eq (size : Nat) (list : List α) :
    cut size list = (List.range ((list.length + (size - 1)) / size)).map fun index =>
      (list.drop (size * index)).take size := by
  by_cases none : size = 0
  · subst none
    simp [cut, range]
  · have count : (((list.length : Int) - 0 + ((size : Int) - 1)) / (size : Int)).toNat =
        (list.length + (size - 1)) / size := by
      have terms : (list.length : Int) - 0 + ((size : Int) - 1) =
          ((list.length + (size - 1) : Nat) : Int) := by omega
      rw [terms, ← Int.natCast_ediv, Int.toNat_natCast]
    rw [cut, range, count, List.map_map]
    apply List.map_congr_left
    intro index _
    have place : (0 : Int) + (size : Int) * (index : Int) = ((size * index : Nat) : Int) := by
      rw [Int.zero_add, Int.natCast_mul]
    rw [Function.comp_apply, place]
    exact slice_eq list (size * index) size

/-- The number of chunks: the length of the list by the size, rounded up. -/
theorem length_cut (size : Nat) (list : List α) :
    (cut size list).length = (list.length + (size - 1)) / size := by
  rw [cut_eq, List.length_map, List.length_range]

variable {size : Nat}

/-- An empty list has no chunks. -/
theorem cut_nil (positive : 0 < size) : cut size ([] : List α) = [] := by
  apply List.length_eq_zero_iff.mp
  rw [length_cut, List.length_nil, Nat.zero_add]
  exact Nat.div_eq_of_lt (by omega)

/-- The first chunk has the first elements, and the others are the chunks of the rest. -/
theorem cut_of_ne_nil (positive : 0 < size) {list : List α} (some : list ≠ []) :
    cut size list = list.take size :: cut size (list.drop size) := by
  have length := List.length_pos_of_ne_nil some
  have more : (list.length + (size - 1)) / size =
      ((list.drop size).length + (size - 1)) / size + 1 := by
    rw [List.length_drop]
    by_cases fits : size ≤ list.length
    · have split : list.length + (size - 1) = list.length - size + (size - 1) + size := by omega
      rw [split, Nat.add_div_right _ positive]
    · have whole : list.length + (size - 1) = list.length - 1 + size := by omega
      have none : list.length - size + (size - 1) = size - 1 := by omega
      rw [whole, Nat.add_div_right _ positive, none, Nat.div_eq_of_lt (by omega),
        Nat.div_eq_of_lt (by omega)]
  rw [cut_eq, cut_eq, more, List.range_succ_eq_map, List.map_cons, List.map_map, Nat.mul_zero,
    List.drop_zero]
  congr 1
  apply List.map_congr_left
  intro index _
  rw [Function.comp_apply, List.drop_drop, Nat.mul_succ, Nat.add_comm]

/-- Lists are taken apart chunk by chunk. -/
theorem cut_induction (positive : 0 < size) {motive : List α → Prop} (nil : motive [])
    (step : ∀ list, list ≠ [] → motive (list.drop size) → motive list) (list : List α) :
    motive list := by
  induction length : list.length using Nat.strongRecOn generalizing list with
  | ind count ih =>
    by_cases none : list = []
    · exact none ▸ nil
    · have shorter : (list.drop size).length < count := by
        have some := List.length_pos_of_ne_nil none
        rw [List.length_drop]
        omega
      exact step list none (ih _ shorter _ rfl)

/-- The chunks in a row are the list. -/
theorem flatten_cut (positive : 0 < size) (list : List α) : (cut size list).flatten = list := by
  induction list using cut_induction positive with
  | nil => rw [cut_nil positive, List.flatten_nil]
  | step list some ih =>
    rw [cut_of_ne_nil positive some, List.flatten_cons, ih, List.take_append_drop]

/-- No chunk is empty, and none is longer than the size. -/
theorem length_of_mem_cut (positive : 0 < size) {list chunk : List α}
    (isChunk : chunk ∈ cut size list) : chunk ≠ [] ∧ chunk.length ≤ size := by
  induction list using cut_induction positive with
  | nil =>
    rw [cut_nil positive] at isChunk
    cases isChunk
  | step list some ih =>
    rw [cut_of_ne_nil positive some] at isChunk
    rcases List.mem_cons.mp isChunk with rfl | later
    · constructor
      · rw [Ne, List.take_eq_nil_iff]
        rintro (none | empty)
        · omega
        · exact some empty
      · exact List.length_take_le ..
    · exact ih later

/-- Every chunk but the last is as long as the size. -/
theorem length_getElem_cut (positive : 0 < size) (list : List α) (index : Nat)
    (notLast : index + 1 < (cut size list).length) :
    ((cut size list)[index]).length = size := by
  induction list using cut_induction positive generalizing index with
  | nil =>
    rw [cut_nil positive] at notLast
    cases notLast
  | step list some ih =>
    have parts := cut_of_ne_nil positive some
    have rest : index < (cut size (list.drop size)).length := by
      rw [parts, List.length_cons] at notLast
      omega
    cases index with
    | zero =>
      -- there is a rest, so the list is longer than the first chunk
      have longer : size ≤ list.length := by
        by_contra short
        rw [List.drop_eq_nil_of_le (by omega), cut_nil positive] at rest
        cases rest
      simp only [parts, List.getElem_cons_zero, List.length_take]
      exact Nat.min_eq_left longer
    | succ index =>
      simp only [parts, List.getElem_cons_succ]
      exact ih index rest

/-- An element of a list without repetitions is in one of its chunks. -/
theorem countP_mem_eq_one [DecidableEq α] {chunks : List (List α)} {a : α}
    (nodup : chunks.flatten.Nodup) (member : a ∈ chunks.flatten) :
    chunks.countP (a ∈ ·) = 1 := by
  induction chunks with
  | nil => cases member
  | cons chunk chunks ih =>
    rw [List.flatten_cons, List.nodup_append] at nodup
    obtain ⟨-, rest, apart⟩ := nodup
    rw [List.flatten_cons, List.mem_append] at member
    by_cases first : a ∈ chunk
    · have absent : chunks.countP (a ∈ ·) = 0 := by
        apply List.countP_eq_zero.mpr
        intro later isChunk inside
        have found : a ∈ chunks.flatten :=
          List.mem_flatten_of_mem isChunk (of_decide_eq_true inside)
        exact apart a first a found rfl
      rw [List.countP_cons_of_pos (by simpa using first), absent]
    · rw [List.countP_cons_of_neg (by simpa using first)]
      exact ih rest (member.resolve_left first)

/-! ### Selecting by parts -/

end Chunks
