import Mathlib.Logic.Basic

/-!
# Fields of a machine word

A field of a word is a run of bits: its lowest position and a mask. Writing clears the
masked bits and ors the shifted value in; reading shifts down and masks. Both operations are
described bit by bit, so that words packed from several fields are compared one bit at a
time, whatever the width of the word.
-/

namespace BitField

variable {width : Nat}

/-- Write a value into a field: clear the masked bits, then or the shifted value in. Bits of
the value above the mask are written too. -/
def put (mask : BitVec width) (position : Nat) (word value : BitVec width) : BitVec width :=
  (word &&& ~~~(mask <<< position)) ||| (value <<< position)

/-- Read a field: shift down and mask. -/
def get (mask : BitVec width) (position : Nat) (word : BitVec width) : BitVec width :=
  (word >>> position) &&& mask

/-- The mask of the lowest `size` bits. -/
def IsLowMask (mask : BitVec width) (size : Nat) : Prop :=
  ∀ bit, mask.getLsbD bit = (decide (bit < width) && decide (bit < size))

/-- A bit of a written word. -/
theorem getLsbD_put {mask : BitVec width} {size : Nat} (low : IsLowMask mask size)
    (position : Nat) (word value : BitVec width) {bit : Nat} (inside : bit < width) :
    (put mask position word value).getLsbD bit =
      if bit < position then word.getLsbD bit
      else (word.getLsbD bit && !decide (bit - position < size)) ||
        value.getLsbD (bit - position) := by
  simp only [put, BitVec.getLsbD_or, BitVec.getLsbD_and, BitVec.getLsbD_not,
    BitVec.getLsbD_shiftLeft, low (bit - position), inside, decide_true, Bool.true_and]
  by_cases below : bit < position
  · simp [below]
  · have reach : bit - position < width := Nat.lt_of_le_of_lt (Nat.sub_le _ _) inside
    simp [below, reach]

/-- A bit of a field. -/
theorem getLsbD_get {mask : BitVec width} {size : Nat} (low : IsLowMask mask size)
    (position : Nat) (word : BitVec width) (bit : Nat) :
    (get mask position word).getLsbD bit =
      (word.getLsbD (position + bit) && decide (bit < width) && decide (bit < size)) := by
  simp [get, low bit, Bool.and_assoc]

end BitField
