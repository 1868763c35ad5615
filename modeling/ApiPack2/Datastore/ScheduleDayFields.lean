import ApiPack2.Datastore.ScheduleDay
import Mathlib.Tactic.Linarith

/-!
# What a packed id keeps of its components

The id is described bit by bit: the low twenty bits of the station, the year from bit 21 and
the day from bit 42. From that description follow what the getters decode, for all 32-bit
arguments, and the arithmetic value of an id whose year fits its slot. The slots keep 21 bits
of a day or a year; only the getters, and the station on its way in, lose the highest one.
-/

namespace ApiPack2.ScheduleDay

open BitField

/-- The mask has twenty bits. -/
theorem mPackedMask_low : IsLowMask mPackedMask.toBitVec 20 := by
  intro bit
  have all : mPackedMask.toBitVec = BitVec.ofNat 64 (2 ^ 20 - 1) := rfl
  rw [all, BitVec.getLsbD_ofNat, Nat.testBit_two_pow_sub_one]

/-- A bit of the mask in a 32-bit word. -/
theorem getLsbD_mask (bit : Nat) :
    (0xFFFFF : UInt32).toBitVec.getLsbD bit = decide (bit < 20) := by
  have all : (0xFFFFF : UInt32).toBitVec = BitVec.ofNat 32 (2 ^ 20 - 1) := rfl
  rw [all, BitVec.getLsbD_ofNat, Nat.testBit_two_pow_sub_one]
  grind

/-- The ordinal constructor writes the day and then the year over the masked station. -/
theorem toBitVec_create (stationId day year : UInt32) :
    (create stationId day year).toBitVec =
      put mPackedMask.toBitVec 21
        (put mPackedMask.toBitVec 42 (stationId.toUInt64.toBitVec &&& mPackedMask.toBitVec)
          day.toUInt64.toBitVec) year.toUInt64.toBitVec := rfl

/-- Every bit of an id. From bit 42 up, a year too large for its slot runs into the day. -/
theorem getLsbD_create (stationId day year : UInt32) {bit : Nat} (inside : bit < 64) :
    (create stationId day year).toBitVec.getLsbD bit =
      if bit < 21 then stationId.toBitVec.getLsbD bit && decide (bit < 20)
      else if bit < 42 then year.toBitVec.getLsbD (bit - 21)
      else day.toBitVec.getLsbD (bit - 42) || year.toBitVec.getLsbD (bit - 21) := by
  rw [toBitVec_create, getLsbD_put mPackedMask_low _ _ _ inside,
    getLsbD_put mPackedMask_low _ _ _ inside]
  simp only [BitVec.getLsbD_and, mPackedMask_low bit, UInt32.toBitVec_toUInt64,
    BitVec.getLsbD_setWidth]
  have : bit - 21 < 64 := by omega
  have : bit - 42 < 64 := by omega
  split_ifs <;> grind

/-- A bit of a component read from a word. -/
theorem getLsbD_component (position : Nat) (word : UInt64) {bit : Nat} (inside : bit < 32) :
    ((get mPackedMask.toBitVec position word.toBitVec).setWidth 32).getLsbD bit =
      (word.toBitVec.getLsbD (position + bit) && decide (bit < 20)) := by
  have width : bit < 64 := by omega
  rw [BitVec.getLsbD_setWidth, getLsbD_get mPackedMask_low]
  simp [inside, width]

/-- The station decoded is the low twenty bits of the station packed. -/
theorem stationId_create (stationId day year : UInt32) :
    (ScheduleDay.mk (create stationId day year)).stationId = stationId &&& 0xFFFFF := by
  have component : (ScheduleDay.mk (create stationId day year)).stationId.toBitVec =
      (get mPackedMask.toBitVec 0 (create stationId day year).toBitVec).setWidth 32 := by
    simp [ScheduleDay.stationId, BitField.get]
  apply UInt32.toBitVec_inj.mp
  apply BitVec.eq_of_getLsbD_eq
  intro bit inside
  rw [component, getLsbD_component 0 _ inside, UInt32.toBitVec_and, BitVec.getLsbD_and,
    getLsbD_mask]
  by_cases low : bit < 20
  · rw [getLsbD_create stationId day year (show 0 + bit < 64 by omega)]
    grind
  · grind

/-- The year decoded is the low twenty bits of the year packed. -/
theorem year_create (stationId day year : UInt32) :
    (ScheduleDay.mk (create stationId day year)).year = year &&& 0xFFFFF := by
  have component : (ScheduleDay.mk (create stationId day year)).year.toBitVec =
      (get mPackedMask.toBitVec 21 (create stationId day year).toBitVec).setWidth 32 := rfl
  apply UInt32.toBitVec_inj.mp
  apply BitVec.eq_of_getLsbD_eq
  intro bit inside
  rw [component, getLsbD_component 21 _ inside, UInt32.toBitVec_and, BitVec.getLsbD_and,
    getLsbD_mask]
  by_cases low : bit < 20
  · rw [getLsbD_create stationId day year (show 21 + bit < 64 by omega)]
    grind
  · grind

/-- The day decoded is the low twenty bits of the day, with the bits of the year above its
slot ored in. -/
theorem day_create (stationId day year : UInt32) :
    (ScheduleDay.mk (create stationId day year)).day = (day ||| (year >>> 21)) &&& 0xFFFFF := by
  have component : (ScheduleDay.mk (create stationId day year)).day.toBitVec =
      (get mPackedMask.toBitVec 42 (create stationId day year).toBitVec).setWidth 32 := rfl
  have shiftedYear : (year >>> 21).toBitVec = year.toBitVec >>> 21 := rfl
  apply UInt32.toBitVec_inj.mp
  apply BitVec.eq_of_getLsbD_eq
  intro bit inside
  rw [component, getLsbD_component 42 _ inside, UInt32.toBitVec_and, BitVec.getLsbD_and,
    getLsbD_mask, UInt32.toBitVec_or, BitVec.getLsbD_or, shiftedYear, BitVec.getLsbD_ushiftRight]
  by_cases low : bit < 20
  · rw [getLsbD_create stationId day year (show 42 + bit < 64 by omega)]
    grind
  · grind

/-- Masking a component is the remainder by 2^20. -/
theorem toNat_and_mask (value : UInt32) : (value &&& 0xFFFFF).toNat = value.toNat % 2 ^ 20 :=
  Nat.and_two_pow_sub_one_eq_mod _ 20

/-- Masking keeps exactly the components below 2^20. -/
theorem and_mask_eq_iff (value : UInt32) : value &&& 0xFFFFF = value ↔ value.toNat < 2 ^ 20 := by
  rw [← UInt32.toNat_inj, toNat_and_mask]
  exact ⟨fun same => same ▸ Nat.mod_lt _ (by decide), Nat.mod_eq_of_lt⟩

/-- A year below 2^21 leaves nothing above its slot. -/
theorem year_shift_eq_zero {year : UInt32} (fits : year.toNat < 2 ^ 21) : year >>> 21 = 0 := by
  apply UInt32.toNat_inj.mp
  have shifted : (year >>> 21).toNat = year.toNat >>> 21 := rfl
  rw [shifted, Nat.shiftRight_eq_div_pow, Nat.div_eq_of_lt fits]
  rfl

/-- When day and year fit their slots, the id is the sum of the three shifted components. -/
theorem toNat_create (stationId day year : UInt32) (dayFits : day.toNat < 2 ^ 22)
    (yearFits : year.toNat < 2 ^ 21) :
    (create stationId day year).toNat =
      stationId.toNat % 2 ^ 20 + year.toNat * 2 ^ 21 + day.toNat * 2 ^ 42 := by
  have low : stationId.toNat % 2 ^ 20 < 2 ^ 21 := lt_trans (Nat.mod_lt _ (by decide)) (by decide)
  have middle : stationId.toNat % 2 ^ 20 + year.toNat * 2 ^ 21 < 2 ^ 42 := by omega
  have disjoint : stationId.toNat % 2 ^ 20 + year.toNat * 2 ^ 21 + day.toNat * 2 ^ 42 =
      day.toNat <<< 42 ||| (year.toNat <<< 21 ||| stationId.toNat % 2 ^ 20) := by
    rw [← Nat.shiftLeft_add_eq_or_of_lt low, Nat.shiftLeft_eq year.toNat,
      ← Nat.shiftLeft_add_eq_or_of_lt (by omega), Nat.shiftLeft_eq]
    omega
  have upper : ∀ bit, 21 ≤ bit → year.toNat.testBit bit = false := fun bit high =>
    Nat.testBit_lt_two_pow (lt_of_lt_of_le yearFits (Nat.pow_le_pow_right (by decide) high))
  apply Nat.eq_of_testBit_eq
  intro bit
  by_cases inside : bit < 64
  · have word : (create stationId day year).toNat.testBit bit =
      (create stationId day year).toBitVec.getLsbD bit := rfl
    rw [word, getLsbD_create stationId day year inside, disjoint]
    simp only [Nat.testBit_or, Nat.testBit_shiftLeft, Nat.testBit_mod_two_pow,
      ← BitVec.testBit_toNat, UInt32.toNat_toBitVec]
    by_cases first : bit < 21
    · simp [first]; grind
    · by_cases second : bit < 42
      · simp [first, second]; grind
      · simp [first, second]; grind
  · have reach : 2 ^ 64 ≤ 2 ^ bit := Nat.pow_le_pow_right (by decide) (Nat.le_of_not_lt inside)
    have word := (create stationId day year).toNat_lt
    rw [Nat.testBit_lt_two_pow (by omega), Nat.testBit_lt_two_pow (by omega)]

end ApiPack2.ScheduleDay
