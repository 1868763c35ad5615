import ApiPack2.Datastore.ScheduleDayIds

/-!
# Arguments out of range

The constructors take 32-bit arguments and little of that range is meant to be used. The
calendar constructor leaves the check of its arguments to the date constructor, which sees
them modulo 2^16. The ordinal constructor shifts day and year into the id as they are, so a
year that is too large for its slot runs into the slot of the day. Both are followed over the
whole range of the arguments.
-/

namespace ApiPack2.ScheduleDay

/-! ## Validation of calendar dates -/

/-- The arguments as passed are a calendar date in the supported range. -/
def IsDate (year month day : UInt32) : Prop :=
  ∃ date : GregorianDate,
    date.year = year.toNat ∧ date.month = month.toNat ∧ date.day = day.toNat

/-- The calendar constructor accepts exactly the calendar dates, and packs their year. -/
def Validated (stationId day month year : UInt32) : Prop :=
  (createCalendar stationId day month year ≠ 0 ↔ IsDate year month day) ∧
    (IsDate year month day →
      (ScheduleDay.mk (createCalendar stationId day month year)).year = year)

/-- A date found has the numbers it was looked up with. -/
theorem dateOf_eq_some {year month day : Nat} {date : GregorianDate}
    (found : dateOf year month day = some date) :
    date.year = year ∧ date.month = month ∧ date.day = day := by
  unfold dateOf at found
  split at found
  · cases found
    exact ⟨rfl, rfl, rfl⟩
  · cases found

/-- Numbers below 2^16 survive the narrowing at the call of the date constructor. -/
theorem toNat_toUInt16 {argument : UInt32} (small : argument.toNat < 2 ^ 16) :
    argument.toUInt16.toNat = argument.toNat := by
  rw [UInt32.toNat_toUInt16, Nat.mod_eq_of_lt small]

/-- A calendar date has small numbers. -/
theorem IsDate.small {year month day : UInt32} (date : IsDate year month day) :
    year.toNat < 2 ^ 16 ∧ month.toNat < 2 ^ 16 ∧ day.toNat < 2 ^ 16 := by
  obtain ⟨date, years, months, days⟩ := date
  have yearRange := date.year_range
  have monthRange := date.month_valid
  have dayRange := le_trans date.day_valid.2 (daysInMonth_le date.year date.month)
  omega

/-- Arguments below 2^16 are a calendar date exactly if the date constructor accepts them. -/
theorem isDate_iff {year month day : UInt32} (yearSmall : year.toNat < 2 ^ 16)
    (monthSmall : month.toNat < 2 ^ 16) (daySmall : day.toNat < 2 ^ 16) :
    IsDate year month day ↔
      gregorianDate year.toUInt16 month.toUInt16 day.toUInt16 ≠ none := by
  rw [gregorianDate, toNat_toUInt16 yearSmall, toNat_toUInt16 monthSmall, toNat_toUInt16 daySmall,
    Option.ne_none_iff_exists']
  constructor
  · rintro ⟨date, years, months, days⟩
    exact ⟨date, by rw [← years, ← months, ← days, dateOf_self]⟩
  · rintro ⟨date, found⟩
    exact ⟨date, dateOf_eq_some found⟩

/-- When the date constructor accepts its arguments, the ordinal of its date is packed with
the year as passed. -/
theorem createCalendar_accepted (stationId : UInt32) {day month year : UInt32}
    {date : GregorianDate}
    (accepted : gregorianDate year.toUInt16 month.toUInt16 day.toUInt16 = some date) :
    createCalendar stationId day month year =
      create stationId (UInt32.ofNat date.dayOfYear) year := by
  have ordinal := date.dayOfYear_le
  rw [createCalendar, accepted, create, toUInt64_ofNat date.dayOfYear (by omega)]

/-- An id is zero only if the low bits of its day are. -/
theorem day_of_create_eq_zero {stationId day year : UInt32}
    (zero : create stationId day year = 0) : day.toNat % 2 ^ 20 = 0 := by
  have decoded := day_create stationId day year
  rw [zero] at decoded
  have zeroes : (day ||| (year >>> 21)) &&& 0xFFFFF = 0 := decoded.symm
  have numbers : (day.toNat ||| (year >>> 21).toNat) % 2 ^ 20 = 0 := by
    rw [← UInt32.toNat_or, ← toNat_and_mask, zeroes, UInt32.toNat_zero]
  rw [Nat.or_mod_two_pow, Nat.or_eq_zero_iff] at numbers
  exact numbers.1

/-- The calendar constructor refuses exactly what the date constructor refuses. -/
theorem createCalendar_ne_zero_iff (stationId day month year : UInt32) :
    createCalendar stationId day month year ≠ 0 ↔
      gregorianDate year.toUInt16 month.toUInt16 day.toUInt16 ≠ none := by
  cases accepted : gregorianDate year.toUInt16 month.toUInt16 day.toUInt16 with
  | none => simp [createCalendar, accepted]
  | some date =>
    rw [createCalendar_accepted stationId accepted]
    refine iff_of_true (fun zero => ?_) (by simp)
    have ordinal := date.dayOfYear_le
    have counted := date.one_le_dayOfYear
    have low := day_of_create_eq_zero zero
    rw [toNat_ofNat (by omega)] at low
    omega

/-- The validation is right exactly for arguments below 2^16 and for arguments that are no
date modulo 2^16 either. -/
theorem validated_iff (stationId day month year : UInt32) :
    Validated stationId day month year ↔
      (year.toNat < 2 ^ 16 ∧ month.toNat < 2 ^ 16 ∧ day.toNat < 2 ^ 16) ∨
        gregorianDate year.toUInt16 month.toUInt16 day.toUInt16 = none := by
  rw [Validated, createCalendar_ne_zero_iff]
  constructor
  · rintro ⟨exactly, -⟩
    by_cases refused : gregorianDate year.toUInt16 month.toUInt16 day.toUInt16 = none
    · exact .inr refused
    · exact .inl (exactly.mp refused).small
  · intro condition
    have exactly : gregorianDate year.toUInt16 month.toUInt16 day.toUInt16 ≠ none ↔
        IsDate year month day := by
      constructor
      · intro accepted
        obtain ⟨yearSmall, monthSmall, daySmall⟩ := condition.resolve_right accepted
        exact (isDate_iff yearSmall monthSmall daySmall).mpr accepted
      · intro date
        obtain ⟨yearSmall, monthSmall, daySmall⟩ := date.small
        exact (isDate_iff yearSmall monthSmall daySmall).mp date
    refine ⟨exactly, fun date => ?_⟩
    obtain ⟨found, accepted⟩ := Option.ne_none_iff_exists'.mp (exactly.mpr date)
    obtain ⟨calendarDate, years, -, -⟩ := date
    have range := calendarDate.year_range
    rw [createCalendar_accepted stationId accepted, year_create, and_mask_eq_iff]
    omega

/-- The eighth of May of the year 2016 + 2^16 gets an id. -/
theorem wrapped_year_accepted :
    ¬∀ stationId day month year : UInt32, Validated stationId day month year := by
  intro claim
  have exactly := (claim 10003 8 5 67552).1
  have date := exactly.mp (by decide)
  exact absurd date.small.1 (by decide)

/-! ## Independence of the fields -/

/-- Each decoded field depends on its own argument only, between two triples of arguments. -/
structure FieldsIndependent (stationId day year stationId' day' year' : UInt32) : Prop where
  /-- The station does not change the day. -/
  stationDay : (ScheduleDay.mk (create stationId' day year)).day =
    (ScheduleDay.mk (create stationId day year)).day
  /-- The station does not change the year. -/
  stationYear : (ScheduleDay.mk (create stationId' day year)).year =
    (ScheduleDay.mk (create stationId day year)).year
  /-- The day does not change the station. -/
  dayStation : (ScheduleDay.mk (create stationId day' year)).stationId =
    (ScheduleDay.mk (create stationId day year)).stationId
  /-- The day does not change the year. -/
  dayYear : (ScheduleDay.mk (create stationId day' year)).year =
    (ScheduleDay.mk (create stationId day year)).year
  /-- The year does not change the station. -/
  yearStation : (ScheduleDay.mk (create stationId day year')).stationId =
    (ScheduleDay.mk (create stationId day year)).stationId
  /-- The year does not change the day. -/
  yearDay : (ScheduleDay.mk (create stationId day year')).day =
    (ScheduleDay.mk (create stationId day year)).day

/-- Two years decode to the same day exactly if they differ above their slot at most in bits
that the day has set. -/
theorem day_create_eq_iff (stationId day year year' : UInt32) :
    (ScheduleDay.mk (create stationId day year')).day =
        (ScheduleDay.mk (create stationId day year)).day ↔
      ∀ bit, 21 ≤ bit → year'.toBitVec.getLsbD bit ≠ year.toBitVec.getLsbD bit →
        day.toBitVec.getLsbD (bit - 21) = true := by
  have bits (packed : UInt32) (bit : Nat) :
      (ScheduleDay.mk (create stationId day packed)).day.toBitVec.getLsbD bit =
        ((day.toBitVec.getLsbD bit || packed.toBitVec.getLsbD (21 + bit)) &&
          decide (bit < 20)) := by
    have shifted : (packed >>> 21).toBitVec = packed.toBitVec >>> 21 := rfl
    rw [day_create, UInt32.toBitVec_and, BitVec.getLsbD_and, getLsbD_mask, UInt32.toBitVec_or,
      BitVec.getLsbD_or, shifted, BitVec.getLsbD_ushiftRight]
  constructor
  · intro same bit above differ
    have bitwise := congrArg (fun word : UInt32 => word.toBitVec.getLsbD (bit - 21)) same
    simp only [bits, Nat.add_sub_cancel' above] at bitwise
    by_cases inside : bit < 32
    · have low : bit - 21 < 20 := by omega
      grind
    · rw [BitVec.getLsbD_of_ge _ _ (by omega), BitVec.getLsbD_of_ge _ _ (by omega)] at differ
      exact absurd rfl differ
  · intro covered
    apply UInt32.toBitVec_inj.mp
    apply BitVec.eq_of_getLsbD_eq
    intro bit _
    have above := covered (21 + bit) (Nat.le_add_right _ _)
    rw [Nat.add_sub_cancel_left] at above
    rw [bits, bits]
    grind

/-- The fields are independent exactly if the two years differ above their slot at most in
bits that the day has set. -/
theorem fields_independent_iff (stationId day year stationId' day' year' : UInt32) :
    FieldsIndependent stationId day year stationId' day' year' ↔
      ∀ bit, 21 ≤ bit → year'.toBitVec.getLsbD bit ≠ year.toBitVec.getLsbD bit →
        day.toBitVec.getLsbD (bit - 21) = true := by
  rw [← day_create_eq_iff stationId]
  refine ⟨fun independent => independent.yearDay, fun yearDay => ?_⟩
  exact {
    stationDay := by rw [day_create, day_create]
    stationYear := by rw [year_create, year_create]
    dayStation := by rw [stationId_create, stationId_create]
    dayYear := by rw [year_create, year_create]
    yearStation := by rw [stationId_create, stationId_create]
    yearDay }

/-- Years that fit their slot leave the fields independent. -/
theorem fieldsIndependent_of_fits (stationId day stationId' day' : UInt32) {year year' : UInt32}
    (fits : year.toNat < 2 ^ 21) (fits' : year'.toNat < 2 ^ 21) :
    FieldsIndependent stationId day year stationId' day' year' := by
  rw [fields_independent_iff, ← day_create_eq_iff stationId, day_create, day_create,
    year_shift_eq_zero fits, year_shift_eq_zero fits']

/-- The year 2^21 changes day 128 to day 129. -/
theorem year_spoils_day :
    ¬∀ stationId day year stationId' day' year' : UInt32,
      FieldsIndependent stationId day year stationId' day' year' := by
  intro claim
  have same := (claim 10003 128 2016 10003 128 0x200000).yearDay
  exact absurd same (by decide)

end ApiPack2.ScheduleDay
