import ApiPack2.Datastore.ScheduleDayFields

/-!
# Ids of schedule days

Two questions about packed ids. Which triples of components survive packing and decoding,
and which triples share an id, over the whole width of the slots. And whether the three
constructors agree on calendar dates, where every component is far below the mask: there the
id identifies the station and the date, because the year and the ordinal identify a date.
-/

namespace ApiPack2.ScheduleDay

/-- Decoding the id of a triple gives back its three components. -/
def RoundTrips (stationId day year : UInt32) : Prop :=
  (ScheduleDay.mk (create stationId day year)).stationId = stationId ∧
    (ScheduleDay.mk (create stationId day year)).day = day ∧
    (ScheduleDay.mk (create stationId day year)).year = year

instance (stationId day year : UInt32) : Decidable (RoundTrips stationId day year) :=
  inferInstanceAs (Decidable (_ ∧ _ ∧ _))

/-- Inside the slots a triple round trips exactly when no component uses the highest bit of
its slot, the one the mask lacks. -/
theorem roundTrips_iff {stationId day year : UInt32} (yearFits : year.toNat < 2 ^ 21) :
    RoundTrips stationId day year ↔
      stationId.toNat < 2 ^ 20 ∧ day.toNat < 2 ^ 20 ∧ year.toNat < 2 ^ 20 := by
  have noSpill : day ||| (year >>> 21) = day := by
    rw [year_shift_eq_zero yearFits, UInt32.or_zero]
  rw [RoundTrips, stationId_create, day_create, year_create, noSpill, and_mask_eq_iff,
    and_mask_eq_iff, and_mask_eq_iff]

/-- Inside the slots two ids agree exactly when days and years agree and the stations agree
below the bit the mask lacks. -/
theorem create_eq_iff {stationId day year stationId' day' year' : UInt32}
    (dayFits : day.toNat < 2 ^ 21) (yearFits : year.toNat < 2 ^ 21)
    (dayFits' : day'.toNat < 2 ^ 21) (yearFits' : year'.toNat < 2 ^ 21) :
    create stationId day year = create stationId' day' year' ↔
      stationId.toNat % 2 ^ 20 = stationId'.toNat % 2 ^ 20 ∧ day = day' ∧ year = year' := by
  have low := Nat.mod_lt stationId.toNat (show 2 ^ 20 > 0 by decide)
  have low' := Nat.mod_lt stationId'.toNat (show 2 ^ 20 > 0 by decide)
  rw [← UInt64.toNat_inj, toNat_create _ _ _ (by omega) yearFits,
    toNat_create _ _ _ (by omega) yearFits', ← UInt32.toNat_inj, ← UInt32.toNat_inj]
  omega

/-- The whole width of the slots: a triple round trips exactly below the mask, and two
distinct triples share an id exactly when they differ in the highest bit of the station
only. -/
theorem packing_exact {stationId day year stationId' day' year' : UInt32}
    (stationFits : stationId.toNat < 2 ^ 21) (dayFits : day.toNat < 2 ^ 21)
    (yearFits : year.toNat < 2 ^ 21) (stationFits' : stationId'.toNat < 2 ^ 21)
    (dayFits' : day'.toNat < 2 ^ 21) (yearFits' : year'.toNat < 2 ^ 21) :
    (RoundTrips stationId day year ↔
      stationId.toNat < 2 ^ 20 ∧ day.toNat < 2 ^ 20 ∧ year.toNat < 2 ^ 20) ∧
    (((stationId, day, year) ≠ (stationId', day', year') →
        create stationId day year ≠ create stationId' day' year') ↔
      ¬(day = day' ∧ year = year' ∧ (stationId.toNat + 2 ^ 20 = stationId'.toNat ∨
        stationId'.toNat + 2 ^ 20 = stationId.toNat))) := by
  refine ⟨roundTrips_iff yearFits, ?_⟩
  have station : (stationId.toNat + 2 ^ 20 = stationId'.toNat ∨
      stationId'.toNat + 2 ^ 20 = stationId.toNat) ↔
      stationId.toNat % 2 ^ 20 = stationId'.toNat % 2 ^ 20 ∧ stationId ≠ stationId' := by
    rw [ne_eq, ← UInt32.toNat_inj]
    omega
  rw [station, ne_eq (create stationId day year), create_eq_iff dayFits yearFits dayFits' yearFits',
    ne_eq, Prod.mk.injEq, Prod.mk.injEq]
  tauto

/-- The exact packing law at station 10003, day 129 of 2016, next to station 10002. -/
theorem packing_exact_10003 :
    (RoundTrips 10003 129 2016 ↔
      (10003 : UInt32).toNat < 2 ^ 20 ∧ (129 : UInt32).toNat < 2 ^ 20 ∧
        (2016 : UInt32).toNat < 2 ^ 20) ∧
    ((((10003 : UInt32), (129 : UInt32), (2016 : UInt32)) ≠ (10002, 129, 2016) →
        create 10003 129 2016 ≠ create 10002 129 2016) ↔
      ¬((129 : UInt32) = 129 ∧ (2016 : UInt32) = 2016 ∧
        ((10003 : UInt32).toNat + 2 ^ 20 = (10002 : UInt32).toNat ∨
          (10002 : UInt32).toNat + 2 ^ 20 = (10003 : UInt32).toNat))) :=
  packing_exact (by decide) (by decide) (by decide) (by decide) (by decide) (by decide)

/-- Station 2^20 fits its slot, yet decodes as station zero and shares the ids of station
zero. -/
theorem packing_loses_station :
    ¬∀ stationId day year : UInt32, stationId.toNat < 2 ^ 21 → day.toNat < 2 ^ 21 →
      year.toNat < 2 ^ 21 → RoundTrips stationId day year ∧
        ∀ stationId' day' year' : UInt32, stationId'.toNat < 2 ^ 21 → day'.toNat < 2 ^ 21 →
          year'.toNat < 2 ^ 21 → (stationId, day, year) ≠ (stationId', day', year') →
            create stationId day year ≠ create stationId' day' year' := by
  intro claim
  have lost := (claim 0x100000 1 2016 (by decide) (by decide) (by decide)).1.1
  exact absurd lost (by decide)

/-! ## Calendar dates -/

/-- Small numbers are their own 32-bit words. -/
theorem toNat_ofNat {number : Nat} (small : number < 2 ^ 32) :
    (UInt32.ofNat number).toNat = number := UInt32.toNat_ofNat_of_lt' small

/-- Small numbers are packed alike from 32-bit and from 64-bit words. -/
theorem toUInt64_ofNat (number : Nat) (small : number < 2 ^ 32) :
    (UInt32.ofNat number).toUInt64 = UInt64.ofNat number := by
  apply UInt64.toNat_inj.mp
  rw [UInt32.toNat_toUInt64, UInt32.toNat_ofNat', UInt64.toNat_ofNat', Nat.mod_eq_of_lt small,
    Nat.mod_eq_of_lt (lt_trans small (by decide))]

/-- Small numbers survive the narrowing at the call of the date constructor. -/
theorem toNat_toUInt16_ofNat {number : Nat} (small : number < 2 ^ 16) :
    (UInt32.ofNat number).toUInt16.toNat = number := by
  rw [UInt32.toNat_toUInt16, UInt32.toNat_ofNat', Nat.mod_eq_of_lt (lt_trans small (by decide)),
    Nat.mod_eq_of_lt small]

/-- A month has at most 31 days. -/
theorem daysInMonth_le (year month : Nat) : Calendar.daysInMonth year month ≤ 31 := by
  unfold Calendar.daysInMonth
  split <;> first | decide | (split <;> decide)

/-- The text constructor packs the ordinal and the year of the date it reads. -/
theorem createText_formatDay {fromSimpleString : String → Option GregorianDate}
    (reads : ∀ date : GregorianDate, fromSimpleString (toString date.year ++ "-" ++
      toString date.month ++ "-" ++ toString date.day) = some date)
    (stationId : UInt32) (date : GregorianDate) :
    createText fromSimpleString stationId (formatDay date "") =
      create stationId (UInt32.ofNat date.dayOfYear) (UInt32.ofNat date.year) := by
  have ordinal := date.dayOfYear_le
  have range := date.year_range
  rw [formatDay, String.empty_append, createText, reads, create, toUInt64_ofNat _ (by omega),
    toUInt64_ofNat _ (by omega)]

/-- The calendar constructor packs the ordinal of the date and the year. -/
theorem createCalendar_date (stationId : UInt32) (date : GregorianDate) :
    createCalendar stationId (UInt32.ofNat date.day) (UInt32.ofNat date.month)
        (UInt32.ofNat date.year) =
      create stationId (UInt32.ofNat date.dayOfYear) (UInt32.ofNat date.year) := by
  have ordinal := date.dayOfYear_le
  have year := date.year_range
  have month := date.month_valid
  have day := le_trans date.day_valid.2 (daysInMonth_le date.year date.month)
  rw [createCalendar, gregorianDate, toNat_toUInt16_ofNat (by omega),
    toNat_toUInt16_ofNat (by omega), toNat_toUInt16_ofNat (by omega), dateOf_self, create,
    toUInt64_ofNat date.dayOfYear (by omega)]

/-- The value of the id of a calendar date. -/
theorem toNat_create_date (stationId : UInt32) (date : GregorianDate) :
    (create stationId (UInt32.ofNat date.dayOfYear) (UInt32.ofNat date.year)).toNat =
      stationId.toNat % 2 ^ 20 + date.year * 2 ^ 21 + date.dayOfYear * 2 ^ 42 := by
  have ordinal := date.dayOfYear_le
  have year := date.year_range
  have day : (UInt32.ofNat date.dayOfYear).toNat = date.dayOfYear :=
    toNat_ofNat (by omega)
  have years : (UInt32.ofNat date.year).toNat = date.year :=
    toNat_ofNat (by omega)
  rw [toNat_create _ _ _ (by omega) (by omega), day, years]

/-- The id of a calendar date identifies the date, and the station below the mask. -/
theorem create_date_injective {stationId stationId' : UInt32} {date date' : GregorianDate}
    (station : stationId.toNat < 2 ^ 20) (station' : stationId'.toNat < 2 ^ 20)
    (same : create stationId (UInt32.ofNat date.dayOfYear) (UInt32.ofNat date.year) =
      create stationId' (UInt32.ofNat date'.dayOfYear) (UInt32.ofNat date'.year)) :
    stationId = stationId' ∧ date = date' := by
  have values := congrArg UInt64.toNat same
  rw [toNat_create_date, toNat_create_date] at values
  have ordinal := date.dayOfYear_le
  have ordinal' := date'.dayOfYear_le
  have year := date.year_range
  have year' := date'.year_range
  have years : date.year = date'.year := by omega
  have ordinals : date.dayOfYear = date'.dayOfYear := by omega
  refine ⟨UInt32.toNat_inj.mp (by omega), ?_⟩
  have dates := Calendar.Date.eq_of_dayOfYear years ordinals
  cases date
  cases date'
  simp_all

/-- The three constructors agree on every calendar date; the id is valid, is positive as a
64-bit signed number, decodes to the date and the masked station, is rebuilt from what it
decodes to, and identifies station and date for stations below the mask. -/
theorem calendar_ids_agree (fromSimpleString : String → Option GregorianDate)
    (reads : ∀ date : GregorianDate, fromSimpleString (toString date.year ++ "-" ++
      toString date.month ++ "-" ++ toString date.day) = some date)
    (stationId : UInt32) (date : GregorianDate) :
    let id := create stationId (UInt32.ofNat date.dayOfYear) (UInt32.ofNat date.year)
    let decoded := ScheduleDay.mk id
    createText fromSimpleString stationId (formatDay date "") = id ∧
      createCalendar stationId (UInt32.ofNat date.day) (UInt32.ofNat date.month)
        (UInt32.ofNat date.year) = id ∧
      decoded.isValid = true ∧ id.toNat < 2 ^ 63 ∧
      decoded.year.toNat = date.year ∧ decoded.day.toNat = date.dayOfYear ∧
      decoded.stationId.toNat = stationId.toNat % 2 ^ 20 ∧
      create decoded.stationId decoded.day decoded.year = id ∧
      (stationId.toNat < 2 ^ 20 → ∀ (stationId' : UInt32) (date' : GregorianDate),
        stationId'.toNat < 2 ^ 20 →
        create stationId' (UInt32.ofNat date'.dayOfYear) (UInt32.ofNat date'.year) = id →
          stationId' = stationId ∧ date' = date) := by
  intro id decoded
  have ordinal := date.dayOfYear_le
  have counted := date.one_le_dayOfYear
  have range := date.year_range
  have day : (UInt32.ofNat date.dayOfYear).toNat = date.dayOfYear :=
    toNat_ofNat (by omega)
  have year : (UInt32.ofNat date.year).toNat = date.year :=
    toNat_ofNat (by omega)
  have value : id.toNat = stationId.toNat % 2 ^ 20 + date.year * 2 ^ 21 +
      date.dayOfYear * 2 ^ 42 := toNat_create_date stationId date
  have station := Nat.mod_lt stationId.toNat (show 2 ^ 20 > 0 by decide)
  have decodedYear : decoded.year = UInt32.ofNat date.year := by
    rw [year_create, and_mask_eq_iff, year]
    omega
  have decodedDay : decoded.day = UInt32.ofNat date.dayOfYear := by
    rw [day_create, year_shift_eq_zero (by omega), UInt32.or_zero, and_mask_eq_iff, day]
    omega
  have decodedStation : decoded.stationId.toNat = stationId.toNat % 2 ^ 20 := by
    rw [stationId_create, toNat_and_mask]
  refine ⟨createText_formatDay reads stationId date, createCalendar_date stationId date, ?_, ?_,
    by rw [decodedYear, year], by rw [decodedDay, day], decodedStation, ?_, ?_⟩
  · have nonzero : id ≠ 0 := by
      intro zero
      rw [zero] at value
      simp only [UInt64.toNat_zero] at value
      omega
    simpa [isValid, decoded] using nonzero
  · omega
  · rw [decodedDay, decodedYear]
    apply (create_eq_iff (by omega) (by omega) (by omega) (by omega)).mpr
    exact ⟨by rw [decodedStation, Nat.mod_mod], rfl, rfl⟩
  · intro below stationId' date' below' same
    obtain ⟨stations, dates⟩ := create_date_injective below' below same
    exact ⟨stations, dates⟩

/-- `from_simple_string` on an unpadded numeric text: year, month and day between dashes. -/
def readSimpleDate (text : String) : Option GregorianDate := do
  let (year, rest) ← Decimal.readNat text.toList
  let rest ← Decimal.readText ['-'] rest
  let (month, rest) ← Decimal.readNat rest
  let rest ← Decimal.readText ['-'] rest
  let (day, rest) ← Decimal.readNat rest
  if rest = [] then dateOf year month day else none

/-- The unpadded text of a date is read back. -/
theorem readSimpleDate_text (date : GregorianDate) :
    readSimpleDate (toString date.year ++ "-" ++ toString date.month ++ "-" ++
      toString date.day) = some date := by
  have dash : "-".toList = ['-'] := rfl
  have year := Decimal.readNat_digits date.year
    (['-'] ++ (Decimal.digits date.month ++ (['-'] ++ Decimal.digits date.day)))
    (by simp)
  have month := Decimal.readNat_digits date.month (['-'] ++ Decimal.digits date.day)
    (by simp)
  have day := Decimal.readNat_digits date.day [] (by simp)
  simp only [List.append_nil] at day
  simp only [readSimpleDate, String.toList_append, Decimal.toList_toString, dash,
    List.append_assoc, year, Decimal.readText_append, month, day, Option.bind_eq_bind,
    Option.bind_some, ↓reduceIte, dateOf_self]

/-- The eighth of May 2016. -/
def may8 : GregorianDate := ⟨⟨2016, 5, 8, by decide, by decide⟩, by decide⟩

/-- The ids of the eighth of May 2016, day 129, with the texts read as above. -/
theorem calendar_ids_agree_may8 :
    createText readSimpleDate 10003 (formatDay may8 "") =
        create 10003 (UInt32.ofNat may8.dayOfYear) (UInt32.ofNat may8.year) ∧
      createCalendar 10003 (UInt32.ofNat may8.day) (UInt32.ofNat may8.month)
          (UInt32.ofNat may8.year) =
        create 10003 (UInt32.ofNat may8.dayOfYear) (UInt32.ofNat may8.year) ∧
      may8.dayOfYear = 129 :=
  have agree := calendar_ids_agree readSimpleDate readSimpleDate_text 10003 may8
  ⟨agree.1, agree.2.1, by decide⟩

end ApiPack2.ScheduleDay
