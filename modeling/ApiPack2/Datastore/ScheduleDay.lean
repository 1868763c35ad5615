import ApiPack2.Lib.BitField
import ApiPack2.Lib.Calendar
import ApiPack2.Lib.Decimal

/-!
# Packed schedule day ids

`ScheduleDay` packs a station, the ordinal of a day and a year into one 64-bit id. Each
component has a slot of `mPackWidth` bits, the station lowest and the day highest, but the
mask that clears and reads a slot has one bit less. The three `create` functions are
translated statement by statement, with the dates of Boost as `GregorianDate` and its reader
of date texts as a parameter.
-/

namespace ApiPack2

/-- `boost::gregorian::date`: a proleptic Gregorian date of the years Boost supports. -/
structure GregorianDate extends Calendar.Date where
  /-- The year is in the supported range. -/
  year_range : 1400 ≤ year ∧ year ≤ 9999
  deriving DecidableEq

/-- The date with these numbers, none when there is no such date in the supported range. -/
def dateOf (year month day : Nat) : Option GregorianDate :=
  if valid : (1400 ≤ year ∧ year ≤ 9999) ∧ (1 ≤ month ∧ month ≤ 12) ∧
      (1 ≤ day ∧ day ≤ Calendar.daysInMonth year month) then
    some ⟨⟨year, month, day, valid.2.1, valid.2.2⟩, valid.1⟩
  else none

/-- `boost::gregorian::date::date(year, month, day)`, none when it throws
`std::out_of_range`. Its parameters are unsigned short values. -/
def gregorianDate (year month day : UInt16) : Option GregorianDate :=
  dateOf year.toNat month.toNat day.toNat

/-- The numbers of a date give that date. -/
theorem dateOf_self (date : GregorianDate) :
    dateOf date.year date.month date.day = some date := by
  simp [dateOf, date.year_range, date.month_valid, date.day_valid]

/-- `ScheduleDay`: a packed id. -/
structure ScheduleDay where
  /-- The compound id. -/
  mId : UInt64
  deriving DecidableEq

namespace ScheduleDay

/-- `ScheduleDay::mPackWidth`, the bits of a slot. -/
def mPackWidth : UInt64 := 21

/-- `ScheduleDay::mPackedMask`, the mask of a slot. -/
def mPackedMask : UInt64 := 0xFFFFF

/-- `ScheduleDay::stationId`. -/
def stationId (day : ScheduleDay) : UInt32 := (day.mId &&& mPackedMask).toUInt32

/-- `ScheduleDay::day`. -/
def day (day : ScheduleDay) : UInt32 :=
  ((day.mId >>> (mPackWidth * 2)) &&& mPackedMask).toUInt32

/-- `ScheduleDay::year`. -/
def year (day : ScheduleDay) : UInt32 :=
  ((day.mId >>> mPackWidth) &&& mPackedMask).toUInt32

/-- `ScheduleDay::id`. -/
def id (day : ScheduleDay) : UInt64 := day.mId

/-- `ScheduleDay::isValid`. -/
def isValid (day : ScheduleDay) : Bool := day.mId != 0

/-- `ScheduleDay::create(stationId, day, year)`. -/
def create (stationId day year : UInt32) : UInt64 :=
  let val := stationId.toUInt64 &&& mPackedMask
  let val := (val &&& ~~~(mPackedMask <<< (mPackWidth * 2))) |||
    (day.toUInt64 <<< (mPackWidth * 2))
  (val &&& ~~~(mPackedMask <<< mPackWidth)) ||| (year.toUInt64 <<< mPackWidth)

/-- `ScheduleDay::create(stationId, day, month, year)`. The constructor of the date takes
unsigned short values; the year that is packed is the argument. -/
def createCalendar (stationId day month year : UInt32) : UInt64 :=
  match gregorianDate year.toUInt16 month.toUInt16 day.toUInt16 with
  | none => 0
  | some d =>
    let val := stationId.toUInt64 &&& mPackedMask
    let val := (val &&& ~~~(mPackedMask <<< (mPackWidth * 2))) |||
      (UInt64.ofNat d.dayOfYear <<< (mPackWidth * 2))
    (val &&& ~~~(mPackedMask <<< mPackWidth)) ||| (year.toUInt64 <<< mPackWidth)

/-- `ScheduleDay::create(stationId, date)`, over Boost's `from_simple_string`, which throws
on a text it cannot read. The year that is packed is the year of the date read. -/
def createText (fromSimpleString : String → Option GregorianDate) (stationId : UInt32)
    (date : String) : UInt64 :=
  match fromSimpleString date with
  | none => 0
  | some d =>
    let val := stationId.toUInt64 &&& mPackedMask
    let val := (val &&& ~~~(mPackedMask <<< (mPackWidth * 2))) |||
      (UInt64.ofNat d.dayOfYear <<< (mPackWidth * 2))
    (val &&& ~~~(mPackedMask <<< mPackWidth)) ||| (UInt64.ofNat d.year <<< mPackWidth)

/-- `ScheduleDay::formatDay`: append the unpadded year, month and day to the buffer. -/
def formatDay (day : GregorianDate) (buffer : String) : String :=
  buffer ++ toString day.year ++ "-" ++ toString day.month ++ "-" ++ toString day.day

end ScheduleDay

end ApiPack2
