import ApiPack2.Datastore.ScheduleDay

/-!
# Topics and the commands of a query

The texts the iterator sends: the DECLARE command of each way to ask for data, and the FETCH
and CLOSE commands for the cursor it declares. They are assembled piece by piece, in the
order of the `toAppend` calls of the source; an enumeration value is appended as its number.
-/

namespace ApiPack2

/-- `Topic`. -/
inductive Topic where
  | metamorphosisStation
  | metamorphosisLinuep
  | metamorphosisImage
  | metamorphosisPerson
  | metamorphosisProgramTmsId
  | metamorphosisAffiliation
  | metamorphosisMarket
  | metamorphosisScheduleDay
  | metamorphosisProvider
  | metamorphosisHeadend
  | metamorphosisRatingBody
  | metamorphosisRatingValue
  | metamorphosisAnimation
  | metamorphosisAwardType
  | metamorphosisAwardBody
  | metamorphosisGenre
  | metamorphosisProductionCompany
  | metamorphosisAdvisory
  | metamorphosisHoliday
  | metamorphosisPlayoff
  | metamorphosisTeam
  | metamorphosisVenue
  | metamorphosisWarning
  | metamorphosisConference
  | metamorphosisUniversity
  deriving DecidableEq

/-- `TopicConversion::toChar`. -/
def Topic.toChar : Topic → String
  | .metamorphosisStation => "metamorphosis.station"
  | .metamorphosisLinuep => "metamorphosis.lineup"
  | .metamorphosisImage => "metamorphosis.image"
  | .metamorphosisPerson => "metamorphosis.person"
  | .metamorphosisProgramTmsId => "metamorphosis.program.tmsId"
  | .metamorphosisAffiliation => "metamorphosis.affiliation"
  | .metamorphosisMarket => "metamorphosis.market"
  | .metamorphosisScheduleDay => "metamorphosis.schedule.day"
  | .metamorphosisProvider => "metamorphosis.provider"
  | .metamorphosisHeadend => "metamorphosis.headend"
  | .metamorphosisRatingBody => "metamorphosis.rating.body"
  | .metamorphosisRatingValue => "metamorphosis.rating.value"
  | .metamorphosisAnimation => "metamorphosis.animation"
  | .metamorphosisAwardType => "metamorphosis.award.type"
  | .metamorphosisAwardBody => "metamorphosis.award.body"
  | .metamorphosisGenre => "metamorphosis.genre"
  | .metamorphosisProductionCompany => "metamorphosis.production.company"
  | .metamorphosisAdvisory => "metamorphosis.advisory"
  | .metamorphosisHoliday => "metamorphosis.holiday"
  | .metamorphosisPlayoff => "metamorphosis.playoff"
  | .metamorphosisTeam => "metamorphosis.team"
  | .metamorphosisVenue => "metamorphosis.venue"
  | .metamorphosisWarning => "metamorphosis.warning"
  | .metamorphosisConference => "metamorphosis.conference"
  | .metamorphosisUniversity => "metamorphosis.university"

/-- The number `toAppend` writes for a topic, its position in the enumeration. -/
def Topic.number (topic : Topic) : Nat := topic.ctorIdx

/-- `IdArray`. -/
abbrev IdArray := List UInt64

/-- `DatastoreIterator::generateStringIdList`: append the ids quoted, with a comma after each
but the last. -/
def generateStringIdList : IdArray → String → String
  | [], string => string
  | [curr], string => string ++ "'" ++ toString curr.toNat ++ "'"
  | curr :: ids, string =>
    generateStringIdList ids (string ++ "'" ++ toString curr.toNat ++ "',")

/-- `DatastoreIterator::generateLongIdList`: append the ids, with a comma after each but the
last. -/
def generateLongIdList : IdArray → String → String
  | [], string => string
  | [curr], string => string ++ toString curr.toNat
  | curr :: ids, string => generateLongIdList ids (string ++ toString curr.toNat ++ ",")

/-- The arguments of the three overloads of `Datastore::data` and of
`DatastoreIterator::executeQuery`. -/
inductive Query where
  /-- Objects of a topic by their ids. -/
  | ids (idArray : IdArray) (topic : Topic)
  /-- Schedule days of stations between two dates given as texts. -/
  | texts (dateFrom dateTo : String) (stationIdArray : IdArray)
  /-- Schedule days of stations between two Gregorian dates. -/
  | dates (dateFrom dateTo : GregorianDate) (stationIdArray : IdArray)

/-- The topic a query runs under. -/
def Query.topic : Query → Topic
  | .ids _ topic => topic
  | .texts .. => .metamorphosisScheduleDay
  | .dates .. => .metamorphosisScheduleDay

/-- `mQueryCommand` as `executeQuery` builds it for the thread. -/
def Query.command (threadId : String) : Query → String
  | .ids idArray topic =>
    if topic ≠ .metamorphosisScheduleDay then
      generateStringIdList idArray ("DECLARE cursor_" ++ toString topic.number ++ "_" ++ threadId ++
        " BINARY CURSOR for select thrift from catapult.general where id in (") ++
        " ) and topic='" ++ topic.toChar ++ "'"
    else
      generateLongIdList idArray ("DECLARE cursor_" ++ toString topic.number ++ "_" ++ threadId ++
        " BINARY CURSOR for select thrift from catapult.schedule_day where schedule_day_id in (")
        ++ " ) "
  | .texts dateFrom dateTo stationIdArray =>
    generateLongIdList stationIdArray ("DECLARE cursor_" ++
      toString Topic.metamorphosisScheduleDay.number ++ "_" ++ threadId ++
      " BINARY CURSOR for select thrift from catapult.schedule_day where(day AT TIME ZONE 'UTC'  >='"
      ++ dateFrom ++ "' and day  AT TIME ZONE 'UTC'<='" ++ dateTo ++ "' ) and station in (") ++
      " ) order by station,day "
  | .dates dateFrom dateTo stationIdArray =>
    generateLongIdList stationIdArray ("DECLARE cursor_" ++
      toString Topic.metamorphosisScheduleDay.number ++ "_" ++ threadId ++
      " BINARY CURSOR for select thrift from catapult.schedule_day where(day AT TIME ZONE 'UTC'  >='"
      ++ toString dateFrom.year ++ "-" ++ toString dateFrom.month ++ "-" ++
      toString dateFrom.day ++ "' and day  AT TIME ZONE 'UTC'<='" ++ toString dateTo.year ++
      "-" ++ toString dateTo.month ++ "-" ++ toString dateTo.day ++ "' ) and station in (") ++
      " ) order by station,day "

/-- `mFetchCommand` as `executeQuery` builds it. -/
def fetchCommand (fetchSize : Nat) (topic : Topic) (threadId : String) : String :=
  "FETCH " ++ toString fetchSize ++ " in cursor_" ++ toString topic.number ++ "_" ++ threadId

/-- `mCloseCommand` as `executeQuery` builds it. -/
def closeCommand (topic : Topic) (threadId : String) : String :=
  "CLOSE cursor_" ++ toString topic.number ++ "_" ++ threadId

/-- The quoted id list only appends to the text before it. -/
theorem generateStringIdList_appends (ids : IdArray) (string : String) :
    ∃ list, generateStringIdList ids string = string ++ list := by
  fun_induction generateStringIdList ids string with
  | case1 string => exact ⟨"", by simp⟩
  | case2 curr string =>
    exact ⟨"'" ++ toString curr.toNat ++ "'", by simp only [String.append_assoc]⟩
  | case3 curr ids string notLast ih =>
    obtain ⟨list, appended⟩ := ih
    exact ⟨"'" ++ toString curr.toNat ++ "'," ++ list, by
      rw [appended]; simp only [String.append_assoc]⟩

/-- The bare id list only appends to the text before it. -/
theorem generateLongIdList_appends (ids : IdArray) (string : String) :
    ∃ list, generateLongIdList ids string = string ++ list := by
  fun_induction generateLongIdList ids string with
  | case1 string => exact ⟨"", by simp⟩
  | case2 curr string => exact ⟨toString curr.toNat, rfl⟩
  | case3 curr ids string notLast ih =>
    obtain ⟨list, appended⟩ := ih
    exact ⟨toString curr.toNat ++ "," ++ list, by rw [appended]; simp only [String.append_assoc]⟩

/-- Every query command declares a cursor. -/
theorem Query.command_declares (threadId : String) (query : Query) :
    ∃ rest, query.command threadId = "DECLARE " ++ rest := by
  have declares : "DECLARE cursor_" = "DECLARE " ++ "cursor_" := rfl
  cases query with
  | ids idArray topic =>
    simp only [Query.command]
    split
    · obtain ⟨list, appended⟩ := generateStringIdList_appends idArray _
      rw [appended, declares]
      simp only [String.append_assoc]
      exact ⟨_, rfl⟩
    · obtain ⟨list, appended⟩ := generateLongIdList_appends idArray _
      rw [appended, declares]
      simp only [String.append_assoc]
      exact ⟨_, rfl⟩
  | texts dateFrom dateTo stations =>
    obtain ⟨list, appended⟩ := generateLongIdList_appends stations _
    rw [Query.command, appended, declares]
    simp only [String.append_assoc]
    exact ⟨_, rfl⟩
  | dates dateFrom dateTo stations =>
    obtain ⟨list, appended⟩ := generateLongIdList_appends stations _
    rw [Query.command, appended, declares]
    simp only [String.append_assoc]
    exact ⟨_, rfl⟩

end ApiPack2
