import ApiPack2.Datastore.IteratorSpec

/-!
# The texts of one query agree

The command of a query is assembled in four places and the commands for its cursor in a fifth.
A query by dates is the query by the texts of the dates, and the cursor that a query declares
is the one that its rows are fetched from and that is closed.
-/

namespace ApiPack2

open ScheduleDay in
/-- A query by dates has the command of the query by the texts of the dates. -/
theorem Query.command_dates (threadId : String) (dateFrom dateTo : GregorianDate)
    (stationIdArray : IdArray) :
    (Query.dates dateFrom dateTo stationIdArray).command threadId =
      (Query.texts (formatDay dateFrom "") (formatDay dateTo "") stationIdArray).command
        threadId := by
  simp only [Query.command, formatDay, String.empty_append, String.append_assoc]

/-- The name of the cursor of a topic, for a thread. -/
def cursorName (topic : Topic) (threadId : String) : String :=
  "cursor_" ++ toString topic.number ++ "_" ++ threadId

/-- A FETCH names the cursor. -/
theorem fetchCommand_eq (fetchSize : Nat) (topic : Topic) (threadId : String) :
    fetchCommand fetchSize topic threadId =
      "FETCH " ++ toString fetchSize ++ " in " ++ cursorName topic threadId := by
  have named : " in cursor_" = " in " ++ "cursor_" := rfl
  simp only [fetchCommand, cursorName, named, String.append_assoc]

/-- A CLOSE names the cursor. -/
theorem closeCommand_eq (topic : Topic) (threadId : String) :
    closeCommand topic threadId = "CLOSE " ++ cursorName topic threadId := by
  have named : "CLOSE cursor_" = "CLOSE " ++ "cursor_" := rfl
  simp only [closeCommand, cursorName, named, String.append_assoc]

/-- The command of a query declares the cursor. -/
theorem Query.command_eq (threadId : String) (query : Query) :
    ∃ rest, query.command threadId =
      "DECLARE " ++ cursorName query.topic threadId ++ " BINARY CURSOR for " ++ rest := by
  have declares : "DECLARE cursor_" = "DECLARE " ++ "cursor_" := rfl
  have general : " BINARY CURSOR for select thrift from catapult.general where id in (" =
      " BINARY CURSOR for " ++ "select thrift from catapult.general where id in (" := rfl
  have days :
    " BINARY CURSOR for select thrift from catapult.schedule_day where schedule_day_id in (" =
      " BINARY CURSOR for " ++
        "select thrift from catapult.schedule_day where schedule_day_id in (" := rfl
  have between :
    " BINARY CURSOR for select thrift from catapult.schedule_day where(day AT TIME ZONE 'UTC'  >='"
      = " BINARY CURSOR for " ++
        "select thrift from catapult.schedule_day where(day AT TIME ZONE 'UTC'  >='" := rfl
  cases query with
  | ids idArray topic =>
    rw [Query.command]
    split
    · obtain ⟨list, appended⟩ := generateStringIdList_appends idArray _
      rw [appended, declares, general]
      simp only [Query.topic, cursorName, String.append_assoc]
      exact ⟨_, rfl⟩
    · obtain ⟨list, appended⟩ := generateLongIdList_appends idArray _
      rw [appended, declares, days]
      simp only [Query.topic, cursorName, String.append_assoc]
      exact ⟨_, rfl⟩
  | texts dateFrom dateTo stationIdArray =>
    obtain ⟨list, appended⟩ := generateLongIdList_appends stationIdArray _
    rw [Query.command, appended, declares, between]
    simp only [Query.topic, cursorName, String.append_assoc]
    exact ⟨_, rfl⟩
  | dates dateFrom dateTo stationIdArray =>
    obtain ⟨list, appended⟩ := generateLongIdList_appends stationIdArray _
    rw [Query.command, appended, declares, between]
    simp only [Query.topic, cursorName, String.append_assoc]
    exact ⟨_, rfl⟩

namespace DatastoreIterator

variable {σ : Type} (pq : Libpq σ)

/-- The commands of the iterator are for one cursor. -/
def OneCursor (iter : DatastoreIterator σ) (fetchSize : Nat) : Prop :=
  ∃ name rest, iter.mQueryCommand = "DECLARE " ++ name ++ " BINARY CURSOR for " ++ rest ∧
    iter.mFetchCommand = "FETCH " ++ toString fetchSize ++ " in " ++ name ∧
    iter.mCloseCommand = "CLOSE " ++ name

/-- Closing keeps the query command. -/
@[simp]
theorem closeAndReset_mQueryCommand (iter : DatastoreIterator σ) :
    (closeAndReset pq iter).mQueryCommand = iter.mQueryCommand := by
  unfold closeAndReset
  split
  · simp only [PQclear, runClosing_eq]
    split <;> rfl
  · rfl

/-- An iterator with the commands of a query has those of one cursor. -/
theorem oneCursor_of_commands {iter : DatastoreIterator σ} {query : Query} {fetchSize : Nat}
    {threadId : String} (declares : iter.mQueryCommand = query.command threadId)
    (fetches : iter.mFetchCommand = fetchCommand fetchSize query.topic threadId)
    (closes : iter.mCloseCommand = closeCommand query.topic threadId) :
    OneCursor iter fetchSize := by
  obtain ⟨rest, command⟩ := query.command_eq threadId
  refine ⟨cursorName query.topic threadId, rest, declares.trans command, ?_, ?_⟩
  · rw [fetches, fetchCommand_eq]
  · rw [closes, closeCommand_eq]

/-- A query that begins builds the commands of one cursor, and one that does not begin builds
none. -/
theorem executeQuery_oneCursor (iter : DatastoreIterator σ) (query : Query) (fetchSize : Nat) :
    (commandOk (reply pq iter.mConnection "BEGIN").1 = false ∧
        (executeQuery pq iter query fetchSize).mFetchCommand = iter.mFetchCommand ∧
        (executeQuery pq iter query fetchSize).mCloseCommand = iter.mCloseCommand) ∨
      OneCursor (executeQuery pq iter query fetchSize) fetchSize := by
  obtain ⟨failed, mError, ended⟩ | ⟨-, -, mError, ended⟩ | ⟨-, -, ended⟩ :=
    executeQuery_cases pq iter query fetchSize
  · left
    rw [ended]
    exact ⟨failed, rfl, rfl⟩
  · right
    rw [ended]
    have declares := closeAndReset_mQueryCommand pq (notDeclared pq
      (begun pq (prepared iter query) query.topic fetchSize) (query.command iter.mThreadId) mError)
    have fetches := closeAndReset_mFetchCommand pq (notDeclared pq
      (begun pq (prepared iter query) query.topic fetchSize) (query.command iter.mThreadId) mError)
    have closes := closeAndReset_mCloseCommand pq (notDeclared pq
      (begun pq (prepared iter query) query.topic fetchSize) (query.command iter.mThreadId) mError)
    exact oneCursor_of_commands declares fetches closes
  · right
    rw [ended]
    have declares : (declared pq (begun pq (prepared iter query) query.topic fetchSize)
        (query.command iter.mThreadId)).mQueryCommand = query.command iter.mThreadId := rfl
    exact oneCursor_of_commands declares rfl rfl

/-- For every iterator and any server: a query by dates and the query by the texts that
`formatDay` makes of them send the same commands with the same outcome, and whatever is asked
for, the cursor declared is the one fetched from and closed. -/
theorem date_queries_agree :
    (∀ (iter : DatastoreIterator σ) (dateFrom dateTo : GregorianDate) (stationIdArray : IdArray)
      (fetchSize : Nat),
      executeQuery pq iter (.dates dateFrom dateTo stationIdArray) fetchSize =
        executeQuery pq iter (.texts (ScheduleDay.formatDay dateFrom "")
          (ScheduleDay.formatDay dateTo "") stationIdArray) fetchSize) ∧
      ∀ (iter : DatastoreIterator σ) (query : Query) (fetchSize : Nat),
        (commandOk (reply pq iter.mConnection "BEGIN").1 = false ∧
            (executeQuery pq iter query fetchSize).mFetchCommand = iter.mFetchCommand ∧
            (executeQuery pq iter query fetchSize).mCloseCommand = iter.mCloseCommand) ∨
          OneCursor (executeQuery pq iter query fetchSize) fetchSize := by
  constructor
  · intro iter dateFrom dateTo stationIdArray fetchSize
    have command := Query.command_dates iter.mThreadId dateFrom dateTo stationIdArray
    rw [executeQuery, executeQuery, command]
    rfl
  · exact executeQuery_oneCursor pq

end DatastoreIterator

end ApiPack2
