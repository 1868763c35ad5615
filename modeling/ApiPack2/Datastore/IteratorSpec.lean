import ApiPack2.Datastore.Iterator

/-!
# What the operations of the iterator do

One lemma for each operation, so that no later proof unfolds an operation that another one
calls. `next` has three outcomes, described once in `next_cases`; a query has three, described
in `executeQuery_cases`.
-/

namespace ApiPack2.DatastoreIterator

variable {σ : Type} (pq : Libpq σ)

/-! ## Construction -/

/-- Connecting asks libpq for a connection, and notes an error if it is not usable. -/
theorem createConnection_spec (iter : DatastoreIterator σ) (unconnected : iter.mConnection = none) :
    ∃ mError mWasError, createConnection pq iter =
      { iter with mConnection := pq.connectdb iter.mConnectionString, mError, mWasError } := by
  let connected := { iter with mConnection := pq.connectdb iter.mConnectionString }
  have unfolded : createConnection pq iter =
      if iter.mConnection.isSome then iter
      else if ¬connected.isValid ∨ ¬connected.isConnected pq then
        { connected.setError with
          mError := "Error connecting to PostgreSQL with connection string: " ++
            connected.mConnectionString ++ ": " ++ errorMessage pq connected ++ " " }
      else connected := rfl
  rw [unfolded, unconnected, Option.isSome_none, if_neg Bool.false_ne_true]
  split
  · exact ⟨_, true, rfl⟩
  · exact ⟨iter.mError, iter.mWasError, rfl⟩

/-- A new iterator is ready on the connection it got, with nothing held and no commands. -/
theorem new_spec (connectionString threadId : String) :
    ∃ mError, new pq connectionString threadId =
      { mReference := 0
        mCreator := none
        mError
        mFetchCommand := ""
        mCloseCommand := ""
        mQueryCommand := ""
        mResult := none
        mState := .ready
        mConnection := pq.connectdb connectionString
        mThreadId := threadId
        mConnectionString := connectionString
        mResultOffset := 0
        mWasError := false
        libpq := .empty } := by
  let blank : DatastoreIterator σ :=
    ⟨⟨0, none⟩, "", "", "", "", none, .ready, none, threadId, connectionString, 0, false, .empty⟩
  obtain ⟨mError, mWasError, connected⟩ := createConnection_spec pq blank rfl
  have unfolded : new pq connectionString threadId =
      resetError { createConnection pq blank with mState := .ready } := rfl
  exact ⟨mError, by rw [unfolded, connected]; rfl⟩

/-! ## Commands -/

@[simp]
theorem reply_none (command : String) : reply pq none command = (none, none) := rfl

@[simp]
theorem reply_some (session : σ) (command : String) :
    reply pq (some session) command =
      ((pq.exec session command).1, some (pq.exec session command).2) := rfl

/-- The status `PQresultStatus` reads of a fresh reply. -/
theorem status_PQexec (iter : DatastoreIterator σ) (command : String) :
    (PQexec pq iter command).2.libpq.status (PQexec pq iter command).1 =
      ((reply pq iter.mConnection command).1.map PGresult.status).getD .fatalError :=
  ResultHeap.status_receive ..

/-- A fresh reply completes its command exactly when its status says so. -/
theorem status_commandOk_iff (reply : Option PGresult) :
    (reply.map PGresult.status).getD .fatalError = .commandOk ↔ commandOk reply = true := by
  cases reply <;> simp [commandOk]

/-- A fresh reply carries rows exactly when its status says so. -/
theorem status_tuplesOk_iff (reply : Option PGresult) :
    (reply.map PGresult.status).getD .fatalError = .tuplesOk ↔ tuplesOk reply = true := by
  cases reply <;> simp [tuplesOk]

/-- A FETCH command is a command of a cursor. -/
theorem cursorCommand_fetchCommand (fetchSize : Nat) (topic : Topic) (threadId : String) :
    CursorCommand (fetchCommand fetchSize topic threadId) := by
  rw [fetchCommand, String.append_assoc, String.append_assoc, String.append_assoc,
    String.append_assoc]
  exact .fetch _

/-- A CLOSE command is a command of a cursor. -/
theorem cursorCommand_closeCommand (topic : Topic) (threadId : String) :
    CursorCommand (closeCommand topic threadId) := by
  have closes : "CLOSE cursor_" = "CLOSE " ++ "cursor_" := rfl
  rw [closeCommand, closes, String.append_assoc, String.append_assoc, String.append_assoc]
  exact .close _

/-! ## Closing -/

/-- A closing command runs on the connection, adds its failure to the error flag, and keeps
no result. -/
theorem runClosing_eq (iter : DatastoreIterator σ) (command : String) :
    runClosing pq iter command =
      { iter with
        mConnection := (reply pq iter.mConnection command).2
        mWasError := iter.mWasError || !commandOk (reply pq iter.mConnection command).1
        libpq := iter.libpq.consume command (reply pq iter.mConnection command).1 } := by
  have status := status_PQexec pq iter command
  simp only [runClosing, access, PQclear, ResultHeap.read_status, status]
  by_cases completed : commandOk (reply pq iter.mConnection command).1 = true
  · simp [completed, (status_commandOk_iff _).mpr completed, PQexec, ResultHeap.consume]
  · have failed := mt (status_commandOk_iff _).mp completed
    simp [completed, failed, PQexec, setError, ResultHeap.consume]

/-- A ready iterator has nothing to close. -/
theorem closeAndReset_ready {iter : DatastoreIterator σ} (ready : iter.mState = .ready) :
    closeAndReset pq iter = iter := by
  cases iter
  simp_all [closeAndReset]

/-- Closing clears the held result and runs CLOSE and END; their failures set the error
flag. -/
theorem closeAndReset_opened {iter : DatastoreIterator σ} {session : σ}
    (opened : iter.mState = .opened) (connected : iter.mConnection = some session) :
    closeAndReset pq iter =
      let close := pq.exec session iter.mCloseCommand
      let ended := pq.exec close.2 "END"
      { iter with
        mResult := none
        mState := .ready
        mConnection := some ended.2
        mWasError := iter.mWasError || !commandOk close.1 || !commandOk ended.1
        libpq := ((iter.libpq.clear iter.mResult).consume iter.mCloseCommand close.1).consume
          "END" ended.1 } := by
  simp only [closeAndReset, opened, ↓reduceIte, PQclear, connected, Option.isSome_some,
    runClosing_eq, reply_some]

/-- Without a connection closing only clears the held result. -/
theorem closeAndReset_disconnected {iter : DatastoreIterator σ}
    (opened : iter.mState = .opened) (disconnected : iter.mConnection = none) :
    closeAndReset pq iter =
      { iter with
        mResult := none
        mState := .ready
        libpq := iter.libpq.clear iter.mResult } := by
  simp [closeAndReset, opened, PQclear, disconnected]

/-- Closing always ends ready. -/
@[simp]
theorem closeAndReset_mState (iter : DatastoreIterator σ) :
    (closeAndReset pq iter).mState = .ready := by
  unfold closeAndReset
  split <;> rfl

/-- Closing an open iterator lets go of the held result. -/
theorem closeAndReset_mResult {iter : DatastoreIterator σ} (opened : iter.mState = .opened) :
    (closeAndReset pq iter).mResult = none := by
  cases connected : iter.mConnection with
  | none => rw [closeAndReset_disconnected pq opened connected]
  | some session => rw [closeAndReset_opened pq opened connected]

/-- Closing never touches the reference count and the creator. -/
@[simp]
theorem closeAndReset_tracked (iter : DatastoreIterator σ) :
    (closeAndReset pq iter).toIntrusiveTracked = iter.toIntrusiveTracked := by
  unfold closeAndReset
  split
  · simp only [PQclear, runClosing_eq]
    split <;> rfl
  · rfl

/-- Closing keeps the FETCH command. -/
@[simp]
theorem closeAndReset_mFetchCommand (iter : DatastoreIterator σ) :
    (closeAndReset pq iter).mFetchCommand = iter.mFetchCommand := by
  unfold closeAndReset
  split
  · simp only [PQclear, runClosing_eq]
    split <;> rfl
  · rfl

/-- Closing keeps the CLOSE command. -/
@[simp]
theorem closeAndReset_mCloseCommand (iter : DatastoreIterator σ) :
    (closeAndReset pq iter).mCloseCommand = iter.mCloseCommand := by
  unfold closeAndReset
  split
  · simp only [PQclear, runClosing_eq]
    split <;> rfl
  · rfl

/-- Closing only extends the heap. -/
theorem extends_closeAndReset (iter : DatastoreIterator σ) :
    iter.libpq.Extends (closeAndReset pq iter).libpq := by
  cases opened : iter.mState with
  | ready =>
    rw [closeAndReset_ready pq opened]
    exact .refl _
  | opened =>
    cases connected : iter.mConnection with
    | none =>
      rw [closeAndReset_disconnected pq opened connected]
      exact ResultHeap.extends_clear ..
    | some session =>
      rw [closeAndReset_opened pq opened connected]
      exact ((ResultHeap.extends_clear ..).trans (ResultHeap.extends_consume ..)).trans
        (ResultHeap.extends_consume ..)

/-! ## Fetching -/

/-- The held result has no row left. -/
def Spent (iter : DatastoreIterator σ) : Prop :=
  iter.mResult = none ∨ iter.mResultOffset = (iter.libpq.tuples iter.mResult).length

instance (iter : DatastoreIterator σ) : Decidable iter.Spent :=
  inferInstanceAs (Decidable (_ ∨ _))

/-- A spent result is dropped and the next one fetched, whatever the fetch returns. -/
theorem refill_spent {iter : DatastoreIterator σ} (spent : iter.Spent) :
    refill pq iter =
      let answer := reply pq iter.mConnection iter.mFetchCommand
      { iter with
        mResult := answer.1.map fun _ => iter.libpq.results.length
        mResultOffset := 0
        mConnection := answer.2
        libpq := (((iter.libpq.read iter.mResult none).clear iter.mResult).receive
          iter.mFetchCommand answer.1) } := by
  have needed : iter.mResult = none ∨
      iter.mResultOffset = (iter.libpq.tuples iter.mResult).length := spent
  simp [refill, access, ResultHeap.ntuples_eq, needed, fetchMore, PQclear, PQexec]

/-- The status of the result a spent iterator fetches is that of the reply. -/
theorem refill_status {iter : DatastoreIterator σ} (spent : iter.Spent) :
    (refill pq iter).libpq.status (refill pq iter).mResult =
      ((reply pq iter.mConnection iter.mFetchCommand).1.map PGresult.status).getD .fatalError := by
  have received := ResultHeap.status_receive ((iter.libpq.read iter.mResult none).clear
    iter.mResult) iter.mFetchCommand (reply pq iter.mConnection iter.mFetchCommand).1
  rw [ResultHeap.clear_results, ResultHeap.read_results] at received
  rw [refill_spent pq spent]
  exact received

/-- The rows of the result a spent iterator fetches are those of the reply. -/
theorem refill_tuples {iter : DatastoreIterator σ} (spent : iter.Spent) :
    (refill pq iter).libpq.tuples (refill pq iter).mResult =
      ((reply pq iter.mConnection iter.mFetchCommand).1.map PGresult.tuples).getD [] := by
  have received := ResultHeap.tuples_receive ((iter.libpq.read iter.mResult none).clear
    iter.mResult) iter.mFetchCommand (reply pq iter.mConnection iter.mFetchCommand).1
  rw [ResultHeap.clear_results, ResultHeap.read_results] at received
  rw [refill_spent pq spent]
  exact received

/-- A result with rows left is kept. -/
theorem refill_held {iter : DatastoreIterator σ} (held : ¬iter.Spent) :
    refill pq iter = iter.access iter.mResult none := by
  have kept : ¬(iter.mResult = none ∨
      iter.mResultOffset = (iter.libpq.tuples iter.mResult).length) := held
  simp [refill, access, ResultHeap.ntuples_eq, kept]

/-- The state after a row of the held result has been handed out. -/
def rowTaken (iter : DatastoreIterator σ) : DatastoreIterator σ :=
  { iter with
    mResultOffset := iter.mResultOffset + 1
    libpq := ((iter.libpq.read iter.mResult none).read iter.mResult none).read iter.mResult
      (some iter.mResultOffset) }

/-- The state after the held result has been found to be empty. -/
def rowsCounted (iter : DatastoreIterator σ) : DatastoreIterator σ :=
  (iter.access iter.mResult none).access iter.mResult none

/-- Accessors do not change the row that is handed out. -/
theorem rowObject_access (iter : DatastoreIterator σ) (result : Option ResultId)
    (row : Option Nat) : (iter.access result row).rowObject = iter.rowObject := by
  simp [rowObject, access, ResultHeap.cell]

/-- After the refill `next` hands out a row, or closes at the end of the rows, or closes after
a failed fetch. -/
theorem handOut_cases (held : DatastoreIterator σ) :
    (held.libpq.status held.mResult = .tuplesOk ∧ held.libpq.tuples held.mResult ≠ [] ∧
        handOut pq held = (some held.rowObject, held.rowTaken)) ∨
      (held.libpq.status held.mResult = .tuplesOk ∧ held.libpq.tuples held.mResult = [] ∧
        handOut pq held = (none, closeAndReset pq held.rowsCounted)) ∨
      (held.libpq.status held.mResult ≠ .tuplesOk ∧
        handOut pq held =
          (none, closeAndReset pq (fetchFailed pq (held.access held.mResult none)))) := by
  have status : (held.access held.mResult none).libpq.status held.mResult =
      held.libpq.status held.mResult := ResultHeap.read_status ..
  have count : held.rowsCounted.libpq.ntuples held.mResult =
      (held.libpq.tuples held.mResult).length := by simp [rowsCounted, access]
  have object : (held.rowsCounted.access held.mResult (some held.mResultOffset)).rowObject =
      held.rowObject := by simp [rowObject_access, rowsCounted]
  have unfolded : handOut pq held =
      if (held.access held.mResult none).libpq.status held.mResult ≠ .tuplesOk then
        (none, closeAndReset pq (fetchFailed pq (held.access held.mResult none)))
      else if held.rowsCounted.libpq.ntuples held.mResult = 0 then
        (none, closeAndReset pq held.rowsCounted)
      else (some (held.rowsCounted.access held.mResult (some held.mResultOffset)).rowObject,
        held.rowTaken) := rfl
  rw [status, count, object] at unfolded
  by_cases fetched : held.libpq.status held.mResult = .tuplesOk
  · by_cases empty : held.libpq.tuples held.mResult = []
    · exact .inr (.inl ⟨fetched, empty, by simp [unfolded, fetched, empty]⟩)
    · exact .inl ⟨fetched, empty, by simp [unfolded, fetched, empty]⟩
  · exact .inr (.inr ⟨fetched, by simp [unfolded, fetched]⟩)

/-- The refill only extends the heap. -/
theorem extends_refill (iter : DatastoreIterator σ) :
    iter.libpq.Extends (refill pq iter).libpq := by
  by_cases spent : iter.Spent
  · rw [refill_spent pq spent]
    exact ((ResultHeap.extends_read ..).trans (ResultHeap.extends_clear ..)).trans
      (ResultHeap.extends_receive ..)
  · rw [refill_held pq spent]
    exact ResultHeap.extends_read ..

/-- The three outcomes of `next`, after the refill. -/
theorem next_cases (iter : DatastoreIterator σ) :
    let held := refill pq iter
    (held.libpq.status held.mResult = .tuplesOk ∧ held.libpq.tuples held.mResult ≠ [] ∧
        next pq iter = (some held.rowObject, held.rowTaken)) ∨
      (held.libpq.status held.mResult = .tuplesOk ∧ held.libpq.tuples held.mResult = [] ∧
        next pq iter = (none, closeAndReset pq held.rowsCounted)) ∨
      (held.libpq.status held.mResult ≠ .tuplesOk ∧
        next pq iter =
          (none, closeAndReset pq (fetchFailed pq (held.access held.mResult none)))) :=
  handOut_cases pq (refill pq iter)

/-- Handing out a row, or closing, only extends the heap. -/
theorem extends_handOut (held : DatastoreIterator σ) :
    held.libpq.Extends (handOut pq held).2.libpq := by
  obtain ⟨-, -, handed⟩ | ⟨-, -, handed⟩ | ⟨-, handed⟩ := handOut_cases pq held <;> rw [handed]
  · exact ((ResultHeap.extends_read ..).trans (ResultHeap.extends_read ..)).trans
      (ResultHeap.extends_read ..)
  · exact ((ResultHeap.extends_read ..).trans (ResultHeap.extends_read ..)).trans
      (extends_closeAndReset pq held.rowsCounted)
  · exact (ResultHeap.extends_read ..).trans
      (extends_closeAndReset pq (fetchFailed pq (held.access held.mResult none)))

/-- `next` only extends the heap. -/
theorem extends_next (iter : DatastoreIterator σ) :
    iter.libpq.Extends (next pq iter).2.libpq :=
  (extends_refill pq iter).trans (extends_handOut pq (refill pq iter))

/-- The refill never touches the reference count and the creator. -/
@[simp]
theorem refill_tracked (iter : DatastoreIterator σ) :
    (refill pq iter).toIntrusiveTracked = iter.toIntrusiveTracked := by
  by_cases spent : iter.Spent
  · rw [refill_spent pq spent]
  · rw [refill_held pq spent]
    rfl

/-- `next` never touches the reference count and the creator. -/
@[simp]
theorem next_tracked (iter : DatastoreIterator σ) :
    (next pq iter).2.toIntrusiveTracked = iter.toIntrusiveTracked := by
  have refilled := refill_tracked pq iter
  obtain ⟨-, -, handed⟩ | ⟨-, -, handed⟩ | ⟨-, handed⟩ := next_cases pq iter <;> rw [handed]
  · exact refilled
  · rw [closeAndReset_tracked]
    exact refilled
  · rw [closeAndReset_tracked]
    exact refilled

/-- The refill keeps the state. -/
@[simp]
theorem refill_mState (iter : DatastoreIterator σ) : (refill pq iter).mState = iter.mState := by
  by_cases spent : iter.Spent
  · rw [refill_spent pq spent]
  · rw [refill_held pq spent]
    rfl

/-- `next` never opens the iterator. -/
theorem opened_of_next {iter : DatastoreIterator σ} (opened : (next pq iter).2.mState = .opened) :
    iter.mState = .opened := by
  obtain ⟨-, -, handed⟩ | ⟨-, -, handed⟩ | ⟨-, handed⟩ := next_cases pq iter <;> rw [handed] at opened
  · rw [← refill_mState pq iter]
    exact opened
  · simp at opened
  · simp at opened

/-! ## Querying -/

/-- The state after a successful BEGIN. -/
def begun (iter : DatastoreIterator σ) (topic : Topic) (fetchSize : Nat) :
    DatastoreIterator σ :=
  { iter with
    mResultOffset := 0
    mResult := none
    mState := .opened
    mFetchCommand := fetchCommand fetchSize topic iter.mThreadId
    mCloseCommand := closeCommand topic iter.mThreadId
    mConnection := (reply pq iter.mConnection "BEGIN").2
    libpq := iter.libpq.consume "BEGIN" (reply pq iter.mConnection "BEGIN").1 }

/-- The state after a failed BEGIN, up to the text of the error. -/
def notBegun (iter : DatastoreIterator σ) (mError : String) : DatastoreIterator σ :=
  { iter with
    mResultOffset := 0
    mResult := none
    mError
    mWasError := true
    mConnection := (reply pq iter.mConnection "BEGIN").2
    libpq := iter.libpq.consume "BEGIN" (reply pq iter.mConnection "BEGIN").1 }

/-- The state after a successful DECLARE: its result is read and never cleared. -/
def declared (iter : DatastoreIterator σ) (query : String) : DatastoreIterator σ :=
  { iter with
    mConnection := (reply pq iter.mConnection query).2
    libpq := (iter.libpq.receive query (reply pq iter.mConnection query).1).read
      ((reply pq iter.mConnection query).1.map fun _ => iter.libpq.results.length) none }

/-- The state after a failed DECLARE, before it closes, up to the text of the error. -/
def notDeclared (iter : DatastoreIterator σ) (query mError : String) : DatastoreIterator σ :=
  { iter with
    mError
    mWasError := true
    mConnection := (reply pq iter.mConnection query).2
    libpq := iter.libpq.consume query (reply pq iter.mConnection query).1 }

/-- A query fails to begin, or fails to declare its cursor and closes, or opens it. -/
theorem executeCommand_cases (iter : DatastoreIterator σ) (query : String) (topic : Topic)
    (fetchSize : Nat) :
    let start := begun pq iter topic fetchSize
    (commandOk (reply pq iter.mConnection "BEGIN").1 = false ∧
        ∃ mError, executeCommand pq iter query topic fetchSize = notBegun pq iter mError) ∨
      (commandOk (reply pq iter.mConnection "BEGIN").1 = true ∧
        commandOk (reply pq start.mConnection query).1 = false ∧
        ∃ mError, executeCommand pq iter query topic fetchSize =
          closeAndReset pq (notDeclared pq start query mError)) ∨
      (commandOk (reply pq iter.mConnection "BEGIN").1 = true ∧
        commandOk (reply pq start.mConnection query).1 = true ∧
        executeCommand pq iter query topic fetchSize = declared pq start query) := by
  intro start
  let begin_ := (reply pq iter.mConnection "BEGIN").1
  let declare_ := (reply pq start.mConnection query).1
  have unfolded : executeCommand pq iter query topic fetchSize =
      if ((iter.libpq.receive "BEGIN" begin_).read
          (begin_.map fun _ => iter.libpq.results.length) none).status
          (begin_.map fun _ => iter.libpq.results.length) ≠ .commandOk then
        notBegun pq iter ("Error executing query for topic : " ++ topic.toChar ++
          " : BEGIN command failed " ++ errorMessage pq start)
      else if ((start.libpq.receive query declare_).read
          (declare_.map fun _ => start.libpq.results.length) none).status
          (declare_.map fun _ => start.libpq.results.length) ≠ .commandOk then
        closeAndReset pq (notDeclared pq start query ("Error executing query " ++ query ++ " :  "))
      else declared pq start query := rfl
  simp only [ResultHeap.read_status, ResultHeap.status_receive, ne_eq, status_commandOk_iff]
    at unfolded
  cases beginOk : commandOk begin_ with
  | false => exact .inl ⟨rfl, _, by rw [unfolded, if_pos (by simp [beginOk])]⟩
  | true =>
    cases declareOk : commandOk declare_ with
    | false =>
      refine .inr (.inl ⟨rfl, rfl, "Error executing query " ++ query ++ " :  ", ?_⟩)
      rw [unfolded, if_neg (by simp [beginOk]), if_pos (by simp [declareOk])]
    | true =>
      refine .inr (.inr ⟨rfl, rfl, ?_⟩)
      rw [unfolded, if_neg (by simp [beginOk]), if_neg (by simp [declareOk])]

/-- The state after the command of a query has been built. -/
def prepared (iter : DatastoreIterator σ) (query : Query) : DatastoreIterator σ :=
  { iter with mQueryCommand := query.command iter.mThreadId }

/-- The three outcomes of a query, after its command has been built. -/
theorem executeQuery_cases (iter : DatastoreIterator σ) (query : Query) (fetchSize : Nat) :
    let start := begun pq (prepared iter query) query.topic fetchSize
    let begin_ := reply pq iter.mConnection "BEGIN"
    let declare_ := reply pq begin_.2 (query.command iter.mThreadId)
    (commandOk begin_.1 = false ∧ ∃ mError, executeQuery pq iter query fetchSize =
        notBegun pq (prepared iter query) mError) ∨
      (commandOk begin_.1 = true ∧ commandOk declare_.1 = false ∧
        ∃ mError, executeQuery pq iter query fetchSize =
          closeAndReset pq (notDeclared pq start (query.command iter.mThreadId) mError)) ∨
      (commandOk begin_.1 = true ∧ commandOk declare_.1 = true ∧
        executeQuery pq iter query fetchSize =
          declared pq start (query.command iter.mThreadId)) :=
  executeCommand_cases pq (prepared iter query) (query.command iter.mThreadId) query.topic
    fetchSize

/-- A query never touches the reference count and the creator. -/
@[simp]
theorem executeQuery_tracked (iter : DatastoreIterator σ) (query : Query) (fetchSize : Nat) :
    (executeQuery pq iter query fetchSize).toIntrusiveTracked = iter.toIntrusiveTracked := by
  obtain ⟨-, mError, ended⟩ | ⟨-, -, mError, ended⟩ | ⟨-, -, ended⟩ :=
    executeQuery_cases pq iter query fetchSize <;> rw [ended]
  · rfl
  · rw [closeAndReset_tracked]
    rfl
  · rfl

/-- A query leaves no result held. -/
theorem executeQuery_mResult (iter : DatastoreIterator σ) (query : Query) (fetchSize : Nat) :
    (executeQuery pq iter query fetchSize).mResult = none := by
  obtain ⟨-, mError, ended⟩ | ⟨-, -, mError, ended⟩ | ⟨-, -, ended⟩ :=
    executeQuery_cases pq iter query fetchSize <;> rw [ended]
  · rfl
  · exact closeAndReset_mResult pq rfl
  · rfl

end ApiPack2.DatastoreIterator
