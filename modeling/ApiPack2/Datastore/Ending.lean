import ApiPack2.Datastore.ResultUse

/-!
# After the end of an iteration

`next` decides from the held result and its offset, never from the state of the iterator.
After each way an iteration ends the held result is spent, so one more call sends the FETCH
again, outside of any cursor. Only without a connection does the end last: then nothing can be
sent, and every reply is the null pointer the iteration ended with.
-/

namespace ApiPack2

/-- The command a call sends. -/
def Call.command : Call → Option String
  | .exec command _ => some command
  | .clear _ => none
  | .read .. => none

namespace DatastoreIterator

variable {σ : Type} (pq : Libpq σ)

/-- The commands sent to the server; `PQexec` sends nothing on a null connection. -/
def sent (iter : DatastoreIterator σ) : List String :=
  if iter.mConnection.isSome then iter.libpq.calls.filterMap Call.command else []

/-- A call of `next` that returns a null pointer, sends no command, and leaves the error flag,
the held result and the state. -/
structure Idle (iter : DatastoreIterator σ) : Prop where
  /-- No object is returned. -/
  null : (next pq iter).1 = none
  /-- No command is sent. -/
  sent : (next pq iter).2.sent = iter.sent
  /-- The error flag stays. -/
  hasError : (next pq iter).2.hasError = iter.hasError
  /-- The held result stays. -/
  mResult : (next pq iter).2.mResult = iter.mResult
  /-- The state stays. -/
  mState : (next pq iter).2.mState = iter.mState

variable {iter : DatastoreIterator σ}

/-! ## The connection stays -/

/-- Every result obtained is a reply of the server to some command. -/
def Replied (heap : ResultHeap) : Prop :=
  ∀ result ∈ heap.results, ∃ session command, (pq.exec session command).1 = some result

variable {pq} {heap : ResultHeap}

/-- One more reply is one. -/
theorem Replied.receive (replied : Replied pq heap) (connection : Option σ) (command : String) :
    Replied pq (heap.receive command (reply pq connection command).1) := by
  intro result stored
  rw [ResultHeap.receive_results, List.mem_append, Option.mem_toList] at stored
  rcases stored with before | received
  · exact replied result before
  · cases connection with
    | none => simp at received
    | some session => exact ⟨session, command, received⟩

/-- Reading and clearing obtain nothing. -/
theorem Replied.congr {later : ResultHeap} (replied : Replied pq heap)
    (same : later.results = heap.results) : Replied pq later := by
  rwa [Replied, same]

/-- One more reply is one, also when it is cleared at once. -/
theorem Replied.consume (replied : Replied pq heap) (connection : Option σ) (command : String) :
    Replied pq (heap.consume command (reply pq connection command).1) :=
  (replied.receive connection command).congr (by simp)

variable (pq)

/-- An iteration that ended without a connection: nothing is held, and an error is flagged. -/
structure Over (iter : DatastoreIterator σ) : Prop where
  /-- There is no connection. -/
  connection : iter.mConnection = none
  /-- No result is held. -/
  mResult : iter.mResult = none
  /-- No cursor is open. -/
  mState : iter.mState = .ready
  /-- An error is flagged. -/
  mWasError : iter.mWasError = true

/-- Without a connection `next` ends the iteration. -/
theorem next_disconnected (disconnected : iter.mConnection = none) (unheld : iter.mResult = none) :
    (next pq iter).1 = none ∧ Over (next pq iter).2 := by
  have refilled := refill_spent pq (.inl unheld)
  rw [disconnected, reply_none] at refilled
  have failed : (refill pq iter).libpq.status (refill pq iter).mResult ≠ .tuplesOk := by
    simp [refilled]
  obtain ⟨rows, -, -⟩ | ⟨rows, -, -⟩ | ⟨-, handed⟩ := next_cases pq iter
  · exact absurd rows failed
  · exact absurd rows failed
  · let closing := fetchFailed pq ((refill pq iter).access (refill pq iter).mResult none)
    have connection : closing.mConnection = none := by
      simp [closing, refilled, fetchFailed, setError, access]
    have mResult : closing.mResult = none := by
      simp [closing, refilled, fetchFailed, setError, access]
    rw [handed]
    cases state : closing.mState with
    | ready =>
      rw [closeAndReset_ready pq state]
      exact ⟨rfl, connection, mResult, state, rfl⟩
    | opened =>
      rw [closeAndReset_disconnected pq state connection]
      exact ⟨rfl, connection, rfl, rfl, rfl⟩

/-- An iteration that is over is idle. -/
theorem Over.idle (finished : Over iter) : Idle pq iter := by
  obtain ⟨null, after⟩ := next_disconnected pq finished.connection finished.mResult
  exact {
    null
    sent := by rw [sent, sent, after.connection, finished.connection]; rfl
    hasError := after.mWasError.trans finished.mWasError.symm
    mResult := after.mResult.trans finished.mResult.symm
    mState := after.mState.trans finished.mState.symm }

end DatastoreIterator

namespace System

variable {σ : Type} (pq : Libpq σ)

open DatastoreIterator

/-- The action ends an iteration that the handle points to: `next` returns a null pointer, or
`data` returns a handle to an iterator that is ready. -/
inductive Ends (system : System σ) : ClientAction → Nat → Prop where
  /-- `next` ends it. -/
  | next (index : Nat) (pointed : (system.handle index).isSome = true)
      (null : (system.mDataIter.next pq).1 = none) : Ends system (.next index) index
  /-- It ends as it starts. -/
  | data (query : Query) (accepted : system.mDataIter.isReady = true)
      (ready : (system.data pq query).mDataIter.isReady = true) :
      Ends system (.data query) system.handles.length

/-- Libpq when it cannot allocate a connection. -/
def disconnected : Libpq Postgres.Session :=
  { Postgres.server [] [] with connectdb := fun _ => none }

end System

end ApiPack2
