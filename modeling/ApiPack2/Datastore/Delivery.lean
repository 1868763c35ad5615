import ApiPack2.Datastore.IteratorSpec
import ApiPack2.Datastore.Postgres

/-!
# Delivery of the rows of a cursor

The rows an open iterator still owes are those left in the held result, followed by those
the cursor has not handed to it yet. Each call of `next` takes the first of them, whether it
reads the held result or fetches, and ends the iteration when none is left or a fetch fails.
By induction on the rows owed, calling `next` until it returns a null pointer delivers all of
them, or those before the failed fetch.
-/

namespace ApiPack2

/-- A column as a client reads it: length and bytes, or size zero and a null pointer. -/
def cellView : Cell → Nat × Option (List UInt8)
  | none => (0, none)
  | some value => (value.length, some value)

/-- A data object as a client reads it through the results libpq holds. -/
def DataObject.view (heap : ResultHeap) (object : DataObject) : Nat × Option (List UInt8) :=
  (object.sizeInBytes, object.thriftObject.bind fun ptr => heap.cell (some ptr.result) ptr.row)

/-- Whether each FETCH among the calls succeeded, in order. -/
def fetchOutcomes (command : String) (calls : List Call) : List Bool :=
  calls.filterMap fun
    | .exec sent reply => if sent = command then some (tuplesOk reply) else none
    | _ => none

/-- The FETCH commands of two stretches of calls follow each other. -/
theorem fetchOutcomes_append (command : String) (first second : List Call) :
    fetchOutcomes command (first ++ second) =
      fetchOutcomes command first ++ fetchOutcomes command second :=
  List.filterMap_append

/-- Clearing sends no command. -/
@[simp]
theorem fetchOutcomes_clear (command : String) (heap : ResultHeap) (result : Option ResultId) :
    fetchOutcomes command (heap.clear result).calls = fetchOutcomes command heap.calls := by
  cases result <;> simp [ResultHeap.clear, ResultHeap.record, fetchOutcomes]

/-- Reading sends no command. -/
@[simp]
theorem fetchOutcomes_read (command : String) (heap : ResultHeap) (result : Option ResultId)
    (row : Option Nat) :
    fetchOutcomes command (heap.read result row).calls = fetchOutcomes command heap.calls := by
  cases result <;> simp [ResultHeap.read, ResultHeap.record, fetchOutcomes]

/-- The outcome of a FETCH is noted. -/
theorem fetchOutcomes_receive_self (command : String) (heap : ResultHeap)
    (reply : Option PGresult) :
    fetchOutcomes command (heap.receive command reply).calls =
      fetchOutcomes command heap.calls ++ [tuplesOk reply] := by
  simp [ResultHeap.receive, fetchOutcomes]

/-- Other commands are not FETCH commands. -/
theorem fetchOutcomes_consume_ne {command sent : String} (other : sent ≠ command)
    (heap : ResultHeap) (reply : Option PGresult) :
    fetchOutcomes command (heap.consume sent reply).calls =
      fetchOutcomes command heap.calls := by
  rw [ResultHeap.consume, fetchOutcomes_clear, fetchOutcomes_read]
  simp [ResultHeap.receive, fetchOutcomes, other]

/-- A FETCH command is no CLOSE command. -/
theorem closeCommand_ne_fetchCommand (topic : Topic) (threadId : String) (fetchSize : Nat)
    (topic' : Topic) (threadId' : String) :
    closeCommand topic threadId ≠ fetchCommand fetchSize topic' threadId' :=
  Decimal.ne_of_head (by simp [closeCommand, fetchCommand])

/-- A FETCH command is not END. -/
theorem end_ne_fetchCommand (fetchSize : Nat) (topic : Topic) (threadId : String) :
    "END" ≠ fetchCommand fetchSize topic threadId :=
  Decimal.ne_of_head (by simp [fetchCommand])

namespace DatastoreIterator

variable {σ : Type} (pq : Libpq σ)

/-- Call `next` until it returns a null pointer, reading each object as it is returned; none
when the calls allowed run out first. -/
def collect : Nat → DatastoreIterator σ →
    Option (List (Nat × Option (List UInt8)) × DatastoreIterator σ)
  | 0, _ => none
  | calls + 1, iter =>
    match next pq iter with
    | (none, iter) => some ([], iter)
    | (some object, iter) =>
      (collect calls iter).map fun (delivered, finished) =>
        (object.view iter.libpq :: delivered, finished)

variable (inTransaction : σ → Bool) (rest : σ → List Cell)

/-- Rows of the held result that have not been handed out. -/
def heldRows (iter : DatastoreIterator σ) : List Cell :=
  (iter.libpq.tuples iter.mResult).drop iter.mResultOffset

/-- The iterator is in the middle of a query: its cursor is open in a transaction block, its
commands name that cursor, and it holds no result or one with rows status. -/
structure Fetching (fetchSize : Nat) (topic : Topic) (iter : DatastoreIterator σ)
    (session : σ) : Prop where
  /-- A cursor is open. -/
  opened : iter.mState = .opened
  /-- There is a connection. -/
  connected : iter.mConnection = some session
  /-- The session is inside a transaction block. -/
  inside : inTransaction session = true
  /-- The FETCH command is that of the cursor. -/
  fetch : iter.mFetchCommand = fetchCommand fetchSize topic iter.mThreadId
  /-- The CLOSE command is that of the cursor. -/
  close : iter.mCloseCommand = closeCommand topic iter.mThreadId
  /-- A held result has rows status. -/
  status : iter.mResult ≠ none → iter.libpq.status iter.mResult = .tuplesOk
  /-- The offset is inside the held result. -/
  offset : iter.mResultOffset ≤ (iter.libpq.tuples iter.mResult).length

variable {pq inTransaction rest}

/-- The object of a row reads as that row. -/
theorem view_rowObject {iter : DatastoreIterator σ} {cell : Cell} {cells : List Cell}
    (held : iter.heldRows = cell :: cells) {heap : ResultHeap}
    (same : heap.results = iter.libpq.results) :
    iter.rowObject.view heap = cellView cell := by
  have first : (iter.libpq.tuples iter.mResult)[iter.mResultOffset]? = some cell := by
    rw [← List.head?_drop]
    exact congrArg List.head? held
  have present : iter.mResult ≠ none := by
    intro missing
    simp [heldRows, missing] at held
  obtain ⟨result, pointer⟩ := Option.ne_none_iff_exists'.mp present
  have read : heap.cell iter.mResult iter.mResultOffset = cell := by
    rw [ResultHeap.cell, ResultHeap.tuples_congr same, first, Option.getD_some]
  have readHere : iter.libpq.cell iter.mResult iter.mResultOffset = cell := by
    rw [ResultHeap.cell, first, Option.getD_some]
  rw [pointer] at read
  rw [rowObject, readHere, pointer]
  cases cell with
  | none => rfl
  | some value => simp [DataObject.view, cellView, read]

variable (pq) in
/-- With a row held, the second statement of `next` hands it out. -/
theorem handOut_row {fetchSize : Nat} {topic : Topic} {iter : DatastoreIterator σ} {session : σ}
    (fetching : Fetching inTransaction fetchSize topic iter session) {cell : Cell}
    {cells : List Cell} (held : iter.heldRows = cell :: cells) :
    handOut pq iter = (some iter.rowObject, iter.rowTaken) ∧
      iter.rowObject.view iter.rowTaken.libpq = cellView cell ∧
      iter.rowTaken.heldRows = cells ∧
      Fetching inTransaction fetchSize topic iter.rowTaken session := by
  have inside : iter.mResultOffset < (iter.libpq.tuples iter.mResult).length := by
    by_contra outside
    simp [heldRows, List.drop_eq_nil_of_le (Nat.le_of_not_lt outside)] at held
  have present : iter.mResult ≠ none := by
    intro missing
    simp [missing] at inside
  have status := fetching.status present
  have nonempty : iter.libpq.tuples iter.mResult ≠ [] :=
    List.ne_nil_of_length_pos (Nat.lt_of_le_of_lt (Nat.zero_le _) inside)
  refine ⟨?_, view_rowObject held (by simp [rowTaken]), ?_, ?_⟩
  · obtain ⟨-, -, handed⟩ | ⟨-, empty, -⟩ | ⟨failed, -⟩ := handOut_cases pq iter
    · exact handed
    · exact absurd empty nonempty
    · exact absurd status failed
  · have tail := congrArg List.tail held
    simpa [heldRows, rowTaken, List.tail_drop] using tail
  · exact ⟨fetching.opened, fetching.connected, fetching.inside, fetching.fetch, fetching.close,
      fun _ => by simpa [rowTaken] using status, by
        simp only [rowTaken, ResultHeap.read_tuples]
        exact inside⟩

/-- The held result is spent exactly when no row of it is left. -/
theorem spent_iff {fetchSize : Nat} {topic : Topic} {iter : DatastoreIterator σ} {session : σ}
    (fetching : Fetching inTransaction fetchSize topic iter session) :
    iter.Spent ↔ iter.heldRows = [] := by
  rw [heldRows, List.drop_eq_nil_iff]
  constructor
  · rintro (missing | used)
    · simp [missing]
    · exact used.ge
  · exact fun used => .inr (Nat.le_antisymm fetching.offset used)

variable (pq) in
/-- While a row is held, `next` hands it out without a command and owes one row less. -/
theorem next_held {fetchSize : Nat} {topic : Topic} {iter : DatastoreIterator σ} {session : σ}
    (fetching : Fetching inTransaction fetchSize topic iter session) {cell : Cell}
    {cells : List Cell} (held : iter.heldRows = cell :: cells) :
    ∃ object after, next pq iter = (some object, after) ∧
      object.view after.libpq = cellView cell ∧ after.heldRows = cells ∧
      Fetching inTransaction fetchSize topic after session ∧
      after.mFetchCommand = iter.mFetchCommand ∧ after.mWasError = iter.mWasError ∧
      fetchOutcomes iter.mFetchCommand after.libpq.calls =
        fetchOutcomes iter.mFetchCommand iter.libpq.calls := by
  have kept : ¬iter.Spent := by simp [spent_iff fetching, held]
  let counted := iter.access iter.mResult none
  have refilled : refill pq iter = counted := refill_held pq kept
  have counting : Fetching inTransaction fetchSize topic counted session :=
    ⟨fetching.opened, fetching.connected, fetching.inside, fetching.fetch, fetching.close,
      fun present => by simpa [counted, access] using fetching.status present,
      by simpa [counted, access] using fetching.offset⟩
  have same : counted.heldRows = cell :: cells := by simpa [counted, heldRows, access] using held
  obtain ⟨handed, viewed, left, still⟩ := handOut_row pq counting same
  exact ⟨_, _, by rw [next, refilled, handed], viewed, left, still, rfl, rfl,
    by simp [rowTaken, counted, access]⟩

/-- When no row is held, the result that the FETCH returns becomes the held one. -/
theorem refill_answer {fetchSize : Nat} {topic : Topic} {iter : DatastoreIterator σ}
    {session : σ} (fetching : Fetching inTransaction fetchSize topic iter session)
    (spent : iter.heldRows = []) {result : PGresult}
    (answer : (pq.exec session iter.mFetchCommand).1 = some result) :
    refill pq iter =
        { iter with
          mResult := some iter.libpq.results.length
          mResultOffset := 0
          mConnection := some (pq.exec session iter.mFetchCommand).2
          libpq := ((iter.libpq.read iter.mResult none).clear iter.mResult).receive
            iter.mFetchCommand (some result) } ∧
      (refill pq iter).libpq.status (refill pq iter).mResult = result.status ∧
      (refill pq iter).libpq.tuples (refill pq iter).mResult = result.tuples := by
  have used := (spent_iff fetching).mpr spent
  have refilled := refill_spent pq used
  have status := refill_status pq used
  have received := refill_tuples pq used
  rw [fetching.connected, reply_some, answer] at refilled status received
  exact ⟨refilled, status, received⟩

/-- When no row is held, a FETCH that returns rows hands out the first of them. -/
theorem next_fetched {fetchSize : Nat} {topic : Topic} {iter : DatastoreIterator σ}
    {session : σ} (fetching : Fetching inTransaction fetchSize topic iter session)
    (spent : iter.heldRows = []) {result : PGresult}
    (answer : (pq.exec session iter.mFetchCommand).1 = some result)
    (ok : result.status = .tuplesOk)
    (inside : inTransaction (pq.exec session iter.mFetchCommand).2 = true) {cell : Cell}
    {cells : List Cell} (rows : result.tuples = cell :: cells) :
    ∃ object after, next pq iter = (some object, after) ∧
      object.view after.libpq = cellView cell ∧ after.heldRows = cells ∧
      Fetching inTransaction fetchSize topic after (pq.exec session iter.mFetchCommand).2 ∧
      after.mFetchCommand = iter.mFetchCommand ∧ after.mWasError = iter.mWasError ∧
      fetchOutcomes iter.mFetchCommand after.libpq.calls =
        fetchOutcomes iter.mFetchCommand iter.libpq.calls ++ [true] := by
  obtain ⟨refilled, status, received⟩ := refill_answer fetching spent answer
  have refetched : Fetching inTransaction fetchSize topic (refill pq iter)
      (pq.exec session iter.mFetchCommand).2 := by
    have counted := status.trans ok
    rw [refilled] at counted ⊢
    exact ⟨fetching.opened, rfl, inside, fetching.fetch, fetching.close,
      fun _ => counted, Nat.zero_le _⟩
  have held : (refill pq iter).heldRows = cell :: cells := by
    have listed := received.trans rows
    rw [refilled] at listed ⊢
    exact listed
  obtain ⟨handed, viewed, left, still⟩ := handOut_row pq refetched held
  refine ⟨_, _, by rw [next, handed], viewed, left, still, ?_, ?_, ?_⟩
  · rw [refilled]
    rfl
  · rw [refilled]
    rfl
  · rw [refilled]
    simp [rowTaken, fetchOutcomes_receive_self, tuplesOk, ok]

variable (pq) in
/-- A closed iterator holds no result and has sent CLOSE and END. -/
theorem closeAndReset_fetching (fetchSize : Nat) (topic : Topic) (iter : DatastoreIterator σ)
    (session : σ) (opened : iter.mState = .opened) (connected : iter.mConnection = some session)
    (close : iter.mCloseCommand = closeCommand topic iter.mThreadId) (threadId : String) :
    (closeAndReset pq iter).mResult = none ∧
      (closeAndReset pq iter).mWasError =
        (iter.mWasError || !commandOk (pq.exec session iter.mCloseCommand).1 ||
          !commandOk (pq.exec (pq.exec session iter.mCloseCommand).2 "END").1) ∧
      fetchOutcomes (fetchCommand fetchSize topic threadId) (closeAndReset pq iter).libpq.calls =
        fetchOutcomes (fetchCommand fetchSize topic threadId) iter.libpq.calls := by
  rw [closeAndReset_opened pq opened connected]
  refine ⟨rfl, rfl, ?_⟩
  dsimp only
  rw [fetchOutcomes_consume_ne (end_ne_fetchCommand _ _ _),
    fetchOutcomes_consume_ne (close ▸ closeCommand_ne_fetchCommand _ _ _ _ _),
    fetchOutcomes_clear]

/-- When no row is held, a FETCH that returns no row ends the iteration; only a failure of
CLOSE or END sets the error flag. -/
theorem next_exhausted {fetchSize : Nat} {topic : Topic} {iter : DatastoreIterator σ}
    {session : σ} (fetching : Fetching inTransaction fetchSize topic iter session)
    (spent : iter.heldRows = []) {result : PGresult}
    (answer : (pq.exec session iter.mFetchCommand).1 = some result)
    (ok : result.status = .tuplesOk) (rows : result.tuples = []) :
    ∃ after, next pq iter = (none, after) ∧ after.mState = .ready ∧ after.mResult = none ∧
      after.mWasError = (iter.mWasError ||
        !commandOk (pq.exec (pq.exec session iter.mFetchCommand).2 iter.mCloseCommand).1 ||
        !commandOk (pq.exec (pq.exec (pq.exec session iter.mFetchCommand).2
          iter.mCloseCommand).2 "END").1) ∧
      fetchOutcomes iter.mFetchCommand after.libpq.calls =
        fetchOutcomes iter.mFetchCommand iter.libpq.calls ++ [true] := by
  obtain ⟨refilled, status, received⟩ := refill_answer fetching spent answer
  have empty := received.trans rows
  have counted := status.trans ok
  obtain ⟨-, nonempty, -⟩ | ⟨-, -, handed⟩ | ⟨failed, -⟩ := next_cases pq iter
  · exact absurd empty nonempty
  · obtain ⟨noResult, error, outcomes⟩ := closeAndReset_fetching pq fetchSize topic
      (refill pq iter).rowsCounted (pq.exec session iter.mFetchCommand).2
      (by rw [refilled]; exact fetching.opened)
      (by rw [refilled]; rfl) (by rw [refilled]; exact fetching.close) iter.mThreadId
    refine ⟨_, handed, closeAndReset_mState .., noResult, ?_, ?_⟩
    · rw [error, refilled]
      rfl
    · rw [fetching.fetch, outcomes, refilled]
      simp [rowsCounted, access, ← fetching.fetch, fetchOutcomes_receive_self, tuplesOk, ok]
  · exact absurd counted failed

variable (pq) in
/-- When no row is held, a FETCH that fails ends the iteration and sets the error flag. -/
theorem next_failed {fetchSize : Nat} {topic : Topic} {iter : DatastoreIterator σ}
    {session : σ} (fetching : Fetching inTransaction fetchSize topic iter session)
    (spent : iter.heldRows = [])
    (answer : tuplesOk (pq.exec session iter.mFetchCommand).1 = false) :
    ∃ after, next pq iter = (none, after) ∧ after.mState = .ready ∧ after.mResult = none ∧
      after.mWasError = true ∧
      fetchOutcomes iter.mFetchCommand after.libpq.calls =
        fetchOutcomes iter.mFetchCommand iter.libpq.calls ++ [false] := by
  have used := (spent_iff fetching).mpr spent
  have refilled := refill_spent pq used
  rw [fetching.connected, reply_some] at refilled
  have failed : (refill pq iter).libpq.status (refill pq iter).mResult ≠ .tuplesOk := by
    rw [refill_status pq used, ne_eq, status_tuplesOk_iff, fetching.connected, reply_some, answer]
    exact Bool.false_ne_true
  obtain ⟨counted, -, -⟩ | ⟨counted, -, -⟩ | ⟨-, handed⟩ := next_cases pq iter
  · exact absurd counted failed
  · exact absurd counted failed
  · obtain ⟨noResult, error, outcomes⟩ := closeAndReset_fetching pq fetchSize topic
      (fetchFailed pq ((refill pq iter).access (refill pq iter).mResult none))
      (pq.exec session iter.mFetchCommand).2 (by rw [refilled]; exact fetching.opened)
      (by rw [refilled]; rfl) (by rw [refilled]; exact fetching.close) iter.mThreadId
    refine ⟨_, handed, closeAndReset_mState .., noResult, ?_, ?_⟩
    · rw [error]
      rfl
    · rw [fetching.fetch, outcomes, refilled]
      simp [fetchFailed, setError, access, ← fetching.fetch, fetchOutcomes_receive_self, answer]

/-- Where the row that led from one iterator to the next came from, when `rows` are owed after
it: it was held, or it is the first of a FETCH, which falls short only at the end. -/
inductive RowFrom (fetchSize : Nat) (rows : List Cell) (iter after : DatastoreIterator σ) :
    Prop where
  /-- The row was held. -/
  | held (one : iter.heldRows.length = after.heldRows.length + 1)
      (outcomes : fetchOutcomes iter.mFetchCommand after.libpq.calls =
        fetchOutcomes iter.mFetchCommand iter.libpq.calls)
  /-- The row was fetched. -/
  | fetched (spent : iter.heldRows = [])
      (chunk : after.heldRows.length + 1 = fetchSize ∨
        rows.length = after.heldRows.length ∧ after.heldRows.length < fetchSize)
      (outcomes : fetchOutcomes iter.mFetchCommand after.libpq.calls =
        fetchOutcomes iter.mFetchCommand iter.libpq.calls ++ [true])

/-- How an iteration that owes the given rows ends. `fetches` of its FETCH commands succeed;
then either the cursor is exhausted, or one more FETCH fails and the rows it would have
returned are not delivered. -/
structure Collects (pq : Libpq σ) (fetchSize : Nat) (rows : List Cell)
    (iter : DatastoreIterator σ) (delivered : List (Nat × Option (List UInt8)))
    (finished : DatastoreIterator σ) : Prop where
  /-- One call more than there are rows is enough. -/
  returns : ∀ calls, rows.length < calls → collect pq calls iter = some (delivered, finished)
  /-- The iterator is ready again. -/
  ready : finished.mState = .ready
  /-- No result is held. -/
  noResult : finished.mResult = none
  /-- The calls of the iteration follow the earlier ones. -/
  heap : iter.libpq.Extends finished.libpq
  /-- The two endings. -/
  ending : ∃ fetches,
    (fetchOutcomes iter.mFetchCommand finished.libpq.calls =
        fetchOutcomes iter.mFetchCommand iter.libpq.calls ++ List.replicate fetches true ∧
      delivered = rows.map cellView ∧ finished.mWasError = iter.mWasError) ∨
    (fetchOutcomes iter.mFetchCommand finished.libpq.calls =
        fetchOutcomes iter.mFetchCommand iter.libpq.calls ++
          (List.replicate fetches true ++ [false]) ∧
      delivered = (rows.take (iter.heldRows.length + fetches * fetchSize)).map cellView ∧
      finished.mWasError = true)

/-- An iteration that ends at once delivers nothing. -/
theorem Collects.of_null {fetchSize : Nat} {rows : List Cell} {iter after : DatastoreIterator σ}
    (ended : next pq iter = (none, after)) (ready : after.mState = .ready)
    (noResult : after.mResult = none) (spent : iter.heldRows = [])
    (ending : (fetchOutcomes iter.mFetchCommand after.libpq.calls =
        fetchOutcomes iter.mFetchCommand iter.libpq.calls ++ [true] ∧ rows = [] ∧
        after.mWasError = iter.mWasError) ∨
      (fetchOutcomes iter.mFetchCommand after.libpq.calls =
        fetchOutcomes iter.mFetchCommand iter.libpq.calls ++ [false] ∧
        after.mWasError = true)) : Collects pq fetchSize rows iter [] after := by
  refine ⟨fun calls enough => ?_, ready, noResult, ?_, ?_⟩
  · cases calls with
    | zero => exact absurd enough (Nat.not_lt_zero _)
    | succ calls => simp [collect, ended]
  · have extended := extends_next pq iter
    rwa [ended] at extended
  · rcases ending with ⟨outcomes, empty, error⟩ | ⟨outcomes, error⟩
    · exact ⟨1, .inl ⟨by simpa using outcomes, by simp [empty], error⟩⟩
    · exact ⟨0, .inr ⟨by simpa using outcomes, by simp [spent], error⟩⟩

/-- A chunk that is full, or all that is left, takes its first row with it. -/
theorem take_chunk {fetchSize chunk further : Nat} {cell : Cell} {rows : List Cell}
    (full : chunk + 1 = fetchSize ∨ rows.length = chunk ∧ chunk < fetchSize) :
    (cell :: rows).take (fetchSize + further) = cell :: rows.take (chunk + further) := by
  rcases full with full | ⟨short, below⟩
  · rw [← full, Nat.add_right_comm, List.take_succ_cons]
  · rw [List.take_of_length_le (by simp only [List.length_cons]; omega),
      List.take_of_length_le (by omega)]

/-- A row in front of an iteration. -/
theorem Collects.cons {fetchSize : Nat} {cell : Cell} {rows : List Cell}
    {iter after finished : DatastoreIterator σ} {object : DataObject}
    {delivered : List (Nat × Option (List UInt8))} (handed : next pq iter = (some object, after))
    (viewed : object.view after.libpq = cellView cell)
    (command : after.mFetchCommand = iter.mFetchCommand)
    (error : after.mWasError = iter.mWasError)
    (tail : Collects pq fetchSize rows after delivered finished)
    (source : RowFrom fetchSize rows iter after) :
    Collects pq fetchSize (cell :: rows) iter (cellView cell :: delivered) finished := by
  refine ⟨fun calls enough => ?_, tail.ready, tail.noResult, ?_, ?_⟩
  · cases calls with
    | zero => exact absurd enough (Nat.not_lt_zero _)
    | succ calls =>
      have rest := tail.returns calls (by simpa using enough)
      simp [collect, handed, rest, viewed]
  · have extended := extends_next pq iter
    rw [handed] at extended
    exact extended.trans tail.heap
  · obtain ⟨fetches, ending⟩ := tail.ending
    rw [command, error] at ending
    cases source with
    | held one outcomes =>
      rw [outcomes] at ending
      refine ⟨fetches, ending.imp ?_ ?_⟩
      · rintro ⟨all, rows, flag⟩
        exact ⟨all, by simp [rows], flag⟩
      · rintro ⟨all, rows, flag⟩
        refine ⟨all, ?_, flag⟩
        rw [one, Nat.add_right_comm, List.take_succ_cons, List.map_cons, rows]
    | fetched spent chunk outcomes =>
      rw [outcomes] at ending
      refine ⟨fetches + 1, ending.imp ?_ ?_⟩
      · rintro ⟨all, rows, flag⟩
        refine ⟨?_, by simp [rows], flag⟩
        simpa [List.replicate_succ] using all
      · rintro ⟨all, taken, flag⟩
        refine ⟨by simpa [List.replicate_succ] using all, ?_, flag⟩
        rw [spent, taken, List.length_nil, Nat.zero_add, Nat.add_mul, Nat.one_mul,
          Nat.add_comm (fetches * _), take_chunk chunk, List.map_cons]

/-- The iterator's FETCH command names its cursor. -/
theorem fetchCommand_eq (fetchSize : Nat) (topic : Topic) (threadId : String) :
    fetchCommand fetchSize topic threadId = "FETCH " ++ toString fetchSize ++ " in cursor_" ++
      (toString topic.number ++ "_" ++ threadId) := by
  simp only [fetchCommand, String.append_assoc]

/-- The iterator's CLOSE command names its cursor. -/
theorem closeCommand_eq (topic : Topic) (threadId : String) :
    closeCommand topic threadId =
      "CLOSE cursor_" ++ (toString topic.number ++ "_" ++ threadId) := by
  simp only [closeCommand, String.append_assoc]

/-- The closing law at the commands of the iterator. -/
theorem closeCommand_ok {inTransaction : σ → Bool} (closing : ClosingLaws pq inTransaction)
    {session : σ} {fetchSize : Nat} {topic : Topic} {threadId : String}
    (inside : inTransaction session = true)
    (ok : tuplesOk (pq.exec session (fetchCommand fetchSize topic threadId)).1 = true) :
    commandOk (pq.exec (pq.exec session (fetchCommand fetchSize topic threadId)).2
      (closeCommand topic threadId)).1 = true := by
  rw [fetchCommand_eq] at ok ⊢
  rw [closeCommand_eq]
  exact closing.close_ok session fetchSize _ inside ok

/-- The cursor law at the FETCH command of the iterator. -/
theorem fetchCommand_rows {inTransaction : σ → Bool} {rest : σ → List Cell}
    (cursor : CursorLaws pq inTransaction rest) {session : σ} {fetchSize : Nat} {topic : Topic}
    {threadId : String} {result : PGresult} (positive : 1 ≤ fetchSize)
    (inside : inTransaction session = true)
    (answer : (pq.exec session (fetchCommand fetchSize topic threadId)).1 = some result)
    (ok : result.status = .tuplesOk) :
    result.tuples = (rest session).take fetchSize ∧
      rest (pq.exec session (fetchCommand fetchSize topic threadId)).2 =
        (rest session).drop fetchSize := by
  rw [fetchCommand_eq] at answer ⊢
  exact cursor.fetch_rows _ _ _ _ positive inside answer ok

/-- What a call of `next` does in the middle of a query. -/
inductive Advanced (pq : Libpq σ) (inTransaction : σ → Bool) (rest : σ → List Cell)
    (fetchSize : Nat) (topic : Topic) (iter : DatastoreIterator σ) (session : σ) : Prop where
  /-- It hands out the first of the rows owed. -/
  | row (object : DataObject) (cell : Cell) (after : DatastoreIterator σ) (later : σ)
      (handed : next pq iter = (some object, after))
      (viewed : object.view after.libpq = cellView cell)
      (still : Fetching inTransaction fetchSize topic after later)
      (owed : iter.heldRows ++ rest session = cell :: (after.heldRows ++ rest later))
      (command : after.mFetchCommand = iter.mFetchCommand)
      (error : after.mWasError = iter.mWasError)
      (source : RowFrom fetchSize (after.heldRows ++ rest later) iter after)
  /-- Its FETCH finds no row left, and it ends the iteration. -/
  | exhausted (after : DatastoreIterator σ) (ended : next pq iter = (none, after))
      (ready : after.mState = .ready) (noResult : after.mResult = none)
      (spent : iter.heldRows = []) (last : rest session = [])
      (error : ClosingLaws pq inTransaction → after.mWasError = iter.mWasError)
      (outcomes : fetchOutcomes iter.mFetchCommand after.libpq.calls =
        fetchOutcomes iter.mFetchCommand iter.libpq.calls ++ [true])
  /-- Its FETCH fails, and it ends the iteration. -/
  | failed (after : DatastoreIterator σ) (ended : next pq iter = (none, after))
      (ready : after.mState = .ready) (noResult : after.mResult = none)
      (spent : iter.heldRows = []) (error : after.mWasError = true)
      (outcomes : fetchOutcomes iter.mFetchCommand after.libpq.calls =
        fetchOutcomes iter.mFetchCommand iter.libpq.calls ++ [false])

/-- With no row held, a FETCH that succeeds hands out the next row of the cursor, or ends the
iteration if there is none. -/
theorem advanced_of_fetched (transactions : TransactionLaws pq inTransaction)
    (cursor : CursorLaws pq inTransaction rest) {fetchSize : Nat} (positive : 1 ≤ fetchSize)
    {topic : Topic} {iter : DatastoreIterator σ} {session : σ}
    (fetching : Fetching inTransaction fetchSize topic iter session) (spent : iter.heldRows = [])
    (ok : tuplesOk (pq.exec session iter.mFetchCommand).1 = true) :
    Advanced pq inTransaction rest fetchSize topic iter session := by
  have inside : inTransaction (pq.exec session iter.mFetchCommand).2 = true := by
    rw [transactions.cursor_keeps _ _
      (fetching.fetch ▸ cursorCommand_fetchCommand fetchSize topic iter.mThreadId)]
    exact fetching.inside
  obtain ⟨result, answer, status⟩ : ∃ result,
      (pq.exec session iter.mFetchCommand).1 = some result ∧ result.status = .tuplesOk := by
    simpa [tuplesOk] using ok
  have fetched := fetchCommand_rows cursor positive fetching.inside
    (fetching.fetch ▸ answer) status
  rw [← fetching.fetch] at fetched
  cases rows : rest session with
  | nil =>
    obtain ⟨after, ended, ready, noResult, error, outcomes⟩ :=
      next_exhausted fetching spent answer status (by simp [fetched.1, rows])
    refine .exhausted after ended ready noResult spent rows (fun closing => ?_) outcomes
    have closed := closeCommand_ok closing fetching.inside (fetching.fetch ▸ ok)
    rw [← fetching.fetch, ← fetching.close] at closed
    rw [error, closed, closing.end_ok]
    simp
  | cons cell others =>
    have first : result.tuples = cell :: others.take (fetchSize - 1) := by
      rw [fetched.1, rows, ← Nat.sub_add_cancel positive, List.take_succ_cons,
        Nat.add_sub_cancel]
    have remaining : rest (pq.exec session iter.mFetchCommand).2 =
        others.drop (fetchSize - 1) := by
      rw [fetched.2, rows, ← Nat.sub_add_cancel positive, List.drop_succ_cons,
        Nat.add_sub_cancel]
    obtain ⟨object, after, handed, viewed, left, still, command, error, outcomes⟩ :=
      next_fetched fetching spent answer status inside first
    have owed : after.heldRows ++ rest (pq.exec session iter.mFetchCommand).2 = others := by
      rw [left, remaining, List.take_append_drop]
    refine .row object cell after _ handed viewed still ?_ command error
      (.fetched spent ?_ outcomes)
    · rw [spent, rows, owed, List.nil_append]
    · rw [owed, left, List.length_take]
      omega

/-- A call of `next` in the middle of a query advances the iteration: with a row held it needs
no command, and else it depends on the FETCH. -/
theorem advanced_next (transactions : TransactionLaws pq inTransaction)
    (cursor : CursorLaws pq inTransaction rest) {fetchSize : Nat} (positive : 1 ≤ fetchSize)
    {topic : Topic} {iter : DatastoreIterator σ} {session : σ}
    (fetching : Fetching inTransaction fetchSize topic iter session) :
    Advanced pq inTransaction rest fetchSize topic iter session := by
  cases held : iter.heldRows with
  | cons cell cells =>
    obtain ⟨object, after, handed, viewed, left, still, command, error, outcomes⟩ :=
      next_held pq fetching held
    exact .row object cell after session handed viewed still (by rw [held, left]; rfl) command
      error (.held (by rw [held, left]; rfl) outcomes)
  | nil =>
    cases ok : tuplesOk (pq.exec session iter.mFetchCommand).1 with
    | true => exact advanced_of_fetched transactions cursor positive fetching held ok
    | false =>
      obtain ⟨after, ended, ready, noResult, error, outcomes⟩ :=
        next_failed pq fetching held ok
      exact .failed after ended ready noResult held error outcomes

/-- From the middle of a query the iteration delivers the rows owed. The induction is on
their number: a call of `next` that returns a row leaves one row less. -/
theorem collects_of_fetching (transactions : TransactionLaws pq inTransaction)
    (cursor : CursorLaws pq inTransaction rest)
    (closing : ClosingLaws pq inTransaction)
    {fetchSize : Nat} (positive : 1 ≤ fetchSize) {topic : Topic} {iter : DatastoreIterator σ}
    {session : σ} (fetching : Fetching inTransaction fetchSize topic iter session) :
    ∃ delivered finished,
      Collects pq fetchSize (iter.heldRows ++ rest session) iter delivered finished := by
  induction rows : iter.heldRows ++ rest session generalizing iter session with
  | nil =>
    cases advanced_next transactions cursor positive fetching with
    | row object cell after later handed viewed still owed =>
      rw [rows] at owed
      exact absurd owed.symm (List.cons_ne_nil _ _)
    | exhausted after ended ready noResult spent last error outcomes =>
      exact ⟨_, _, .of_null ended ready noResult spent (.inl ⟨outcomes, rfl, error closing⟩)⟩
    | failed after ended ready noResult spent error outcomes =>
      exact ⟨_, _, .of_null ended ready noResult spent (.inr ⟨outcomes, error⟩)⟩
  | cons cell rows ih =>
    cases advanced_next transactions cursor positive fetching with
    | row object first after later handed viewed still owed command error source =>
      obtain ⟨rfl, left⟩ := List.cons.inj (rows.symm.trans owed)
      obtain ⟨delivered, finished, tail⟩ := ih still left.symm
      exact ⟨_, _, .cons handed viewed command error tail (left ▸ source)⟩
    | exhausted after ended ready noResult spent last error outcomes =>
      rw [spent, last] at rows
      exact absurd rows.symm (List.cons_ne_nil _ _)
    | failed after ended ready noResult spent error outcomes =>
      exact ⟨_, _, .of_null ended ready noResult spent (.inr ⟨outcomes, error⟩)⟩

/-- A query whose BEGIN and DECLARE succeed is in the middle of fetching, with no row held. -/
theorem fetching_of_executeQuery (transactions : TransactionLaws pq inTransaction)
    {iter : DatastoreIterator σ} {session : σ} (connected : iter.mConnection = some session)
    (query : Query) (fetchSize : Nat) (begins : commandOk (pq.exec session "BEGIN").1 = true)
    (declares : commandOk (pq.exec (pq.exec session "BEGIN").2
      (query.command iter.mThreadId)).1 = true) :
    Fetching inTransaction fetchSize query.topic (executeQuery pq iter query fetchSize)
        (pq.exec (pq.exec session "BEGIN").2 (query.command iter.mThreadId)).2 ∧
      (executeQuery pq iter query fetchSize).heldRows = [] := by
  have inside : inTransaction (pq.exec (pq.exec session "BEGIN").2
      (query.command iter.mThreadId)).2 = true := by
    obtain ⟨text, declaring⟩ := query.command_declares iter.mThreadId
    rw [transactions.cursor_keeps _ _ (declaring ▸ .declare text)]
    exact transactions.begin_ok session begins
  obtain ⟨failed, -⟩ | ⟨-, failed, -⟩ | ⟨-, -, opened⟩ := executeQuery_cases pq iter query fetchSize
  · simp [connected, begins] at failed
  · simp [connected, declares] at failed
  · rw [opened]
    refine ⟨⟨rfl, ?_, inside, rfl, rfl, fun present => absurd rfl present, Nat.zero_le _⟩, ?_⟩
    · simp [declared, begun, prepared, connected]
    · simp [heldRows, declared, begun]

/-- The one failure after a number of successes stands behind all of them. -/
theorem eq_of_first_failed {successes index : Nat}
    (fails : (List.replicate successes true ++ [false])[index]? = some false) :
    index = successes := by
  rcases Nat.lt_trichotomy index successes with early | same | late
  · rw [List.getElem?_append_left (by simpa using early), List.getElem?_replicate] at fails
    simp [early] at fails
  · exact same
  · have outside : (List.replicate successes true ++ [false]).length ≤ index := by
      simp only [List.length_append, List.length_replicate, List.length_singleton]
      omega
    rw [List.getElem?_eq_none outside] at fails
    exact absurd fails (by simp)

/-- Row delivery of a query whose BEGIN and DECLARE succeed. Calling `next` until it first
returns a null pointer delivers one object per row, in the order of the cursor: all rows if
every FETCH succeeds, with no error set by the iteration, and the rows before it if a FETCH
fails, with the error flag set. Either way the iterator is ready again and holds no result. -/
theorem rows_delivered (transactions : TransactionLaws pq inTransaction)
    (cursor : CursorLaws pq inTransaction rest)
    (closing : ClosingLaws pq inTransaction)
    {iter : DatastoreIterator σ} {session : σ} (connected : iter.mConnection = some session)
    (query : Query) {fetchSize : Nat} (positive : 1 ≤ fetchSize)
    (begins : commandOk (pq.exec session "BEGIN").1 = true)
    (declares : commandOk (pq.exec (pq.exec session "BEGIN").2
      (query.command iter.mThreadId)).1 = true) :
    let started := executeQuery pq iter query fetchSize
    let rows := rest (pq.exec (pq.exec session "BEGIN").2 (query.command iter.mThreadId)).2
    ∃ delivered finished issued,
      (∀ calls, rows.length < calls →
        collect pq calls started = some (delivered, finished)) ∧
      finished.libpq.calls = started.libpq.calls ++ issued ∧
      finished.mState = .ready ∧ finished.mResult = none ∧
      ((∀ ok ∈ fetchOutcomes started.mFetchCommand issued, ok = true) →
        delivered = rows.map cellView ∧ finished.mWasError = started.mWasError) ∧
      ∀ k, 1 ≤ k → (fetchOutcomes started.mFetchCommand issued)[k - 1]? = some false →
        (∀ j < k - 1, (fetchOutcomes started.mFetchCommand issued)[j]? = some true) →
        delivered = (rows.take (min ((k - 1) * fetchSize) rows.length)).map cellView ∧
          finished.hasError = true := by
  intro started rows
  obtain ⟨fetching, spent⟩ :=
    fetching_of_executeQuery transactions connected query fetchSize begins declares
  obtain ⟨delivered, finished, collects⟩ :=
    collects_of_fetching transactions cursor closing positive fetching
  rw [spent, List.nil_append] at collects
  obtain ⟨issued, later⟩ := collects.heap.calls
  obtain ⟨fetches, ending⟩ := collects.ending
  rw [← later, fetchOutcomes_append, List.append_cancel_left_eq, List.append_cancel_left_eq,
    spent, List.length_nil, Nat.zero_add] at ending
  refine ⟨delivered, finished, issued, collects.returns, later.symm, collects.ready,
    collects.noResult, fun all => ?_, fun k _ fails before => ?_⟩
  · rcases ending with ⟨-, complete, error⟩ | ⟨outcomes, -, -⟩
    · exact ⟨complete, error⟩
    · have last := all false (by rw [outcomes]; simp)
      exact absurd last Bool.false_ne_true
  · rcases ending with ⟨outcomes, -, -⟩ | ⟨outcomes, cut, error⟩
    · rw [outcomes, List.getElem?_replicate] at fails
      split at fails <;> simp at fails
    · have position : k - 1 = fetches := eq_of_first_failed (outcomes ▸ fails)
      have bounded : rows.take (min (fetches * fetchSize) rows.length) =
          rows.take (fetches * fetchSize) := List.take_eq_take_iff.mpr (by simp)
      exact ⟨by rw [position, bounded]; exact cut, error⟩

/-- A station query, started two rows at a time on a server with three rows for it. -/
def stationQuery (script : List Bool) : DatastoreIterator Postgres.Session :=
  let pq := Postgres.server [[some [1], none, some [2, 3]]] script
  executeQuery pq (new pq "" "7") (.ids [10003] .metamorphosisStation) 2

/-- All three rows of the query are delivered when every FETCH succeeds. -/
theorem rows_delivered_stations :
    ∃ finished,
      collect (Postgres.server [[some [1], none, some [2, 3]]] []) 4 (stationQuery []) =
        some ([(1, some [1]), (0, none), (2, some [2, 3])], finished) ∧
      finished.mState = .ready ∧ finished.mResult = none := by
  let tables : List (List Cell) := [[some [1], none, some [2, 3]]]
  have start : (new (Postgres.server tables []) "" "7").mConnection = some (.new tables []) := rfl
  obtain ⟨delivered, finished, issued, returns, -, ready, noResult, -⟩ :=
    rows_delivered (Postgres.transactionLaws tables []) (Postgres.cursorLaws tables [])
      (Postgres.closingLaws tables []) start (.ids [10003] .metamorphosisStation)
      (show 1 ≤ 2 by decide) (by decide +kernel) (by decide +kernel)
  have collected : collect (Postgres.server tables []) 4 (stationQuery []) =
      some (delivered, finished) := returns 4 (by decide +kernel)
  have computed : (collect (Postgres.server tables []) 4 (stationQuery [])).map Prod.fst =
      some [(1, some [1]), (0, none), (2, some [2, 3])] := by decide +kernel
  rw [collected] at computed
  exact ⟨finished, by rw [collected, ← Option.some.inj computed], ready, noResult⟩

/-- The rows before the first failed FETCH are delivered. -/
example :
    (collect (Postgres.server [[some [1], none, some [2, 3]]] [true, false]) 4
      (stationQuery [true, false])).map (fun (delivered, finished) =>
        (delivered, finished.hasError)) = some ([(1, some [1]), (0, none)], true) := by
  decide +kernel

end DatastoreIterator

end ApiPack2
