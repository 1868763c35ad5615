import Mathlib.Data.List.Basic

/-!
# The libpq interface

libpq and the server behind it are a parameter: a session type with what `PQexec` does to a
session. The results libpq allocates live in a heap of the program, named by their position;
`PQclear` does not remove a result, it is recorded as a call, so that every result ever
obtained can be asked about. What the program relies on is stated as predicates of the
parameter, one for transaction blocks and one for the rows of a cursor.
-/

namespace ApiPack2

/-- `ExecStatusType`, the values a plain command or a FETCH can have. -/
inductive ExecStatus where
  | emptyQuery
  | commandOk
  | tuplesOk
  | badResponse
  | nonfatalError
  | fatalError
  deriving DecidableEq

/-- One column of a row: NULL, or the bytes of the value. -/
abbrev Cell := Option (List UInt8)

/-- `PGresult`: its status and the single column of its rows. -/
structure PGresult where
  /-- `PQresultStatus`. -/
  status : ExecStatus
  /-- The column of each row, in order. -/
  tuples : List Cell
  deriving DecidableEq

/-- libpq and the server it talks to, over a type of sessions. -/
structure Libpq (σ : Type) where
  /-- `PQconnectdb`: the session of the connection, none when it returns a null pointer. -/
  connectdb : String → Option σ
  /-- `PQstatus` is `CONNECTION_OK`. -/
  connectionOk : σ → Bool
  /-- `PQexec`: the result, none for a null pointer, and the session afterwards. -/
  exec : σ → String → Option PGresult × σ
  /-- `PQerrorMessage`. -/
  errorMessage : σ → String

/-- Position of a result among the results obtained so far; a `PGresult *`. -/
abbrev ResultId := Nat

/-- One call of the program into libpq. -/
inductive Call where
  /-- `PQexec` of a command, with what it returned. -/
  | exec (command : String) (reply : Option PGresult)
  /-- `PQclear` of a result. -/
  | clear (result : ResultId)
  /-- An accessor of a result, with the row it reads if it reads one. -/
  | read (result : ResultId) (row : Option Nat)
  deriving DecidableEq

/-- The results obtained so far and the calls made so far, both in order. -/
structure ResultHeap where
  /-- Results in the order libpq returned them. -/
  results : List PGresult
  /-- Calls in the order they were made. -/
  calls : List Call
  deriving DecidableEq

namespace ResultHeap

/-- No calls yet. -/
def empty : ResultHeap := ⟨[], []⟩

/-- Note one call. -/
def record (heap : ResultHeap) (call : Call) : ResultHeap :=
  { heap with calls := heap.calls ++ [call] }

/-- `PQclear` of a result; clearing a null pointer does nothing. -/
def clear (heap : ResultHeap) : Option ResultId → ResultHeap
  | none => heap
  | some result => heap.record (.clear result)

/-- Note that an accessor reads a result, or one of its rows. -/
def read (heap : ResultHeap) (result : Option ResultId) (row : Option Nat) : ResultHeap :=
  match result with
  | none => heap
  | some result => heap.record (.read result row)

/-- Take over the reply of a `PQexec`, allocating the result when there is one. -/
def receive (heap : ResultHeap) (command : String) (reply : Option PGresult) : ResultHeap :=
  { results := heap.results ++ reply.toList
    calls := heap.calls ++ [.exec command reply] }

/-- `PQresultStatus`; a null pointer reads as a fatal error. -/
def status (heap : ResultHeap) (result : Option ResultId) : ExecStatus :=
  ((result.bind fun id => heap.results[id]?).map PGresult.status).getD .fatalError

/-- `PQntuples`; a null pointer has no rows. -/
def ntuples (heap : ResultHeap) (result : Option ResultId) : Nat :=
  ((result.bind fun id => heap.results[id]?).map fun r => r.tuples.length).getD 0

/-- The rows of a result; a null pointer has none. -/
def tuples (heap : ResultHeap) (result : Option ResultId) : List Cell :=
  ((result.bind fun id => heap.results[id]?).map PGresult.tuples).getD []

/-- The column of a row, as `PQgetisnull` and `PQgetvalue` see it. -/
def cell (heap : ResultHeap) (result : Option ResultId) (row : Nat) : Cell :=
  ((heap.tuples result)[row]?).getD none

/-- The result has been passed to `PQclear`. -/
def Cleared (heap : ResultHeap) (result : ResultId) : Prop := Call.clear result ∈ heap.calls

instance (heap : ResultHeap) (result : ResultId) : Decidable (heap.Cleared result) :=
  inferInstanceAs (Decidable (_ ∈ _))

@[simp]
theorem clear_results (heap : ResultHeap) (result : Option ResultId) :
    (heap.clear result).results = heap.results := by cases result <;> rfl

@[simp]
theorem read_results (heap : ResultHeap) (result : Option ResultId) (row : Option Nat) :
    (heap.read result row).results = heap.results := by cases result <;> rfl

@[simp]
theorem receive_results (heap : ResultHeap) (command : String) (reply : Option PGresult) :
    (heap.receive command reply).results = heap.results ++ reply.toList := rfl

@[simp]
theorem status_none (heap : ResultHeap) : heap.status none = .fatalError := rfl

@[simp]
theorem tuples_none (heap : ResultHeap) : heap.tuples none = [] := rfl

@[simp]
theorem ntuples_eq (heap : ResultHeap) (result : Option ResultId) :
    heap.ntuples result = (heap.tuples result).length := by
  unfold ntuples tuples
  cases result.bind fun id => heap.results[id]? <;> rfl

/-- Reading the status of a result depends on the results only. -/
theorem status_congr {left right : ResultHeap} (same : left.results = right.results)
    (result : Option ResultId) : left.status result = right.status result := by
  simp [status, same]

/-- Reading the rows of a result depends on the results only. -/
theorem tuples_congr {left right : ResultHeap} (same : left.results = right.results)
    (result : Option ResultId) : left.tuples result = right.tuples result := by
  simp [tuples, same]

@[simp]
theorem clear_status (heap : ResultHeap) (cleared result : Option ResultId) :
    (heap.clear cleared).status result = heap.status result :=
  status_congr (clear_results heap cleared) result

@[simp]
theorem clear_tuples (heap : ResultHeap) (cleared result : Option ResultId) :
    (heap.clear cleared).tuples result = heap.tuples result :=
  tuples_congr (clear_results heap cleared) result

@[simp]
theorem read_status (heap : ResultHeap) (accessed result : Option ResultId) (row : Option Nat) :
    (heap.read accessed row).status result = heap.status result :=
  status_congr (read_results heap accessed row) result

@[simp]
theorem read_tuples (heap : ResultHeap) (accessed result : Option ResultId) (row : Option Nat) :
    (heap.read accessed row).tuples result = heap.tuples result :=
  tuples_congr (read_results heap accessed row) result

/-- The status of a reply is read from its pointer. -/
@[simp]
theorem status_receive (heap : ResultHeap) (command : String) (reply : Option PGresult) :
    (heap.receive command reply).status (reply.map fun _ => heap.results.length) =
      (reply.map PGresult.status).getD .fatalError := by
  cases reply <;> simp [receive, status]

/-- The rows of a reply are read from its pointer. -/
@[simp]
theorem tuples_receive (heap : ResultHeap) (command : String) (reply : Option PGresult) :
    (heap.receive command reply).tuples (reply.map fun _ => heap.results.length) =
      (reply.map PGresult.tuples).getD [] := by
  cases reply <;> simp [receive, tuples]

/-- Take over a reply, read its status and clear it at once. -/
def consume (heap : ResultHeap) (command : String) (reply : Option PGresult) : ResultHeap :=
  ((heap.receive command reply).read (reply.map fun _ => heap.results.length) none).clear
    (reply.map fun _ => heap.results.length)

@[simp]
theorem consume_results (heap : ResultHeap) (command : String) (reply : Option PGresult) :
    (heap.consume command reply).results = heap.results ++ reply.toList := by
  simp [consume]

/-- The later heap has the results and the calls of the earlier one, followed by more. -/
structure Extends (earlier later : ResultHeap) : Prop where
  /-- Results stay where they are. -/
  results : earlier.results <+: later.results
  /-- Calls stay where they are. -/
  calls : earlier.calls <+: later.calls

namespace Extends

/-- A heap extends itself. -/
theorem refl (heap : ResultHeap) : heap.Extends heap := ⟨List.prefix_refl _, List.prefix_refl _⟩

/-- Extensions compose. -/
theorem trans {first second third : ResultHeap} (left : first.Extends second)
    (right : second.Extends third) : first.Extends third :=
  ⟨left.results.trans right.results, left.calls.trans right.calls⟩

end Extends

/-- A call only extends the heap. -/
theorem extends_record (heap : ResultHeap) (call : Call) : heap.Extends (heap.record call) :=
  ⟨List.prefix_refl _, List.prefix_append ..⟩

/-- Clearing only extends the heap. -/
theorem extends_clear (heap : ResultHeap) (result : Option ResultId) :
    heap.Extends (heap.clear result) := by
  cases result with
  | none => exact .refl heap
  | some result => exact extends_record heap _

/-- Reading only extends the heap. -/
theorem extends_read (heap : ResultHeap) (result : Option ResultId) (row : Option Nat) :
    heap.Extends (heap.read result row) := by
  cases result with
  | none => exact .refl heap
  | some result => exact extends_record heap _

/-- A reply only extends the heap. -/
theorem extends_receive (heap : ResultHeap) (command : String) (reply : Option PGresult) :
    heap.Extends (heap.receive command reply) :=
  ⟨List.prefix_append .., List.prefix_append ..⟩

/-- A consumed reply only extends the heap. -/
theorem extends_consume (heap : ResultHeap) (command : String) (reply : Option PGresult) :
    heap.Extends (heap.consume command reply) :=
  ((extends_receive heap command reply).trans (extends_read ..)).trans (extends_clear ..)

end ResultHeap

/-- A reply that reports a completed command. -/
def commandOk (reply : Option PGresult) : Bool := reply.map PGresult.status == some .commandOk

/-- A reply that carries rows, if only none of them. -/
def tuplesOk (reply : Option PGresult) : Bool := reply.map PGresult.status == some .tuplesOk

@[simp]
theorem commandOk_some (result : PGresult) :
    commandOk (some result) = true ↔ result.status = .commandOk := by simp [commandOk]

@[simp]
theorem tuplesOk_some (result : PGresult) :
    tuplesOk (some result) = true ↔ result.status = .tuplesOk := by simp [tuplesOk]

/-- A reply that completes a command is a result. -/
theorem exists_of_commandOk (reply : Option PGresult) (ok : commandOk reply = true) :
    ∃ result, reply = some result := by
  cases reply with
  | none => exact absurd ok (by decide)
  | some result => exact ⟨result, rfl⟩

/-- The commands the iterator sends inside a transaction block. Before the first query the
FETCH command is still empty. A DECLARE is one statement, whatever texts of the client it
carries. -/
inductive CursorCommand : String → Prop where
  | empty : CursorCommand ""
  | declare (rest : String) : CursorCommand ("DECLARE " ++ rest)
  | fetch (rest : String) : CursorCommand ("FETCH " ++ rest)
  | close (rest : String) : CursorCommand ("CLOSE " ++ rest)

/-- What PostgreSQL promises about transaction blocks: BEGIN opens one if it succeeds, END
leaves the session outside of one, and the commands of a cursor, each a single statement,
neither open nor close one, whether they succeed or not. -/
structure TransactionLaws {σ : Type} (pq : Libpq σ) (inTransaction : σ → Bool) : Prop where
  /-- A new connection is outside of a transaction block. -/
  connect : ∀ uri session, pq.connectdb uri = some session → inTransaction session = false
  /-- A successful BEGIN opens a block. -/
  begin_ok : ∀ session, commandOk (pq.exec session "BEGIN").1 = true →
    inTransaction (pq.exec session "BEGIN").2 = true
  /-- A failed BEGIN changes nothing. -/
  begin_failed : ∀ session, commandOk (pq.exec session "BEGIN").1 = false →
    inTransaction (pq.exec session "BEGIN").2 = inTransaction session
  /-- END ends the block, whatever it returns. -/
  end_closes : ∀ session, inTransaction (pq.exec session "END").2 = false
  /-- The commands of a cursor keep the block. -/
  cursor_keeps : ∀ session command, CursorCommand command →
    inTransaction (pq.exec session command).2 = inTransaction session

/-- What PostgreSQL promises about the rows of the cursor declared in the current block,
with `rest` the rows not fetched yet: a successful FETCH returns the next rows, as many as
asked for or as are left, outside of a block it fails, and a result without rows status
holds no rows. -/
structure CursorLaws {σ : Type} (pq : Libpq σ) (inTransaction : σ → Bool)
    (rest : σ → List Cell) : Prop where
  /-- A successful FETCH returns the next rows and leaves the others. -/
  fetch_rows : ∀ session fetchSize cursor result, 1 ≤ fetchSize → inTransaction session = true →
    (pq.exec session ("FETCH " ++ toString fetchSize ++ " in cursor_" ++ cursor)).1 =
      some result → result.status = .tuplesOk →
    result.tuples = (rest session).take fetchSize ∧
      rest (pq.exec session ("FETCH " ++ toString fetchSize ++ " in cursor_" ++ cursor)).2 =
        (rest session).drop fetchSize
  /-- Outside of a transaction block no command of a cursor returns rows. -/
  fetch_outside : ∀ session command, CursorCommand command → inTransaction session = false →
    tuplesOk (pq.exec session command).1 = false
  /-- Results of any other status have no rows. -/
  error_empty : ∀ session command result, (pq.exec session command).1 = some result →
    result.status ≠ .tuplesOk → result.tuples = []

/-- What a client may expect of the end of an undisturbed iteration: after a successful FETCH
the cursor closes, and END succeeds. -/
structure ClosingLaws {σ : Type} (pq : Libpq σ) (inTransaction : σ → Bool) : Prop where
  /-- CLOSE succeeds after a successful FETCH from the same cursor. -/
  close_ok : ∀ session (fetchSize : Nat) cursor, inTransaction session = true →
    tuplesOk (pq.exec session
      ("FETCH " ++ toString fetchSize ++ " in cursor_" ++ cursor)).1 = true →
    commandOk (pq.exec (pq.exec session ("FETCH " ++ toString fetchSize ++ " in cursor_" ++
      cursor)).2 ("CLOSE cursor_" ++ cursor)).1 = true
  /-- END succeeds. -/
  end_ok : ∀ session, commandOk (pq.exec session "END").1 = true

end ApiPack2
