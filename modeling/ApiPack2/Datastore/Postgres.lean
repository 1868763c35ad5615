import ApiPack2.Datastore.Libpq
import ApiPack2.Lib.Decimal

/-!
# A server to run against

A small executable server for the commands the iterator sends, with one cursor at a time and
the rows of the queries to come given beforehand. It reads the command texts, fails commands
in an aborted block as PostgreSQL does, and fails a FETCH when its script says so. It
satisfies every law assumed of libpq, so the results that rest on these laws are about
something.
-/

namespace ApiPack2.Postgres

/-- State of the transaction block of a session. -/
inductive Block where
  | idle
  | active
  | aborted
  deriving DecidableEq

/-- A session of the server. -/
structure Session where
  /-- State of the transaction block. -/
  block : Block
  /-- Name of the open cursor and the rows it has not handed out. -/
  cursor : Option (List Char × List Cell)
  /-- Rows of the queries to come. -/
  tables : List (List Cell)
  /-- Whether each FETCH to come succeeds; those beyond the list do. -/
  script : List Bool
  deriving DecidableEq

/-- The statements the server tells apart. -/
inductive Statement where
  | begin_
  | end_
  | declare (name : List Char)
  | fetch (count : Nat) (name : List Char)
  | close (name : List Char)
  | other
  deriving DecidableEq

/-- Read a DECLARE command up to the name of its cursor. -/
def readDeclare (text : List Char) : Option Statement := do
  let rest ← Decimal.readText "DECLARE cursor_".toList text
  some (.declare (rest.takeWhile (· ≠ ' ')))

/-- Read a FETCH command. -/
def readFetch (text : List Char) : Option Statement := do
  let rest ← Decimal.readText "FETCH ".toList text
  let (count, rest) ← Decimal.readNat rest
  let name ← Decimal.readText " in cursor_".toList rest
  some (.fetch count name)

/-- Read a CLOSE command. -/
def readClose (text : List Char) : Option Statement := do
  let name ← Decimal.readText "CLOSE cursor_".toList text
  some (.close name)

/-- Read a command. -/
def readStatement (command : String) : Statement :=
  if command = "BEGIN" then .begin_
  else if command = "END" then .end_
  else
    ((readDeclare command.toList).or ((readFetch command.toList).or
      (readClose command.toList))).getD .other

/-- A command without rows that completes. -/
def completed : PGresult := ⟨.commandOk, []⟩

/-- Fail a command; inside a block this aborts the block. -/
def Session.fail (session : Session) : PGresult × Session :=
  (⟨.fatalError, []⟩,
    { session with block := if session.block = .idle then .idle else .aborted })

/-- Run a statement. -/
def Session.execute (session : Session) : Statement → PGresult × Session
  | .begin_ =>
    if session.block = .aborted then session.fail
    else (completed, { session with block := .active })
  | .end_ => (completed, { session with block := .idle, cursor := none })
  | .declare name =>
    if session.block = .active then
      (completed, { session with
        cursor := some (name, session.tables.headD [])
        tables := session.tables.tail })
    else session.fail
  | .fetch count name =>
    let session' := { session with script := session.script.tail }
    match session.cursor with
    | none => session'.fail
    | some (open_, rows) =>
      if session.block = .active ∧ open_ = name ∧ session.script.headD true then
        (⟨.tuplesOk, rows.take count⟩, { session' with cursor := some (open_, rows.drop count) })
      else session'.fail
  | .close name =>
    if session.block = .active ∧ session.cursor.map Prod.fst = some name then
      (completed, { session with cursor := none })
    else session.fail
  | .other => session.fail

/-- The session is inside a transaction block. -/
def Session.inTransaction (session : Session) : Bool := session.block ≠ .idle

/-- Rows the open cursor has not handed out. -/
def Session.rest (session : Session) : List Cell := (session.cursor.map Prod.snd).getD []

/-- A session of a new connection. -/
def Session.new (tables : List (List Cell)) (script : List Bool) : Session :=
  ⟨.idle, none, tables, script⟩

/-- The server as libpq presents it; every connection gets the same tables and script. -/
def server (tables : List (List Cell)) (script : List Bool) : Libpq Session where
  connectdb _ := some (.new tables script)
  connectionOk _ := true
  exec session command :=
    let (result, session) := session.execute (readStatement command)
    (some result, session)
  errorMessage _ := "ERROR"

/-- A failed command has no rows and keeps the session where it is. -/
@[simp]
theorem fail_spec (session : Session) :
    session.fail.1 = ⟨.fatalError, []⟩ ∧ session.fail.2.inTransaction = session.inTransaction := by
  cases block : session.block <;> simp [Session.fail, Session.inTransaction, block]

/-- The FETCH command of a cursor is read. -/
theorem readStatement_fetch (count : Nat) (cursor : String) :
    readStatement ("FETCH " ++ toString count ++ " in cursor_" ++ cursor) =
      .fetch count cursor.toList := by
  have text : ("FETCH " ++ toString count ++ " in cursor_" ++ cursor).toList =
      "FETCH ".toList ++ (Decimal.digits count ++ (" in cursor_".toList ++ cursor.toList)) := by
    simp only [String.toList_append, Decimal.toList_toString, List.append_assoc]
  have number := Decimal.readNat_digits count (" in cursor_".toList ++ cursor.toList)
    (by simp)
  have declares : readDeclare ("FETCH ".toList ++ (Decimal.digits count ++
      (" in cursor_".toList ++ cursor.toList))) = none := by
    rw [readDeclare, show "DECLARE cursor_".toList = 'D' :: "ECLARE cursor_".toList from rfl,
      show "FETCH ".toList = 'F' :: "ETCH ".toList from rfl, List.cons_append,
      Decimal.readText_ne_head (by decide)]
    rfl
  have fetches : readFetch ("FETCH ".toList ++ (Decimal.digits count ++
      (" in cursor_".toList ++ cursor.toList))) = some (.fetch count cursor.toList) := by
    simp only [readFetch, Decimal.readText_append, number, Option.bind_eq_bind, Option.bind_some]
  rw [readStatement, if_neg (Decimal.ne_of_head (by simp)),
    if_neg (Decimal.ne_of_head (by simp)), text, declares, fetches]
  rfl

/-- The CLOSE command of a cursor is read. -/
theorem readStatement_close (cursor : String) :
    readStatement ("CLOSE cursor_" ++ cursor) = .close cursor.toList := by
  have declares : readDeclare ("CLOSE cursor_".toList ++ cursor.toList) = none := by
    rw [readDeclare, show "DECLARE cursor_".toList = 'D' :: "ECLARE cursor_".toList from rfl,
      show "CLOSE cursor_".toList = 'C' :: "LOSE cursor_".toList from rfl, List.cons_append,
      Decimal.readText_ne_head (by decide)]
    rfl
  have fetches : readFetch ("CLOSE cursor_".toList ++ cursor.toList) = none := by
    rw [readFetch, show "FETCH ".toList = 'F' :: "ETCH ".toList from rfl,
      show "CLOSE cursor_".toList = 'C' :: "LOSE cursor_".toList from rfl, List.cons_append,
      Decimal.readText_ne_head (by decide)]
    rfl
  have closes : readClose ("CLOSE cursor_".toList ++ cursor.toList) =
      some (.close cursor.toList) := by
    simp only [readClose, Decimal.readText_append, Option.bind_eq_bind, Option.bind_some]
  rw [readStatement, if_neg (Decimal.ne_of_head (by simp)),
    if_neg (Decimal.ne_of_head (by simp)), String.toList_append, declares, fetches, closes]
  rfl

/-- No command of a cursor is read as BEGIN or END. -/
theorem readStatement_cursorCommand {command : String} (cursor : CursorCommand command) :
    readStatement command ≠ .begin_ ∧ readStatement command ≠ .end_ := by
  have begins : command ≠ "BEGIN" := by
    cases cursor <;> exact Decimal.ne_of_head (by simp)
  have ends : command ≠ "END" := by
    cases cursor <;> exact Decimal.ne_of_head (by simp)
  have fetches : readFetch command.toList ≠ some .begin_ ∧
      readFetch command.toList ≠ some .end_ := by
    simp [readFetch, Option.bind_eq_some_iff]
  have declares : readDeclare command.toList ≠ some .begin_ ∧
      readDeclare command.toList ≠ some .end_ := by
    simp [readDeclare, Option.bind_eq_some_iff]
  have closes : readClose command.toList ≠ some .begin_ ∧
      readClose command.toList ≠ some .end_ := by
    simp [readClose, Option.bind_eq_some_iff]
  rw [readStatement, if_neg begins, if_neg ends]
  cases declared : readDeclare command.toList <;> cases fetched : readFetch command.toList <;>
    cases closed : readClose command.toList <;> simp_all

variable (tables : List (List Cell)) (script : List Bool)

@[simp]
theorem server_exec (session : Session) (command : String) :
    (server tables script).exec session command =
      (some (session.execute (readStatement command)).1,
        (session.execute (readStatement command)).2) := rfl

/-- Statements other than BEGIN and END keep the session inside or outside of its block. -/
theorem execute_inTransaction (session : Session) {statement : Statement}
    (begins : statement ≠ .begin_) (ends : statement ≠ .end_) :
    (session.execute statement).2.inTransaction = session.inTransaction := by
  cases statement with
  | begin_ => exact absurd rfl begins
  | end_ => exact absurd rfl ends
  | declare name =>
    rw [Session.execute]
    split
    · rfl
    · exact (fail_spec session).2
  | fetch count name =>
    rw [Session.execute]
    split
    · exact (fail_spec _).2
    · dsimp only
      split
      · rfl
      · exact (fail_spec _).2
  | close name =>
    rw [Session.execute]
    split
    · rfl
    · exact (fail_spec session).2
  | other => exact (fail_spec session).2

/-- Only a FETCH returns rows: the next ones of the cursor it names, in an active block. -/
theorem execute_rows (session : Session) (statement : Statement) :
    ((session.execute statement).1.status ≠ .tuplesOk ∧
        (session.execute statement).1.tuples = []) ∨
      ∃ count name rows, statement = .fetch count name ∧ session.block = .active ∧
        session.cursor = some (name, rows) ∧
        session.execute statement = (⟨.tuplesOk, rows.take count⟩,
          { session with
            cursor := some (name, rows.drop count)
            script := session.script.tail }) := by
  cases statement with
  | begin_ =>
    rw [Session.execute]
    split <;> exact .inl (by simp [completed])
  | end_ => exact .inl (by simp [Session.execute, completed])
  | declare name =>
    rw [Session.execute]
    split <;> exact .inl (by simp [completed])
  | fetch count name =>
    cases cursor : session.cursor with
    | none => exact .inl (by simp [Session.execute, cursor])
    | some opened =>
      obtain ⟨open_, rows⟩ := opened
      by_cases runs : session.block = .active ∧ open_ = name ∧ session.script.headD true = true
      · obtain ⟨active, rfl, succeeds⟩ := runs
        refine .inr ⟨count, open_, rows, rfl, active, rfl, ?_⟩
        rw [Session.execute, cursor]
        exact if_pos ⟨active, rfl, succeeds⟩
      · refine .inl ?_
        simp only [Session.execute, cursor, if_neg runs, fail_spec]
        simp
  | close name =>
    rw [Session.execute]
    split <;> exact .inl (by simp [completed])
  | other => exact .inl (by simp [Session.execute])

/-- A statement that returns rows is a FETCH of the open cursor. -/
theorem execute_tuplesOk {session : Session} {statement : Statement}
    (ok : (session.execute statement).1.status = .tuplesOk) :
    ∃ count name rows, statement = .fetch count name ∧ session.block = .active ∧
      session.cursor = some (name, rows) ∧
      session.execute statement = (⟨.tuplesOk, rows.take count⟩,
        { session with
          cursor := some (name, rows.drop count)
          script := session.script.tail }) :=
  (execute_rows session statement).resolve_left fun fails => fails.1 ok

/-- The server satisfies the laws of transaction blocks. -/
theorem transactionLaws : TransactionLaws (server tables script) Session.inTransaction where
  connect := by
    intro uri session connected
    cases connected
    rfl
  begin_ok := by
    intro session ok
    rw [server_exec, show readStatement "BEGIN" = .begin_ from rfl] at ok ⊢
    by_cases aborted : session.block = .aborted
    · simp [Session.execute, aborted, commandOk] at ok
    · simp [Session.execute, aborted, Session.inTransaction]
  begin_failed := by
    intro session failed
    rw [server_exec, show readStatement "BEGIN" = .begin_ from rfl] at failed ⊢
    by_cases aborted : session.block = .aborted
    · simp only [Session.execute, if_pos aborted]
      exact (fail_spec session).2
    · simp [Session.execute, aborted, commandOk, completed] at failed
  end_closes session := rfl
  cursor_keeps := by
    intro session command cursor
    obtain ⟨begins, ends⟩ := readStatement_cursorCommand cursor
    exact execute_inTransaction session begins ends

/-- The server satisfies the laws of cursors. -/
theorem cursorLaws : CursorLaws (server tables script) Session.inTransaction Session.rest where
  fetch_rows := by
    intro session fetchSize cursor result positive inside answer ok
    rw [server_exec] at answer ⊢
    cases answer
    obtain ⟨count, name, rows, statement, -, opened, executed⟩ := execute_tuplesOk ok
    rw [readStatement_fetch] at statement
    cases statement
    rw [executed]
    simp [Session.rest, opened]
  fetch_outside := by
    intro session command cursor outside
    rw [server_exec, Bool.eq_false_iff, ne_eq, tuplesOk_some]
    intro ok
    obtain ⟨-, -, -, -, active, -⟩ := execute_tuplesOk ok
    simp [Session.inTransaction, active] at outside
  error_empty := by
    intro session command result answer failed
    have result_eq : (session.execute (readStatement command)).1 = result :=
      Option.some.inj answer
    rw [← result_eq] at failed ⊢
    obtain ⟨-, empty⟩ | ⟨count, name, rows, -, -, -, executed⟩ :=
      execute_rows session (readStatement command)
    · exact empty
    · rw [executed] at failed
      exact absurd rfl failed

/-- The server satisfies the laws of closing. -/
theorem closingLaws : ClosingLaws (server tables script) Session.inTransaction where
  close_ok := by
    intro session fetchSize cursor inside ok
    rw [server_exec, tuplesOk_some] at ok
    obtain ⟨count, name, rows, statement, active, -, executed⟩ := execute_tuplesOk ok
    rw [readStatement_fetch] at statement
    cases statement
    rw [server_exec, server_exec, executed, readStatement_close]
    simp [Session.execute, active, completed]
  end_ok session := rfl

end ApiPack2.Postgres
