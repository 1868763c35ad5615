import ApiPack2.Datastore.Handles
import ApiPack2.Datastore.Postgres
import ApiPack2.Lib.Transition

/-!
# Transactions follow the handles

The iterator is open exactly while its session is inside a transaction block, and only while
somebody holds a handle to it. The first part is an invariant of the iterator that every
operation keeps; the second joins it with the counting of the handles along whole runs.
-/

namespace ApiPack2

namespace DatastoreIterator

variable {σ : Type} {pq : Libpq σ} {inTransaction : σ → Bool}

/-- The iterator is open exactly while its session is inside a transaction block, and its
commands are commands of a cursor. -/
structure Synchronized (inTransaction : σ → Bool) (iter : DatastoreIterator σ) : Prop where
  /-- Open means inside a block. -/
  opened : iter.mState = .opened ↔ iter.mConnection.any inTransaction = true
  /-- The FETCH command neither begins nor ends a block. -/
  fetch : CursorCommand iter.mFetchCommand
  /-- The CLOSE command neither begins nor ends a block. -/
  close : CursorCommand iter.mCloseCommand

/-- Commands of a cursor keep the session inside or outside of its block. -/
theorem reply_cursor (laws : TransactionLaws pq inTransaction) (connection : Option σ)
    {command : String} (cursor : CursorCommand command) :
    (reply pq connection command).2.any inTransaction = connection.any inTransaction := by
  cases connection with
  | none => rfl
  | some session => exact laws.cursor_keeps session command cursor

/-- BEGIN opens a block if it completes, and changes nothing if it does not. -/
theorem reply_begin (laws : TransactionLaws pq inTransaction) (connection : Option σ) :
    (reply pq connection "BEGIN").2.any inTransaction =
      (commandOk (reply pq connection "BEGIN").1 || connection.any inTransaction) := by
  cases connection with
  | none => rfl
  | some session =>
    simp only [reply_some, Option.any_some]
    cases ok : commandOk (pq.exec session "BEGIN").1 with
    | true => rw [laws.begin_ok session ok, Bool.true_or]
    | false => rw [laws.begin_failed session ok, Bool.false_or]

/-- Closing synchronizes an iterator that is not ready inside of a block. -/
theorem closeAndReset_synchronized (laws : TransactionLaws pq inTransaction)
    {iter : DatastoreIterator σ} (fetch : CursorCommand iter.mFetchCommand)
    (close : CursorCommand iter.mCloseCommand)
    (ready : iter.mState = .ready → iter.mConnection.any inTransaction = false) :
    Synchronized inTransaction (closeAndReset pq iter) := by
  have outside : (closeAndReset pq iter).mConnection.any inTransaction = false := by
    cases state : iter.mState with
    | ready => rw [closeAndReset_ready pq state, ready state]
    | opened =>
      cases connected : iter.mConnection with
      | none => rw [closeAndReset_disconnected pq state connected, connected, Option.any_none]
      | some session =>
        rw [closeAndReset_opened pq state connected]
        exact laws.end_closes _
  exact ⟨by simp [outside], by rwa [closeAndReset_mFetchCommand],
    by rwa [closeAndReset_mCloseCommand]⟩

/-- The refill keeps the iterator synchronized. -/
theorem refill_synchronized (laws : TransactionLaws pq inTransaction)
    {iter : DatastoreIterator σ} (synchronized : Synchronized inTransaction iter) :
    Synchronized inTransaction (refill pq iter) := by
  by_cases spent : iter.Spent
  · rw [refill_spent pq spent]
    exact ⟨by rw [reply_cursor laws _ synchronized.fetch]; exact synchronized.opened,
      synchronized.fetch, synchronized.close⟩
  · rw [refill_held pq spent]
    exact ⟨synchronized.opened, synchronized.fetch, synchronized.close⟩

/-- `next` keeps the iterator synchronized, on each of its exits. -/
theorem next_synchronized (laws : TransactionLaws pq inTransaction)
    {iter : DatastoreIterator σ} (synchronized : Synchronized inTransaction iter) :
    Synchronized inTransaction (next pq iter).2 := by
  obtain ⟨opened, fetch, close⟩ := refill_synchronized laws synchronized
  have ready : (refill pq iter).mState = .ready →
      (refill pq iter).mConnection.any inTransaction = false := by
    intro state
    rw [state] at opened
    simpa using opened
  obtain ⟨-, -, handed⟩ | ⟨-, -, handed⟩ | ⟨-, handed⟩ := next_cases pq iter <;> rw [handed]
  · exact ⟨opened, fetch, close⟩
  · exact closeAndReset_synchronized laws fetch close ready
  · exact closeAndReset_synchronized laws fetch close ready

/-- A query of a ready iterator keeps it synchronized, whatever fails. -/
theorem executeQuery_synchronized (laws : TransactionLaws pq inTransaction)
    {iter : DatastoreIterator σ} (synchronized : Synchronized inTransaction iter)
    (ready : iter.mState = .ready) (query : Query) (fetchSize : Nat) :
    Synchronized inTransaction (executeQuery pq iter query fetchSize) := by
  obtain ⟨opened, fetch, close⟩ := synchronized
  have outside : iter.mConnection.any inTransaction = false := by
    rw [ready] at opened
    simpa using opened
  obtain ⟨text, declares⟩ := query.command_declares iter.mThreadId
  have declare : CursorCommand (query.command iter.mThreadId) := declares ▸ .declare text
  have begins := reply_begin laws iter.mConnection
  rw [outside, Bool.or_false] at begins
  have inside : (reply pq (reply pq iter.mConnection "BEGIN").2
      (query.command iter.mThreadId)).2.any inTransaction =
        commandOk (reply pq iter.mConnection "BEGIN").1 := by
    rw [reply_cursor laws _ declare]
    exact begins
  obtain ⟨failed, mError, ended⟩ | ⟨-, -, mError, ended⟩ | ⟨began, -, ended⟩ :=
    executeQuery_cases pq iter query fetchSize <;> rw [ended]
  · rw [failed] at begins
    exact ⟨by simp [notBegun, prepared, ready, begins], fetch, close⟩
  · exact closeAndReset_synchronized laws (cursorCommand_fetchCommand ..)
      (cursorCommand_closeCommand ..) (by simp [notDeclared, begun])
  · rw [began] at inside
    exact ⟨⟨fun _ => inside, fun _ => rfl⟩, cursorCommand_fetchCommand ..,
      cursorCommand_closeCommand ..⟩

end DatastoreIterator

namespace System

variable {σ : Type} {pq : Libpq σ} {inTransaction : σ → Bool}

open DatastoreIterator

/-- What holds of a living datastore between two calls: its handles are counted, its iterator
is synchronized with its session, and an open iterator is referenced. -/
structure Sound (inTransaction : σ → Bool) (system : System σ) : Prop where
  /-- The datastore has not been destroyed. -/
  alive : system.storeAlive = true
  /-- The handles are counted. -/
  counted : system.Counted
  /-- Open means inside a block. -/
  synchronized : Synchronized inTransaction system.mDataIter
  /-- Open means referenced. -/
  held : system.mDataIter.mState = .opened → 1 ≤ system.mDataIter.mReference

/-- Every effect on the iterator keeps it synchronized, and referenced while open. -/
theorem Effect.sound (laws : TransactionLaws pq inTransaction) {iter after : DatastoreIterator σ}
    {fetchSize : Nat} {action : ClientAction} (effect : Effect pq iter fetchSize action after)
    (synchronized : Synchronized inTransaction iter)
    (held : iter.mState = .opened → 1 ≤ iter.mReference) :
    Synchronized inTransaction after ∧ (after.mState = .opened → 1 ≤ after.mReference) := by
  cases effect with
  | kept _ mReference mWasError referenced =>
    refine ⟨⟨synchronized.opened, synchronized.fetch, synchronized.close⟩, fun opened => ?_⟩
    have before := held opened
    exact Nat.pos_of_ne_zero fun none => absurd (referenced none) (Nat.ne_of_gt before)
  | queried query ready =>
    obtain ⟨opened, fetch, close⟩ :=
      executeQuery_synchronized laws synchronized ready query fetchSize
    exact ⟨⟨opened, fetch, close⟩, fun _ => Nat.succ_pos _⟩
  | advanced index =>
    refine ⟨next_synchronized laws synchronized, fun opened => ?_⟩
    rw [next_tracked]
    exact held (opened_of_next pq opened)
  | released =>
    have ready : iter.mState = .ready → iter.mConnection.any inTransaction = false := by
      intro state
      have opened := synchronized.opened
      rw [state] at opened
      simpa using opened
    refine ⟨closeAndReset_synchronized laws synchronized.fetch synchronized.close ready, ?_⟩
    rw [closeAndReset_mState]
    exact fun impossible => nomatch impossible

/-- Every client action keeps a datastore sound. -/
theorem clientStep_sound (laws : TransactionLaws pq inTransaction) (system : System σ)
    (action : ClientAction) (sound : Sound inTransaction system) :
    Sound inTransaction (system.clientStep pq action) := by
  have bookkept := clientStep_bookkept pq sound.counted action
  obtain ⟨synchronized, held⟩ :=
    (clientStep_effect pq sound.counted.creator sound.alive action).sound laws
      sound.synchronized sound.held
  exact ⟨bookkept.alive.trans sound.alive, bookkept.counted, synchronized, held⟩

/-- A constructed datastore is sound: ready, outside of a block and without handles. -/
theorem constructed_sound (laws : TransactionLaws pq inTransaction)
    (connectionString threadId : String) (fetchSize : Nat) :
    Sound inTransaction (constructed pq connectionString threadId fetchSize) := by
  obtain ⟨mError, created⟩ := new_spec pq connectionString threadId
  have outside : (pq.connectdb connectionString).any inTransaction = false := by
    rw [Option.any_eq_false]
    exact fun session opened => laws.connect connectionString session opened
  rw [constructed, created]
  exact {
    alive := rfl
    counted := ⟨rfl, rfl⟩
    synchronized := ⟨by simp [outside], .empty, .empty⟩
    held := by simp }

end System

end ApiPack2
