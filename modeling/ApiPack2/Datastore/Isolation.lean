import ApiPack2.Datastore.Delivery
import ApiPack2.Datastore.Transactions

/-!
# Isolation of the handles

Every query of a datastore runs on the same iterator, and a handle stays usable after its
query has ended. What the iterator owes is owed to the latest query accepted, so a handle of
an older query must neither get an object nor change what is owed. It does so exactly as long
as nothing is owed: admission looks at the state of the iterator, not at the handles left.
-/

namespace ApiPack2

namespace DatastoreIterator

variable {σ : Type} {pq : Libpq σ} {inTransaction : σ → Bool} {rest : σ → List Cell}

variable (rest) in
/-- The rows the iterator still owes: the held ones, then those left in the cursor. -/
def pending (iter : DatastoreIterator σ) : List Cell :=
  iter.heldRows ++
    if iter.mState = .opened then (iter.mConnection.map rest).getD [] else []

/-- Between two calls the iterator is ready and has handed out all it holds, or it is in the
middle of a query that fetches at least one row at a time. -/
inductive Orderly (inTransaction : σ → Bool) (iter : DatastoreIterator σ) : Prop where
  /-- Ready, with nothing left to hand out. -/
  | ready (state : iter.mState = .ready) (spent : iter.Spent)
  /-- In the middle of a query. -/
  | fetching (fetchSize : Nat) (topic : Topic) (session : σ) (positive : 1 ≤ fetchSize)
      (fetching : Fetching inTransaction fetchSize topic iter session)

/-- A spent result holds no rows. -/
theorem heldRows_of_spent {iter : DatastoreIterator σ} (spent : iter.Spent) :
    iter.heldRows = [] := by
  rw [heldRows, List.drop_eq_nil_iff]
  rcases spent with missing | used
  · simp [missing]
  · exact used.ge

/-- A ready iterator that is spent owes nothing. -/
theorem pending_ready {iter : DatastoreIterator σ} (state : iter.mState = .ready)
    (spent : iter.Spent) : pending rest iter = [] := by
  simp [pending, heldRows_of_spent spent, state]

/-- In the middle of a query the rest of the cursor is owed after the held rows. -/
theorem pending_fetching {fetchSize : Nat} {topic : Topic} {iter : DatastoreIterator σ}
    {session : σ} (fetching : Fetching inTransaction fetchSize topic iter session) :
    pending rest iter = iter.heldRows ++ rest session := by
  simp [pending, fetching.opened, fetching.connected]

/-- A ready iterator outside of a block returns nothing and is spent again: its FETCH fails. -/
theorem next_ready (cursor : CursorLaws pq inTransaction rest) {iter : DatastoreIterator σ}
    (state : iter.mState = .ready) (spent : iter.Spent)
    (synchronized : Synchronized inTransaction iter) :
    ∃ after, next pq iter = (none, after) ∧ after.mState = .ready ∧ after.Spent := by
  have outside : iter.mConnection.any inTransaction = false := by
    have opened := synchronized.opened
    rw [state] at opened
    simpa using opened
  have failed : tuplesOk (reply pq iter.mConnection iter.mFetchCommand).1 = false := by
    cases connected : iter.mConnection with
    | none => rfl
    | some session =>
      rw [connected] at outside
      exact cursor.fetch_outside session _ synchronized.fetch outside
  have empty : (refill pq iter).libpq.tuples (refill pq iter).mResult = [] := by
    rw [refill_tuples pq spent]
    cases connected : iter.mConnection with
    | none => rfl
    | some session =>
      rw [connected, reply_some] at failed
      rw [reply_some]
      cases answer : (pq.exec session iter.mFetchCommand).1 with
      | none => rfl
      | some result =>
        rw [answer, Bool.eq_false_iff, ne_eq, tuplesOk_some] at failed
        exact cursor.error_empty session _ result answer failed
  have status : (refill pq iter).libpq.status (refill pq iter).mResult ≠ .tuplesOk := by
    rw [refill_status pq spent, ne_eq, status_tuplesOk_iff, failed]
    exact Bool.false_ne_true
  have offset : (refill pq iter).mResultOffset = 0 := by rw [refill_spent pq spent]
  obtain ⟨counted, -, -⟩ | ⟨counted, -, -⟩ | ⟨-, handed⟩ := next_cases pq iter
  · exact absurd counted status
  · exact absurd counted status
  · have still : (fetchFailed pq ((refill pq iter).access (refill pq iter).mResult none)).mState =
        .ready := (refill_mState pq iter).trans state
    rw [closeAndReset_ready pq still] at handed
    refine ⟨_, handed, still, .inr ?_⟩
    simp [fetchFailed, setError, access, empty, offset]

/-- One call of `next` on an orderly iterator: it returns nothing and leaves nothing owed, or
it hands out the first of the rows owed. -/
theorem next_orderly (transactions : TransactionLaws pq inTransaction)
    (cursor : CursorLaws pq inTransaction rest) {iter : DatastoreIterator σ}
    (orderly : Orderly inTransaction iter) (synchronized : Synchronized inTransaction iter) :
    Orderly inTransaction (next pq iter).2 ∧
      (((next pq iter).1 = none ∧ pending rest (next pq iter).2 = []) ∨
        ∃ object cell, (next pq iter).1 = some object ∧
          object.view (next pq iter).2.libpq = cellView cell ∧
          pending rest iter = cell :: pending rest (next pq iter).2) := by
  cases orderly with
  | ready state spent =>
    obtain ⟨after, ended, ready, used⟩ := next_ready cursor state spent synchronized
    rw [ended]
    exact ⟨.ready ready used, .inl ⟨rfl, pending_ready ready used⟩⟩
  | fetching fetchSize topic session positive fetching =>
    cases advanced_next transactions cursor positive fetching with
    | row object cell after later handed viewed still owed =>
      rw [handed, pending_fetching fetching, pending_fetching still]
      exact ⟨.fetching fetchSize topic later positive still, .inr ⟨object, cell, rfl, viewed, owed⟩⟩
    | exhausted after ended ready noResult | failed after ended ready noResult =>
      rw [ended]
      exact ⟨.ready ready (.inl noResult), .inl ⟨rfl, pending_ready ready (.inl noResult)⟩⟩

/-- A call of `next` returns nothing and changes nothing of what is owed exactly when nothing
is owed. -/
theorem next_untouched_iff (transactions : TransactionLaws pq inTransaction)
    (cursor : CursorLaws pq inTransaction rest) {iter : DatastoreIterator σ}
    (orderly : Orderly inTransaction iter) (synchronized : Synchronized inTransaction iter) :
    ((next pq iter).1 = none ∧ pending rest (next pq iter).2 = pending rest iter) ↔
      pending rest iter = [] := by
  obtain ⟨-, ⟨returned, owed⟩ | ⟨object, cell, returned, -, owed⟩⟩ :=
    next_orderly transactions cursor orderly synchronized
  · rw [returned, owed]
    exact ⟨fun untouched => untouched.2.symm, fun none => ⟨rfl, none.symm⟩⟩
  · rw [returned, owed]
    simp

/-- The reference count, the creator and the error flag do not matter. -/
theorem Orderly.of_same {iter : DatastoreIterator σ} {mReference : Nat} {mWasError : Bool}
    (orderly : Orderly inTransaction iter) :
    Orderly inTransaction { iter with mReference, mWasError } := by
  cases orderly with
  | ready state spent => exact .ready state spent
  | fetching fetchSize topic session positive fetching =>
    exact .fetching fetchSize topic session positive ⟨fetching.opened, fetching.connected,
      fetching.inside, fetching.fetch, fetching.close, fetching.status, fetching.offset⟩

/-- A query of a ready iterator keeps it orderly, whatever fails. -/
theorem executeQuery_orderly (transactions : TransactionLaws pq inTransaction)
    {iter : DatastoreIterator σ} (ready : iter.mState = .ready) (query : Query) {fetchSize : Nat}
    (positive : 1 ≤ fetchSize) :
    Orderly inTransaction (executeQuery pq iter query fetchSize) := by
  obtain ⟨-, mError, ended⟩ | ⟨-, -, mError, ended⟩ | ⟨began, declared, -⟩ :=
    executeQuery_cases pq iter query fetchSize
  · rw [ended]
    exact .ready ready (.inl rfl)
  · rw [ended]
    exact .ready (closeAndReset_mState ..) (.inl (closeAndReset_mResult pq rfl))
  · cases connected : iter.mConnection with
    | none => simp [connected, commandOk] at began
    | some session =>
      simp only [connected, reply_some] at began declared
      exact .fetching fetchSize query.topic _ positive
        (fetching_of_executeQuery transactions connected query fetchSize began declared).1

end DatastoreIterator

namespace System

variable {σ : Type} {pq : Libpq σ} {inTransaction : σ → Bool} {rest : σ → List Cell}

open DatastoreIterator

variable (pq rest) in
/-- A call of `next` through a handle of an older query returns no object and leaves the rows
owed to the latest query as they are. -/
def Isolated (system : System σ) : ClientAction → Prop
  | .next index => ∀ query ∈ system.handle index, query + 1 < system.queries →
      (system.mDataIter.next pq).1 = none ∧
        pending rest (system.mDataIter.next pq).2 = pending rest system.mDataIter
  | _ => True

variable (rest) in
/-- `next` is called through a handle of an older query only while no row is owed. -/
def OldHandlesIdle (system : System σ) : ClientAction → Prop
  | .next index => ∀ query ∈ system.handle index, query + 1 < system.queries →
      pending rest system.mDataIter = []
  | _ => True

instance (system : System σ) : ∀ action, Decidable (OldHandlesIdle rest system action)
  | .next index => inferInstanceAs (Decidable (∀ query ∈ system.handle index, _ → _))
  | .data _ | .resetError _ | .setFetchSize _ | .copy _ | .assign _ _ | .drop _ =>
    inferInstanceAs (Decidable True)

/-- A sound datastore with an orderly iterator that fetches at least one row at a time. -/
structure Serving (inTransaction : σ → Bool) (system : System σ) : Prop where
  /-- The datastore is sound. -/
  sound : Sound inTransaction system
  /-- The iterator is orderly. -/
  orderly : Orderly inTransaction system.mDataIter
  /-- Queries fetch at least one row at a time. -/
  positive : 1 ≤ system.mFetchSize

/-- Every effect on the iterator keeps it orderly. -/
theorem Effect.orderly (transactions : TransactionLaws pq inTransaction)
    (cursor : CursorLaws pq inTransaction rest) {iter after : DatastoreIterator σ}
    {fetchSize : Nat} {action : ClientAction} (effect : Effect pq iter fetchSize action after)
    (synchronized : Synchronized inTransaction iter) (orderly : Orderly inTransaction iter)
    (positive : 1 ≤ fetchSize) : Orderly inTransaction after := by
  cases effect with
  | kept _ mReference mWasError referenced => exact orderly.of_same
  | queried query ready =>
    exact (executeQuery_orderly transactions ready query positive).of_same
  | advanced index => exact (next_orderly transactions cursor orderly synchronized).1
  | released =>
    cases orderly with
    | ready state spent =>
      rw [closeAndReset_ready pq
        (show ({ iter with mReference := 0 } : DatastoreIterator σ).mState = .ready from state)]
      exact .ready state spent
    | fetching fetchSize topic session positive fetching =>
      exact .ready (closeAndReset_mState ..) (.inl (closeAndReset_mResult pq fetching.opened))

/-- Every client action keeps a datastore serving. -/
theorem clientStep_serving (transactions : TransactionLaws pq inTransaction)
    (cursor : CursorLaws pq inTransaction rest) (system : System σ) (action : ClientAction)
    (serving : Serving inTransaction system) :
    Serving inTransaction (system.clientStep pq action) where
  sound := clientStep_sound transactions system action serving.sound
  orderly := (clientStep_effect pq serving.sound.counted.creator serving.sound.alive
    action).orderly transactions cursor serving.sound.synchronized serving.orderly serving.positive
  positive := clientStep_mFetchSize pq system action serving.positive

/-- On every run of client calls the queries are isolated exactly if every call of `next`
through a handle of an older query happens while the latest query is owed no row. -/
theorem queries_isolated_iff (transactions : TransactionLaws pq inTransaction)
    (cursor : CursorLaws pq inTransaction rest) (connectionString threadId : String)
    {fetchSize : Nat} (positive : 1 ≤ fetchSize) (actions : List ClientAction) :
    Transition.Steps (clientStep pq) (Isolated pq rest)
        (constructed pq connectionString threadId fetchSize) actions ↔
      Transition.Steps (clientStep pq) (OldHandlesIdle rest)
        (constructed pq connectionString threadId fetchSize) actions := by
  have serving : Serving inTransaction (constructed pq connectionString threadId fetchSize) := by
    refine ⟨constructed_sound transactions connectionString threadId fetchSize, ?_, positive⟩
    obtain ⟨mError, created⟩ := new_spec pq connectionString threadId
    rw [constructed, created]
    exact .ready rfl (.inl rfl)
  refine Transition.steps_congr (clientStep_serving transactions cursor)
    (fun system action serving => ?_) serving actions
  cases action with
  | next index =>
    have untouched := next_untouched_iff transactions cursor serving.orderly
      serving.sound.synchronized
    exact forall₃_congr fun query pointed older => untouched
  | _ => exact Iff.rfl

/-- Two queries of one row each, the first ended and its handle dropped before the second. -/
def inTurn : List ClientAction :=
  [.data (.ids [10003] .metamorphosisStation), .next 0, .next 0, .drop 0,
    .data (.ids [10121] .metamorphosisStation), .next 1]

/-- Queries that run one after the other are isolated. -/
theorem queries_isolated_in_turn :
    Transition.Steps (clientStep (Postgres.server [[some [1]], [some [2]]] []))
      (Isolated (Postgres.server [[some [1]], [some [2]]] []) Postgres.Session.rest)
      (constructed (Postgres.server [[some [1]], [some [2]]] []) "" "7" 500) inTurn := by
  refine (queries_isolated_iff (Postgres.transactionLaws [[some [1]], [some [2]]] [])
    (Postgres.cursorLaws [[some [1]], [some [2]]] []) "" "7" (by decide) inTurn).mpr ?_
  decide +kernel

/-- The first query ends, its handle is kept, and used again while the second query runs. -/
def keptHandle : List ClientAction :=
  [.data (.ids [10003] .metamorphosisStation), .next 0, .next 0,
    .data (.ids [10121] .metamorphosisStation), .next 0]

/-- The handle of the ended first query takes the row of the second one. -/
theorem kept_handle_takes_row :
    ¬∀ actions, Transition.Steps (clientStep (Postgres.server [[some [1]], [some [2]]] []))
      (Isolated (Postgres.server [[some [1]], [some [2]]] []) Postgres.Session.rest)
      (constructed (Postgres.server [[some [1]], [some [2]]] []) "" "7" 500) actions := by
  intro claim
  obtain ⟨-, -, -, -, taken, -⟩ := claim keptHandle
  have nothing := (taken 0 (by decide +kernel) (by decide +kernel)).1
  exact absurd nothing (by decide +kernel)

end System

end ApiPack2
