import ApiPack2.Datastore.Handles
import ApiPack2.Datastore.Postgres
import ApiPack2.Lib.Transition

/-!
# Who clears the results

Every result libpq returns has to be passed to `PQclear` once. Between two calls the member
`mResult` may hold one that is not cleared yet; a result that is neither cleared nor held is
lost. Each operation on the heap either keeps the set of lost results or adds to it, and of
the operations of the iterator only a query adds: it overwrites the pointer it finds, and it
forgets the result of a successful DECLARE.
-/

namespace ApiPack2

namespace ResultHeap

/-- A result that has not been cleared and is not the one held. -/
def Lost (heap : ResultHeap) (held : Option ResultId) (result : ResultId) : Prop :=
  result < heap.results.length ∧ ¬heap.Cleared result ∧ held ≠ some result

/-- Only results that exist have been cleared, and the one held exists and has not been. -/
structure Tidy (heap : ResultHeap) (held : Option ResultId) : Prop where
  /-- No result is cleared before it is obtained. -/
  cleared : ∀ result, heap.Cleared result → result < heap.results.length
  /-- The held result may be read and cleared. -/
  held : ∀ result, held = some result → result < heap.results.length ∧ ¬heap.Cleared result

/-- The later heap and pointer are tidy and lose the same results as the earlier ones. -/
structure Accounts (heap : ResultHeap) (held : Option ResultId) (later : ResultHeap)
    (laterHeld : Option ResultId) : Prop where
  /-- The later heap and pointer are tidy. -/
  tidy : later.Tidy laterHeld
  /-- Nothing more is lost. -/
  lost : ∀ result, later.Lost laterHeld result ↔ heap.Lost held result

/-- Accounts compose. -/
theorem Accounts.trans {first second third : ResultHeap}
    {firstHeld secondHeld thirdHeld : Option ResultId}
    (left : first.Accounts firstHeld second secondHeld)
    (right : second.Accounts secondHeld third thirdHeld) :
    first.Accounts firstHeld third thirdHeld :=
  ⟨right.tidy, fun result => (right.lost result).trans (left.lost result)⟩

variable {heap : ResultHeap} {held : Option ResultId}

/-- A tidy heap accounts for itself. -/
theorem Tidy.refl (tidy : heap.Tidy held) : heap.Accounts held heap held :=
  ⟨tidy, fun _ => Iff.rfl⟩

/-- Clearing adds the result to the cleared ones. -/
@[simp]
theorem cleared_clear (heap : ResultHeap) (pointer : Option ResultId) (result : ResultId) :
    (heap.clear pointer).Cleared result ↔ heap.Cleared result ∨ pointer = some result := by
  cases pointer <;> simp [clear, record, Cleared, eq_comm]

/-- Reading clears nothing. -/
@[simp]
theorem cleared_read (heap : ResultHeap) (pointer : Option ResultId) (row : Option Nat)
    (result : ResultId) : (heap.read pointer row).Cleared result ↔ heap.Cleared result := by
  cases pointer <;> simp [read, record, Cleared]

/-- Receiving clears nothing. -/
@[simp]
theorem cleared_receive (heap : ResultHeap) (command : String) (reply : Option PGresult)
    (result : ResultId) :
    (heap.receive command reply).Cleared result ↔ heap.Cleared result := by
  simp [receive, Cleared]

/-- Reading loses nothing. -/
theorem Tidy.read (tidy : heap.Tidy held) (pointer : Option ResultId) (row : Option Nat) :
    heap.Accounts held (heap.read pointer row) held :=
  ⟨⟨by simpa using tidy.cleared, by simpa using tidy.held⟩, by simp [Lost]⟩

/-- Clearing the held result and letting go of it loses nothing. -/
theorem Tidy.clear (tidy : heap.Tidy held) : heap.Accounts held (heap.clear held) none := by
  refine ⟨⟨?_, by simp⟩, fun result => ?_⟩
  · simp only [cleared_clear, clear_results]
    rintro result (cleared | pointer)
    · exact tidy.cleared result cleared
    · exact (tidy.held result pointer).1
  · simp only [Lost, cleared_clear, clear_results]
    tauto

/-- A fresh result has not been cleared and is not the one held. -/
theorem Tidy.fresh (tidy : heap.Tidy held) :
    ¬heap.Cleared heap.results.length ∧ held ≠ some heap.results.length :=
  ⟨fun cleared => absurd (tidy.cleared _ cleared) (Nat.lt_irrefl _),
    fun pointer => absurd (tidy.held _ pointer).1 (Nat.lt_irrefl _)⟩

/-- A fresh result was not lost before. -/
theorem Lost.not_fresh {result : ResultId} (lost : heap.Lost held result)
    (reply : Option PGresult) : (reply.map fun _ => heap.results.length) ≠ some result := by
  intro pointer
  cases reply with
  | none => exact absurd pointer nofun
  | some received => exact absurd lost.1 (Option.some.inj pointer ▸ Nat.lt_irrefl _)

/-- Receiving a result and not holding it loses it. -/
theorem Tidy.drop (tidy : heap.Tidy held) (command : String) (reply : Option PGresult) :
    (heap.receive command reply).Tidy held ∧
      ∀ result, (heap.receive command reply).Lost held result ↔
        heap.Lost held result ∨ (reply.map fun _ => heap.results.length) = some result := by
  obtain ⟨fresh, unheld⟩ := tidy.fresh
  cases reply with
  | none =>
    refine ⟨⟨by simpa using tidy.cleared, by simpa using tidy.held⟩, by simp [Lost]⟩
  | some received =>
    refine ⟨⟨fun result cleared => ?_, fun result pointer => ?_⟩, fun result => ?_⟩
    · rw [cleared_receive] at cleared
      have before := tidy.cleared result cleared
      simp only [receive_results, Option.toList_some, List.length_append, List.length_singleton]
      exact Nat.lt_succ_of_lt before
    · have before := tidy.held result pointer
      simp only [receive_results, Option.toList_some, List.length_append, List.length_singleton,
        cleared_receive]
      exact ⟨Nat.lt_succ_of_lt before.1, before.2⟩
    · simp only [Lost, receive_results, Option.toList_some, List.length_append,
        List.length_singleton, cleared_receive, Option.map_some, Option.some.injEq,
        Nat.lt_succ_iff_lt_or_eq]
      constructor
      · rintro ⟨before | rfl, live, other⟩
        · exact .inl ⟨before, live, other⟩
        · exact .inr rfl
      · rintro (⟨before, live, other⟩ | rfl)
        · exact ⟨.inl before, live, other⟩
        · exact ⟨.inr rfl, fresh, unheld⟩

/-- Receiving a result while none is held, and holding it, loses nothing. -/
theorem Tidy.receive (tidy : heap.Tidy none) (command : String) (reply : Option PGresult) :
    heap.Accounts none (heap.receive command reply)
      (reply.map fun _ => heap.results.length) := by
  obtain ⟨dropped, lost⟩ := tidy.drop command reply
  refine ⟨⟨dropped.cleared, fun result pointer => ?_⟩, fun result => ?_⟩
  · have kept := (lost result).mpr (.inr pointer)
    exact ⟨kept.1, kept.2.1⟩
  · have after := lost result
    have older : heap.Lost none result → _ := fun before => before.not_fresh reply
    simp only [Lost, ne_eq, reduceCtorEq, not_false_eq_true, and_true] at after older ⊢
    tauto

/-- Receiving a result and clearing it at once loses nothing. -/
theorem Tidy.consume (tidy : heap.Tidy held) (command : String) (reply : Option PGresult) :
    heap.Accounts held (heap.consume command reply) held := by
  obtain ⟨dropped, lost⟩ := tidy.drop command reply
  refine ⟨⟨fun result cleared => ?_, fun result pointer => ?_⟩, fun result => ?_⟩
  · simp only [ResultHeap.consume, cleared_clear, cleared_read, clear_results,
      read_results] at cleared ⊢
    rcases cleared with cleared | pointer
    · exact dropped.cleared result cleared
    · exact ((lost result).mpr (.inr pointer)).1
  · have kept := dropped.held result pointer
    have other : (reply.map fun _ => heap.results.length) ≠ some result :=
      fun fresh => ((lost result).mpr (.inr fresh)).2.2 pointer
    simp only [ResultHeap.consume, cleared_clear, cleared_read, clear_results, read_results]
    exact ⟨kept.1, not_or_intro kept.2 other⟩
  · have after := lost result
    have older : heap.Lost held result → _ := fun before => before.not_fresh reply
    simp only [Lost, ResultHeap.consume, cleared_clear, cleared_read, clear_results, read_results]
      at after older ⊢
    tauto

/-- Letting go of the held result loses it. -/
theorem Tidy.forget (tidy : heap.Tidy held) :
    heap.Tidy none ∧
      ∀ result, heap.Lost none result ↔ heap.Lost held result ∨ held = some result := by
  refine ⟨⟨tidy.cleared, nofun⟩, fun result => ?_⟩
  have kept := tidy.held result
  simp only [Lost, ne_eq, reduceCtorEq, not_false_eq_true, and_true]
  tauto

end ResultHeap

namespace DatastoreIterator

variable {σ : Type} (pq : Libpq σ)

/-- The results obtained and the one held are tidy. -/
def Tidy (iter : DatastoreIterator σ) : Prop := iter.libpq.Tidy iter.mResult

/-- A result the iterator can no longer clear. -/
def Lost (iter : DatastoreIterator σ) : ResultId → Prop := iter.libpq.Lost iter.mResult

/-- The later iterator is tidy and has lost the same results as the earlier one. -/
def Accounts (iter later : DatastoreIterator σ) : Prop :=
  iter.libpq.Accounts iter.mResult later.libpq later.mResult

variable {iter : DatastoreIterator σ}

/-- Closing loses nothing. -/
theorem closeAndReset_accounts (iter : DatastoreIterator σ) (tidy : iter.Tidy) :
    iter.Accounts (closeAndReset pq iter) := by
  cases state : iter.mState with
  | ready =>
    rw [closeAndReset_ready pq state]
    exact ResultHeap.Tidy.refl tidy
  | opened =>
    have cleared := ResultHeap.Tidy.clear tidy
    cases connected : iter.mConnection with
    | none =>
      rw [closeAndReset_disconnected pq state connected]
      exact cleared
    | some session =>
      rw [closeAndReset_opened pq state connected]
      have closed := cleared.trans (cleared.tidy.consume iter.mCloseCommand
        (pq.exec session iter.mCloseCommand).1)
      exact closed.trans (closed.tidy.consume ..)

/-- The refill loses nothing. -/
theorem refill_accounts (tidy : iter.Tidy) : iter.Accounts (refill pq iter) := by
  have counted := ResultHeap.Tidy.read tidy iter.mResult none
  by_cases spent : iter.Spent
  · have cleared := counted.trans counted.tidy.clear
    have received := cleared.tidy.receive iter.mFetchCommand
      (reply pq iter.mConnection iter.mFetchCommand).1
    rw [ResultHeap.clear_results, ResultHeap.read_results] at received
    rw [refill_spent pq spent]
    exact cleared.trans received
  · rw [refill_held pq spent]
    exact counted

/-- `next` loses nothing, on each of its exits. -/
theorem next_accounts (tidy : iter.Tidy) : iter.Accounts (next pq iter).2 := by
  have refilled := refill_accounts pq tidy
  have counted := refilled.trans (refilled.tidy.read (refill pq iter).mResult none)
  have recounted := counted.trans (counted.tidy.read (refill pq iter).mResult none)
  obtain ⟨-, -, handed⟩ | ⟨-, -, handed⟩ | ⟨-, handed⟩ := next_cases pq iter <;> rw [handed]
  · exact recounted.trans (recounted.tidy.read ..)
  · exact recounted.trans (closeAndReset_accounts pq (refill pq iter).rowsCounted
      recounted.tidy)
  · exact counted.trans (closeAndReset_accounts pq
      (fetchFailed pq ((refill pq iter).access (refill pq iter).mResult none)) counted.tidy)

/-- BEGIN of a query completes. -/
def begins (iter : DatastoreIterator σ) : Bool := commandOk (reply pq iter.mConnection "BEGIN").1

/-- DECLARE of a query completes, after its BEGIN. -/
def declares (iter : DatastoreIterator σ) (query : Query) : Bool :=
  commandOk (reply pq (reply pq iter.mConnection "BEGIN").2 (query.command iter.mThreadId)).1

/-- A query loses the result it finds held, and the result of its DECLARE if the query
succeeds. -/
theorem executeQuery_lost (tidy : iter.Tidy) (query : Query) (fetchSize : Nat) :
    (executeQuery pq iter query fetchSize).Tidy ∧
      ((∀ result, ¬(executeQuery pq iter query fetchSize).Lost result) ↔
        (∀ result, ¬iter.Lost result) ∧ iter.mResult = none ∧
          (begins pq iter && declares pq iter query) = false) := by
  let opened := begun pq (prepared iter query) query.topic fetchSize
  let answer := (reply pq opened.mConnection (query.command iter.mThreadId)).1
  obtain ⟨forgotten, lost⟩ := ResultHeap.Tidy.forget tidy
  have began := forgotten.consume "BEGIN" (reply pq iter.mConnection "BEGIN").1
  -- a query that fails has only lost the result it found held
  have fails : ∀ after : DatastoreIterator σ,
      iter.libpq.Accounts none after.libpq after.mResult →
      (begins pq iter && declares pq iter query) = false →
      after.Tidy ∧ ((∀ result, ¬after.Lost result) ↔ (∀ result, ¬iter.Lost result) ∧
        iter.mResult = none ∧ (begins pq iter && declares pq iter query) = false) := by
    intro after accounts failed
    refine ⟨accounts.tidy, ?_⟩
    simp only [Lost, accounts.lost, lost, not_or, forall_and, failed, and_true]
    rw [Option.eq_none_iff_forall_ne_some]
  obtain ⟨failed, mError, ended⟩ | ⟨-, failed, mError, ended⟩ | ⟨beginOk, declareOk, ended⟩ :=
    executeQuery_cases pq iter query fetchSize <;> rw [ended]
  · have failed : begins pq iter = false := failed
    exact fails _ began (by rw [failed, Bool.false_and])
  · have failed : declares pq iter query = false := failed
    have consumed := began.trans (began.tidy.consume (query.command iter.mThreadId) answer)
    exact fails _ (consumed.trans (closeAndReset_accounts pq
      (notDeclared pq opened (query.command iter.mThreadId) mError) consumed.tidy))
      (by rw [failed, Bool.and_false])
  · have beginOk : begins pq iter = true := beginOk
    have declareOk : declares pq iter query = true := declareOk
    obtain ⟨dropped, adds⟩ := began.tidy.drop (query.command iter.mThreadId) answer
    have read := dropped.read (answer.map fun _ => opened.libpq.results.length) none
    refine ⟨read.tidy, iff_of_false (fun none => ?_) (by simp [beginOk, declareOk])⟩
    -- the result of the DECLARE is neither held nor cleared
    obtain ⟨received, answered⟩ := exists_of_commandOk answer declareOk
    have fresh := (adds opened.libpq.results.length).mpr (.inr (by rw [answered]; rfl))
    exact none _ ((read.lost _).mpr fresh)

end DatastoreIterator

namespace System

variable {σ : Type} (pq : Libpq σ)

open DatastoreIterator

/-- Every result obtained has been cleared, except for the one held. -/
def ResultsOwned (iter : DatastoreIterator σ) : Prop :=
  ∀ result < iter.libpq.results.length, ¬iter.libpq.Cleared result → iter.mResult = some result

instance (iter : DatastoreIterator σ) : Decidable (ResultsOwned iter) :=
  inferInstanceAs (Decidable (∀ result < _, _ → _))

/-- A query is accepted only while no result is held, and does not succeed. -/
def LeakFree (system : System σ) : ClientAction → Prop
  | .data query => system.mDataIter.mState = .ready → system.mDataIter.mResult = none ∧
      (begins pq system.mDataIter && declares pq system.mDataIter query) = false
  | _ => True

/-- No result is lost exactly when all but the held one are cleared. -/
theorem resultsOwned_iff (iter : DatastoreIterator σ) :
    ResultsOwned iter ↔ ∀ result, ¬iter.Lost result := by
  simp only [ResultsOwned, Lost, ResultHeap.Lost]
  exact forall_congr' fun result => by tauto

/-- A datastore whose handles are counted and whose results are tidy. -/
structure Accountable (system : System σ) : Prop where
  /-- The datastore has not been destroyed. -/
  alive : system.storeAlive = true
  /-- The handles are counted. -/
  counted : system.Counted
  /-- The results are tidy. -/
  tidy : system.mDataIter.Tidy

/-- Every effect but that of a query loses nothing. -/
theorem Effect.accounts {iter after : DatastoreIterator σ} {fetchSize : Nat}
    {action : ClientAction} (effect : Effect pq iter fetchSize action after) (tidy : iter.Tidy)
    (noQuery : ∀ query, action ≠ .data query) : iter.Accounts after := by
  cases effect with
  | kept _ mReference mWasError referenced => exact ResultHeap.Tidy.refl tidy
  | queried query ready => exact absurd rfl (noQuery query)
  | advanced index => exact next_accounts pq tidy
  | released => exact closeAndReset_accounts pq { iter with mReference := 0 } tidy

/-- Every client action keeps the results tidy, and keeps all of them owned exactly if it is
leak-free. -/
theorem clientStep_owned {system : System σ} (accountable : Accountable system)
    (action : ClientAction) :
    (system.clientStep pq action).mDataIter.Tidy ∧
      (ResultsOwned system.mDataIter →
        (ResultsOwned (system.clientStep pq action).mDataIter ↔ LeakFree pq system action)) := by
  have others (noQuery : ∀ query, action ≠ .data query) :
      (system.clientStep pq action).mDataIter.Tidy ∧ (ResultsOwned system.mDataIter →
        ResultsOwned (system.clientStep pq action).mDataIter) := by
    have accounts := (clientStep_effect pq accountable.counted.creator accountable.alive
      action).accounts pq accountable.tidy noQuery
    refine ⟨accounts.tidy, fun owned => ?_⟩
    rw [resultsOwned_iff] at owned ⊢
    exact fun result lost => owned result ((accounts.lost result).mp lost)
  cases action with
  | data query =>
    rw [clientStep, accountable.alive, if_pos rfl]
    cases state : system.mDataIter.mState with
    | opened =>
      rw [data_refused pq state]
      refine ⟨accountable.tidy, fun owned => iff_of_true owned fun ready => ?_⟩
      exact absurd (ready.symm.trans state) (by decide)
    | ready =>
      rw [data_accepted pq state]
      obtain ⟨tidy, lost⟩ := executeQuery_lost pq accountable.tidy query system.mFetchSize
      refine ⟨tidy, fun owned => ?_⟩
      rw [resultsOwned_iff] at owned ⊢
      refine lost.trans ⟨fun clean _ => clean.2, fun free => ⟨owned, free state⟩⟩
  | _ =>
    obtain ⟨tidy, owned⟩ := others (by simp)
    exact ⟨tidy, fun before => iff_of_true (owned before) trivial⟩

/-- Destroying the iterator clears what it holds if it is open; all is cleared then exactly if
nothing was lost and a ready iterator holds nothing. -/
theorem deleteIterator_cleared_iff {system : System σ} (tidy : system.mDataIter.Tidy)
    (owned : ResultsOwned system.mDataIter) :
    (∀ result < (system.deleteIterator pq).mDataIter.libpq.results.length,
        (system.deleteIterator pq).mDataIter.libpq.Cleared result) ↔
      (system.mDataIter.mState = .ready → system.mDataIter.mResult = none) := by
  have accounts := closeAndReset_accounts pq _ tidy
  have lost : ∀ result, ¬(closeAndReset pq system.mDataIter).Lost result := by
    rw [resultsOwned_iff] at owned
    exact fun result lost => owned result ((accounts.lost result).mp lost)
  cases state : system.mDataIter.mState with
  | opened =>
    refine iff_of_true (fun result obtained => ?_) nofun
    by_contra live
    exact lost result ⟨obtained, live, by rw [closeAndReset_mResult pq state]; nofun⟩
  | ready =>
    have same : (system.deleteIterator pq).mDataIter.libpq = system.mDataIter.libpq := by
      rw [show (system.deleteIterator pq).mDataIter.libpq =
        (closeAndReset pq system.mDataIter).libpq from rfl, closeAndReset_ready pq state]
    rw [same]
    constructor
    · intro cleared _
      rw [Option.eq_none_iff_forall_ne_some]
      intro result held
      obtain ⟨obtained, live⟩ := tidy.held result held
      exact live (cleared result obtained)
    · intro unheld result obtained
      by_contra live
      exact absurd ((unheld rfl).symm.trans (owned result obtained live)) nofun

/-- No result leaks in a run of client calls ended by the destruction of the iterator exactly
if every query accepted is leak-free and no result is held by a ready iterator at the end. -/
theorem results_owned_iff (connectionString threadId : String) (fetchSize : Nat)
    (actions : List ClientAction) :
    let start := constructed pq connectionString threadId fetchSize
    let last := Transition.run (clientStep pq) start actions
    (Transition.Along (clientStep pq) (fun system => ResultsOwned system.mDataIter) start actions ∧
        ∀ result < (last.deleteIterator pq).mDataIter.libpq.results.length,
          (last.deleteIterator pq).mDataIter.libpq.Cleared result) ↔
      (Transition.Steps (clientStep pq) (LeakFree pq) start actions ∧
        (last.mDataIter.mState = .ready → last.mDataIter.mResult = none)) := by
  intro start last
  have keeps : ∀ (system : System σ) action, Accountable system →
      Accountable (system.clientStep pq action) := by
    intro system action accountable
    have bookkept := clientStep_bookkept pq accountable.counted action
    exact ⟨bookkept.alive.trans accountable.alive, bookkept.counted,
      (clientStep_owned pq accountable action).1⟩
  have initial : Accountable start ∧ ResultsOwned start.mDataIter := by
    obtain ⟨mError, created⟩ := new_spec pq connectionString threadId
    have blank : start.mDataIter.mReference = 0 ∧ start.mDataIter.mResult = none ∧
        start.mDataIter.libpq = .empty := by
      simp only [start, constructed, created, and_self]
    refine ⟨⟨rfl, ⟨rfl, blank.1⟩, ?_⟩, ?_⟩
    · rw [Tidy, blank.2.1, blank.2.2]
      exact ⟨fun result cleared => absurd cleared List.not_mem_nil, by simp⟩
    · rw [ResultsOwned, blank.2.2]
      exact fun result obtained => absurd obtained (Nat.not_lt_zero result)
  have along := Transition.along_iff_steps keeps
    (fun system action accountable => (clientStep_owned pq accountable action).2)
    initial.1 initial.2 actions
  have accountable : Accountable last := Transition.run_invariant keeps initial.1 actions
  constructor
  · rintro ⟨owned, cleared⟩
    exact ⟨along.mp owned, (deleteIterator_cleared_iff pq accountable.tidy owned.last).mp cleared⟩
  · rintro ⟨free, ended⟩
    have owned := along.mpr free
    exact ⟨owned, (deleteIterator_cleared_iff pq accountable.tidy owned.last).mpr ended⟩

/-- A query of a station, read to its end and its handle dropped. -/
def readToEnd : List ClientAction :=
  [.data (.ids [10003] .metamorphosisStation), .next 0, .next 0, .drop 0]

/-- The result of the DECLARE of a successful query is still not cleared when the iterator is
destroyed. -/
theorem declare_result_leaks :
    ¬∀ actions,
      let start := constructed (Postgres.server [[some [1]]] []) "" "7" 500
      let last := Transition.run (clientStep (Postgres.server [[some [1]]] [])) start actions
      Transition.Along (clientStep (Postgres.server [[some [1]]] []))
          (fun system => ResultsOwned system.mDataIter) start actions ∧
        ∀ result <
            (last.deleteIterator (Postgres.server [[some [1]]] [])).mDataIter.libpq.results.length,
          (last.deleteIterator
            (Postgres.server [[some [1]]] [])).mDataIter.libpq.Cleared result := by
  intro claim
  exact absurd (claim readToEnd).1 (by decide +kernel)

end System

end ApiPack2
