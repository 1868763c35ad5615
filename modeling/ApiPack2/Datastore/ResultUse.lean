import ApiPack2.Datastore.Ownership

/-!
# How results are used

A result may be cleared once, and its status and rows may only be read before that, rows only
below their number. The heap recorded every call, so correct use is a property of the list of
calls: each is proper after the calls before it. It rests on what holds between two calls: the
result held is not cleared, and the offset stays within its rows.
-/

namespace ApiPack2

/-- The result a call obtains. -/
def Call.obtained : Call → Option PGresult
  | .exec _ reply => reply
  | .clear _ => none
  | .read .. => none

/-- The result has been obtained and not been cleared. -/
def LiveAfter (calls : List Call) (result : ResultId) : Prop :=
  result < (calls.filterMap Call.obtained).length ∧ Call.clear result ∉ calls

/-- The row is one of the result. -/
def RowOf (calls : List Call) (result : ResultId) (row : Nat) : Prop :=
  ∃ obtained, (calls.filterMap Call.obtained)[result]? = some obtained ∧
    row < obtained.tuples.length

/-- The call may be made after the earlier ones: it clears and reads live results only, and
rows only where there are some. -/
def Call.Proper (earlier : List Call) : Call → Prop
  | .exec .. => True
  | .clear result => LiveAfter earlier result
  | .read result row => LiveAfter earlier result ∧ ∀ index, row = some index →
      RowOf earlier result index

/-- Every call is proper after the calls before it. -/
def WellUsed (calls : List Call) : Prop :=
  Transition.Steps (fun earlier call => earlier ++ [call]) Call.Proper [] calls

/-- One more call is proper after all the others. -/
theorem wellUsed_append (calls : List Call) (call : Call) :
    WellUsed (calls ++ [call]) ↔ WellUsed calls ∧ call.Proper calls := by
  have collected (earlier : List Call) :
      Transition.run (fun earlier call => earlier ++ [call]) earlier calls = earlier ++ calls := by
    induction calls generalizing earlier with
    | nil => simp
    | cons call calls ih => simp [ih]
  rw [WellUsed, Transition.steps_append, collected]
  simp [Transition.Steps, WellUsed]

namespace ResultHeap

/-- The heap is tidy, it has the results its calls obtained, and used them well. -/
structure Proper (heap : ResultHeap) (held : Option ResultId) : Prop where
  /-- The held result may be used, and only results that exist are cleared. -/
  tidy : heap.Tidy held
  /-- The results are those obtained. -/
  recorded : heap.results = heap.calls.filterMap Call.obtained
  /-- The calls were proper. -/
  used : WellUsed heap.calls

variable {heap : ResultHeap} {held : Option ResultId}

/-- The held result is live. -/
theorem Proper.live (proper : heap.Proper held) {result : ResultId}
    (pointer : held = some result) : LiveAfter heap.calls result := by
  obtain ⟨exists_, live⟩ := proper.tidy.held result pointer
  exact ⟨proper.recorded ▸ exists_, live⟩

/-- A row of the held result is one of those obtained. -/
theorem Proper.rowOf (proper : heap.Proper held) {result row : Nat}
    (pointer : held = some result) (inside : row < (heap.tuples held).length) :
    RowOf heap.calls result row := by
  have stored := List.getElem?_eq_getElem (proper.tidy.held result pointer).1
  rw [pointer, tuples, Option.bind_some, stored] at inside
  rw [RowOf, ← proper.recorded]
  exact ⟨_, stored, inside⟩

/-- Reading the held result, and one of its rows, is proper. -/
theorem Proper.read (proper : heap.Proper held) (row : Option Nat)
    (inside : ∀ index, row = some index → index < (heap.tuples held).length) :
    (heap.read held row).Proper held := by
  have tidy := (proper.tidy.read held row).tidy
  cases pointer : held with
  | none => rwa [pointer] at proper
  | some result =>
    rw [pointer] at tidy
    refine ⟨tidy, ?_, (wellUsed_append ..).mpr ⟨proper.used, proper.live pointer, ?_⟩⟩
    · rw [read_results, proper.recorded]
      simp [ResultHeap.read, record, Call.obtained]
    · exact fun index given => proper.rowOf pointer (inside index given)

/-- Clearing the held result and letting go of it is proper. -/
theorem Proper.clear (proper : heap.Proper held) : (heap.clear held).Proper none := by
  have tidy := proper.tidy.clear.tidy
  cases pointer : held with
  | none => rwa [pointer] at proper
  | some result =>
    rw [pointer] at tidy
    refine ⟨tidy, ?_, (wellUsed_append ..).mpr ⟨proper.used, proper.live pointer⟩⟩
    rw [clear_results, proper.recorded]
    simp [ResultHeap.clear, record, Call.obtained]

/-- Letting go of the held result is proper. -/
theorem Proper.forget (proper : heap.Proper held) : heap.Proper none :=
  ⟨proper.tidy.forget.1, proper.recorded, proper.used⟩

/-- Receiving a result while none is held, and holding it, is proper. -/
theorem Proper.receive (proper : heap.Proper none) (command : String)
    (reply : Option PGresult) :
    (heap.receive command reply).Proper (reply.map fun _ => heap.results.length) := by
  refine ⟨(proper.tidy.receive command reply).tidy, ?_, (wellUsed_append ..).mpr
    ⟨proper.used, trivial⟩⟩
  cases reply <;> simp [ResultHeap.receive, proper.recorded, Call.obtained]

/-- Receiving a result, reading its status and clearing it is proper while none is held. -/
theorem Proper.consume (proper : heap.Proper none) (command : String)
    (reply : Option PGresult) : (heap.consume command reply).Proper none :=
  ((proper.receive command reply).read none (by simp)).clear

end ResultHeap

namespace DatastoreIterator

variable {σ : Type} (pq : Libpq σ)

/-- The results are properly used, and the offset is one of the rows of the held result or
just behind them. -/
structure Careful (iter : DatastoreIterator σ) : Prop where
  /-- The results obtained and the one held are properly used. -/
  proper : iter.libpq.Proper iter.mResult
  /-- The offset has not run past the rows. -/
  offset : ∀ result, iter.mResult = some result →
    iter.mResultOffset ≤ (iter.libpq.tuples iter.mResult).length

variable {iter : DatastoreIterator σ}

/-- Closing keeps the use proper. -/
theorem closeAndReset_careful (careful : iter.Careful) : (closeAndReset pq iter).Careful := by
  cases state : iter.mState with
  | ready => rwa [closeAndReset_ready pq state]
  | opened =>
    have cleared := careful.proper.clear
    cases connected : iter.mConnection with
    | none =>
      rw [closeAndReset_disconnected pq state connected]
      exact ⟨cleared, by simp⟩
    | some session =>
      rw [closeAndReset_opened pq state connected]
      exact ⟨(cleared.consume ..).consume .., by simp⟩

/-- The refill keeps the use proper, and leaves an offset that is one of the rows held, if
there are any. -/
theorem refill_careful (careful : iter.Careful) :
    (refill pq iter).Careful ∧
      ((refill pq iter).libpq.tuples (refill pq iter).mResult ≠ [] →
        (refill pq iter).mResultOffset <
          ((refill pq iter).libpq.tuples (refill pq iter).mResult).length) := by
  have counted := careful.proper.read none (by simp)
  by_cases spent : iter.Spent
  · have received := counted.clear.receive iter.mFetchCommand
      (reply pq iter.mConnection iter.mFetchCommand).1
    rw [ResultHeap.clear_results, ResultHeap.read_results] at received
    rw [refill_spent pq spent]
    exact ⟨⟨received, fun _ _ => Nat.zero_le _⟩, List.length_pos_of_ne_nil⟩
  · rw [refill_held pq spent]
    have kept : (iter.access iter.mResult none).libpq.tuples iter.mResult =
        iter.libpq.tuples iter.mResult := ResultHeap.read_tuples ..
    obtain ⟨held, rows⟩ := not_or.mp spent
    obtain ⟨result, pointer⟩ := Option.ne_none_iff_exists'.mp held
    have bound := careful.offset result pointer
    refine ⟨⟨counted, fun _ _ => ?_⟩, fun _ => ?_⟩
    · exact kept ▸ bound
    · exact kept ▸ Nat.lt_of_le_of_ne bound rows

/-- `next` keeps the use proper, on each of its exits. -/
theorem next_careful (careful : iter.Careful) : (next pq iter).2.Careful := by
  obtain ⟨⟨proper, offset⟩, inside⟩ := refill_careful pq careful
  have counted := proper.read none (by simp)
  have recounted := counted.read none (by simp)
  obtain ⟨-, rows, handed⟩ | ⟨-, -, handed⟩ | ⟨-, handed⟩ := next_cases pq iter <;> rw [handed]
  · refine ⟨recounted.read (some (refill pq iter).mResultOffset) ?_, fun _ _ => ?_⟩
    · simpa using inside rows
    · simpa [rowTaken] using Nat.succ_le_of_lt (inside rows)
  · exact closeAndReset_careful pq ⟨recounted, by simpa [rowsCounted, access] using offset⟩
  · exact closeAndReset_careful pq ⟨counted, by simpa [fetchFailed, setError, access] using offset⟩

/-- A query keeps the use proper: what it forgets it no longer touches. -/
theorem executeQuery_careful (careful : iter.Careful) (query : Query) (fetchSize : Nat) :
    (executeQuery pq iter query fetchSize).Careful := by
  have began := careful.proper.forget.consume "BEGIN" (reply pq iter.mConnection "BEGIN").1
  obtain ⟨-, mError, ended⟩ | ⟨-, -, mError, ended⟩ | ⟨-, -, ended⟩ :=
    executeQuery_cases pq iter query fetchSize <;> rw [ended]
  · exact ⟨began, by simp [notBegun]⟩
  · exact closeAndReset_careful pq ⟨began.consume .., by simp [notDeclared, begun]⟩
  · exact ⟨((began.receive ..).read none (by simp)).forget, by simp [declared, begun]⟩

/-- A constructed iterator has used nothing. -/
theorem new_careful (connectionString threadId : String) :
    (new pq connectionString threadId).Careful := by
  obtain ⟨mError, created⟩ := new_spec pq connectionString threadId
  rw [created]
  exact ⟨⟨⟨by simp [ResultHeap.Cleared, ResultHeap.empty], by simp⟩, rfl, trivial⟩, by simp⟩

/-- The result and row a pointer refers to are live: the result is held, as one of rows. -/
structure HandsOut (pointer : ValuePtr) (iter : DatastoreIterator σ) : Prop where
  /-- The use of results is proper. -/
  careful : iter.Careful
  /-- The result pointed into is the one held. -/
  held : iter.mResult = some pointer.result
  /-- It is a result of rows. -/
  rows : iter.libpq.status iter.mResult = .tuplesOk
  /-- The row pointed into is one of them. -/
  row : pointer.row < (iter.libpq.tuples iter.mResult).length

/-- An object points into the result that `next` leaves held, at the row before the offset. -/
theorem next_handsOut (careful : iter.Careful) {object : DataObject} {pointer : ValuePtr}
    (given : (next pq iter).1 = some object) (pointed : object.thriftObject = some pointer) :
    HandsOut pointer (next pq iter).2 ∧ (next pq iter).2.mResultOffset = pointer.row + 1 := by
  have after := next_careful pq careful
  obtain ⟨-, inside⟩ := refill_careful pq careful
  obtain ⟨status, rows, handed⟩ | ⟨-, -, handed⟩ | ⟨-, handed⟩ :=
    next_cases pq iter <;> rw [handed] at given after ⊢
  · cases given
    have target : (refill pq iter).mResult = some pointer.result ∧
        (refill pq iter).mResultOffset = pointer.row := by
      rw [rowObject] at pointed
      split at pointed
      · cases pointed
        exact ⟨‹_›, rfl⟩
      · simp [DataObject.new] at pointed
    have within := inside rows
    rw [target.2] at within
    exact ⟨⟨after, target.1, by simpa [rowTaken] using status, by simpa [rowTaken] using within⟩,
      congrArg (· + 1) target.2⟩
  · cases given
  · cases given

/-- While rows of the result are left, `next` hands out the next one and keeps holding the
result. -/
theorem HandsOut.next {pointer : ValuePtr} (hands : HandsOut pointer iter)
    (left : ¬iter.Spent) :
    HandsOut pointer (DatastoreIterator.next pq iter).2 ∧
      (DatastoreIterator.next pq iter).2.mResultOffset = iter.mResultOffset + 1 ∧
      (DatastoreIterator.next pq iter).2.libpq.tuples (DatastoreIterator.next pq iter).2.mResult =
        iter.libpq.tuples iter.mResult := by
  have after := next_careful pq hands.careful
  have refilled := refill_held pq left
  obtain ⟨status, rows, handed⟩ | ⟨-, empty, -⟩ | ⟨failed, -⟩ := next_cases pq iter
  · rw [handed, refilled] at after ⊢
    refine ⟨⟨after, hands.held, ?_, ?_⟩, rfl, ?_⟩
    · simpa [rowTaken, access] using hands.rows
    · simpa [rowTaken, access] using hands.row
    · simp [rowTaken, access]
  · rw [refilled] at empty
    have none : iter.libpq.tuples iter.mResult = [] := by simpa [access] using empty
    exact absurd hands.row (by simp [none])
  · rw [refilled] at failed
    exact absurd (by simpa [access] using hands.rows) failed

end DatastoreIterator

namespace System

variable {σ : Type} (pq : Libpq σ)

open DatastoreIterator

/-- Every client action keeps the use of results proper. -/
theorem effect_careful (iter : DatastoreIterator σ) (fetchSize : Nat) (action : ClientAction)
    (after : DatastoreIterator σ) (effect : Effect pq iter fetchSize action after)
    (careful : iter.Careful) : after.Careful := by
  cases effect with
  | kept => exact ⟨careful.proper, careful.offset⟩
  | queried query =>
    obtain ⟨proper, offset⟩ := executeQuery_careful pq careful query fetchSize
    exact ⟨proper, offset⟩
  | advanced => exact next_careful pq careful
  | released => exact closeAndReset_careful pq ⟨careful.proper, careful.offset⟩

/-- A constructed datastore uses results properly. -/
theorem constructed_careful (connectionString threadId : String) (fetchSize : Nat) :
    Holds Careful (constructed pq connectionString threadId fetchSize) := by
  obtain ⟨proper, offset⟩ := new_careful pq connectionString threadId
  exact constructed_holds ⟨proper, offset⟩

/-- The value a pointer of a data object refers to is there: its result has been obtained and
not been cleared, and has the row. -/
def Points (pointer : ValuePtr) (system : System σ) : Prop :=
  LiveAfter system.mDataIter.libpq.calls pointer.result ∧
    RowOf system.mDataIter.libpq.calls pointer.result pointer.row

/-- The action leaves the fetched chunk alone: `next` finds a row left, no query is started,
and the iteration is not closed. -/
def KeepsChunk (system : System σ) : ClientAction → Prop
  | .next index => (system.handle index).isSome = true → ¬system.mDataIter.Spent
  | .data _ => system.mDataIter.isReady = false
  | action => (system.clientStep pq action).mDataIter.mState = system.mDataIter.mState

/-- Actions other than a query and `next` keep the result held, unless they close the
iteration. -/
theorem handsOut_effect {pointer : ValuePtr} {iter after : DatastoreIterator σ} {fetchSize : Nat}
    {action : ClientAction} (hands : HandsOut pointer iter)
    (effect : Effect pq iter fetchSize action after) (noQuery : ∀ query, action ≠ .data query)
    (noNext : ∀ index, action ≠ .next index) (state : after.mState = iter.mState) :
    HandsOut pointer after := by
  have careful := effect_careful pq iter fetchSize action after effect hands.careful
  cases effect with
  | kept => exact ⟨careful, hands.held, hands.rows, hands.row⟩
  | queried query => exact absurd rfl (noQuery query)
  | advanced index => exact absurd rfl (noNext index)
  | released =>
    have ready : iter.mState = .ready := state.symm.trans (closeAndReset_mState ..)
    rw [@closeAndReset_ready _ pq { iter with mReference := 0 } ready] at careful ⊢
    exact ⟨careful, hands.held, hands.rows, hands.row⟩

/-- An action that leaves the chunk alone keeps the result held. -/
theorem keepsChunk_step {pointer : ValuePtr} (system : System σ) (action : ClientAction)
    (holds : Holds (HandsOut pointer) system) (keeps : KeepsChunk pq system action) :
    Holds (HandsOut pointer) (system.clientStep pq action) := by
  have bookkept := clientStep_bookkept pq holds.counted action
  have effect := clientStep_effect pq holds.counted.creator holds.alive action
  have hands := holds.iterator
  refine ⟨bookkept.alive.trans holds.alive, bookkept.counted, ?_⟩
  cases action with
  | data query =>
    have opened : system.mDataIter.mState = .opened := by
      cases state : system.mDataIter.mState with
      | ready => simp [KeepsChunk, isReady, state] at keeps
      | opened => rfl
    rw [clientStep, holds.alive, if_pos rfl, data_refused pq opened]
    exact hands
  | next index =>
    rw [clientStep]
    split
    · exact hands
    · exact (hands.next pq (keeps (by simp [*]))).1
  | resetError | setFetchSize | copy | assign | drop =>
    exact handsOut_effect pq hands effect (by simp) (by simp) keeps

/-- A result that is held as one of rows is there to be pointed into. -/
theorem points_of_handsOut {pointer : ValuePtr} {system : System σ}
    (hands : HandsOut pointer system.mDataIter) : Points pointer system :=
  ⟨hands.careful.proper.live hands.held, hands.careful.proper.rowOf hands.held hands.row⟩

/-- As many calls of `next` as there are rows left leave the chunk alone. -/
theorem keepsChunk_nexts {pointer : ValuePtr} {system : System σ}
    (hands : HandsOut pointer system.mDataIter) (index count : Nat)
    (left : system.mDataIter.mResultOffset + count ≤
      (system.mDataIter.libpq.tuples system.mDataIter.mResult).length) :
    Transition.Steps (clientStep pq) (KeepsChunk pq) system
      (List.replicate count (.next index)) := by
  induction count generalizing system with
  | zero => trivial
  | succ count ih =>
    have unspent : ¬system.mDataIter.Spent := by
      rintro (none | last)
      · exact absurd (hands.held.symm.trans none) (by simp)
      · omega
    refine ⟨fun _ => unspent, ?_⟩
    rw [clientStep]
    split
    · exact ih hands (by omega)
    · obtain ⟨after, offset, rows⟩ := hands.next pq unspent
      refine ih after ?_
      rw [offset, rows]
      omega

/-- In every run that ends with the destruction of the iterator, results are used well: each
is cleared at most once, and read only before that and at rows it has. The object a successful
`next` returns points into a live result, which stays live while the fetched chunk is left
alone, and in particular while `next` is called no more often than rows are left. -/
theorem results_used_well (connectionString threadId : String) (fetchSize : Nat)
    (actions : List ClientAction) :
    let system := Transition.run (clientStep pq)
      (constructed pq connectionString threadId fetchSize) actions
    WellUsed (system.deleteIterator pq).mDataIter.libpq.calls ∧
      ∀ index object pointer, (system.handle index).isSome = true →
        (system.mDataIter.next pq).1 = some object → object.thriftObject = some pointer →
        (∀ later, Transition.Steps (clientStep pq) (KeepsChunk pq)
            (system.clientStep pq (.next index)) later →
          Transition.Along (clientStep pq) (Points pointer)
            (system.clientStep pq (.next index)) later) ∧
        ∀ count, pointer.row + 1 + count ≤ ((system.clientStep pq
              (.next index)).mDataIter.libpq.tuples (some pointer.result)).length →
          Transition.Along (clientStep pq) (Points pointer)
            (system.clientStep pq (.next index)) (List.replicate count (.next index)) := by
  intro system
  have holds : Holds Careful system := (constructed_careful pq connectionString threadId
    fetchSize).run (effect_careful pq) actions
  refine ⟨(closeAndReset_careful pq holds.iterator).proper.used, ?_⟩
  intro index object pointer pointed given target
  have after := Holds.step (effect_careful pq) system (.next index) holds
  obtain ⟨hands, offset⟩ := next_handsOut pq holds.iterator given target
  obtain ⟨number, pointed⟩ := Option.isSome_iff_exists.mp pointed
  have advanced : system.clientStep pq (.next index) =
      { system with mDataIter := (system.mDataIter.next pq).2 } := by rw [clientStep, pointed]
  rw [advanced] at after ⊢
  have along : ∀ later, Transition.Steps (clientStep pq) (KeepsChunk pq)
        { system with mDataIter := (system.mDataIter.next pq).2 } later →
      Transition.Along (clientStep pq) (Points pointer)
        { system with mDataIter := (system.mDataIter.next pq).2 } later :=
    fun later steps => (Transition.along_of_steps (keepsChunk_step pq)
      ⟨after.alive, after.counted, hands⟩ steps).mono fun _ kept => points_of_handsOut kept.iterator
  refine ⟨along, fun count left => along _ (keepsChunk_nexts pq hands index count ?_)⟩
  rw [offset, hands.held]
  exact left

/-- A datastore over a table of two rows that has been asked for them. -/
def asked : System Postgres.Session :=
  Transition.run (clientStep (Postgres.server [[some [1], some [2]]] []))
    (constructed (Postgres.server [[some [1], some [2]]] []) "" "7" 500)
    [.data (.ids [10003] .metamorphosisStation)]

/-- Its first object points into the result of the FETCH, which stays live for one more call. -/
theorem results_used_well_row :
    Transition.Along (clientStep (Postgres.server [[some [1], some [2]]] [])) (Points ⟨2, 0⟩)
      (asked.clientStep (Postgres.server [[some [1], some [2]]] []) (.next 0)) [.next 0] := by
  obtain ⟨-, objects⟩ := results_used_well (Postgres.server [[some [1], some [2]]] []) "" "7" 500
    [.data (.ids [10003] .metamorphosisStation)]
  obtain ⟨-, live⟩ := objects 0 ⟨1, some ⟨2, 0⟩⟩ ⟨2, 0⟩ (by decide +kernel) (by decide +kernel) rfl
  exact live 1 (by decide +kernel)

end System

end ApiPack2
