import ApiPack2.Datastore.Handles
import ApiPack2.Datastore.Postgres
import ApiPack2.Lib.Transition

/-!
# Failures and the error flag

A command fails when its reply is not the one the program sent it for: rows for a FETCH, a
completed command for any other. The flag of the iterator is compared with the failures among
the calls the heap recorded. Each operation adds the failures of its own commands to the flag;
only `resetError` takes them away, and the constructor calls it after connecting.
-/

namespace ApiPack2

/-- The command asks for rows: a FETCH, or the empty command sent in its place before the
first cursor. -/
def AsksForRows (command : String) : Prop := command = "" ∨ "FETCH ".toList <+: command.toList

instance (command : String) : Decidable (AsksForRows command) :=
  inferInstanceAs (Decidable (_ ∨ _))

/-- A FETCH command asks for rows. -/
theorem asksForRows_fetchCommand (fetchSize : Nat) (topic : Topic) (threadId : String) :
    AsksForRows (fetchCommand fetchSize topic threadId) := by
  refine .inr ?_
  simp only [fetchCommand, String.toList_append, List.append_assoc]
  exact List.prefix_append ..

/-- A command that starts with another letter does not ask for rows. -/
theorem not_asksForRows {command : String} (first : Char) (rest : List Char)
    (text : command.toList = first :: rest) (other : first ≠ 'F') : ¬AsksForRows command := by
  rintro (rfl | fetches)
  · simp at text
  · rw [text, show "FETCH ".toList = 'F' :: "ETCH ".toList from rfl,
      List.cons_prefix_cons] at fetches
    exact other fetches.1.symm

/-- A CLOSE command does not ask for rows. -/
theorem not_asksForRows_closeCommand (topic : Topic) (threadId : String) :
    ¬AsksForRows (closeCommand topic threadId) := by
  refine not_asksForRows 'C' ("LOSE cursor_".toList ++
    ((toString topic.number).toList ++ ("_".toList ++ threadId.toList))) ?_ (by decide)
  simp only [closeCommand, String.toList_append, List.append_assoc]
  rfl

/-- A query command does not ask for rows. -/
theorem Query.not_asksForRows_command (query : Query) (threadId : String) :
    ¬AsksForRows (query.command threadId) := by
  obtain ⟨rest, declares⟩ := query.command_declares threadId
  rw [declares]
  exact not_asksForRows 'D' ("ECLARE ".toList ++ rest.toList)
    (by rw [String.toList_append]; rfl) (by decide)

/-- A command that failed: its reply is not the one it was sent for. -/
def Call.failed : Call → Bool
  | .exec command reply => if AsksForRows command then !tuplesOk reply else !commandOk reply
  | .clear _ => false
  | .read .. => false

/-- A FETCH fails unless it carries rows. -/
theorem Call.failed_fetch {command : String} (fetches : AsksForRows command)
    (reply : Option PGresult) : (Call.exec command reply).failed = !tuplesOk reply :=
  if_pos fetches

/-- Another command fails unless it completes. -/
theorem Call.failed_other {command : String} (other : ¬AsksForRows command)
    (reply : Option PGresult) : (Call.exec command reply).failed = !commandOk reply :=
  if_neg other

namespace ResultHeap

/-- A command sent after the earlier heap failed. -/
def failedSince (earlier later : ResultHeap) : Bool :=
  (later.calls.drop earlier.calls.length).any Call.failed

/-- The later heap records more calls, with or without a failure among them. -/
def Sends (earlier later : ResultHeap) (failed : Bool) : Prop :=
  ∃ calls, later.calls = earlier.calls ++ calls ∧ calls.any Call.failed = failed

/-- The calls recorded since are the ones sent. -/
theorem Sends.failedSince {earlier later : ResultHeap} {failed : Bool}
    (sends : earlier.Sends later failed) : earlier.failedSince later = failed := by
  obtain ⟨calls, recorded, failures⟩ := sends
  rw [ResultHeap.failedSince, recorded, List.drop_left, failures]

/-- Sending nothing fails nothing. -/
theorem Sends.refl (heap : ResultHeap) : heap.Sends heap false := ⟨[], by simp, rfl⟩

/-- No command has failed since now. -/
@[simp]
theorem failedSince_self (heap : ResultHeap) : heap.failedSince heap = false :=
  (Sends.refl heap).failedSince

/-- What is sent in two stretches fails in one of them. -/
theorem Sends.trans {first second third : ResultHeap} {left right : Bool}
    (before : first.Sends second left) (after : second.Sends third right) :
    first.Sends third (left || right) := by
  obtain ⟨calls, recorded, rfl⟩ := before
  obtain ⟨more, recordedMore, rfl⟩ := after
  exact ⟨calls ++ more, by rw [recordedMore, recorded, List.append_assoc], List.any_append⟩

/-- Clearing sends no command. -/
theorem sends_clear (heap : ResultHeap) (result : Option ResultId) :
    heap.Sends (heap.clear result) false := by
  cases result with
  | none => exact .refl heap
  | some result => exact ⟨[.clear result], rfl, rfl⟩

/-- Reading sends no command. -/
theorem sends_read (heap : ResultHeap) (result : Option ResultId) (row : Option Nat) :
    heap.Sends (heap.read result row) false := by
  cases result with
  | none => exact .refl heap
  | some result => exact ⟨[.read result row], rfl, rfl⟩

/-- Receiving a reply sends its command. -/
theorem sends_receive (heap : ResultHeap) (command : String) (reply : Option PGresult) :
    heap.Sends (heap.receive command reply) (Call.exec command reply).failed :=
  ⟨[.exec command reply], rfl, by simp⟩

/-- Consuming a reply sends its command. -/
theorem sends_consume (heap : ResultHeap) (command : String) (reply : Option PGresult) :
    heap.Sends (heap.consume command reply) (Call.exec command reply).failed := by
  let fresh := reply.map fun _ => heap.results.length
  have read := (sends_receive heap command reply).trans (sends_read _ fresh none)
  have cleared := read.trans (sends_clear _ fresh)
  rwa [Bool.or_false, Bool.or_false] at cleared

end ResultHeap

namespace DatastoreIterator

variable {σ : Type} (pq : Libpq σ)

/-- The command kept for fetching asks for rows, and the one kept for closing does not. -/
structure Phrased (iter : DatastoreIterator σ) : Prop where
  /-- `next` sends a command that asks for rows. -/
  fetch : AsksForRows iter.mFetchCommand
  /-- Closing sends a command that does not. -/
  close : iter.mState = .opened → ¬AsksForRows iter.mCloseCommand

/-- The later iterator has added the failures of the commands it sent to the error flag. -/
def Reports (iter later : DatastoreIterator σ) : Prop :=
  ∃ failed, iter.libpq.Sends later.libpq failed ∧ later.mWasError = (iter.mWasError || failed)

variable {iter : DatastoreIterator σ}

/-- An operation that neither sends nor flags reports. -/
theorem Reports.of_same {later : DatastoreIterator σ} (calls : later.libpq = iter.libpq)
    (flag : later.mWasError = iter.mWasError) : Reports iter later :=
  ⟨false, by rw [calls]; exact .refl _, by rw [flag, Bool.or_false]⟩

/-- Reports compose. -/
theorem Reports.trans {first second third : DatastoreIterator σ} (left : Reports first second)
    (right : Reports second third) : Reports first third := by
  obtain ⟨failed, sends, flag⟩ := left
  obtain ⟨failedMore, sendsMore, flagMore⟩ := right
  exact ⟨failed || failedMore, sends.trans sendsMore, by rw [flagMore, flag, Bool.or_assoc]⟩

/-- A flag that is the record of all failures stays so. -/
theorem Reports.history {later : DatastoreIterator σ} (reports : Reports iter later)
    (record : iter.mWasError = iter.libpq.calls.any Call.failed) :
    later.mWasError = later.libpq.calls.any Call.failed := by
  obtain ⟨failed, ⟨calls, recorded, rfl⟩, flag⟩ := reports
  rw [flag, recorded, List.any_append, record]

/-- The flag after an operation that reports. -/
theorem Reports.hasError {later : DatastoreIterator σ} (reports : Reports iter later) :
    later.hasError = (iter.hasError || iter.libpq.failedSince later.libpq) := by
  obtain ⟨failed, sends, flag⟩ := reports
  rw [DatastoreIterator.hasError, flag, sends.failedSince]
  rfl

/-- Closing reports the failures of CLOSE and END. -/
theorem closeAndReset_reports (iter : DatastoreIterator σ)
    (close : iter.mState = .opened → ¬AsksForRows iter.mCloseCommand) :
    Reports iter (closeAndReset pq iter) := by
  cases state : iter.mState with
  | ready =>
    rw [closeAndReset_ready pq state]
    exact .of_same rfl rfl
  | opened =>
    cases connected : iter.mConnection with
    | none =>
      rw [closeAndReset_disconnected pq state connected]
      exact ⟨false, ResultHeap.sends_clear .., by rw [Bool.or_false]⟩
    | some session =>
      let close_ := pq.exec session iter.mCloseCommand
      have closed := (ResultHeap.sends_clear iter.libpq iter.mResult).trans
        (ResultHeap.sends_consume _ iter.mCloseCommand close_.1)
      have sends := closed.trans (ResultHeap.sends_consume _ "END" (pq.exec close_.2 "END").1)
      rw [closeAndReset_opened pq state connected]
      refine ⟨_, sends, ?_⟩
      rw [Call.failed_other (close state), Call.failed_other (by decide), Bool.false_or]
      exact Bool.or_assoc ..

/-- A result that is held with rows left but is not one of rows, which `next` takes for the
result of a failed FETCH. -/
def ErrorHeld (iter : DatastoreIterator σ) : Prop :=
  ¬iter.Spent ∧ iter.libpq.status iter.mResult ≠ .tuplesOk

/-- The refill sends a FETCH or nothing; it has failed exactly if the result held afterwards
is not one of rows, unless that was held before. -/
theorem refill_sends (phrased : Phrased iter) :
    ∃ failed, iter.libpq.Sends (refill pq iter).libpq failed ∧
      ((refill pq iter).libpq.status (refill pq iter).mResult ≠ .tuplesOk ↔
        failed = true ∨ iter.ErrorHeld) := by
  by_cases spent : iter.Spent
  · let answer := (reply pq iter.mConnection iter.mFetchCommand).1
    have dropped := (ResultHeap.sends_read iter.libpq iter.mResult none).trans
      (ResultHeap.sends_clear _ iter.mResult)
    have received := dropped.trans (ResultHeap.sends_receive _ iter.mFetchCommand answer)
    refine ⟨_, by rw [refill_spent pq spent]; exact received, ?_⟩
    rw [refill_status pq spent, ne_eq, status_tuplesOk_iff, Call.failed_fetch phrased.fetch]
    simp [ErrorHeld, spent, answer]
  · refine ⟨false, by rw [refill_held pq spent]; exact ResultHeap.sends_read .., ?_⟩
    rw [refill_held pq spent]
    simp [ErrorHeld, spent, access]

/-- The refill leaves the commands, the state and the flag. -/
theorem refill_kept (iter : DatastoreIterator σ) :
    (refill pq iter).mFetchCommand = iter.mFetchCommand ∧
      (refill pq iter).mCloseCommand = iter.mCloseCommand ∧
      (refill pq iter).mState = iter.mState ∧
      (refill pq iter).mWasError = iter.mWasError := by
  by_cases spent : iter.Spent
  · rw [refill_spent pq spent]
    exact ⟨rfl, rfl, rfl, rfl⟩
  · rw [refill_held pq spent]
    exact ⟨rfl, rfl, rfl, rfl⟩

/-- `next` adds the failures of its commands to the flag, and flags an error it finds held. -/
theorem next_sends (phrased : Phrased iter) :
    ∃ failed, iter.libpq.Sends (next pq iter).2.libpq failed ∧
      ((next pq iter).2.mWasError = true ↔
        iter.mWasError = true ∨ failed = true ∨ iter.ErrorHeld) := by
  obtain ⟨fetchFails, fetched, status⟩ := refill_sends pq phrased
  obtain ⟨-, closeCommand, state, flag⟩ := refill_kept pq iter
  have close : (refill pq iter).mState = .opened → ¬AsksForRows (refill pq iter).mCloseCommand := by
    rw [closeCommand, state]
    exact phrased.close
  have counted := fetched.trans (ResultHeap.sends_read _ (refill pq iter).mResult none)
  have recounted := counted.trans (ResultHeap.sends_read _ (refill pq iter).mResult none)
  obtain ⟨rows, -, handed⟩ | ⟨rows, -, handed⟩ | ⟨failed, handed⟩ :=
    next_cases pq iter <;> rw [handed]
  · have read := recounted.trans (ResultHeap.sends_read _ (refill pq iter).mResult
      (some (refill pq iter).mResultOffset))
    refine ⟨_, read, ?_⟩
    simp [rowTaken, flag, ← status, rows]
  · obtain ⟨closeFails, closed, closeFlag⟩ :=
      closeAndReset_reports pq (refill pq iter).rowsCounted close
    refine ⟨_, recounted.trans closed, ?_⟩
    rw [closeFlag, show (refill pq iter).rowsCounted.mWasError = iter.mWasError from flag]
    have quiet := mt status.mpr (not_not_intro rows)
    simp only [Bool.or_eq_true, Bool.or_false] at quiet ⊢
    tauto
  · obtain ⟨closeFails, closed, closeFlag⟩ := closeAndReset_reports pq
      (fetchFailed pq ((refill pq iter).access (refill pq iter).mResult none)) close
    refine ⟨_, counted.trans closed, iff_of_true (closeFlag.trans (Bool.true_or _)) (.inr ?_)⟩
    exact (status.mp failed).imp_left fun fails => by simp [fails]

/-- Unless it finds an error held, `next` reports the failures of its commands. -/
theorem next_reports (phrased : Phrased iter) (clean : ¬iter.ErrorHeld) :
    Reports iter (next pq iter).2 := by
  obtain ⟨failed, sends, flag⟩ := next_sends pq phrased
  refine ⟨failed, sends, ?_⟩
  rw [Bool.eq_iff_iff, flag, Bool.or_eq_true]
  simp only [clean, or_false]

/-- A query reports the failures of BEGIN, DECLARE and, if it closes, CLOSE and END. -/
theorem executeQuery_reports (iter : DatastoreIterator σ) (query : Query) (fetchSize : Nat) :
    Reports iter (executeQuery pq iter query fetchSize) := by
  let opened := begun pq (prepared iter query) query.topic fetchSize
  let answer := (reply pq (reply pq iter.mConnection "BEGIN").2 (query.command iter.mThreadId)).1
  have began := ResultHeap.sends_consume iter.libpq "BEGIN" (reply pq iter.mConnection "BEGIN").1
  rw [Call.failed_other (by decide)] at began
  have declares := Call.failed_other (query.not_asksForRows_command iter.mThreadId) answer
  obtain ⟨failed, mError, ended⟩ | ⟨beginOk, failed, mError, ended⟩ | ⟨beginOk, declareOk, ended⟩ :=
    executeQuery_cases pq iter query fetchSize <;> rw [ended]
  · exact ⟨_, began, by rw [failed, Bool.not_false, Bool.or_true]; rfl⟩
  · have declared := ResultHeap.sends_consume opened.libpq (query.command iter.mThreadId) answer
    rw [declares, failed] at declared
    have failing : Reports iter (notDeclared pq opened (query.command iter.mThreadId) mError) :=
      ⟨_, @ResultHeap.Sends.trans _ opened.libpq _ _ _ began declared, by
        rw [Bool.not_false, Bool.or_true, Bool.or_true]; rfl⟩
    exact failing.trans (closeAndReset_reports pq _
      fun _ => not_asksForRows_closeCommand query.topic iter.mThreadId)
  · have received := ResultHeap.sends_receive opened.libpq (query.command iter.mThreadId) answer
    rw [declares, declareOk] at received
    rw [beginOk] at began
    have declared := received.trans (ResultHeap.sends_read _
      (answer.map fun _ => opened.libpq.results.length) none)
    exact ⟨_, began.trans declared, (Bool.or_false _).symm⟩

/-- `next` returns a null pointer only by closing. -/
theorem next_null_mState (null : (next pq iter).1 = none) :
    (next pq iter).2.mState = .ready := by
  obtain ⟨-, -, handed⟩ | ⟨-, -, handed⟩ | ⟨-, handed⟩ := next_cases pq iter <;> rw [handed] at null ⊢
  · simp at null
  · exact closeAndReset_mState ..
  · exact closeAndReset_mState ..

/-- An object comes from a result of rows, which stays held. -/
theorem next_object_clean (given : (next pq iter).1 ≠ none) : ¬(next pq iter).2.ErrorHeld := by
  obtain ⟨rows, -, handed⟩ | ⟨-, -, handed⟩ | ⟨-, handed⟩ := next_cases pq iter <;> rw [handed] at given ⊢
  · rintro ⟨-, error⟩
    simp [rowTaken, rows] at error
  · exact absurd rfl given
  · exact absurd rfl given

/-- Closing keeps the iterator phrased. -/
theorem closeAndReset_phrased (fetch : AsksForRows iter.mFetchCommand) :
    Phrased (closeAndReset pq iter) :=
  ⟨by rwa [closeAndReset_mFetchCommand], by simp⟩

/-- `next` keeps the iterator phrased. -/
theorem next_phrased (phrased : Phrased iter) : Phrased (next pq iter).2 := by
  obtain ⟨fetchCommand, closeCommand, state, -⟩ := refill_kept pq iter
  have fetch : AsksForRows (refill pq iter).mFetchCommand := fetchCommand ▸ phrased.fetch
  obtain ⟨-, -, handed⟩ | ⟨-, -, handed⟩ | ⟨-, handed⟩ := next_cases pq iter <;> rw [handed]
  · refine ⟨fetch, fun opened => ?_⟩
    have opened : (refill pq iter).mState = .opened := opened
    rw [state] at opened
    exact closeCommand ▸ phrased.close opened
  · exact closeAndReset_phrased pq fetch
  · exact closeAndReset_phrased pq fetch

/-- A query keeps the iterator phrased. -/
theorem executeQuery_phrased (phrased : Phrased iter) (query : Query) (fetchSize : Nat) :
    Phrased (executeQuery pq iter query fetchSize) := by
  obtain ⟨-, mError, ended⟩ | ⟨-, -, mError, ended⟩ | ⟨-, -, ended⟩ :=
    executeQuery_cases pq iter query fetchSize <;> rw [ended]
  · exact ⟨phrased.fetch, phrased.close⟩
  · exact closeAndReset_phrased pq (asksForRows_fetchCommand ..)
  · exact ⟨asksForRows_fetchCommand ..,
      fun _ => not_asksForRows_closeCommand query.topic iter.mThreadId⟩

/-- A query leaves no error held. -/
theorem executeQuery_clean (iter : DatastoreIterator σ) (query : Query) (fetchSize : Nat) :
    ¬(executeQuery pq iter query fetchSize).ErrorHeld :=
  fun held => held.1 (.inl (executeQuery_mResult pq iter query fetchSize))

/-- A constructed iterator is phrased. -/
theorem new_phrased (connectionString threadId : String) :
    Phrased (new pq connectionString threadId) := by
  obtain ⟨mError, created⟩ := new_spec pq connectionString threadId
  rw [created]
  exact ⟨.inl rfl, fun impossible => by simp at impossible⟩

end DatastoreIterator

namespace System

variable {σ : Type} (pq : Libpq σ)

open DatastoreIterator

/-- A constructed datastore is phrased. -/
theorem constructed_phrased (connectionString threadId : String) (fetchSize : Nat) :
    Holds Phrased (constructed pq connectionString threadId fetchSize) := by
  obtain ⟨fetch, close⟩ := new_phrased pq connectionString threadId
  exact constructed_holds ⟨fetch, close⟩

/-- Every client action keeps the iterator phrased. -/
theorem clientStep_phrased (system : System σ) (action : ClientAction)
    (kept : Holds Phrased system) : Holds Phrased (system.clientStep pq action) := by
  refine Holds.step (fun iter fetchSize action after effect phrased => ?_) system action kept
  cases effect with
  | kept => exact ⟨phrased.fetch, phrased.close⟩
  | queried query =>
    obtain ⟨fetch, close⟩ := executeQuery_phrased pq phrased query fetchSize
    exact ⟨fetch, close⟩
  | advanced => exact next_phrased pq phrased
  | released => exact closeAndReset_phrased pq phrased.fetch

/-- Releasing a handle reports the failures of closing, if it closes. -/
theorem intrusivePtrRelease_reports (system : System σ)
    (creator : system.mDataIter.mCreator = some .datastore) (alive : system.storeAlive = true)
    (close : system.mDataIter.mState = .opened → ¬AsksForRows system.mDataIter.mCloseCommand) :
    Reports system.mDataIter (system.intrusivePtrRelease pq).mDataIter := by
  by_cases last : system.mDataIter.mReference - 1 = 0
  · rw [intrusivePtrRelease_last pq last creator alive]
    exact closeAndReset_reports pq { system.mDataIter with mReference := 0 } close
  · rw [intrusivePtrRelease_shared pq last]
    exact .of_same rfl rfl

/-- Replacing a pointer reports the failures of closing, if it closes. -/
theorem replace_reports {system : System σ} (kept : Holds Phrased system) (target : Nat)
    (pointer : Option Nat) :
    Reports system.mDataIter (system.replace pq target pointer).mDataIter := by
  let placed := { system with handles := system.handles.set target pointer }
  obtain ⟨creator, -⟩ := kept.counted
  have close := kept.iterator.close
  cases old : system.handle target <;> cases pointer <;>
    simp only [replace, old, Option.isSome_none, Option.isSome_some, Bool.false_eq_true,
      ↓reduceIte]
  · exact .of_same rfl rfl
  · exact .of_same rfl rfl
  · exact intrusivePtrRelease_reports pq placed creator kept.alive close
  · exact intrusivePtrRelease_reports pq placed.intrusivePtrAddRef creator kept.alive close

/-- The caller resets the error of the iterator it points to, or starts another query. -/
def Renews (system : System σ) : ClientAction → Prop
  | .resetError index => (system.handle index).isSome = true
  | .data _ => system.mDataIter.isReady = true
  | _ => False

/-- Every action reports the failures of its commands, except for `resetError`, and for `next`
when it finds an error held. -/
theorem clientStep_reports {system : System σ} (kept : Holds Phrased system)
    (action : ClientAction)
    (noReset : ∀ index, action = .resetError index → system.handle index = none)
    (clean : ∀ index, action = .next index → ¬system.mDataIter.ErrorHeld) :
    Reports system.mDataIter (system.clientStep pq action).mDataIter := by
  cases action with
  | data query =>
    rw [clientStep, kept.alive, if_pos rfl]
    cases state : system.mDataIter.mState with
    | ready =>
      rw [data_accepted pq state]
      exact executeQuery_reports ..
    | opened =>
      rw [data_refused pq state]
      exact .of_same rfl rfl
  | next index =>
    rw [clientStep]
    split
    · exact .of_same rfl rfl
    · exact next_reports pq kept.iterator (clean index rfl)
  | resetError index =>
    rw [clientStep, noReset index rfl]
    exact .of_same rfl rfl
  | setFetchSize val =>
    rw [clientStep, kept.alive, if_pos rfl]
    exact .of_same rfl rfl
  | copy index =>
    rw [clientStep, copy]
    split <;> exact .of_same rfl rfl
  | assign target source =>
    rw [clientStep, assign]
    split
    · exact replace_reports pq kept ..
    · exact .of_same rfl rfl
  | drop index => exact replace_reports pq kept ..

/-- Whatever happened before, an action that fails a command leaves the flag set, and the flag
only goes away when the caller renews. -/
theorem clientStep_hasError {system : System σ} (kept : Holds Phrased system)
    (action : ClientAction)
    (flagged : (system.mDataIter.hasError = true ∧ ¬system.Renews action) ∨
      system.mDataIter.libpq.failedSince (system.clientStep pq action).mDataIter.libpq = true) :
    (system.clientStep pq action).mDataIter.hasError = true := by
  have reported (noReset : ∀ index, action = .resetError index → system.handle index = none)
      (clean : ∀ index, action = .next index → ¬system.mDataIter.ErrorHeld) :
      (system.clientStep pq action).mDataIter.hasError = true := by
    rw [(clientStep_reports pq kept action noReset clean).hasError, Bool.or_eq_true]
    exact flagged.imp_left And.left
  cases action with
  | next index =>
    cases pointed : system.handle index with
    | none => simpa [clientStep, pointed, Renews] using flagged
    | some number =>
      obtain ⟨failed, sends, flag⟩ := next_sends pq kept.iterator
      simp only [clientStep, pointed, sends.failedSince] at flagged ⊢
      exact flag.mpr (flagged.imp And.left .inl)
  | resetError index =>
    cases pointed : system.handle index with
    | none => exact reported (by simpa using pointed) (by simp)
    | some number => simp [clientStep, pointed, Renews, resetError] at flagged
  | data | setFetchSize | copy | assign | drop => exact reported (by simp) (by simp)

/-! ## Masked failures -/

/-- The flag is set, and stays set along the actions until the caller renews. -/
def Flagged : System σ → List ClientAction → Prop
  | system, [] => system.mDataIter.hasError = true
  | system, action :: actions =>
    system.mDataIter.hasError = true ∧
      (system.Renews action ∨ Flagged (system.clientStep pq action) actions)

/-- Every action that fails a command leaves the flag set, and it stays set along the actions
that follow until the caller renews. -/
def FailuresFlagged : System σ → List ClientAction → Prop
  | _, [] => True
  | system, action :: actions =>
    (system.mDataIter.libpq.failedSince (system.clientStep pq action).mDataIter.libpq = true →
        Flagged pq (system.clientStep pq action) actions) ∧
      FailuresFlagged (system.clientStep pq action) actions

/-- No failure is masked in the run that constructs a datastore and takes the actions: neither
that of connecting nor that of a command. -/
def Unmasked (connectionString threadId : String) (fetchSize : Nat)
    (actions : List ClientAction) : Prop :=
  ((pq.connectdb connectionString).any pq.connectionOk = false →
      Flagged pq (constructed pq connectionString threadId fetchSize) actions) ∧
    FailuresFlagged pq (constructed pq connectionString threadId fetchSize) actions

/-- A flag once set stays set until the caller renews. -/
theorem flagged_of_hasError {system : System σ} (kept : Holds Phrased system)
    (flag : system.mDataIter.hasError = true) (actions : List ClientAction) :
    Flagged pq system actions := by
  induction actions generalizing system with
  | nil => exact flag
  | cons action actions ih =>
    refine ⟨flag, or_iff_not_imp_left.mpr fun noRenewal => ?_⟩
    exact ih (clientStep_phrased pq system action kept)
      (clientStep_hasError pq kept action (.inl ⟨flag, noRenewal⟩))

/-- Failed commands are flagged along every run. -/
theorem failuresFlagged {system : System σ} (kept : Holds Phrased system)
    (actions : List ClientAction) : FailuresFlagged pq system actions := by
  induction actions generalizing system with
  | nil => trivial
  | cons action actions ih =>
    have after := clientStep_phrased pq system action kept
    exact ⟨fun failed => flagged_of_hasError pq after
      (clientStep_hasError pq kept action (.inr failed)) actions, ih after⟩

/-- A constructed datastore reports no error, whatever became of its connection. -/
theorem constructed_hasError (connectionString threadId : String) (fetchSize : Nat) :
    (constructed pq connectionString threadId fetchSize).mDataIter.hasError = false := by
  obtain ⟨mError, created⟩ := new_spec pq connectionString threadId
  rw [constructed, created]
  rfl

/-- No failure is masked exactly when connecting succeeds: the constructor resets the error
after `createConnection` has set it, and every other failure is flagged. -/
theorem unmasked_iff_connected (connectionString threadId : String) (fetchSize : Nat)
    (actions : List ClientAction) :
    Unmasked pq connectionString threadId fetchSize actions ↔
      (pq.connectdb connectionString).any pq.connectionOk = true := by
  have flagged := failuresFlagged pq
    (constructed_phrased pq connectionString threadId fetchSize) actions
  have masked := constructed_hasError pq connectionString threadId fetchSize
  constructor
  · intro unmasked
    by_contra refused
    have first := unmasked.1 (Bool.not_eq_true _ ▸ refused)
    cases actions with
    | nil => exact absurd (masked.symm.trans first) Bool.false_ne_true
    | cons action actions => exact absurd (masked.symm.trans first.1) Bool.false_ne_true
  · intro connected
    exact ⟨fun refused => absurd (refused.symm.trans connected) Bool.false_ne_true, flagged⟩

/-- A server that answers with connections that are not usable. -/
def refusing : Libpq Postgres.Session :=
  { Postgres.server [] [] with connectionOk := fun _ => false }

/-- Connecting to it notes the failure, and the constructor masks it. -/
theorem connection_failure_masked :
    ((constructed refusing "" "7" 500).mDataIter.isConnected refusing = false ∧
      (constructed refusing "" "7" 500).mDataIter.hasError = false) ∧
      ¬Unmasked refusing "" "7" 500 [] := by
  refine ⟨⟨by decide, by decide⟩, fun unmasked => ?_⟩
  have flagged : (constructed refusing "" "7" 500).mDataIter.hasError = true := unmasked.1 rfl
  exact absurd flagged (by decide)

/-! ## Errors of earlier queries -/

/-- Calling `next` through a handle until it first returns a null pointer. -/
inductive ReadToEnd (handle : Nat) : System σ → System σ → Prop where
  /-- The first null pointer. -/
  | ended (system : System σ) (null : (system.mDataIter.next pq).1 = none) :
      ReadToEnd handle system (system.clientStep pq (.next handle))
  /-- An object, and the calls after it. -/
  | object (system : System σ) {last : System σ} (given : (system.mDataIter.next pq).1 ≠ none)
      (more : ReadToEnd handle (system.clientStep pq (.next handle)) last) :
      ReadToEnd handle system last

/-- Queries run one after another, each read to its end and its handle dropped, with the
fetch size set in between: the states in which each query started and ended. -/
inductive QueryRun : System σ → List (System σ × System σ) → Prop where
  | done (system : System σ) : QueryRun system []
  | setFetchSize (system : System σ) (val : Nat) {queries : List (System σ × System σ)}
      (more : QueryRun (system.clientStep pq (.setFetchSize val)) queries) :
      QueryRun system queries
  | query (system ended : System σ) (query : Query) {queries : List (System σ × System σ)}
      (read : ReadToEnd pq system.handles.length (system.clientStep pq (.data query)) ended)
      (more : QueryRun (ended.clientStep pq (.drop system.handles.length)) queries) :
      QueryRun system ((system, ended) :: queries)

/-- Reading to the end reports the failures of its FETCHes and of closing, and leaves the
iterator ready. -/
theorem ReadToEnd.reports {handle : Nat} {system ended : System σ}
    (read : ReadToEnd pq handle system ended) (kept : Holds Phrased system)
    (pointed : (system.handle handle).isSome = true) (clean : ¬system.mDataIter.ErrorHeld) :
    Reports system.mDataIter ended.mDataIter ∧ Holds Phrased ended ∧
      ended.mDataIter.mState = .ready := by
  have advanced (system : System σ) (pointed : (system.handle handle).isSome = true) :
      system.clientStep pq (.next handle) =
        { system with mDataIter := (system.mDataIter.next pq).2 } := by
    obtain ⟨number, pointed⟩ := Option.isSome_iff_exists.mp pointed
    rw [clientStep, pointed]
  induction read with
  | ended system null =>
    have after := clientStep_phrased pq system (.next handle) kept
    rw [advanced system pointed] at after ⊢
    exact ⟨next_reports pq kept.iterator clean, after, next_null_mState pq null⟩
  | object system given more ih =>
    have after := clientStep_phrased pq system (.next handle) kept
    rw [advanced system pointed] at after ih
    obtain ⟨reports, keptMore, ready⟩ := ih after pointed (next_object_clean pq given)
    exact ⟨(next_reports pq kept.iterator clean).trans reports, keptMore, ready⟩

/-- Only a query opens the iterator. -/
theorem clientStep_ready {system : System σ} (kept : Holds Phrased system)
    (ready : system.mDataIter.mState = .ready) {action : ClientAction}
    (noQuery : ∀ query, action ≠ .data query) :
    (system.clientStep pq action).mDataIter.mState = .ready := by
  have effect := clientStep_effect pq kept.counted.creator kept.alive action
  generalize (system.clientStep pq action).mDataIter = after at effect ⊢
  cases effect with
  | kept => exact ready
  | queried query => exact absurd rfl (noQuery query)
  | advanced =>
    cases state : (next pq system.mDataIter).2.mState with
    | ready => rfl
    | opened => exact (opened_of_next pq state).symm.trans ready
  | released => exact closeAndReset_mState ..

/-- In a run of queries without `resetError`, `hasError` after a query tells of a failure of
its own commands or of those of an earlier one. -/
theorem QueryRun.hasError {system : System σ} {queries : List (System σ × System σ)}
    (run : QueryRun pq system queries) (kept : Holds Phrased system)
    (ready : system.mDataIter.mState = .ready)
    (record : system.mDataIter.mWasError = system.mDataIter.libpq.calls.any Call.failed)
    {before ended : System σ} (listed : (before, ended) ∈ queries) :
    ended.mDataIter.hasError = (before.mDataIter.libpq.calls.any Call.failed ||
      before.mDataIter.libpq.failedSince ended.mDataIter.libpq) := by
  induction run with
  | done => simp at listed
  | setFetchSize system val more ih =>
    exact ih (clientStep_phrased pq system _ kept) (clientStep_ready pq kept ready (by simp))
      ((clientStep_reports pq kept _ (by simp) (by simp)).history record) listed
  | query system last query read more ih =>
    have asked := clientStep_phrased pq system (.data query) kept
    have answered := clientStep_reports pq kept (.data query) (by simp) (by simp)
    rw [clientStep, kept.alive, if_pos rfl, data_accepted pq ready] at asked answered read
    obtain ⟨reports, keptLast, readyLast⟩ := read.reports pq asked (by simp [handle])
      (executeQuery_clean pq system.mDataIter query system.mFetchSize)
    have whole := answered.trans reports
    rcases List.mem_cons.mp listed with same | later
    · cases same
      rw [whole.hasError, ← record]
      rfl
    · have dropped := clientStep_reports pq keptLast (.drop system.handles.length) (by simp)
        (by simp)
      exact ih (clientStep_phrased pq last _ keptLast)
        (clientStep_ready pq keptLast readyLast (by simp))
        (dropped.history (whole.history record)) later

/-- On a constructed datastore, `hasError` at the end of a query tells of the failures of its
own commands exactly when no command of an earlier query has failed or one of its own has. -/
theorem hasError_own_iff {connectionString threadId : String} {fetchSize : Nat}
    {queries : List (System σ × System σ)}
    (run : QueryRun pq (constructed pq connectionString threadId fetchSize) queries)
    {before ended : System σ} (listed : (before, ended) ∈ queries) :
    (ended.mDataIter.hasError = true ↔
        before.mDataIter.libpq.failedSince ended.mDataIter.libpq = true) ↔
      before.mDataIter.libpq.calls.any Call.failed = false ∨
        before.mDataIter.libpq.failedSince ended.mDataIter.libpq = true := by
  obtain ⟨mError, created⟩ := new_spec pq connectionString threadId
  have reported := run.hasError pq (constructed_phrased pq connectionString threadId fetchSize)
    (by rw [constructed, created]) (by rw [constructed, created]; rfl) listed
  rw [reported, Bool.or_eq_true]
  cases before.mDataIter.libpq.calls.any Call.failed <;> simp

/-- A server that fails the first FETCH, of two tables with one row. -/
def failingOnce : Libpq Postgres.Session := Postgres.server [[some [1]], [some [2]]] [false]

/-- The datastore over these tables, before it has been asked for either. -/
def unasked : System Postgres.Session := constructed failingOnce "" "7" 500

/-- The datastore after the first table has been asked for and read to the failure. -/
def failedRead : System Postgres.Session :=
  (unasked.clientStep failingOnce (.data (.ids [1] .metamorphosisStation))).clientStep
    failingOnce (.next unasked.handles.length)

/-- The first query ends with its first call of `next`. -/
theorem failedRead_ends : ReadToEnd failingOnce unasked.handles.length
    (unasked.clientStep failingOnce (.data (.ids [1] .metamorphosisStation))) failedRead :=
  .ended _ (by decide +kernel)

/-- The second query runs without a failure and is reported as failed. -/
theorem earlier_error_reported :
    ∃ queries, QueryRun failingOnce unasked queries ∧
      ∃ before ended, (before, ended) ∈ queries ∧ ended.mDataIter.hasError = true ∧
        before.mDataIter.libpq.failedSince ended.mDataIter.libpq = false := by
  let before := failedRead.clientStep failingOnce (.drop unasked.handles.length)
  let asked := before.clientStep failingOnce (.data (.ids [2] .metamorphosisStation))
  let given := asked.clientStep failingOnce (.next before.handles.length)
  let ended := given.clientStep failingOnce (.next before.handles.length)
  have course : (asked.mDataIter.next failingOnce).1 ≠ none ∧
      (given.mDataIter.next failingOnce).1 = none ∧ ended.mDataIter.hasError = true ∧
      before.mDataIter.libpq.failedSince ended.mDataIter.libpq = false := by decide +kernel
  obtain ⟨object, null, flagged, clean⟩ := course
  exact ⟨_, .query _ _ _ failedRead_ends (.query before ended _
    (.object _ object (.ended _ null)) (.done _)), before, ended, .tail _ (.head _), flagged, clean⟩

/-- The first of them is reported as it went. -/
theorem hasError_own_iff_first :
    failedRead.mDataIter.hasError = true ↔
      unasked.mDataIter.libpq.failedSince failedRead.mDataIter.libpq = true := by
  have run : QueryRun failingOnce unasked [(unasked, failedRead)] :=
    .query _ _ _ failedRead_ends (.done _)
  exact (hasError_own_iff failingOnce run (.head _)).mpr (.inl (by decide +kernel))

end System

end ApiPack2
