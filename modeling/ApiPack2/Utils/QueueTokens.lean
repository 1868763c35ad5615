import ApiPack2.Utils.BlockingConcurrentQueue

/-!
# Tokens and elements

An element is enqueued before its token is signalled, and a token is taken before an element is
dequeued for it. So whoever has a token and no element yet finds one: the elements that wait in
the inner queue are at least as many as the threads in the loop that looks for them, in every
interleaving.
-/

namespace ApiPack2

open Threads (total)

namespace LightweightSemaphore

/-- The tokens the thread is about to signal. -/
def Thread.signals : Thread → Nat
  | .signalling count => count
  | _ => 0

/-- The thread is outside of the semaphore. -/
def Thread.Idle (stands : Thread) : Prop := ∃ got, stands = .returned got

/-- The thread is in `signal`, or has returned from it. -/
def Thread.InSignal : Thread → Prop
  | .signalling _ | .posting _ | .returned 0 => True
  | _ => False

/-- The thread is in an operation that takes one token at most, or has returned from it. -/
def Thread.Single : Thread → Prop
  | .returned got => got ≤ 1
  | .starting max caller | .trying max caller _ => max = 1 ∧ caller.holds = 0
  | .spinning wait _ | .loaded wait _ _ | .waiting wait | .clocking wait | .timing wait _
  | .recovering wait | .recovered wait _ => wait.max = 1
  | .signalling _ | .posting _ => False

/-- With a maximum of one, one token is taken. -/
theorem taken_one {oldCount : Int} (positive : oldCount > 0) : taken oldCount 1 = 1 := by
  unfold taken newCount
  split <;> omega

/-- A wait for one token ends with it. -/
theorem acquired_single {wait : Wait} (one : wait.max = 1) : wait.acquired = .returned 1 := by
  unfold Wait.acquired
  rw [if_neg (by omega)]

/-- Where `tryWaitMany` returns to with one token at most. -/
theorem single_resume {caller : Caller} (alone : caller.holds = 0) {result : Nat}
    (few : result ≤ 1) : (caller.resume 1 result).Single := by
  cases caller with
  | tryWaitMany => exact few
  | waitMany timeout_usecs =>
    simp only [Caller.resume]
    split
    · rfl
    · exact few
  | onePlus => cases alone

/-- An atomic operation of a wait for one token stays one. -/
theorem run_single {shared : Shared} {stands : Thread} (single : stands.Single) :
    (run shared stands).2.Single := by
  cases stands with
  | returned got => exact single
  | starting max caller => exact single
  | trying max caller oldCount =>
    obtain ⟨one, alone⟩ := single
    subst one
    simp only [run]
    split
    · rename_i positive
      split
      · exact single_resume alone (Nat.le_of_eq (taken_one positive))
      · exact ⟨rfl, alone⟩
    · exact single_resume alone (Nat.zero_le 1)
  | spinning wait spin =>
    cases spin with
    | zero =>
      simp only [run]
      split
      · rw [acquired_single single]
        exact Nat.le_refl 1
      · split <;> exact single
    | succ spin => exact single
  | loaded wait spin oldCount =>
    simp only [run]
    split
    · rename_i exchanges
      rw [show wait.max = 1 from single, taken_one exchanges.1]
      exact Nat.le_refl 1
    · exact single
  | waiting wait =>
    simp only [run]
    split
    · rw [acquired_single single]
      exact Nat.le_refl 1
    · exact single
  | clocking wait => exact single
  | timing wait deadline =>
    simp only [run]
    split
    · rw [acquired_single single]
      exact Nat.le_refl 1
    · exact single
  | recovering wait => exact single
  | recovered wait oldCount =>
    simp only [run]
    split
    · split
      · rw [acquired_single single]
        exact Nat.le_refl 1
      · exact single
    · split
      · exact Nat.zero_le 1
      · exact single
  | signalling count => exact single.elim
  | posting count => exact single.elim

/-- An atomic operation of `signal` stays one, or returns. -/
theorem run_inSignal {shared : Shared} {stands : Thread} (inside : stands.InSignal) :
    (run shared stands).2.InSignal := by
  cases stands with
  | signalling count =>
    simp only [run]
    split <;> trivial
  | posting count => cases count <;> trivial
  | returned got => exact inside
  | _ => exact inside.elim

/-- No token is about to be signalled after one was acquired. -/
theorem signals_acquired (wait : Wait) : wait.acquired.signals = 0 := by
  unfold Wait.acquired
  split <;> rfl

/-- No token is about to be signalled after `tryWaitMany`. -/
theorem signals_resume (caller : Caller) (max result : Nat) :
    (caller.resume max result).signals = 0 := by
  cases caller with
  | waitMany timeout_usecs =>
    simp only [Caller.resume]
    split <;> rfl
  | _ => rfl

/-- What an atomic operation signals, the thread was about to signal. -/
theorem run_signalled (shared : Shared) (stands : Thread) :
    (run shared stands).1.signalled + (run shared stands).2.signals =
      shared.signalled + stands.signals := by
  cases stands with
  | trying max caller oldCount =>
    simp only [run]
    split
    · split
      · rw [signals_resume]
        rfl
      · rfl
    · rw [signals_resume]
      rfl
  | spinning wait spin =>
    cases spin with
    | zero =>
      simp only [run]
      split
      · rw [signals_acquired]
        rfl
      · split <;> rfl
    | succ spin => rfl
  | loaded wait spin oldCount =>
    simp only [run]
    split <;> rfl
  | waiting wait =>
    simp only [run]
    split
    · rw [signals_acquired]
      rfl
    · rfl
  | timing wait deadline =>
    simp only [run]
    split
    · rw [signals_acquired]
      rfl
    · rfl
  | recovered wait oldCount =>
    simp only [run]
    split
    · split
      · rw [signals_acquired]
        rfl
      · rfl
    · split <;> rfl
  | signalling count =>
    simp only [run]
    split <;> rfl
  | posting count => cases count <;> rfl
  | _ => rfl

/-- An atomic operation returns nothing to a caller. -/
theorem run_returned (shared : Shared) (stands : Thread) :
    (run shared stands).1.returned = shared.returned := by
  unfold run
  split <;> first | rfl | (split <;> first | rfl | (split <;> rfl))

/-- What happens to a thread other than a call. -/
structure Continues (shared after : Shared) (stands next : Thread) : Prop where
  /-- What is signalled, the thread was about to signal. -/
  signalled : after.signalled + next.signals = shared.signalled + stands.signals
  /-- Nothing is returned to a caller. -/
  returned : after.returned = shared.returned
  /-- A wait for one token stays one. -/
  single : stands.Single → next.Single
  /-- A signal stays one. -/
  inSignal : stands.InSignal → next.InSignal

/-- Nothing happens. -/
theorem Continues.refl (shared : Shared) (stands : Thread) :
    Continues shared shared stands stands := ⟨rfl, rfl, id, id⟩

/-- Every event but a call continues what the thread does. -/
theorem react_continues (shared : Shared) (stands : Thread) {event : Event}
    (continues : ∀ operation, event ≠ .call operation) :
    Continues shared (react shared stands event).1 stands (react shared stands event).2 := by
  cases event with
  | call operation => exact absurd rfl (continues operation)
  | run => exact ⟨run_signalled .., run_returned .., run_single, run_inSignal⟩
  | spurious =>
    cases stands with
    | trying max caller oldCount =>
      simp only [react]
      split
      · exact ⟨rfl, rfl, id, id⟩
      · exact .refl ..
    | _ => exact .refl ..
  | clock now =>
    cases stands with
    | clocking wait => exact ⟨rfl, rfl, id, id⟩
    | _ => exact .refl ..
  | timeout =>
    cases stands with
    | timing wait deadline =>
      simp only [react]
      split
      · exact ⟨rfl, rfl, id, id⟩
      · exact .refl ..
    | _ => exact .refl ..
  | refuse =>
    cases stands with
    | timing wait deadline =>
      simp only [react]
      split
      · exact .refl ..
      · refine ⟨?_, rfl, fun one => ?_, fun inside => inside.elim⟩
        · rw [signals_acquired]
          rfl
        · rw [acquired_single one]
          exact Nat.le_refl 1
    | _ => exact .refl ..

/-- A signal holds no token. -/
theorem holds_of_inSignal {stands : Thread} (inside : stands.InSignal) : stands.holds = 0 := by
  cases stands with
  | returned got =>
    cases got with
    | zero => rfl
    | succ got => exact inside.elim
  | signalling | posting => rfl
  | _ => exact inside.elim

/-- A wait is about to signal nothing. -/
theorem signals_of_single {stands : Thread} (single : stands.Single) : stands.signals = 0 := by
  cases stands with
  | signalling => exact single.elim
  | _ => rfl

end LightweightSemaphore

namespace ConcurrentQueue

variable {ι α : Type*}

/-- The thread has enqueued an element that is not signalled. -/
def Thread.announces : Thread ι α → Nat
  | .outside (.enqueued true) => 1
  | _ => 0

/-- The thread has claimed the element it dequeues. -/
def Thread.got : Thread ι α → Nat
  | .claimed _ _ | .outside (.dequeued (some _)) => 1
  | _ => 0

/-- The thread is in `enqueue`, or has returned from it. -/
def Thread.Enqueues : Thread ι α → Prop
  | .outside (.enqueued _) | .enqueuing _ | .checking _ _ | .allocating _ _ | .constructing _ _
  | .publishing _ _ | .broken => True
  | _ => False

/-- The thread is in `try_dequeue`, or has returned from it. -/
def Thread.Dequeues : Thread ι α → Prop
  | .outside (.enqueued _) | .enqueuing _ | .checking _ _ | .allocating _ _ | .constructing _ _
  | .publishing _ _ => False
  | _ => True

/-- The thread is in `enqueue`, and has claimed nothing. -/
theorem got_of_enqueues {stands : Thread ι α} (enqueues : stands.Enqueues) :
    stands.got = 0 := by
  cases stands with
  | outside result =>
    cases result with
    | enqueued success => rfl
    | dequeued element => exact enqueues.elim
  | claimed => exact enqueues.elim
  | _ => rfl

/-- The thread is in `try_dequeue`, and has announced nothing. -/
theorem announces_of_dequeues {stands : Thread ι α}
    (dequeues : stands.Dequeues) : stands.announces = 0 := by
  cases stands with
  | outside result =>
    cases result with
    | enqueued success => exact dequeues.elim
    | dequeued element => rfl
  | _ => rfl

/-- A thread has claimed one element at most. -/
theorem got_le_one (stands : Thread ι α) : stands.got ≤ 1 := by
  unfold Thread.got
  split <;> omega

/-- The thread is in `try_dequeue` and has nothing yet. -/
structure Thread.Seeks (stands : Thread ι α) : Prop where
  /-- It has enqueued nothing. -/
  announces : stands.announces = 0
  /-- It has claimed nothing. -/
  got : stands.got = 0
  /-- It is in `try_dequeue`. -/
  dequeues : stands.Dequeues
  /-- It is not in `enqueue`. -/
  enqueues : stands.Enqueues → stands = .broken

/-- Where the loop of `try_dequeue` ends without an element. -/
theorem seeks_outside : (Thread.outside (.dequeued none) : Thread ι α).Seeks :=
  ⟨rfl, rfl, trivial, False.elim⟩

/-- Where `try_dequeue` tries a producer. -/
theorem seeks_attempting (attempt : Attempt ι) : (Thread.attempting attempt : Thread ι α).Seeks :=
  ⟨rfl, rfl, trivial, False.elim⟩

/-- Where the scan leads. -/
theorem seeks_scan (ptrs : List ι) (nonEmptyCount : Nat) (best : Option ι) (bestSize : UInt64) :
    (scan ptrs nonEmptyCount best bestSize : Thread ι α).Seeks := by
  have tries : (tryBest nonEmptyCount best : Thread ι α).Seeks := by
    unfold tryBest
    split
    · cases best with
      | none => exact ⟨rfl, rfl, trivial, fun _ => rfl⟩
      | some best => exact seeks_attempting _
    · exact seeks_outside
  unfold scan
  split
  · exact tries
  · split
    · exact ⟨rfl, rfl, trivial, False.elim⟩
    · exact tries

variable [DecidableEq ι]

/-- Where a failed attempt leads. -/
theorem seeks_failed (attempt : Attempt ι) : (attempt.failed : Thread ι α).Seeks := by
  rcases failed_cases (α := α) attempt with ends | ⟨best, reloads⟩ | ⟨next, tries⟩
  · rw [ends]
    exact seeks_outside
  · rw [reloads]
    exact ⟨rfl, rfl, trivial, False.elim⟩
  · rw [tries]
    exact seeks_attempting next

/-- What happens to a thread other than a call. -/
structure Continues (before after : Producer ι α) (stands next : Thread ι α) : Prop where
  /-- What is enqueued is announced. -/
  enqueued : after.enqueued.length + stands.announces =
    before.enqueued.length + next.announces
  /-- What is claimed the thread has got. -/
  claims : next ≠ .broken →
    after.claims.length + stands.got = before.claims.length + next.got
  /-- An `enqueue` stays one. -/
  enqueues : stands.Enqueues → next.Enqueues
  /-- A `try_dequeue` stays one. -/
  dequeues : stands.Dequeues → next.Dequeues

omit [DecidableEq ι] in
/-- Nothing happens. -/
theorem Continues.refl (producer : Producer ι α) (stands : Thread ι α) :
    Continues producer producer stands stands := ⟨rfl, fun _ => rfl, id, id⟩

omit [DecidableEq ι] in
/-- A step of a search that finds nothing yet and changes nothing enqueued or claimed. -/
theorem Continues.of_seeks {before after : Producer ι α} {stands next : Thread ι α}
    (enqueued : after.enqueued = before.enqueued)
    (claims : after.claims.length = before.claims.length) (seeks : stands.Seeks)
    (seeks' : next.Seeks) (alive : stands ≠ .broken) : Continues before after stands next :=
  ⟨by rw [enqueued, seeks.announces, seeks'.announces],
    fun _ => by rw [claims, seeks.got, seeks'.got],
    fun enqueues => absurd (seeks.enqueues enqueues) alive, fun _ => seeks'.dequeues⟩

omit [DecidableEq ι] in
/-- The places of `try_dequeue` where the thread has nothing yet. -/
theorem seeks_of_dequeues {stands : Thread ι α} (dequeues : stands.Dequeues)
    (nothing : stands.got = 0) : stands.Seeks := by
  cases stands with
  | outside result =>
    cases result with
    | enqueued success => exact dequeues.elim
    | dequeued element =>
      cases element with
      | none => exact seeks_outside
      | some element => cases nothing
  | enqueuing | checking | allocating | constructing | publishing => exact dequeues.elim
  | claimed => cases nothing
  | broken => exact ⟨rfl, rfl, trivial, fun _ => rfl⟩
  | _ => exact ⟨rfl, rfl, trivial, False.elim⟩

/-- Every atomic operation continues what the thread does. -/
theorem run_continues (thread : ι) (list : List ι) (before : Producer ι α)
    (stands : Thread ι α) :
    Continues before (run thread list before stands).1 stands
      (run thread list before stands).2 := by
  cases stands with
  | outside result => exact .refl ..
  | enqueuing element =>
    simp only [run]
    split <;> exact ⟨rfl, fun _ => rfl, fun _ => trivial, False.elim⟩
  | checking element currentTailIndex =>
    simp only [run]
    split
    · exact ⟨rfl, fun alive => absurd rfl alive, fun _ => trivial, False.elim⟩
    · split <;> exact ⟨rfl, fun _ => rfl, fun _ => trivial, False.elim⟩
  | allocating element currentTailIndex =>
    exact ⟨rfl, fun _ => rfl, fun _ => trivial, False.elim⟩
  | constructing element currentTailIndex =>
    simp only [run]
    split
    · exact ⟨rfl, fun alive => absurd rfl alive, fun _ => trivial, False.elim⟩
    · exact ⟨rfl, fun _ => rfl, fun _ => trivial, False.elim⟩
  | publishing element currentTailIndex =>
    exact ⟨by simp [run, Thread.announces], fun _ => rfl, fun _ => trivial, False.elim⟩
  | dequeuing =>
    exact .of_seeks rfl rfl (seeks_of_dequeues trivial rfl) (seeks_scan ..) (by simp)
  | scanning ptr rest nonEmptyCount best bestSize =>
    exact .of_seeks rfl rfl (seeks_of_dequeues trivial rfl) (seeks_of_dequeues trivial rfl)
      (by simp)
  | sizing ptr tail rest nonEmptyCount best bestSize =>
    simp only [run]
    split
    · split <;> exact .of_seeks rfl rfl (seeks_of_dequeues trivial rfl) (seeks_scan ..) (by simp)
    · exact .of_seeks rfl rfl (seeks_of_dequeues trivial rfl) (seeks_scan ..) (by simp)
  | reloading best =>
    rcases others_cases (α := α) best list with ends | ⟨attempt, tries⟩
    · simp only [run, ends]
      exact .of_seeks rfl rfl (seeks_of_dequeues trivial rfl) seeks_outside (by simp)
    · simp only [run, tries]
      exact .of_seeks rfl rfl (seeks_of_dequeues trivial rfl) (seeks_attempting attempt) (by simp)
  | attempting attempt =>
    exact .of_seeks rfl rfl (seeks_of_dequeues trivial rfl) (seeks_of_dequeues trivial rfl)
      (by simp)
  | tailLoaded attempt tail =>
    exact .of_seeks rfl rfl (seeks_of_dequeues trivial rfl) (seeks_of_dequeues trivial rfl)
      (by simp)
  | overcommitLoaded attempt tail overcommit =>
    simp only [run]
    split
    · exact .of_seeks rfl rfl (seeks_of_dequeues trivial rfl) (seeks_of_dequeues trivial rfl)
        (by simp)
    · exact .of_seeks rfl rfl (seeks_of_dequeues trivial rfl) (seeks_failed attempt) (by simp)
  | counting attempt overcommit =>
    simp only [run]
    split <;> exact .of_seeks rfl rfl (seeks_of_dequeues trivial rfl)
      (seeks_of_dequeues trivial rfl) (by simp)
  | counted attempt overcommit myDequeueCount =>
    simp only [run]
    split <;> exact .of_seeks rfl rfl (seeks_of_dequeues trivial rfl)
      (seeks_of_dequeues trivial rfl) (by simp)
  | claiming attempt =>
    exact ⟨rfl, fun _ => by simp [run, Thread.got], False.elim, fun _ => trivial⟩
  | overcommitting attempt myDequeueCount =>
    exact .of_seeks rfl rfl (seeks_of_dequeues trivial rfl) (seeks_failed attempt) (by simp)
  | claimed attempt index =>
    simp only [run]
    split
    · exact ⟨rfl, fun _ => by simp [Thread.got], False.elim, fun _ => trivial⟩
    · exact ⟨rfl, fun alive => absurd rfl alive, False.elim, fun _ => trivial⟩
  | broken => exact .refl ..

/-- Every event but a call continues what the thread does. -/
theorem react_continues (thread : ι) (list : List ι) (before : Producer ι α)
    (stands : Thread ι α) {event : Event α}
    (continues : ∀ operation, event ≠ .call operation) :
    Continues before (react thread list before stands event).1 stands
      (react thread list before stands event).2 := by
  cases event with
  | call operation => exact absurd rfl (continues operation)
  | run => exact run_continues thread list before stands
  | exhausted =>
    cases stands with
    | allocating element currentTailIndex =>
      exact ⟨rfl, fun _ => rfl, fun _ => trivial, False.elim⟩
    | _ => exact .refl ..

end ConcurrentQueue

end ApiPack2
