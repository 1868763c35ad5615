import ApiPack2.Utils.LightweightSemaphore

/-!
# The tokens of the semaphore

Two balances hold in every interleaving. The count is what is left of all tokens after those
that waits took and one for each thread that waits for the kernel. What the kernel's semaphore
holds, with the posts on their way, is the number of threads that wait for it less the debt
that the count shows. Together they say where each token is: no wait takes a token that was
not signalled, and no thread sleeps while there is one.
-/

namespace ApiPack2

namespace LightweightSemaphore

open Transition (Steps)
open Threads (total)

/-- Whether the thread has decremented the count for a token of the kernel. -/
def Thread.waits : Thread → Nat
  | .waiting _ | .clocking _ | .timing _ _ | .recovering _ | .recovered _ _ => 1
  | _ => 0

/-- The posts the thread has to make. -/
def Thread.posts : Thread → Nat
  | .posting count => count
  | _ => 0

/-- The token a wait had before it tried for more. -/
def Caller.holds : Caller → Nat
  | .onePlus => 1
  | _ => 0

/-- The tokens in the hand of the thread: those it returned last, or the first of a wait. -/
def Thread.holds : Thread → Nat
  | .returned got => got
  | .starting _ caller | .trying _ caller _ => caller.holds
  | _ => 0

@[simp]
theorem waits_acquired (wait : Wait) : wait.acquired.waits = 0 := by
  unfold Wait.acquired
  split <;> rfl

@[simp]
theorem posts_acquired (wait : Wait) : wait.acquired.posts = 0 := by
  unfold Wait.acquired
  split <;> rfl

@[simp]
theorem holds_acquired (wait : Wait) : wait.acquired.holds = 1 := by
  unfold Wait.acquired
  split <;> rfl

@[simp]
theorem waits_resume (caller : Caller) (max result : Nat) :
    (caller.resume max result).waits = 0 := by
  cases caller with
  | tryWaitMany => rfl
  | waitMany timeout_usecs =>
    simp only [Caller.resume]
    split <;> rfl
  | onePlus => rfl

@[simp]
theorem posts_resume (caller : Caller) (max result : Nat) :
    (caller.resume max result).posts = 0 := by
  cases caller with
  | tryWaitMany => rfl
  | waitMany timeout_usecs =>
    simp only [Caller.resume]
    split <;> rfl
  | onePlus => rfl

/-- What `tryWaitMany` took is added to what the thread holds. -/
@[simp]
theorem holds_resume (caller : Caller) (max result : Nat) :
    (caller.resume max result).holds = caller.holds + result := by
  cases caller with
  | tryWaitMany => simp [Caller.resume, Thread.holds, Caller.holds]
  | waitMany timeout_usecs =>
    simp only [Caller.resume]
    split
    · rename_i empty
      simp [Thread.holds, Caller.holds, empty.1]
    · simp [Thread.holds, Caller.holds]
  | onePlus => simp [Caller.resume, Thread.holds, Caller.holds]

/-- An exchange takes tokens from a positive count and leaves none of it negative. -/
theorem newCount_add_taken {oldCount : Int} (positive : oldCount > 0) (max : Nat) :
    newCount oldCount max + taken oldCount max = oldCount ∧ 0 ≤ newCount oldCount max := by
  unfold taken newCount
  split <;> omega

/-- `signal` posts no more than it signals and no more than are owed. -/
theorem toRelease_eq (oldCount : Int) (count : Nat) :
    toRelease oldCount count = min (-oldCount) count := by
  unfold toRelease
  omega

/-- A number that fits an `int` is what it is cast to. -/
theorem toInt_eq {number : Int} (nonneg : 0 ≤ number) (small : number < 2 ^ 31) :
    toInt number = number :=
  Int.bmod_eq_of_le (by omega) (by omega)

/-- A step changes what the thread holds and waits for as it changes the count, and what the
kernel's semaphore has as it changes who waits for it. -/
structure Balanced (shared after : Shared) (thread next : Thread) : Prop where
  /-- The count and what was taken from it. -/
  count : after.m_count + after.returned + next.holds + next.waits - after.signalled =
    shared.m_count + shared.returned + thread.holds + thread.waits - shared.signalled
  /-- The kernel's semaphore and those who wait for it. -/
  kernel : after.m_sema + next.posts - next.waits - after.refused - min after.m_count 0 =
    shared.m_sema + thread.posts - thread.waits - shared.refused - min shared.m_count 0

/-- A step that changes neither balances. -/
theorem Balanced.of_eq (shared : Shared) {thread next : Thread}
    (holds : next.holds = thread.holds) (waits : next.waits = thread.waits)
    (posts : next.posts = thread.posts) : Balanced shared shared thread next :=
  ⟨by rw [holds, waits], by rw [waits, posts]⟩

/-- A token of the kernel's semaphore ends a wait. -/
theorem Balanced.of_kernel {shared : Shared} {thread next : Thread}
    (available : shared.m_sema > 0) (waits : thread.waits = 1) (holds : thread.holds = 0)
    (posts : thread.posts = 0) (ends : next.waits = 0) (took : next.holds = 1)
    (quiet : next.posts = 0) :
    Balanced shared { shared with m_sema := shared.m_sema - 1 } thread next := by
  constructor
  · simp only [waits, holds, ends, took]
    omega
  · simp only [waits, posts, ends, quiet]
    omega

/-- An exchange hands the tokens it takes to the thread. -/
theorem Balanced.of_exchange {shared : Shared} {thread next : Thread} {max : Nat}
    (positive : shared.m_count > 0)
    (holds : next.holds = thread.holds + taken shared.m_count max)
    (waits : next.waits = 0) (posts : next.posts = 0) (waited : thread.waits = 0)
    (posted : thread.posts = 0) :
    Balanced shared { shared with m_count := newCount shared.m_count max } thread next := by
  have exchanged := newCount_add_taken positive max
  constructor
  · simp only [holds, waits, waited]
    omega
  · simp only [waits, posts, waited, posted]
    omega

/-- Every atomic operation is balanced, as long as the debt fits an `int`. -/
theorem run_balanced (shared : Shared) (thread : Thread)
    (bounded : -(2 ^ 31) < shared.m_count) :
    Balanced shared (run shared thread).1 thread (run shared thread).2 := by
  cases thread with
  | returned got => exact .of_eq _ rfl rfl rfl
  | starting max caller => exact .of_eq _ rfl rfl rfl
  | trying max caller oldCount =>
    simp only [run]
    split
    · split
      · rename_i positive same
        subst same
        exact .of_exchange positive (holds_resume ..) (waits_resume ..) (posts_resume ..) rfl rfl
      · exact .of_eq _ rfl rfl rfl
    · exact .of_eq _ (holds_resume caller max 0) (waits_resume caller max 0)
        (posts_resume caller max 0)
  | spinning wait spin =>
    cases spin with
    | zero =>
      by_cases positive : shared.m_count > 0
      · simp only [run, if_pos positive]
        constructor
        · rw [holds_acquired, waits_acquired]
          simp only [Thread.holds, Thread.waits]
          omega
        · rw [posts_acquired, waits_acquired]
          simp only [Thread.posts, Thread.waits]
          omega
      · -- the token is owed by the kernel
        simp only [run, if_neg positive]
        have waits : (if wait.timeout_usecs < 0 then Thread.waiting wait
            else .clocking wait).waits = 1 := by split <;> rfl
        have holds : (if wait.timeout_usecs < 0 then Thread.waiting wait
            else .clocking wait).holds = 0 := by split <;> rfl
        have posts : (if wait.timeout_usecs < 0 then Thread.waiting wait
            else .clocking wait).posts = 0 := by split <;> rfl
        constructor
        · rw [holds, waits]
          simp only [Thread.holds, Thread.waits]
          omega
        · rw [posts, waits]
          simp only [Thread.posts, Thread.waits]
          omega
    | succ spin => exact .of_eq _ rfl rfl rfl
  | loaded wait spin oldCount =>
    simp only [run]
    split
    · rename_i exchanges
      obtain ⟨positive, same⟩ := exchanges
      subst same
      exact .of_exchange positive (by simp [Thread.holds]) rfl rfl rfl rfl
    · exact .of_eq _ rfl rfl rfl
  | waiting wait =>
    simp only [run]
    split
    · rename_i available
      exact .of_kernel available rfl rfl rfl (waits_acquired wait) (holds_acquired wait)
        (posts_acquired wait)
    · exact .of_eq _ rfl rfl rfl
  | clocking wait => exact .of_eq _ rfl rfl rfl
  | timing wait deadline =>
    simp only [run]
    split
    · rename_i available
      exact .of_kernel available rfl rfl rfl (waits_acquired wait) (holds_acquired wait)
        (posts_acquired wait)
    · exact .of_eq _ rfl rfl rfl
  | recovering wait => exact .of_eq _ rfl rfl rfl
  | recovered wait oldCount =>
    simp only [run]
    split
    · split
      · rename_i available
        exact .of_kernel available rfl rfl rfl (waits_acquired wait) (holds_acquired wait)
          (posts_acquired wait)
      · exact .of_eq _ rfl rfl rfl
    · split
      · rename_i same
        subst same
        constructor
        · simp only [Thread.holds, Thread.waits]
          omega
        · simp only [Thread.posts, Thread.waits]
          omega
      · exact .of_eq _ rfl rfl rfl
  | signalling count =>
    have released := toRelease_eq shared.m_count count
    by_cases releases : toRelease shared.m_count count > 0
    · simp only [run, if_pos releases, toInt_eq (Int.le_of_lt releases) (by omega)]
      constructor
      · simp only [Thread.holds, Thread.waits]
        omega
      · simp only [Thread.posts, Thread.waits]
        omega
    · simp only [run, if_neg releases]
      constructor
      · simp only [Thread.holds, Thread.waits]
        omega
      · simp only [Thread.posts, Thread.waits]
        omega
  | posting count =>
    cases count with
    | zero => exact .of_eq _ rfl rfl rfl
    | succ count =>
      constructor
      · simp only [run, Thread.holds, Thread.waits]
      · simp only [run, Thread.posts, Thread.waits]
        omega

/-- Where a call starts the thread holds nothing, neither tokens nor debts. -/
theorem start_holds_nothing (operation : Operation) :
    operation.start.holds = 0 ∧ operation.start.waits = 0 ∧ operation.start.posts = 0 := by
  cases operation <;> exact ⟨rfl, rfl, rfl⟩

/-- Every event is balanced, as long as the debt fits an `int`. -/
theorem react_balanced (shared : Shared) (thread : Thread) (event : Event)
    (bounded : -(2 ^ 31) < shared.m_count) :
    Balanced shared (react shared thread event).1 thread (react shared thread event).2 := by
  cases event with
  | call operation =>
    cases thread with
    | returned got =>
      obtain ⟨holds, waits, posts⟩ := start_holds_nothing operation
      constructor
      · rw [react, holds, waits]
        simp only [Thread.holds, Thread.waits]
        omega
      · rw [react, posts, waits]
        rfl
    | _ => exact .of_eq _ rfl rfl rfl
  | run => exact run_balanced shared thread bounded
  | spurious =>
    cases thread with
    | trying max caller oldCount =>
      simp only [react]
      split <;> exact .of_eq _ rfl rfl rfl
    | _ => exact .of_eq _ rfl rfl rfl
  | clock now => cases thread <;> exact .of_eq _ rfl rfl rfl
  | timeout =>
    cases thread with
    | timing wait deadline =>
      simp only [react]
      split <;> exact .of_eq _ rfl rfl rfl
    | _ => exact .of_eq _ rfl rfl rfl
  | refuse =>
    cases thread with
    | timing wait deadline =>
      simp only [react]
      split
      · exact .of_eq _ rfl rfl rfl
      · constructor
        · rw [holds_acquired, waits_acquired]
          simp only [Thread.holds, Thread.waits]
          omega
        · rw [posts_acquired, waits_acquired]
          simp only [Thread.posts, Thread.waits]
          omega
    | _ => exact .of_eq _ rfl rfl rfl

variable {ι : Type*} [Fintype ι]

/-- The threads that wait for a token of the kernel. -/
def State.waits (state : State ι) : Nat := total Thread.waits state.threads

/-- The posts that signals have yet to make. -/
def State.posts (state : State ι) : Nat := total Thread.posts state.threads

/-- The tokens that waits took: those returned before, and those in the threads' hands. -/
def State.acquired (state : State ι) : Nat :=
  state.shared.returned + total Thread.holds state.threads

/-- The two balances of a semaphore constructed with a count. -/
structure Accounts (initialCount : Nat) (state : State ι) : Prop where
  /-- The count is what is left of the tokens, less one for each waiting thread. -/
  count : state.shared.m_count =
    initialCount + state.shared.signalled - state.acquired - state.waits
  /-- The kernel's semaphore and the posts to come make up for the waiting threads, except for
  what the count owes. -/
  kernel : (state.shared.m_sema + state.posts : Int) =
    state.waits + state.shared.refused + min state.shared.m_count 0

/-- A semaphore is constructed with its accounts in balance. -/
theorem accounts_initial (initialCount : Nat) :
    Accounts initialCount (initial initialCount : State ι) := by
  have none : ∀ weight : Thread → Nat, weight (.returned 0) = 0 →
      total weight (initial initialCount : State ι).threads = 0 :=
    fun weight zero => Threads.total_eq_zero fun _ => zero
  have holds := none Thread.holds rfl
  have waits := none Thread.waits rfl
  have posts := none Thread.posts rfl
  constructor
  · rw [State.acquired, State.waits, holds, waits]
    simp [initial]
  · rw [State.posts, State.waits, posts, waits]
    simp [initial]

/-- With the accounts in balance the debt of the count is at most what waits. -/
theorem Accounts.debt {initialCount : Nat} {state : State ι}
    (accounts : Accounts initialCount state) :
    -(state.waits + state.shared.refused : Int) ≤ state.shared.m_count := by
  have kernel := accounts.kernel
  omega

/-- At most all threads wait. -/
theorem waits_le_card (state : State ι) : state.waits ≤ Fintype.card ι :=
  Threads.total_le_card (fun thread => by unfold Thread.waits; split <;> omega) state.threads

variable [DecidableEq ι]

/-- The threads and the refused waits are few enough for an `int`. -/
def Few (state : State ι) (_ : Action ι) : Prop :=
  Fintype.card ι + state.shared.refused < 2 ^ 31

/-- Whether they are few can be decided. -/
instance (state : State ι) (action : Action ι) : Decidable (Few state action) :=
  inferInstanceAs (Decidable (_ < _))

/-- Every step keeps the accounts in balance. -/
theorem step_accounts {initialCount : Nat} (state : State ι) (action : Action ι)
    (accounts : Accounts initialCount state) (few : Few state action) :
    Accounts initialCount (step state action) := by
  obtain ⟨thread, event⟩ := action
  have debt := accounts.debt
  have card := waits_le_card state
  have bounded : -(2 ^ 31) < state.shared.m_count := by
    unfold Few at few
    omega
  have balanced := react_balanced state.shared (state.threads thread) event bounded
  have count := balanced.count
  have kernel := balanced.kernel
  have waits := Threads.total_update Thread.waits state.threads thread
    (react state.shared (state.threads thread) event).2
  have posts := Threads.total_update Thread.posts state.threads thread
    (react state.shared (state.threads thread) event).2
  have holds := Threads.total_update Thread.holds state.threads thread
    (react state.shared (state.threads thread) event).2
  obtain ⟨before, owed⟩ := accounts
  unfold State.acquired State.waits at before
  unfold State.posts State.waits at owed
  constructor
  · simp only [State.acquired, State.waits, step]
    omega
  · simp only [State.posts, State.waits, step]
    omega

/-- A clock that a timed wait reads is valid and does not add up with the timeout to exactly a
second. -/
def Event.fits (thread : Thread) : Event → Bool
  | .clock now =>
    match thread with
    | .clocking wait => now.Valid ∧ Semaphore.ClockFits now wait.timeout_usecs.toNat
    | _ => true
  | _ => true

/-- The clocks that timed waits read fit. -/
def ClockFits (state : State ι) (action : Action ι) : Prop :=
  action.2.fits (state.threads action.1) = true

/-- Whether the clock fits can be decided. -/
instance (state : State ι) (action : Action ι) : Decidable (ClockFits state action) :=
  inferInstanceAs (Decidable (_ = _))

/-- The deadline that a thread waits for is one that the kernel takes. -/
def Thread.Timely : Thread → Prop
  | .timing _ deadline => deadline.Valid
  | _ => True

/-- No deadline is waited for after a token. -/
theorem timely_acquired (wait : Wait) : wait.acquired.Timely := by
  unfold Wait.acquired
  split <;> trivial

/-- No deadline is waited for after `tryWaitMany`. -/
theorem timely_resume (caller : Caller) (max result : Nat) :
    (caller.resume max result).Timely := by
  cases caller with
  | waitMany timeout_usecs =>
    simp only [Caller.resume]
    split <;> trivial
  | _ => trivial

/-- An atomic operation starts no timed wait of the kernel. -/
theorem run_timely (shared : Shared) {thread : Thread} (timely : thread.Timely) :
    (run shared thread).2.Timely := by
  cases thread with
  | trying max caller oldCount =>
    simp only [run]
    split
    · split
      · exact timely_resume ..
      · trivial
    · exact timely_resume ..
  | spinning wait spin =>
    cases spin with
    | zero =>
      simp only [run]
      split
      · exact timely_acquired wait
      · split <;> trivial
    | succ spin => trivial
  | loaded wait spin oldCount =>
    simp only [run]
    split <;> trivial
  | waiting wait =>
    simp only [run]
    split
    · exact timely_acquired wait
    · trivial
  | timing wait deadline =>
    simp only [run]
    split
    · exact timely_acquired wait
    · exact timely
  | recovered wait oldCount =>
    simp only [run]
    split
    · split
      · exact timely_acquired wait
      · trivial
    · split <;> trivial
  | signalling count =>
    simp only [run]
    split <;> trivial
  | posting count => cases count <;> trivial
  | _ => trivial

/-- An atomic operation refuses no wait. -/
theorem refused_run (shared : Shared) (thread : Thread) :
    (run shared thread).1.refused = shared.refused := by
  unfold run
  split <;> first | rfl | (split <;> first | rfl | (split <;> rfl))

/-- With a clock that fits no deadline is refused. -/
theorem react_timely (shared : Shared) {thread : Thread} {event : Event} (timely : thread.Timely)
    (fits : event.fits thread = true) :
    (react shared thread event).2.Timely ∧
      (react shared thread event).1.refused = shared.refused := by
  cases event with
  | call operation =>
    cases thread with
    | returned got => exact ⟨by cases operation <;> trivial, rfl⟩
    | _ => exact ⟨timely, rfl⟩
  | run => exact ⟨run_timely shared timely, refused_run shared thread⟩
  | spurious =>
    cases thread with
    | trying max caller oldCount =>
      simp only [react]
      split <;> exact ⟨trivial, rfl⟩
    | _ => exact ⟨timely, rfl⟩
  | clock now =>
    cases thread with
    | clocking wait =>
      have clock := of_decide_eq_true fits
      exact ⟨(Semaphore.valid_timedWaitDeadline clock.1 _).mpr clock.2, rfl⟩
    | _ => exact ⟨timely, rfl⟩
  | timeout =>
    cases thread with
    | timing wait deadline =>
      simp only [react]
      split
      · exact ⟨trivial, rfl⟩
      · exact ⟨timely, rfl⟩
    | _ => exact ⟨timely, rfl⟩
  | refuse =>
    cases thread with
    | timing wait deadline =>
      simp only [react]
      rw [if_pos (show deadline.Valid from timely)]
      exact ⟨timely, rfl⟩
    | _ => exact ⟨timely, rfl⟩

/-- No wait has been refused, and none can be. -/
structure Timely (state : State ι) : Prop where
  /-- No wait has been refused. -/
  refused : state.shared.refused = 0
  /-- The kernel takes the deadlines. -/
  deadlines : ∀ thread, (state.threads thread).Timely

omit [Fintype ι] in
/-- With clocks that fit no wait is refused. -/
theorem step_timely (state : State ι) (action : Action ι) (timely : Timely state)
    (fits : ClockFits state action) : Timely (step state action) := by
  obtain ⟨thread, event⟩ := action
  have reacted := react_timely state.shared (timely.deadlines thread) fits
  refine ⟨reacted.2.trans timely.refused, fun other => ?_⟩
  simp only [step]
  by_cases same : other = thread
  · subst same
    rw [Function.update_self]
    exact reacted.1
  · rw [Function.update_of_ne same]
    exact timely.deadlines other

/-- What holds of a semaphore in use: the accounts are in balance and no wait was refused. -/
structure Sound (initialCount : Nat) (state : State ι) : Prop where
  /-- The accounts. -/
  accounts : Accounts initialCount state
  /-- The deadlines. -/
  timely : Timely state

/-- Every step in which the clock fits keeps the semaphore sound. -/
theorem step_sound {initialCount : Nat} (few : Fintype.card ι < 2 ^ 31) (state : State ι)
    (action : Action ι) (sound : Sound initialCount state) (fits : ClockFits state action) :
    Sound initialCount (step state action) := by
  refine ⟨step_accounts state action sound.accounts ?_, step_timely state action sound.timely fits⟩
  unfold Few
  rw [sound.timely.refused]
  exact few

omit [DecidableEq ι] in
/-- A semaphore is constructed sound. -/
theorem sound_initial (initialCount : Nat) :
    Sound initialCount (initial initialCount : State ι) :=
  ⟨accounts_initial initialCount, rfl, fun _ => trivial⟩

/-- In every run in which the clocks fit, the accounts stay in balance and no wait is refused. -/
theorem sound_run {initialCount : Nat} {actions : List (Action ι)}
    (few : Fintype.card ι < 2 ^ 31)
    (fits : Steps step ClockFits (initial initialCount) actions) :
    Transition.Along step (Sound initialCount) (initial initialCount) actions :=
  Transition.along_of_steps (step_sound few) (sound_initial initialCount) fits

/-- A thread that takes a number of steps while the others take none. -/
def alone (thread : ι) (steps : Nat) : List (Action ι) := List.replicate steps (thread, .run)

omit [Fintype ι] in
/-- Where a thread stands after a step of its own. -/
theorem threads_step (state : State ι) (thread : ι) (event : Event) :
    (step state (thread, event)).threads thread =
      (react state.shared (state.threads thread) event).2 :=
  Function.update_self ..

omit [Fintype ι] in
/-- While there is no token, a thread spins until its loop is over. -/
theorem spins_out {state : State ι} {thread : ι} {wait : Wait} {spin : Nat}
    (empty : state.shared.m_count ≤ 0) (spins : state.threads thread = .spinning wait spin) :
    Transition.run step state (alone thread (2 * spin)) =
      { state with threads := Function.update state.threads thread (.spinning wait 0) } := by
  induction spin generalizing state with
  | zero =>
    rw [← spins, Function.update_eq_self]
    rfl
  | succ spin ih =>
    let looked : State ι := { state with
      threads := Function.update state.threads thread (.spinning wait spin) }
    have twice : step (step state (thread, .run)) (thread, .run) = looked := by
      have none : ¬(state.shared.m_count > 0 ∧ True) := by omega
      simp only [step, spins, react, run, Function.update_self, Function.update_idem, looked,
        if_neg none]
    have unfolded : alone thread (2 * (spin + 1)) =
        (thread, .run) :: (thread, .run) :: alone thread (2 * spin) := rfl
    have spun : looked.threads thread = .spinning wait spin := Function.update_self ..
    have still : looked.shared.m_count ≤ 0 := empty
    rw [unfolded, Transition.run_cons, Transition.run_cons, twice, ih still spun]
    simp only [looked, Function.update_idem]

/-- A call of `waitMany` up to the kernel, the thread alone. -/
def waits (thread : ι) (max : Nat) (timeout_usecs : Int) : List (Action ι) :=
  [(thread, .call (.waitMany max timeout_usecs)), (thread, .run), (thread, .run)] ++
    alone thread (2 * spinCount) ++ [(thread, .run)]

omit [DecidableEq ι] [Fintype ι] in
/-- After the call the thread takes steps alone. -/
theorem waits_eq (thread : ι) (max : Nat) (timeout_usecs : Int) :
    waits thread max timeout_usecs =
      (thread, .call (.waitMany max timeout_usecs)) :: alone thread (2 + 2 * spinCount + 1) := by
  have split : ∀ spins, alone thread (2 + spins + 1) =
      alone thread 2 ++ alone thread spins ++ [(thread, .run)] := by
    intro spins
    rw [alone, List.replicate_add, List.replicate_add]
    rfl
  rw [split, waits]
  rfl

omit [Fintype ι] in
/-- A call on an empty semaphore waits for the kernel. -/
theorem run_waits (thread : ι) {max : Nat} (positive : max > 0) (timeout_usecs : Int) :
    Transition.run step (initial 0) (waits thread max timeout_usecs) =
      { shared := { m_count := -1, m_sema := 0, signalled := 0, returned := 0, refused := 0 }
        threads := Function.update (fun _ => .returned 0) thread
          (if timeout_usecs < 0 then .waiting ⟨max, timeout_usecs⟩
            else .clocking ⟨max, timeout_usecs⟩) } := by
  let spinning : State ι :=
    { shared := (initial 0 : State ι).shared
      threads := Function.update (fun _ => .returned 0) thread
        (.spinning ⟨max, timeout_usecs⟩ spinCount) }
  have tried : Transition.run step (initial 0)
      [(thread, .call (.waitMany max timeout_usecs)), (thread, .run), (thread, .run)] =
        spinning := by
    simp [step, initial, react, run, Operation.start, Caller.resume, positive, spinning]
  have empty : spinning.shared.m_count ≤ 0 := Int.le_refl 0
  have spins : spinning.threads thread = .spinning ⟨max, timeout_usecs⟩ spinCount := by
    simp [spinning]
  rw [waits, Transition.run_append, Transition.run_append, tried, spins_out empty spins]
  simp [step, react, run, spinning, initial]

omit [DecidableEq ι] in
/-- Each token of a sound semaphore is in the count, in the kernel's semaphore, on its way there,
or was taken. -/
theorem Sound.tokens {initialCount : Nat} {state : State ι} (sound : Sound initialCount state) :
    initialCount + state.shared.signalled =
      state.acquired + state.shared.m_count.toNat + state.shared.m_sema + state.posts := by
  have count := sound.accounts.count
  have kernel := sound.accounts.kernel
  have refused := sound.timely.refused
  omega

omit [DecidableEq ι] in
/-- Who sleeps beside a sound semaphore with no post on its way is owed a token. -/
theorem Sound.owed {initialCount : Nat} {state : State ι} {thread : ι}
    (sound : Sound initialCount state) (waits : (state.threads thread).waits = 1)
    (sleeps : state.shared.m_sema = 0) (quiet : state.posts = 0) : state.shared.m_count < 0 := by
  have kernel := sound.accounts.kernel
  have refused := sound.timely.refused
  have waiting : (state.threads thread).waits ≤ state.waits := Threads.le_total _ _ thread
  omega

end LightweightSemaphore

end ApiPack2
