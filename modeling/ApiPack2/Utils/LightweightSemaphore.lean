import ApiPack2.Lib.Transition
import ApiPack2.Lib.Threads

/-!
# The semaphore of the blocking queue

A count in user space stands before a semaphore of the kernel: a thread that finds the count
positive takes a token from it, one that does not decrements it anyway and waits for the
kernel, and who signals while the count is negative posts to the kernel as many tokens as
there are waiters. Any number of threads call the operations; one step is one atomic
operation on the count or on the kernel's semaphore. The operations that take one token are
those that take many with a maximum of one: both run the same atomic operations.
-/

namespace ApiPack2

/-- A point in time as the clock gives it. -/
structure Timespec where
  /-- The seconds. -/
  tv_sec : Nat
  /-- The nanoseconds. -/
  tv_nsec : Nat
  deriving DecidableEq, Repr

namespace Timespec

/-- The time in nanoseconds. -/
def nanoseconds (ts : Timespec) : Nat := ts.tv_sec * 1000000000 + ts.tv_nsec

/-- The nanoseconds are less than a second, as the kernel requires. -/
def Valid (ts : Timespec) : Prop := ts.tv_nsec < 1000000000

/-- The validity of a time can be decided. -/
instance (ts : Timespec) : Decidable ts.Valid := inferInstanceAs (Decidable (_ < _))

end Timespec

namespace Semaphore

/-- Microseconds of a second. -/
def usecs_in_1_sec : Nat := 1000000

/-- Nanoseconds of a second. -/
def nsecs_in_1_sec : Nat := 1000000000

/-- The deadline that `timed_wait` gives to the kernel. -/
def timedWaitDeadline (now : Timespec) (usecs : Nat) : Timespec :=
  let ts : Timespec :=
    { tv_sec := now.tv_sec + usecs / usecs_in_1_sec
      tv_nsec := now.tv_nsec + usecs % usecs_in_1_sec * 1000 }
  if nsecs_in_1_sec < ts.tv_nsec then
    { tv_sec := ts.tv_sec + 1, tv_nsec := ts.tv_nsec - nsecs_in_1_sec }
  else ts

/-- The nanoseconds of the clock and of the timeout do not add up to exactly one second. -/
def ClockFits (now : Timespec) (usecs : Nat) : Prop :=
  now.tv_nsec + usecs % usecs_in_1_sec * 1000 ≠ nsecs_in_1_sec

/-- Whether a clock fits a timeout can be decided. -/
instance (now : Timespec) (usecs : Nat) : Decidable (ClockFits now usecs) :=
  inferInstanceAs (Decidable (_ ≠ _))

/-- The deadline is the timeout after the clock. -/
theorem nanoseconds_timedWaitDeadline (now : Timespec) (usecs : Nat) :
    (timedWaitDeadline now usecs).nanoseconds = now.nanoseconds + usecs * 1000 := by
  have parts : usecs_in_1_sec * (usecs / usecs_in_1_sec) + usecs % usecs_in_1_sec = usecs :=
    Nat.div_add_mod usecs usecs_in_1_sec
  unfold timedWaitDeadline Timespec.nanoseconds
  dsimp only
  split
  · simp only [usecs_in_1_sec, nsecs_in_1_sec] at *
    omega
  · simp only [usecs_in_1_sec] at *
    omega

/-- The kernel takes the deadline exactly if clock and timeout do not add up to one second. -/
theorem valid_timedWaitDeadline {now : Timespec} (valid : now.Valid) (usecs : Nat) :
    (timedWaitDeadline now usecs).Valid ↔ ClockFits now usecs := by
  have rest : usecs % usecs_in_1_sec < usecs_in_1_sec := Nat.mod_lt _ (by decide)
  unfold timedWaitDeadline ClockFits
  dsimp only
  split
  · simp only [Timespec.Valid, usecs_in_1_sec, nsecs_in_1_sec] at *
    omega
  · simp only [Timespec.Valid, usecs_in_1_sec, nsecs_in_1_sec] at *
    omega

/-- The deadline of a timed wait is the timeout after the clock, and the kernel refuses it exactly
if the nanoseconds add up to one second, when they should be carried and are not. -/
theorem timedWaitDeadline_refused_iff {now : Timespec} (valid : now.Valid) (usecs : Nat) :
    (timedWaitDeadline now usecs).nanoseconds = now.nanoseconds + usecs * 1000 ∧
      (¬(timedWaitDeadline now usecs).Valid ↔
        now.tv_nsec + usecs % usecs_in_1_sec * 1000 = nsecs_in_1_sec) := by
  refine ⟨nanoseconds_timedWaitDeadline now usecs, ?_⟩
  rw [valid_timedWaitDeadline valid, ClockFits, not_not]

/-- Half a second after half a second. -/
theorem timedWaitDeadline_refused_half :
    (timedWaitDeadline ⟨7, 500000000⟩ 500000).nanoseconds =
        (⟨7, 500000000⟩ : Timespec).nanoseconds + 500000 * 1000 ∧
      (¬(timedWaitDeadline ⟨7, 500000000⟩ 500000).Valid ↔
        500000000 + 500000 % usecs_in_1_sec * 1000 = nsecs_in_1_sec) :=
  timedWaitDeadline_refused_iff (by decide) 500000

end Semaphore

namespace LightweightSemaphore

/-- How often a wait looks at the count before it decrements it. -/
def spinCount : Nat := 10000

/-- What a thread that waits asks for. -/
structure Wait where
  /-- The most tokens it takes. -/
  max : Nat
  /-- How long it waits, for ever if negative. -/
  timeout_usecs : Int
  deriving DecidableEq, Repr

/-- What `tryWaitMany` returns its result to. -/
inductive Caller
  /-- Its own caller. -/
  | tryWaitMany
  /-- `waitMany`, which goes on to wait if there was no token. -/
  | waitMany (timeout_usecs : Int)
  /-- A wait that has its first token and adds one to the result. -/
  | onePlus
  deriving DecidableEq, Repr

/-- Where a thread stands in the operations of the semaphore. -/
inductive Thread
  /-- Outside of them: the last one returned that many tokens. -/
  | returned (got : Nat)
  /-- Before the first load of `tryWaitMany`. -/
  | starting (max : Nat) (caller : Caller)
  /-- In the loop of `tryWaitMany`, with the count it has read. -/
  | trying (max : Nat) (caller : Caller) (oldCount : Int)
  /-- At the head of the spinning loop. -/
  | spinning (wait : Wait) (spin : Nat)
  /-- In the spinning loop, with the count it has read. -/
  | loaded (wait : Wait) (spin : Nat) (oldCount : Int)
  /-- In the wait of the kernel. -/
  | waiting (wait : Wait)
  /-- In the timed wait, before it reads the clock. -/
  | clocking (wait : Wait)
  /-- In the timed wait of the kernel. -/
  | timing (wait : Wait) (deadline : Timespec)
  /-- At the head of the loop after a timeout. -/
  | recovering (wait : Wait)
  /-- In the loop after a timeout, with the count it has read. -/
  | recovered (wait : Wait) (oldCount : Int)
  /-- Before the increment of `signal`. -/
  | signalling (count : Nat)
  /-- In `signal` of the kernel's semaphore, with so many posts to go. -/
  | posting (count : Nat)
  deriving DecidableEq, Repr

/-- The semaphore that the threads share, with the history of its tokens. -/
structure Shared where
  /-- The count in user space. -/
  m_count : Int
  /-- The value of the kernel's semaphore. -/
  m_sema : Nat
  /-- The tokens signalled so far. -/
  signalled : Nat
  /-- The tokens that operations before the last of each thread returned. -/
  returned : Nat
  /-- The waits that the kernel refused for their deadline. -/
  refused : Nat
  deriving DecidableEq, Repr

/-- A call of an operation. -/
inductive Operation
  /-- `tryWaitMany`, and `tryWait` with a maximum of one. -/
  | tryWaitMany (max : Nat)
  /-- `waitMany`, and `wait` with a maximum of one. -/
  | waitMany (max : Nat) (timeout_usecs : Int)
  /-- `signal`. -/
  | signal (count : Nat)
  deriving DecidableEq, Repr

/-- Where a call starts. -/
def Operation.start : Operation → Thread
  | .tryWaitMany max => .starting max .tryWaitMany
  | .waitMany max timeout_usecs => .starting max (.waitMany timeout_usecs)
  | .signal count => .signalling count

/-- What happens to a thread. -/
inductive Event
  /-- It calls an operation. -/
  | call (operation : Operation)
  /-- Its next atomic operation. -/
  | run
  /-- `compare_exchange_weak` fails although the count is the one it has read. -/
  | spurious
  /-- It reads the clock. -/
  | clock (now : Timespec)
  /-- The deadline passes (`ETIMEDOUT`). -/
  | timeout
  /-- The kernel refuses the deadline (`EINVAL`). -/
  | refuse
  deriving DecidableEq, Repr

/-- The count after tokens are taken from one that is positive. -/
def newCount (oldCount : Int) (max : Nat) : Int := if oldCount > max then oldCount - max else 0

/-- The tokens that the exchange for the new count takes. -/
def taken (oldCount : Int) (max : Nat) : Nat := (oldCount - newCount oldCount max).toNat

/-- Where `tryWaitMany` returns to with the tokens it took. -/
def Caller.resume (max result : Nat) : Caller → Thread
  | .tryWaitMany => .returned result
  | .waitMany timeout_usecs =>
    if result = 0 ∧ max > 0 then .spinning ⟨max, timeout_usecs⟩ spinCount else .returned result
  | .onePlus => .returned (1 + result)

/-- Where a wait goes on with its first token. -/
def Wait.acquired (wait : Wait) : Thread :=
  if wait.max > 1 then .starting (wait.max - 1) .onePlus else .returned 1

/-- The posts that `signal` makes, given the count before its increment. -/
def toRelease (oldCount : Int) (count : Nat) : Int :=
  if -oldCount < count then -oldCount else count

/-- A number cast to a C `int`. -/
def toInt (number : Int) : Int := number.bmod (2 ^ 32)

/-- The next atomic operation of a thread. -/
def run (shared : Shared) : Thread → Shared × Thread
  | .returned got => (shared, .returned got)
  | .starting max caller => (shared, .trying max caller shared.m_count)
  | .trying max caller oldCount =>
    if oldCount > 0 then
      if shared.m_count = oldCount then
        ({ shared with m_count := newCount oldCount max }, caller.resume max (taken oldCount max))
      else (shared, .trying max caller shared.m_count)
    else (shared, caller.resume max 0)
  | .spinning wait 0 =>
    -- the loop is over: `fetch_sub`
    ({ shared with m_count := shared.m_count - 1 },
      if shared.m_count > 0 then wait.acquired
      else if wait.timeout_usecs < 0 then .waiting wait
      else .clocking wait)
  | .spinning wait (spin + 1) => (shared, .loaded wait spin shared.m_count)
  | .loaded wait spin oldCount =>
    if oldCount > 0 ∧ shared.m_count = oldCount then
      ({ shared with m_count := newCount oldCount wait.max }, .returned (taken oldCount wait.max))
    else (shared, .spinning wait spin)
  | .waiting wait =>
    if shared.m_sema > 0 then ({ shared with m_sema := shared.m_sema - 1 }, wait.acquired)
    else (shared, .waiting wait)
  | .clocking wait => (shared, .clocking wait)
  | .timing wait deadline =>
    if shared.m_sema > 0 then ({ shared with m_sema := shared.m_sema - 1 }, wait.acquired)
    else (shared, .timing wait deadline)
  | .recovering wait => (shared, .recovered wait shared.m_count)
  | .recovered wait oldCount =>
    if oldCount ≥ 0 then
      if shared.m_sema > 0 then ({ shared with m_sema := shared.m_sema - 1 }, wait.acquired)
      else (shared, .recovering wait)
    else if shared.m_count = oldCount then
      ({ shared with m_count := oldCount + 1 }, .returned 0)
    else (shared, .recovering wait)
  | .signalling count =>
    ({ shared with m_count := shared.m_count + count, signalled := shared.signalled + count },
      if toRelease shared.m_count count > 0 then
        .posting (toInt (toRelease shared.m_count count)).toNat
      else .returned 0)
  | .posting 0 => (shared, .returned 0)
  | .posting (count + 1) => ({ shared with m_sema := shared.m_sema + 1 }, .posting count)

/-- What an event makes of the semaphore and the thread; an event that the thread is not ready
for changes nothing. -/
def react (shared : Shared) (thread : Thread) : Event → Shared × Thread
  | .call operation =>
    match thread with
    | .returned got => ({ shared with returned := shared.returned + got }, operation.start)
    | _ => (shared, thread)
  | .run => run shared thread
  | .spurious =>
    match thread with
    | .trying max caller oldCount =>
      if oldCount > 0 then (shared, .trying max caller shared.m_count) else (shared, thread)
    | _ => (shared, thread)
  | .clock now =>
    match thread with
    | .clocking wait =>
      (shared, .timing wait (Semaphore.timedWaitDeadline now wait.timeout_usecs.toNat))
    | _ => (shared, thread)
  | .timeout =>
    match thread with
    | .timing wait deadline =>
      if deadline.Valid then (shared, .recovering wait) else (shared, thread)
    | _ => (shared, thread)
  | .refuse =>
    match thread with
    | .timing wait deadline =>
      -- `timed_wait` returns true for every error but `ETIMEDOUT`
      if deadline.Valid then (shared, thread)
      else ({ shared with refused := shared.refused + 1 }, wait.acquired)
    | _ => (shared, thread)

/-- The semaphore and its threads. -/
structure State (ι : Type*) where
  /-- The semaphore. -/
  shared : Shared
  /-- Where each thread stands. -/
  threads : ι → Thread

/-- An event of one thread. -/
abbrev Action (ι : Type*) := ι × Event

variable {ι : Type*} [DecidableEq ι]

/-- One step of one thread. -/
def step (state : State ι) (action : Action ι) : State ι :=
  let next := react state.shared (state.threads action.1) action.2
  { shared := next.1, threads := Function.update state.threads action.1 next.2 }

/-- A semaphore as it is constructed, no thread in it. -/
def initial (initialCount : Nat) : State ι where
  shared :=
    { m_count := initialCount, m_sema := 0, signalled := 0, returned := 0, refused := 0 }
  threads := fun _ => .returned 0

end LightweightSemaphore

end ApiPack2
