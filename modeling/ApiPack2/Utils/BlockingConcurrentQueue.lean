import ApiPack2.Utils.SemaphoreTokens
import ApiPack2.Utils.DequeueAlone

/-!
# The blocking queue

The queue of requests and those of responses: a queue that never blocks and a semaphore that
counts its elements. Who enqueues signals afterwards, who dequeues takes a token first and then
tries until the inner queue gives it an element. The threads move through the semaphore and the
inner queue step by step; one step here is a step of one of them, or what the wrapper does
between them.
-/

namespace ApiPack2

namespace BlockingConcurrentQueue

variable {ι α : Type*}

/-- A call of an operation. -/
inductive Operation (α : Type*)
  /-- `enqueue`. -/
  | enqueue (item : α)
  /-- `try_dequeue`. -/
  | try_dequeue
  /-- `wait_dequeue`. -/
  | wait_dequeue
  /-- `wait_dequeue_timed`. -/
  | wait_dequeue_timed (timeout_usecs : Int)
  deriving DecidableEq, Repr

/-- Where a thread stands in the operations of the wrapper. -/
inductive Thread (α : Type*)
  /-- Outside of them, with the result of the last. -/
  | outside (result : ConcurrentQueue.Result α)
  /-- In `inner.enqueue`. -/
  | enqueuing
  /-- In `sema->signal`. -/
  | signalling
  /-- In `sema->tryWait` or `sema->wait`. -/
  | acquiring
  /-- In the loop of `inner.try_dequeue`. -/
  | dequeuing
  deriving DecidableEq, Repr

/-- What happens to a thread. -/
inductive Event (α : Type*)
  /-- It calls an operation. -/
  | call (operation : Operation α)
  /-- Something in the semaphore. -/
  | semaphore (event : LightweightSemaphore.Event)
  /-- Something in the inner queue. -/
  | inner (event : ConcurrentQueue.Event α)
  /-- The call into one of them has returned, and the wrapper goes on. -/
  | proceed
  deriving DecidableEq, Repr

/-- The queue and its threads. -/
structure State (ι α : Type*) where
  /-- The semaphore. -/
  sema : LightweightSemaphore.State ι
  /-- The queue that does not block. -/
  inner : ConcurrentQueue.State ι α
  /-- Where each thread stands in the wrapper. -/
  threads : ι → Thread α

/-- An event of one thread. -/
abbrev Action (ι α : Type*) := ι × Event α

variable [DecidableEq ι]

namespace State

/-- The thread calls into the semaphore. -/
def callSemaphore (state : State ι α) (thread : ι) (operation : LightweightSemaphore.Operation)
    (stands : Thread α) : State ι α :=
  { state with
    sema := LightweightSemaphore.step state.sema (thread, .call operation)
    threads := Function.update state.threads thread stands }

/-- The thread calls into the inner queue. -/
def callInner (state : State ι α) (thread : ι) (operation : ConcurrentQueue.Operation α)
    (stands : Thread α) : State ι α :=
  { state with
    inner := ConcurrentQueue.step state.inner (thread, .call operation)
    threads := Function.update state.threads thread stands }

/-- The thread returns. -/
def returns (state : State ι α) (thread : ι) (result : ConcurrentQueue.Result α) : State ι α :=
  { state with threads := Function.update state.threads thread (.outside result) }

/-- A call of an operation. -/
def call (state : State ι α) (thread : ι) : Operation α → State ι α
  | .enqueue item => state.callInner thread (.enqueue item) .enqueuing
  | .try_dequeue => state.callSemaphore thread (.tryWaitMany 1) .acquiring
  | .wait_dequeue => state.callSemaphore thread (.waitMany 1 (-1)) .acquiring
  | .wait_dequeue_timed timeout_usecs =>
    state.callSemaphore thread (.waitMany 1 timeout_usecs) .acquiring

/-- What the wrapper does when a call has returned. -/
def proceed (state : State ι α) (thread : ι) : State ι α :=
  match state.threads thread with
  | .outside _ => state
  | .enqueuing =>
    match state.inner.threads thread with
    | .outside (.enqueued true) => state.callSemaphore thread (.signal 1) .signalling
    | .outside result => state.returns thread result
    | _ => state
  | .signalling =>
    match state.sema.threads thread with
    | .returned _ => state.returns thread (.enqueued true)
    | _ => state
  | .acquiring =>
    match state.sema.threads thread with
    | .returned 0 => state.returns thread (.dequeued none)
    | .returned _ => state.callInner thread .try_dequeue .dequeuing
    | _ => state
  | .dequeuing =>
    match state.inner.threads thread with
    | .outside (.dequeued none) => state.callInner thread .try_dequeue .dequeuing
    | .outside result => state.returns thread result
    | _ => state

end State

/-- Something in the semaphore is not a new call. -/
def isCallSemaphore : LightweightSemaphore.Event → Bool
  | .call _ => true
  | _ => false

/-- Something in the inner queue is not a new call. -/
def isCallInner : ConcurrentQueue.Event α → Bool
  | .call _ => true
  | _ => false

/-- One step of one thread; an event that the thread is not ready for changes nothing. -/
def step (state : State ι α) (action : Action ι α) : State ι α :=
  match action.2 with
  | .call operation =>
    match state.threads action.1 with
    | .outside _ => state.call action.1 operation
    | _ => state
  | .semaphore event =>
    match isCallSemaphore event, state.threads action.1 with
    | false, .signalling | false, .acquiring =>
      { state with sema := LightweightSemaphore.step state.sema (action.1, event) }
    | _, _ => state
  | .inner event =>
    match isCallInner event, state.threads action.1 with
    | false, .enqueuing | false, .dequeuing =>
      { state with inner := ConcurrentQueue.step state.inner (action.1, event) }
    | _, _ => state
  | .proceed => state.proceed action.1

/-- A queue as it is constructed. -/
def initial : State ι α :=
  { sema := LightweightSemaphore.initial 0
    inner := ConcurrentQueue.initial
    threads := fun _ => .outside (.enqueued true) }

end BlockingConcurrentQueue

end ApiPack2
