import ApiPack2.Lib.Transition
import ApiPack2.Lib.Threads
import ApiPack2.Lib.Tickets

/-!
# The queue under the blocking queue

Each thread that enqueues has a producer of its own, a subqueue that only it appends to. A
thread that dequeues looks at some producers for the longest, then tries that one and, if it
fails, the others. A dequeue from a producer is optimistic: it draws a ticket by incrementing
a count, wins if the ticket lies before the tail once the tickets known to have failed are
subtracted, and only then claims the next index; a ticket that fails is added to those known
to have. One step is one atomic operation of one thread; where an element lies in memory is
left to its index.
-/

namespace ApiPack2

namespace ConcurrentQueue

open Tickets (Verdict)

/-- Elements of a block. -/
def BLOCK_SIZE : UInt64 := 32

/-- Whether an index comes before another on the circle of indices. -/
def circular_less_than (a b : UInt64) : Bool := a - b > (1 : UInt64) <<< 63

/-- What has become of an index that was claimed. -/
inductive Claim (ι α : Type*)
  /-- Its owner has yet to move the element out. -/
  | held (owner : ι)
  /-- The element was moved out and destroyed. -/
  | delivered (element : α)
  deriving DecidableEq, Repr

/-- The subqueue of a thread, with its history. -/
structure Producer (ι α : Type*) where
  /-- Where to enqueue to next. -/
  tailIndex : UInt64
  /-- Where to dequeue from next. -/
  headIndex : UInt64
  /-- The tickets drawn. -/
  dequeueOptimisticCount : UInt64
  /-- The tickets known to have failed. -/
  dequeueOvercommit : UInt64
  /-- The elements that are constructed, by their index. -/
  cells : UInt64 → Option α
  /-- The elements enqueued so far. -/
  enqueued : List α
  /-- What became of the tickets. -/
  tickets : List (Verdict ι)
  /-- What became of the indices claimed. -/
  claims : List (Claim ι α)

/-- A producer as it is created. -/
def Producer.empty {ι α : Type*} : Producer ι α :=
  { tailIndex := 0, headIndex := 0, dequeueOptimisticCount := 0, dequeueOvercommit := 0
    cells := fun _ => none, enqueued := [], tickets := [], claims := [] }

/-- A dequeue from one producer on behalf of `try_dequeue`. -/
structure Attempt (ι : Type*) where
  /-- The producer. -/
  producer : ι
  /-- The producer that seemed the longest. -/
  best : ι
  /-- The producers to try after this one, none while the best is tried. -/
  rest : Option (List ι)
  deriving DecidableEq, Repr

/-- What an operation of the queue returned. -/
inductive Result (α : Type*)
  /-- Whether `enqueue` has enqueued. -/
  | enqueued (success : Bool)
  /-- What `try_dequeue` has dequeued. -/
  | dequeued (element : Option α)
  deriving DecidableEq, Repr

/-- Where a thread stands in the operations of the queue. -/
inductive Thread (ι α : Type*)
  /-- Outside of them, with the result of the last. -/
  | outside (result : Result α)
  /-- Before `enqueue`. -/
  | enqueuing (element : α)
  /-- At the start of a block, before it reads the head. -/
  | checking (element : α) (currentTailIndex : UInt64)
  /-- Before it takes a block. -/
  | allocating (element : α) (currentTailIndex : UInt64)
  /-- Before the element is constructed. -/
  | constructing (element : α) (currentTailIndex : UInt64)
  /-- Before the tail is stored. -/
  | publishing (element : α) (currentTailIndex : UInt64)
  /-- Before `try_dequeue`. -/
  | dequeuing
  /-- Before it reads the tail of a producer to learn its size. -/
  | scanning (ptr : ι) (rest : List ι) (nonEmptyCount : Nat) (best : Option ι)
      (bestSize : UInt64)
  /-- Before it reads the head of that producer. -/
  | sizing (ptr : ι) (tail : UInt64) (rest : List ι) (nonEmptyCount : Nat) (best : Option ι)
      (bestSize : UInt64)
  /-- Before it reads the list of producers again, the best having failed. -/
  | reloading (best : ι)
  /-- Before it reads the tail of the producer it dequeues from. -/
  | attempting (attempt : Attempt ι)
  /-- With the tail read, before the overcommit. -/
  | tailLoaded (attempt : Attempt ι) (tail : UInt64)
  /-- With both read, before the optimistic count. -/
  | overcommitLoaded (attempt : Attempt ι) (tail overcommit : UInt64)
  /-- Before it increments the optimistic count. -/
  | counting (attempt : Attempt ι) (overcommit : UInt64)
  /-- With its ticket, before it reads the tail again. -/
  | counted (attempt : Attempt ι) (overcommit myDequeueCount : UInt64)
  /-- Before it increments the head. -/
  | claiming (attempt : Attempt ι)
  /-- Before it increments the overcommit. -/
  | overcommitting (attempt : Attempt ι) (myDequeueCount : UInt64)
  /-- With an index claimed, before it moves the element out. -/
  | claimed (attempt : Attempt ι) (index : UInt64)
  /-- An assertion has failed, a null pointer was followed, or memory was used that holds no
  element, or one not yet dequeued. -/
  | broken
  deriving DecidableEq, Repr

/-- A call of an operation. -/
inductive Operation (α : Type*)
  /-- `enqueue`. -/
  | enqueue (element : α)
  /-- `try_dequeue`. -/
  | try_dequeue
  deriving DecidableEq, Repr

/-- Where a call starts. -/
def Operation.start {ι α : Type*} : Operation α → Thread ι α
  | .enqueue element => .enqueuing element
  | .try_dequeue => .dequeuing

/-- What happens to a thread. -/
inductive Event (α : Type*)
  /-- It calls an operation. -/
  | call (operation : Operation α)
  /-- Its next atomic operation. -/
  | run
  /-- There is no memory for a block or its entry in the index. -/
  | exhausted
  deriving DecidableEq, Repr

variable {ι α : Type*} [DecidableEq ι]

/-- The first try after the scan: the best producer, if one was not empty. -/
def tryBest (nonEmptyCount : Nat) (best : Option ι) : Thread ι α :=
  if nonEmptyCount > 0 then
    match best with
    | some best => .attempting ⟨best, best, none⟩
    | none => .broken
  else .outside (.dequeued none)

/-- The loop that looks for the longest producer: it ends with the list or with three producers
that are not empty. -/
def scan (ptrs : List ι) (nonEmptyCount : Nat) (best : Option ι) (bestSize : UInt64) :
    Thread ι α :=
  match ptrs with
  | [] => tryBest nonEmptyCount best
  | ptr :: rest =>
    if nonEmptyCount < 3 then .scanning ptr rest nonEmptyCount best bestSize
    else tryBest nonEmptyCount best

/-- The loop over the producers that are not the best. -/
def others (best : ι) : List ι → Thread ι α
  | [] => .outside (.dequeued none)
  | ptr :: rest => if ptr ≠ best then .attempting ⟨ptr, best, some rest⟩ else others best rest

/-- Where `try_dequeue` goes on when a producer gives no element. -/
def Attempt.failed (attempt : Attempt ι) : Thread ι α :=
  match attempt.rest with
  | none => .reloading attempt.best
  | some rest => others attempt.best rest

/-- `size_approx`, with the tail and the head it has read. -/
def size_approx (tail head : UInt64) : UInt64 :=
  if circular_less_than head tail then tail - head else 0

/-- The producer whose memory the next atomic operation of a thread accesses. -/
def Thread.target (thread : ι) : Thread ι α → ι
  | .scanning ptr .. | .sizing ptr .. => ptr
  | .attempting attempt | .tailLoaded attempt _ | .overcommitLoaded attempt _ _
  | .counting attempt _ | .counted attempt _ _ | .claiming attempt | .overcommitting attempt _
  | .claimed attempt _ => attempt.producer
  | _ => thread

/-- The next atomic operation of a thread. -/
def run (thread : ι) (producerListTail : List ι) (producer : Producer ι α) :
    Thread ι α → Producer ι α × Thread ι α
  | .outside result => (producer, .outside result)
  | .enqueuing element =>
    let currentTailIndex := producer.tailIndex
    if currentTailIndex &&& (BLOCK_SIZE - 1) = 0 then
      (producer, .checking element currentTailIndex)
    else (producer, .constructing element currentTailIndex)
  | .checking element currentTailIndex =>
    let head := producer.headIndex
    if circular_less_than currentTailIndex head then (producer, .broken)
    else if !circular_less_than head (currentTailIndex + BLOCK_SIZE) then
      (producer, .outside (.enqueued false))
    else (producer, .allocating element currentTailIndex)
  | .allocating element currentTailIndex => (producer, .constructing element currentTailIndex)
  | .constructing element currentTailIndex =>
    match producer.cells currentTailIndex with
    | some _ => (producer, .broken)
    | none =>
      ({ producer with
          cells := Function.update producer.cells currentTailIndex (some element) },
        .publishing element currentTailIndex)
  | .publishing element currentTailIndex =>
    ({ producer with
        tailIndex := 1 + currentTailIndex
        enqueued := producer.enqueued ++ [element] },
      .outside (.enqueued true))
  | .dequeuing => (producer, scan producerListTail 0 none 0)
  | .scanning ptr rest nonEmptyCount best bestSize =>
    (producer, .sizing ptr producer.tailIndex rest nonEmptyCount best bestSize)
  | .sizing ptr tail rest nonEmptyCount best bestSize =>
    let size := size_approx tail producer.headIndex
    if size > 0 then
      if size > bestSize then (producer, scan rest (nonEmptyCount + 1) (some ptr) size)
      else (producer, scan rest (nonEmptyCount + 1) best bestSize)
    else (producer, scan rest nonEmptyCount best bestSize)
  | .reloading best => (producer, others best producerListTail)
  | .attempting attempt => (producer, .tailLoaded attempt producer.tailIndex)
  | .tailLoaded attempt tail =>
    (producer, .overcommitLoaded attempt tail producer.dequeueOvercommit)
  | .overcommitLoaded attempt tail overcommit =>
    if circular_less_than (producer.dequeueOptimisticCount - overcommit) tail then
      (producer, .counting attempt overcommit)
    else (producer, attempt.failed)
  | .counting attempt overcommit =>
    let myDequeueCount := producer.dequeueOptimisticCount
    ({ producer with
        dequeueOptimisticCount := myDequeueCount + 1
        tickets := producer.tickets ++ [.drawn thread] },
      if overcommit ≤ myDequeueCount then .counted attempt overcommit myDequeueCount else .broken)
  | .counted attempt overcommit myDequeueCount =>
    if circular_less_than (myDequeueCount - overcommit) producer.tailIndex then
      ({ producer with tickets := producer.tickets.set myDequeueCount.toNat .won },
        .claiming attempt)
    else (producer, .overcommitting attempt myDequeueCount)
  | .claiming attempt =>
    let index := producer.headIndex
    ({ producer with
        headIndex := index + 1
        claims := producer.claims ++ [.held thread] },
      .claimed attempt index)
  | .overcommitting attempt myDequeueCount =>
    ({ producer with
        dequeueOvercommit := producer.dequeueOvercommit + 1
        tickets := producer.tickets.set myDequeueCount.toNat .lost },
      attempt.failed)
  | .claimed _ index =>
    match producer.cells index with
    | some element =>
      ({ producer with
          cells := Function.update producer.cells index none
          claims := producer.claims.set index.toNat (.delivered element) },
        .outside (.dequeued (some element)))
    | none => (producer, .broken)
  | .broken => (producer, .broken)

/-- What an event makes of the producer it accesses and the thread; an event that the thread is
not ready for changes nothing. -/
def react (thread : ι) (producerListTail : List ι) (producer : Producer ι α)
    (stands : Thread ι α) : Event α → Producer ι α × Thread ι α
  | .call operation =>
    match stands with
    | .outside _ => (producer, operation.start)
    | _ => (producer, stands)
  | .run => run thread producerListTail producer stands
  | .exhausted =>
    match stands with
    | .allocating _ _ => (producer, .outside (.enqueued false))
    | _ => (producer, stands)

/-- The queue and its threads. -/
structure State (ι α : Type*) where
  /-- The threads that have a producer, the last one first. -/
  producerListTail : List ι
  /-- The producers. -/
  producers : ι → Producer ι α
  /-- Where each thread stands. -/
  threads : ι → Thread ι α

/-- `get_or_add_implicit_producer`, which only the start of `enqueue` calls. -/
def get_or_add_implicit_producer (producerListTail : List ι) (thread : ι) : List ι :=
  if thread ∈ producerListTail then producerListTail else thread :: producerListTail

/-- The list of producers after an event. -/
def listed (producerListTail : List ι) (thread : ι) : Thread ι α → Event α → List ι
  | .enqueuing _, .run => get_or_add_implicit_producer producerListTail thread
  | _, _ => producerListTail

/-- An event of one thread. -/
abbrev Action (ι α : Type*) := ι × Event α

/-- One step of one thread. -/
def step (state : State ι α) (action : Action ι α) : State ι α :=
  let stands := state.threads action.1
  let target := stands.target action.1
  let next := react action.1 state.producerListTail (state.producers target) stands action.2
  { producerListTail := listed state.producerListTail action.1 stands action.2
    producers := Function.update state.producers target next.1
    threads := Function.update state.threads action.1 next.2 }

/-- A queue as it is constructed, no thread in it. -/
def initial : State ι α :=
  { producerListTail := []
    producers := fun _ => .empty
    threads := fun _ => .outside (.enqueued true) }

end ConcurrentQueue

end ApiPack2
