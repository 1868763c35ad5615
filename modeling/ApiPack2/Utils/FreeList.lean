import ApiPack2.Lib.Transition
import ApiPack2.Lib.Threads

/-!
# The free list of the queue's blocks

A stack of nodes without a lock. A thread that takes the head first counts itself among the
references of the node, so that the node cannot come back with another successor before the
thread exchanges the head. A node that is given back while others still hold references is
marked only, and the last of them adds it. One step is one atomic operation of one thread.
-/

namespace ApiPack2

namespace FreeList

/-- The references of a node. -/
def REFS_MASK : UInt32 := 0x7FFFFFFF

/-- The mark of a node that is to be added. -/
def SHOULD_BE_ON_FREELIST : UInt32 := 0x80000000

/-- `FreeListNode`. -/
structure Node (ν : Type*) where
  /-- The references, and the mark. -/
  freeListRefs : UInt32
  /-- The node below. -/
  freeListNext : Option ν
  deriving DecidableEq, Repr

/-- Where `add_knowing_refcount_is_zero` returns to. -/
inductive Caller (ν : Type*)
  /-- `add`. -/
  | add
  /-- The loop of `try_get`, with the head it goes on with. -/
  | try_get (head : Option ν)
  deriving DecidableEq, Repr

/-- Where a thread stands in the operations of the list. -/
inductive Thread (ν : Type*)
  /-- Outside of them, with what the last `try_get` returned. -/
  | outside (got : Option ν)
  /-- Before `add` marks the node. -/
  | adding (node : ν)
  /-- In `add_knowing_refcount_is_zero`, before it loads the head. -/
  | loadingHead (node : ν) (caller : Caller ν)
  /-- Before it stores the successor. -/
  | storingNext (node : ν) (head : Option ν) (caller : Caller ν)
  /-- Before it stores the list's reference. -/
  | storingRefs (node : ν) (head : Option ν) (caller : Caller ν)
  /-- Before it exchanges the head for the node. -/
  | pushing (node : ν) (head : Option ν) (caller : Caller ν)
  /-- The exchange has failed, and the node is to be marked again. -/
  | marking (node : ν) (head : Option ν) (caller : Caller ν)
  /-- In `try_get`, before it loads the head. -/
  | getting
  /-- Before it loads the references of the head. -/
  | loadingRefs (head : ν)
  /-- Before it increments them. -/
  | incrementing (head : ν) (refs : UInt32)
  /-- With a reference, before it loads the successor. -/
  | loadingNext (head : ν)
  /-- Before it exchanges the head for the successor. -/
  | taking (head : ν) (next : Option ν)
  /-- With the node, before the assertion. -/
  | took (head : ν)
  /-- Before it gives back its reference and the list's. -/
  | releasing (head : ν)
  /-- The exchange has failed, and the reference is to be given back. -/
  | decrementing (prevHead : ν) (head : Option ν)
  /-- The assertion has failed. -/
  | broken
  deriving DecidableEq, Repr

/-- The list that the threads share, with the nodes that its clients have. -/
structure Shared (ν : Type*) where
  /-- The head. -/
  freeListHead : Option ν
  /-- The nodes. -/
  nodes : ν → Node ν
  /-- The node is with a client. -/
  lent : ν → Bool

/-- A call of an operation. -/
inductive Operation (ν : Type*)
  /-- `add`. -/
  | add (node : ν)
  /-- `try_get`. -/
  | try_get
  deriving DecidableEq, Repr

/-- What happens to a thread. -/
inductive Event (ν : Type*)
  /-- It calls an operation. -/
  | call (operation : Operation ν)
  /-- Its next atomic operation. -/
  | run
  deriving DecidableEq, Repr

variable {ι ν : Type*}

/-- The head of the loop of `try_get`. -/
def loop : Option ν → Thread ν
  | some head => .loadingRefs head
  | none => .outside none

/-- Where `add_knowing_refcount_is_zero` returns to. -/
def Caller.resume : Caller ν → Thread ν
  | .add => .outside none
  | .try_get head => loop head

variable [DecidableEq ν]

namespace Shared

/-- The list with other references of a node. -/
def withRefs (shared : Shared ν) (node : ν) (refs : UInt32) : Shared ν :=
  { shared with
    nodes := Function.update shared.nodes node
      { shared.nodes node with freeListRefs := refs } }

/-- The list with another successor of a node. -/
def withNext (shared : Shared ν) (node : ν) (next : Option ν) : Shared ν :=
  { shared with
    nodes := Function.update shared.nodes node
      { shared.nodes node with freeListNext := next } }

end Shared

/-- The next atomic operation of a thread. -/
def run (shared : Shared ν) : Thread ν → Shared ν × Thread ν
  | .outside got => (shared, .outside got)
  | .adding node =>
    let refs := (shared.nodes node).freeListRefs
    (shared.withRefs node (refs + SHOULD_BE_ON_FREELIST),
      if refs = 0 then .loadingHead node .add else .outside none)
  | .loadingHead node caller => (shared, .storingNext node shared.freeListHead caller)
  | .storingNext node head caller => (shared.withNext node head, .storingRefs node head caller)
  | .storingRefs node head caller => (shared.withRefs node 1, .pushing node head caller)
  | .pushing node head caller =>
    if shared.freeListHead = head then
      ({ shared with freeListHead := some node }, caller.resume)
    else (shared, .marking node shared.freeListHead caller)
  | .marking node head caller =>
    let refs := (shared.nodes node).freeListRefs
    (shared.withRefs node (refs + (SHOULD_BE_ON_FREELIST - 1)),
      if refs = 1 then .storingNext node head caller else caller.resume)
  | .getting => (shared, loop shared.freeListHead)
  | .loadingRefs head => (shared, .incrementing head (shared.nodes head).freeListRefs)
  | .incrementing head refs =>
    if refs &&& REFS_MASK = 0 then (shared, .getting)
    else if (shared.nodes head).freeListRefs = refs then
      (shared.withRefs head (refs + 1), .loadingNext head)
    else (shared, .getting)
  | .loadingNext head => (shared, .taking head (shared.nodes head).freeListNext)
  | .taking head next =>
    if shared.freeListHead = some head then ({ shared with freeListHead := next }, .took head)
    else (shared, .decrementing head shared.freeListHead)
  | .took head =>
    if (shared.nodes head).freeListRefs &&& SHOULD_BE_ON_FREELIST = 0 then
      (shared, .releasing head)
    else (shared, .broken)
  | .releasing head =>
    ({ shared.withRefs head ((shared.nodes head).freeListRefs - 2) with
        lent := Function.update shared.lent head true },
      .outside (some head))
  | .decrementing prevHead head =>
    let refs := (shared.nodes prevHead).freeListRefs
    (shared.withRefs prevHead (refs - 1),
      if refs = SHOULD_BE_ON_FREELIST + 1 then .loadingHead prevHead (.try_get head)
      else loop head)
  | .broken => (shared, .broken)

/-- What an event makes of the list and the thread. Only a node that a client has is given back;
an event that the thread is not ready for changes nothing. -/
def react (shared : Shared ν) (thread : Thread ν) : Event ν → Shared ν × Thread ν
  | .call operation =>
    match thread, operation with
    | .outside _, .add node =>
      if shared.lent node then
        ({ shared with lent := Function.update shared.lent node false }, .adding node)
      else (shared, thread)
    | .outside _, .try_get => (shared, .getting)
    | _, _ => (shared, thread)
  | .run => run shared thread

/-- The list and its threads. -/
structure State (ι ν : Type*) where
  /-- The list. -/
  shared : Shared ν
  /-- Where each thread stands. -/
  threads : ι → Thread ν

/-- An event of one thread. -/
abbrev Action (ι ν : Type*) := ι × Event ν

variable [DecidableEq ι]

/-- One step of one thread. -/
def step (state : State ι ν) (action : Action ι ν) : State ι ν :=
  let next := react state.shared (state.threads action.1) action.2
  { shared := next.1, threads := Function.update state.threads action.1 next.2 }

/-- A list as it is constructed, all nodes with clients. -/
def initial : State ι ν :=
  { shared :=
      { freeListHead := none
        nodes := fun _ => { freeListRefs := 0, freeListNext := none }
        lent := fun _ => true }
    threads := fun _ => .outside none }

end FreeList

end ApiPack2
