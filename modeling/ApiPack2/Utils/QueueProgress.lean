import ApiPack2.Utils.DequeueAlone

/-!
# No operation waits

The loops of the queue go over the list of producers and over nothing that another thread could
lengthen: the scan reads each producer once, and the loop over the others reads the list once
more. So each atomic operation of a thread brings it closer to the end of its call, whatever the
others do in between, and the number of them is bounded by the number of threads.
-/

namespace ApiPack2

namespace ConcurrentQueue

variable {ι α : Type*}

/-- The atomic operations that can follow once the producer of an attempt has failed, with a
number of producers at most. -/
def Attempt.remaining (number : Nat) (attempt : Attempt ι) : Nat :=
  match attempt.rest with
  | none => 8 * number + 1
  | some rest => 8 * rest.length

/-- The atomic operations that can follow before the thread returns, with a number of producers
at most. -/
def Thread.remaining (number : Nat) : Thread ι α → Nat
  | .outside _ | .broken => 0
  | .publishing _ _ | .claimed _ _ => 1
  | .constructing _ _ | .claiming _ => 2
  | .allocating _ _ => 3
  | .checking _ _ => 4
  | .enqueuing _ => 5
  | .dequeuing => 10 * number + 9
  | .scanning _ rest _ _ _ => 2 * rest.length + 8 * number + 10
  | .sizing _ _ rest _ _ _ => 2 * rest.length + 8 * number + 9
  | .reloading _ => 8 * number + 1
  | .attempting attempt => attempt.remaining number + 7
  | .tailLoaded attempt _ => attempt.remaining number + 6
  | .overcommitLoaded attempt _ _ => attempt.remaining number + 5
  | .counting attempt _ => attempt.remaining number + 4
  | .counted attempt _ _ => attempt.remaining number + 3
  | .overcommitting attempt _ => attempt.remaining number + 1

/-- A bound on the atomic operations of a call among a number of threads. -/
def callBound (number : Nat) : Nat := 10 * number + 9

variable {number : Nat}

/-- A thread with nothing left to do has returned. -/
theorem outside_of_remaining {stands : Thread ι α} (ended : stands.remaining number = 0)
    (alive : stands ≠ .broken) : ∃ result, stands = .outside result := by
  cases stands with
  | outside result => exact ⟨result, rfl⟩
  | broken => exact absurd rfl alive
  | _ =>
    simp only [Thread.remaining] at ended
    omega

/-- The first try costs an attempt at most. -/
theorem remaining_tryBest (nonEmptyCount : Nat) (best : Option ι) :
    (tryBest nonEmptyCount best : Thread ι α).remaining number ≤ 8 * number + 8 := by
  unfold tryBest
  split
  · cases best with
    | none => exact Nat.zero_le _
    | some best => exact Nat.le_refl _
  · exact Nat.zero_le _

/-- The scan costs two reads for each producer and the first try. -/
theorem remaining_scan (ptrs : List ι) (nonEmptyCount : Nat) (best : Option ι)
    (bestSize : UInt64) :
    (scan ptrs nonEmptyCount best bestSize : Thread ι α).remaining number ≤
      2 * ptrs.length + 8 * number + 8 := by
  have tries : (tryBest nonEmptyCount best : Thread ι α).remaining number ≤ 8 * number + 8 :=
    remaining_tryBest nonEmptyCount best
  unfold scan
  split
  · omega
  · rw [List.length_cons]
    split
    · simp only [Thread.remaining]
      omega
    · omega

variable [DecidableEq ι]

/-- The loop over the others costs an attempt for each. -/
theorem remaining_others (best : ι) (ptrs : List ι) :
    (others best ptrs : Thread ι α).remaining number ≤ 8 * ptrs.length := by
  induction ptrs with
  | nil => exact Nat.zero_le _
  | cons ptr rest ih =>
    unfold others
    rw [List.length_cons]
    split
    · simp only [Thread.remaining, Attempt.remaining]
      omega
    · omega

/-- Where a failed attempt leads costs what was left for it. -/
theorem remaining_failed (attempt : Attempt ι) :
    (attempt.failed : Thread ι α).remaining number ≤ attempt.remaining number := by
  unfold Attempt.failed Attempt.remaining
  cases attempt.rest with
  | none => exact Nat.le_refl _
  | some rest => exact remaining_others attempt.best rest

/-- Each atomic operation of a thread leaves fewer, whatever it reads. -/
theorem run_remaining (thread : ι) {list : List ι} (few : list.length ≤ number)
    (producer : Producer ι α) {stands : Thread ι α} (inside : 0 < stands.remaining number) :
    (run thread list producer stands).2.remaining number < stands.remaining number := by
  cases stands with
  | outside result => exact absurd inside (Nat.lt_irrefl 0)
  | broken => exact absurd inside (Nat.lt_irrefl 0)
  | enqueuing element =>
    simp only [run]
    split <;> simp only [Thread.remaining] <;> omega
  | checking element currentTailIndex =>
    simp only [run]
    split
    · simp only [Thread.remaining]
      omega
    · split <;> simp only [Thread.remaining] <;> omega
  | allocating element currentTailIndex =>
    simp only [run, Thread.remaining]
    omega
  | constructing element currentTailIndex =>
    simp only [run]
    split <;> simp only [Thread.remaining] <;> omega
  | publishing element currentTailIndex =>
    simp only [run, Thread.remaining]
    omega
  | dequeuing =>
    refine Nat.lt_of_le_of_lt (remaining_scan list 0 none 0) ?_
    simp only [Thread.remaining]
    omega
  | scanning ptr rest nonEmptyCount best bestSize =>
    simp only [run, Thread.remaining]
    omega
  | sizing ptr tail rest nonEmptyCount best bestSize =>
    simp only [run]
    split
    · split
      · exact Nat.lt_of_le_of_lt (remaining_scan ..) (Nat.lt_succ_self _)
      · exact Nat.lt_of_le_of_lt (remaining_scan ..) (Nat.lt_succ_self _)
    · exact Nat.lt_of_le_of_lt (remaining_scan ..) (Nat.lt_succ_self _)
  | reloading best =>
    refine Nat.lt_of_le_of_lt (remaining_others best list) ?_
    simp only [Thread.remaining]
    omega
  | attempting attempt =>
    simp only [run, Thread.remaining]
    omega
  | tailLoaded attempt tail =>
    simp only [run, Thread.remaining]
    omega
  | overcommitLoaded attempt tail overcommit =>
    simp only [run]
    split
    · exact Nat.lt_succ_self _
    · refine Nat.lt_of_le_of_lt (remaining_failed attempt) ?_
      simp only [Thread.remaining]
      omega
  | counting attempt overcommit =>
    simp only [run]
    split <;> simp only [Thread.remaining] <;> omega
  | counted attempt overcommit myDequeueCount =>
    simp only [run]
    split <;> simp only [Thread.remaining] <;> omega
  | claiming attempt =>
    simp only [run, Thread.remaining]
    omega
  | overcommitting attempt myDequeueCount =>
    exact Nat.lt_of_le_of_lt (remaining_failed attempt) (Nat.lt_succ_self _)
  | claimed attempt index =>
    simp only [run]
    split <;> simp only [Thread.remaining] <;> omega

/-- The event is the next atomic operation of its thread. -/
def Event.isRun : Event α → Bool
  | .run => true
  | _ => false

/-- The atomic operations of a thread in a run. -/
def ownSteps (thread : ι) (actions : List (Action ι α)) : Nat :=
  actions.countP fun action => decide (action.1 = thread) && action.2.isRun

/-- What happens to a thread other than a call leaves it no more to do, and its own atomic
operations leave less. -/
theorem react_remaining (thread : ι) {list : List ι} (few : list.length ≤ number)
    (producer : Producer ι α) (stands : Thread ι α) {event : Event α}
    (continues : ∀ operation, event ≠ .call operation) :
    (react thread list producer stands event).2.remaining number ≤
      stands.remaining number - (if event.isRun then 1 else 0) := by
  cases event with
  | call operation => exact absurd rfl (continues operation)
  | run =>
    simp only [react, Event.isRun, if_pos]
    by_cases inside : 0 < stands.remaining number
    · have fewer := run_remaining thread few producer inside
      omega
    · cases stands with
      | outside result => exact Nat.zero_le _
      | broken => exact Nat.zero_le _
      | _ =>
        simp only [Thread.remaining] at inside
        omega
  | exhausted =>
    cases stands with
    | allocating => exact Nat.zero_le _
    | _ => exact Nat.le_refl _

/-- The list has each producer once. -/
theorem step_nodup (state : State ι α) (action : Action ι α)
    (once : state.producerListTail.Nodup) : (step state action).producerListTail.Nodup := by
  simp only [step]
  unfold listed
  split
  · unfold get_or_add_implicit_producer
    split
    · exact once
    · rename_i absent
      exact List.nodup_cons.mpr ⟨absent, once⟩
  · exact once

variable [Fintype ι]

/-- What a thread has left to do shrinks with each atomic operation of its own, and with no
other step does it grow before the thread calls again. -/
theorem remaining_later {thread : ι} {later : List (Action ι α)} {state : State ι α}
    (once : state.producerListTail.Nodup)
    (own : ∀ operation, (thread, .call operation) ∉ later) :
    ((Transition.run step state later).threads thread).remaining (Fintype.card ι) ≤
      (state.threads thread).remaining (Fintype.card ι) - ownSteps thread later := by
  induction later generalizing state with
  | nil => exact Nat.le_refl _
  | cons action later ih =>
    obtain ⟨mover, event⟩ := action
    have kept := step_nodup state (mover, event) once
    have rest := ih kept fun operation called => own operation (List.mem_cons_of_mem _ called)
    rw [Transition.run_cons]
    refine rest.trans ?_
    simp only [ownSteps, List.countP_cons]
    by_cases moves : mover = thread
    · subst moves
      have continues : ∀ operation, event ≠ .call operation := fun operation called =>
        own operation (called ▸ List.mem_cons_self ..)
      have here := react_remaining mover once.length_le_card
        (state.producers ((state.threads mover).target mover)) (state.threads mover) continues
      have next : (step state (mover, event)).threads mover =
          (react mover state.producerListTail
            (state.producers ((state.threads mover).target mover)) (state.threads mover)
            event).2 := Function.update_self ..
      rw [next]
      simp only [decide_true, Bool.true_and]
      omega
    · have stays : (step state (mover, event)).threads thread = state.threads thread :=
        Function.update_of_ne (fun same => moves same.symm) ..
      rw [stays, decide_eq_false moves, Bool.false_and, if_neg Bool.false_ne_true]
      omega

/-- Every thread is within the bound on a call. -/
structure State.Paced (state : State ι α) : Prop where
  /-- The list has each producer once. -/
  once : state.producerListTail.Nodup
  /-- What each thread has left to do. -/
  within : ∀ thread, (state.threads thread).remaining (Fintype.card ι) ≤
    callBound (Fintype.card ι)

/-- Every step keeps the threads within the bound. -/
theorem step_paced (state : State ι α) (action : Action ι α) (paced : state.Paced) :
    (step state action).Paced := by
  refine ⟨step_nodup state action paced.once, fun other => ?_⟩
  obtain ⟨thread, event⟩ := action
  by_cases own : other = thread
  · subst own
    simp only [step, Function.update_self]
    have before := paced.within other
    by_cases calls : ∃ operation, event = .call operation
    · obtain ⟨operation, called⟩ := calls
      subst called
      cases stands : state.threads other with
      | outside result =>
        cases operation with
        | enqueue element => exact Nat.le_add_left 5 (10 * Fintype.card ι + 4)
        | try_dequeue => exact Nat.le_refl _
      | _ =>
        rw [stands] at before
        exact before
    · have continues : ∀ operation, event ≠ .call operation :=
        fun operation called => calls ⟨operation, called⟩
      have here := react_remaining other paced.once.length_le_card
        (state.producers ((state.threads other).target other)) (state.threads other) continues
      omega
  · simp only [step, Function.update_of_ne own]
    exact paced.within other

omit [DecidableEq ι] in
/-- A queue is constructed with no thread in it. -/
theorem paced_initial : (initial : State ι α).Paced :=
  ⟨List.nodup_nil, fun _ => Nat.zero_le _⟩

/-- From where every thread is within the bound, a thread that takes as many atomic operations as
the bound says, and does not call again, has returned unless it broke. -/
theorem State.Paced.returns {state : State ι α} (paced : state.Paced)
    {later : List (Action ι α)} {thread : ι}
    (own : ∀ operation, (thread, .call operation) ∉ later)
    (enough : callBound (Fintype.card ι) ≤ ownSteps thread later)
    (alive : (Transition.run step state later).threads thread ≠ .broken) :
    ∃ result, (Transition.run step state later).threads thread = .outside result := by
  have within := paced.within thread
  have left := remaining_later paced.once own
  exact outside_of_remaining (Nat.eq_zero_of_le_zero (left.trans (by omega))) alive

omit [Fintype ι] in
/-- While a thread is alone the others stay where they are. -/
theorem threads_alone {thread other : ι} (different : other ≠ thread) (steps : Nat)
    (state : State ι α) :
    (Transition.run step state (alone thread steps)).threads other = state.threads other := by
  induction steps generalizing state with
  | zero => rfl
  | succ steps ih =>
    rw [alone, List.replicate_succ, Transition.run_cons]
    exact (ih _).trans (Function.update_of_ne different ..)

omit [Fintype ι] in
/-- A thread that is alone takes each step by itself. -/
theorem ownSteps_alone (thread : ι) (steps : Nat) :
    ownSteps thread (alone thread steps : List (Action ι α)) = steps := by
  simp [ownSteps, alone, List.countP_replicate, Event.isRun]

omit [DecidableEq ι] [Fintype ι] in
/-- A thread that is alone calls nothing. -/
theorem not_call_alone (thread : ι) (steps : Nat) (operation : Operation α) :
    (thread, .call operation) ∉ (alone thread steps : List (Action ι α)) := by
  intro taken
  cases List.eq_of_mem_replicate taken

end ConcurrentQueue

end ApiPack2
