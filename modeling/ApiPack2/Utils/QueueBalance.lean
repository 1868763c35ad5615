import ApiPack2.Utils.QueueTokens

/-!
# The balance of the blocking queue

The elements enqueued are the tokens signalled and those about to be, and the tokens taken are
the elements claimed and those still looked for. With the balance of the semaphore this says
where each element is: a thread that looks for one has one waiting for it, and no thread sleeps
while an element waits that nobody is about to take.
-/

namespace ApiPack2

namespace BlockingConcurrentQueue

open Threads (total)
open Transition (Steps)

variable {ι α : Type*}

/-- Where a thread stands in the wrapper, the semaphore and the inner queue. -/
abbrev View (ι α : Type*) :=
  Thread α × LightweightSemaphore.Thread × ConcurrentQueue.Thread ι α

/-- Where a thread stands. -/
def State.view (state : State ι α) (thread : ι) : View ι α :=
  (state.threads thread, state.sema.threads thread, state.inner.threads thread)

/-- The thread is outside of the inner queue. -/
def Idle (stands : ConcurrentQueue.Thread ι α) : Prop := ∃ result, stands = .outside result

/-- A thread is in the semaphore or the inner queue only where the wrapper has called it. -/
def Coherent : View ι α → Prop
  | (.outside _, sema, inner) => sema.Idle ∧ Idle inner
  | (.enqueuing, sema, inner) => sema.Idle ∧ inner.Enqueues
  | (.signalling, sema, inner) => sema.InSignal ∧ Idle inner
  | (.acquiring, sema, inner) => sema.Single ∧ Idle inner
  | (.dequeuing, sema, inner) => sema.Idle ∧ inner.Dequeues

/-- The elements the thread has enqueued and not signalled. -/
def announced : View ι α → Nat
  | (.enqueuing, _, inner) => inner.announces
  | (.signalling, sema, _) => sema.signals
  | _ => 0

/-- The tokens the thread has taken without an element for them. -/
def unspent : View ι α → Nat
  | (.acquiring, sema, _) => sema.holds
  | (.dequeuing, _, inner) => 1 - inner.got
  | _ => 0

section

variable [Fintype ι]

/-- The elements enqueued in the inner queue. -/
def State.enqueued (state : State ι α) : Nat :=
  total (fun producer : ConcurrentQueue.Producer ι α => producer.enqueued.length)
    state.inner.producers

/-- The elements that dequeues of the inner queue have claimed. -/
def State.claimed (state : State ι α) : Nat :=
  total (fun producer : ConcurrentQueue.Producer ι α => producer.claims.length)
    state.inner.producers

/-- The elements of the inner queue that no dequeue has claimed. -/
def State.waiting (state : State ι α) : Nat :=
  total ConcurrentQueue.Producer.waiting state.inner.producers

end

variable [DecidableEq ι]

section

variable {sema : LightweightSemaphore.State ι} {thread : ι}

/-- A call into the semaphore. -/
theorem semaphore_call {got : Nat} (returned : sema.threads thread = .returned got)
    (operation : LightweightSemaphore.Operation) :
    LightweightSemaphore.step sema (thread, .call operation) =
      { shared := { sema.shared with returned := sema.shared.returned + got }
        threads := Function.update sema.threads thread operation.start } := by
  simp only [LightweightSemaphore.step, returned, LightweightSemaphore.react]

/-- A call into the semaphore takes and signals nothing. -/
theorem acquired_call [Fintype ι] (idle : (sema.threads thread).Idle)
    (operation : LightweightSemaphore.Operation) :
    (LightweightSemaphore.step sema (thread, .call operation)).acquired = sema.acquired ∧
      (LightweightSemaphore.step sema (thread, .call operation)).shared.signalled =
        sema.shared.signalled := by
  obtain ⟨got, returned⟩ := idle
  have holds := Threads.total_update LightweightSemaphore.Thread.holds sema.threads thread
    operation.start
  rw [returned, (LightweightSemaphore.start_holds_nothing operation).1] at holds
  rw [semaphore_call returned]
  simp only [LightweightSemaphore.State.acquired, LightweightSemaphore.Thread.holds] at holds ⊢
  exact ⟨by omega, trivial⟩

/-- What happens in the semaphore other than a call is continued there. -/
theorem semaphore_continues [Fintype ι] (sema : LightweightSemaphore.State ι) (thread : ι)
    {event : LightweightSemaphore.Event}
    (continues : ∀ operation, event ≠ .call operation) :
    let after := LightweightSemaphore.step sema (thread, event)
    LightweightSemaphore.Continues sema.shared after.shared (sema.threads thread)
        (after.threads thread) ∧
      after.acquired + (sema.threads thread).holds =
        sema.acquired + (after.threads thread).holds := by
  intro after
  have reacted := LightweightSemaphore.react_continues sema.shared (sema.threads thread) continues
  have holds := Threads.total_update LightweightSemaphore.Thread.holds sema.threads thread
    (LightweightSemaphore.react sema.shared (sema.threads thread) event).2
  have next : after.threads thread =
      (LightweightSemaphore.react sema.shared (sema.threads thread) event).2 :=
    LightweightSemaphore.threads_step sema thread event
  have returned := reacted.returned
  rw [next]
  refine ⟨reacted, ?_⟩
  simp only [after, LightweightSemaphore.step, LightweightSemaphore.State.acquired]
  omega

end

section

variable {inner : ConcurrentQueue.State ι α} {thread : ι}

/-- A call into the inner queue. -/
theorem inner_call (idle : Idle (inner.threads thread))
    (operation : ConcurrentQueue.Operation α) :
    ConcurrentQueue.step inner (thread, .call operation) =
      { inner with threads := Function.update inner.threads thread operation.start } := by
  obtain ⟨result, outside⟩ := idle
  simp only [ConcurrentQueue.step, outside, ConcurrentQueue.react, ConcurrentQueue.Thread.target,
    Function.update_eq_self, ConcurrentQueue.listed]

/-- What happens in the inner queue other than a call is continued there. -/
theorem inner_continues [Fintype ι] (inner : ConcurrentQueue.State ι α) (thread : ι)
    {event : ConcurrentQueue.Event α}
    (continues : ∀ operation, event ≠ .call operation) :
    let after := ConcurrentQueue.step inner (thread, event)
    (total (fun producer : ConcurrentQueue.Producer ι α => producer.enqueued.length)
          after.producers + (inner.threads thread).announces =
        total (fun producer : ConcurrentQueue.Producer ι α => producer.enqueued.length)
          inner.producers + (after.threads thread).announces) ∧
      (after.threads thread ≠ .broken →
        total (fun producer : ConcurrentQueue.Producer ι α => producer.claims.length)
            after.producers + (inner.threads thread).got =
          total (fun producer : ConcurrentQueue.Producer ι α => producer.claims.length)
            inner.producers + (after.threads thread).got) ∧
      ((inner.threads thread).Enqueues → (after.threads thread).Enqueues) ∧
      ((inner.threads thread).Dequeues → (after.threads thread).Dequeues) := by
  intro after
  have reacted := ConcurrentQueue.react_continues thread inner.producerListTail
    (inner.producers ((inner.threads thread).target thread)) (inner.threads thread) continues
  have enqueued := Threads.total_update
    (fun producer : ConcurrentQueue.Producer ι α => producer.enqueued.length) inner.producers
    ((inner.threads thread).target thread)
    (ConcurrentQueue.react thread inner.producerListTail
      (inner.producers ((inner.threads thread).target thread)) (inner.threads thread) event).1
  have claims := Threads.total_update
    (fun producer : ConcurrentQueue.Producer ι α => producer.claims.length) inner.producers
    ((inner.threads thread).target thread)
    (ConcurrentQueue.react thread inner.producerListTail
      (inner.producers ((inner.threads thread).target thread)) (inner.threads thread) event).1
  have next : after.threads thread = (ConcurrentQueue.react thread inner.producerListTail
      (inner.producers ((inner.threads thread).target thread)) (inner.threads thread) event).2 :=
    Function.update_self ..
  have here := reacted.enqueued
  rw [next]
  refine ⟨?_, fun alive => ?_, reacted.enqueues, reacted.dequeues⟩
  · simp only [after, ConcurrentQueue.step]
    omega
  · have there := reacted.claims alive
    simp only [after, ConcurrentQueue.step]
    omega

end

variable [Fintype ι]

/-- What a step of a thread does to the balance of the queue. -/
structure Moves (thread : ι) (before after : State ι α) : Prop where
  /-- The other threads stay where they are. -/
  frame : ∀ other ≠ thread, after.view other = before.view other
  /-- What is enqueued is announced until it is signalled. -/
  announced : after.enqueued + before.sema.shared.signalled + announced (before.view thread) =
    before.enqueued + after.sema.shared.signalled + announced (after.view thread)
  /-- A token that is taken is unspent until an element is claimed. -/
  unspent : after.sema.acquired + before.claimed + unspent (before.view thread) =
    before.sema.acquired + after.claimed + unspent (after.view thread)
  /-- The thread is where the wrapper has called it. -/
  coherent : Coherent (after.view thread)

variable {state : State ι α} {thread : ι}

omit [DecidableEq ι] in
/-- A step that does nothing. -/
theorem Moves.refl (coherent : Coherent (state.view thread)) : Moves thread state state :=
  ⟨fun _ _ => rfl, rfl, rfl, coherent⟩

/-- The wrapper calls into the semaphore. -/
theorem moves_callSemaphore {operation : LightweightSemaphore.Operation} {stands : Thread α}
    (idle : (state.sema.threads thread).Idle)
    (announces : announced (stands, operation.start, state.inner.threads thread) =
      announced (state.view thread))
    (spends : unspent (stands, operation.start, state.inner.threads thread) =
      unspent (state.view thread))
    (coherent : Coherent (stands, operation.start, state.inner.threads thread)) :
    Moves thread state (state.callSemaphore thread operation stands) := by
  obtain ⟨acquired, signalled⟩ := acquired_call idle operation
  obtain ⟨got, returned⟩ := idle
  have next : (state.callSemaphore thread operation stands).view thread =
      (stands, operation.start, state.inner.threads thread) := by
    simp only [State.view, State.callSemaphore, semaphore_call returned, Function.update_self]
  refine ⟨fun other different => ?_, ?_, ?_, ?_⟩
  · simp only [State.view, State.callSemaphore, semaphore_call returned,
      Function.update_of_ne different]
  · rw [next, announces]
    simp only [State.callSemaphore, State.enqueued, signalled]
  · rw [next, spends]
    simp only [State.callSemaphore, State.claimed, acquired]
  · rw [next]
    exact coherent

/-- The wrapper calls into the inner queue. -/
theorem moves_callInner {operation : ConcurrentQueue.Operation α} {stands : Thread α}
    (idle : Idle (state.inner.threads thread))
    (announces : announced (stands, state.sema.threads thread,
      (operation.start : ConcurrentQueue.Thread ι α)) = announced (state.view thread))
    (spends : unspent (stands, state.sema.threads thread,
      (operation.start : ConcurrentQueue.Thread ι α)) = unspent (state.view thread))
    (coherent : Coherent (stands, state.sema.threads thread,
      (operation.start : ConcurrentQueue.Thread ι α))) :
    Moves thread state (state.callInner thread operation stands) := by
  have called := inner_call idle operation
  have next : (state.callInner thread operation stands).view thread =
      (stands, state.sema.threads thread, operation.start) := by
    simp only [State.view, State.callInner, called, Function.update_self]
  refine ⟨fun other different => ?_, ?_, ?_, ?_⟩
  · simp only [State.view, State.callInner, called, Function.update_of_ne different]
  · rw [next, announces]
    simp only [State.callInner, State.enqueued, called]
  · rw [next, spends]
    simp only [State.callInner, State.claimed, called]
  · rw [next]
    exact coherent

/-- The wrapper returns. -/
theorem moves_returns {result : ConcurrentQueue.Result α}
    (semaphore : (state.sema.threads thread).Idle) (inner : Idle (state.inner.threads thread))
    (announces : announced (state.view thread) = 0) (spends : unspent (state.view thread) = 0) :
    Moves thread state (state.returns thread result) := by
  have next : (state.returns thread result).view thread =
      (.outside result, state.sema.threads thread, state.inner.threads thread) := by
    simp only [State.view, State.returns, Function.update_self]
  refine ⟨fun other different => ?_, ?_, ?_, ?_⟩
  · simp only [State.view, State.returns, Function.update_of_ne different]
  · rw [next, announces]
    rfl
  · rw [next, spends]
    rfl
  · rw [next]
    exact ⟨semaphore, inner⟩

/-- Something happens in the semaphore. -/
theorem moves_semaphore {event : LightweightSemaphore.Event}
    (continues : ∀ operation, event ≠ .call operation)
    (inside : state.threads thread = .signalling ∨ state.threads thread = .acquiring)
    (coherent : Coherent (state.view thread)) :
    Moves thread state
      { state with sema := LightweightSemaphore.step state.sema (thread, event) } := by
  obtain ⟨reacted, acquired⟩ := semaphore_continues state.sema thread continues
  have signalled := reacted.signalled
  have frame : ∀ other ≠ thread,
      State.view { state with sema := LightweightSemaphore.step state.sema (thread, event) }
        other = state.view other := fun other different => by
    simp only [State.view, LightweightSemaphore.step, Function.update_of_ne different]
  rcases inside with signals | acquires
  · unfold State.view at coherent
    rw [signals] at coherent
    have stays := reacted.inSignal coherent.1
    have before := LightweightSemaphore.holds_of_inSignal coherent.1
    have after := LightweightSemaphore.holds_of_inSignal stays
    refine ⟨frame, ?_, ?_, ?_⟩
    · simp only [State.view, signals, announced, State.enqueued]
      omega
    · simp only [State.view, signals, unspent, State.claimed]
      omega
    · simp only [State.view, signals]
      exact ⟨stays, coherent.2⟩
  · unfold State.view at coherent
    rw [acquires] at coherent
    have stays := reacted.single coherent.1
    have before := LightweightSemaphore.signals_of_single coherent.1
    have after := LightweightSemaphore.signals_of_single stays
    refine ⟨frame, ?_, ?_, ?_⟩
    · simp only [State.view, acquires, announced, State.enqueued]
      omega
    · simp only [State.view, acquires, unspent, State.claimed]
      omega
    · simp only [State.view, acquires]
      exact ⟨stays, coherent.2⟩

/-- Something happens in the inner queue. -/
theorem moves_inner {event : ConcurrentQueue.Event α}
    (continues : ∀ operation, event ≠ .call operation)
    (inside : state.threads thread = .enqueuing ∨ state.threads thread = .dequeuing)
    (coherent : Coherent (state.view thread))
    (alive : (ConcurrentQueue.step state.inner (thread, event)).threads thread ≠ .broken) :
    Moves thread state
      { state with inner := ConcurrentQueue.step state.inner (thread, event) } := by
  obtain ⟨enqueued, claims, enqueues, dequeues⟩ :=
    inner_continues state.inner thread continues
  have claimed := claims alive
  have frame : ∀ other ≠ thread,
      State.view { state with inner := ConcurrentQueue.step state.inner (thread, event) }
        other = state.view other := fun other different => by
    simp only [State.view, ConcurrentQueue.step, Function.update_of_ne different]
  rcases inside with appends | seeks
  · unfold State.view at coherent
    rw [appends] at coherent
    have stays := enqueues coherent.2
    have before := ConcurrentQueue.got_of_enqueues coherent.2
    have after := ConcurrentQueue.got_of_enqueues stays
    refine ⟨frame, ?_, ?_, ?_⟩
    · simp only [State.view, appends, announced, State.enqueued]
      omega
    · simp only [State.view, appends, unspent, State.claimed]
      omega
    · simp only [State.view, appends]
      exact ⟨coherent.1, stays⟩
  · unfold State.view at coherent
    rw [seeks] at coherent
    have stays := dequeues coherent.2
    have before := ConcurrentQueue.announces_of_dequeues coherent.2
    have after := ConcurrentQueue.announces_of_dequeues stays
    have few := ConcurrentQueue.got_le_one (state.inner.threads thread)
    have few' := ConcurrentQueue.got_le_one
      ((ConcurrentQueue.step state.inner (thread, event)).threads thread)
    refine ⟨frame, ?_, ?_, ?_⟩
    · simp only [State.view, seeks, announced, State.enqueued]
      omega
    · simp only [State.view, seeks, unspent, State.claimed]
      omega
    · simp only [State.view, seeks]
      exact ⟨coherent.1, stays⟩

/-- The wrapper goes on. -/
theorem moves_proceed (coherent : Coherent (state.view thread)) :
    Moves thread state (state.proceed thread) := by
  have stays : Moves thread state state := .refl coherent
  unfold State.view at coherent
  cases wrapper : state.threads thread with
  | outside result =>
    simp only [State.proceed, wrapper]
    exact stays
  | enqueuing =>
    simp only [State.proceed, wrapper]
    rw [wrapper] at coherent
    cases inner : state.inner.threads thread with
    | outside result =>
      cases result with
      | enqueued success =>
        cases success with
        | true =>
          refine moves_callSemaphore coherent.1 ?_ ?_ ⟨trivial, _, inner⟩
          · simp only [announced, State.view, wrapper, inner]
            rfl
          · simp only [unspent, State.view, wrapper]
        | false =>
          refine moves_returns coherent.1 ⟨_, inner⟩ ?_ ?_
          · simp only [announced, State.view, wrapper, inner]
            rfl
          · simp only [unspent, State.view, wrapper]
      | dequeued element =>
        rw [inner] at coherent
        exact coherent.2.elim
    | _ => exact stays
  | signalling =>
    simp only [State.proceed, wrapper]
    rw [wrapper] at coherent
    cases sema : state.sema.threads thread with
    | returned got =>
      refine moves_returns ⟨got, sema⟩ coherent.2 ?_ ?_
      · simp only [announced, State.view, wrapper, sema]
        rfl
      · simp only [unspent, State.view, wrapper]
    | _ => exact stays
  | acquiring =>
    simp only [State.proceed, wrapper]
    rw [wrapper] at coherent
    cases sema : state.sema.threads thread with
    | returned got =>
      cases got with
      | zero =>
        refine moves_returns ⟨0, sema⟩ coherent.2 ?_ ?_
        · simp only [announced, State.view, wrapper]
        · simp only [unspent, State.view, wrapper, sema]
          rfl
      | succ got =>
        have single : got + 1 ≤ 1 := by
          have one := coherent.1
          rwa [sema] at one
        refine moves_callInner coherent.2 ?_ ?_ ⟨⟨_, sema⟩, trivial⟩
        · simp only [announced, State.view, wrapper]
        · -- the one token is unspent until an element is claimed
          obtain rfl : got = 0 := by omega
          simp only [unspent, State.view, wrapper, sema]
          rfl
    | _ => exact stays
  | dequeuing =>
    simp only [State.proceed, wrapper]
    rw [wrapper] at coherent
    cases inner : state.inner.threads thread with
    | outside result =>
      cases result with
      | enqueued success =>
        rw [inner] at coherent
        exact coherent.2.elim
      | dequeued element =>
        cases element with
        | none =>
          refine moves_callInner ⟨_, inner⟩ ?_ ?_ ⟨coherent.1, trivial⟩
          · simp only [announced, State.view, wrapper, inner]
          · simp only [unspent, State.view, wrapper, inner]
            rfl
        | some element =>
          refine moves_returns coherent.1 ⟨_, inner⟩ ?_ ?_
          · simp only [announced, State.view, wrapper]
          · simp only [unspent, State.view, wrapper, inner]
            rfl
    | _ => exact stays

/-- A call of an operation. -/
theorem moves_call {result : ConcurrentQueue.Result α}
    (outside : state.threads thread = .outside result)
    (coherent : Coherent (state.view thread)) (operation : Operation α) :
    Moves thread state (state.call thread operation) := by
  unfold State.view at coherent
  rw [outside] at coherent
  obtain ⟨semaphore, inner⟩ := coherent
  have announces : announced (state.view thread) = 0 := by
    simp only [announced, State.view, outside]
  have spends : unspent (state.view thread) = 0 := by
    simp only [unspent, State.view, outside]
  cases operation with
  | enqueue item =>
    exact moves_callInner inner announces.symm spends.symm ⟨semaphore, trivial⟩
  | try_dequeue =>
    exact moves_callSemaphore semaphore announces.symm spends.symm ⟨⟨rfl, rfl⟩, inner⟩
  | wait_dequeue =>
    exact moves_callSemaphore semaphore announces.symm spends.symm ⟨⟨rfl, rfl⟩, inner⟩
  | wait_dequeue_timed timeout_usecs =>
    exact moves_callSemaphore semaphore announces.symm spends.symm ⟨⟨rfl, rfl⟩, inner⟩

/-- Every step of a thread keeps the balance, unless the inner queue breaks. -/
theorem step_moves (event : Event α) (coherent : Coherent (state.view thread))
    (alive : ∀ event, (ConcurrentQueue.step state.inner (thread, event)).threads thread ≠
      .broken) :
    Moves thread state (step state (thread, event)) := by
  have stays : Moves thread state state := .refl coherent
  cases event with
  | call operation =>
    cases wrapper : state.threads thread with
    | outside result =>
      simp only [step, wrapper]
      exact moves_call wrapper coherent operation
    | _ =>
      simp only [step, wrapper]
      exact stays
  | semaphore event =>
    cases calls : isCallSemaphore event with
    | true =>
      simp only [step, calls]
      exact stays
    | false =>
      have continues : ∀ operation, event ≠ .call operation := by
        intro operation same
        rw [same] at calls
        cases calls
      cases wrapper : state.threads thread with
      | signalling =>
        simp only [step, calls, wrapper]
        exact moves_semaphore continues (.inl wrapper) coherent
      | acquiring =>
        simp only [step, calls, wrapper]
        exact moves_semaphore continues (.inr wrapper) coherent
      | _ =>
        simp only [step, calls, wrapper]
        exact stays
  | inner event =>
    cases calls : isCallInner event with
    | true =>
      simp only [step, calls]
      exact stays
    | false =>
      have continues : ∀ operation, event ≠ .call operation := by
        intro operation same
        rw [same] at calls
        cases calls
      cases wrapper : state.threads thread with
      | enqueuing =>
        simp only [step, calls, wrapper]
        exact moves_inner continues (.inl wrapper) coherent (alive event)
      | dequeuing =>
        simp only [step, calls, wrapper]
        exact moves_inner continues (.inr wrapper) coherent (alive event)
      | _ =>
        simp only [step, calls, wrapper]
        exact stays
  | proceed => exact moves_proceed coherent

/-- The clocks that timed waits read fit. -/
def ClockFits (state : State ι α) (action : Action ι α) : Prop :=
  match action.2 with
  | .semaphore event => LightweightSemaphore.ClockFits state.sema (action.1, event)
  | _ => True

/-- What holds of a queue in use, with the bound on the histories of the inner queue. -/
structure Sound (bound : Nat) (state : State ι α) : Prop where
  /-- The semaphore. -/
  sema : LightweightSemaphore.Sound 0 state.sema
  /-- The inner queue. -/
  inner : ConcurrentQueue.Sound bound state.inner
  /-- The threads are where the wrapper has called them. -/
  coherent : ∀ thread, Coherent (state.view thread)
  /-- Each element is signalled or about to be. -/
  announced : state.enqueued = state.sema.shared.signalled + total announced state.view
  /-- Each token taken has its element or is unspent. -/
  unspent : state.sema.acquired = state.claimed + total unspent state.view

/-- A queue is constructed sound. -/
theorem sound_initial : Sound 0 (initial : State ι α) where
  sema := LightweightSemaphore.sound_initial 0
  inner := ConcurrentQueue.sound_initial
  coherent _ := ⟨⟨0, rfl⟩, _, rfl⟩
  announced := by
    have enqueued : (initial : State ι α).enqueued = 0 := Threads.total_eq_zero fun _ => rfl
    have none : total announced (initial : State ι α).view = 0 :=
      Threads.total_eq_zero fun _ => rfl
    rw [enqueued, none]
    rfl
  unspent := by
    have claimed : (initial : State ι α).claimed = 0 := Threads.total_eq_zero fun _ => rfl
    have none : total unspent (initial : State ι α).view = 0 := Threads.total_eq_zero fun _ => rfl
    have holds : total LightweightSemaphore.Thread.holds (initial : State ι α).sema.threads = 0 :=
      Threads.total_eq_zero fun _ => rfl
    rw [claimed, none, LightweightSemaphore.State.acquired, holds]
    rfl

omit [Fintype ι] in
/-- What the wrapper does by itself: nothing, a call into the semaphore or the inner queue, or a
return. -/
theorem proceed_cases (state : State ι α) (thread : ι) :
    state.proceed thread = state ∨
      (∃ operation stands, state.proceed thread =
        state.callSemaphore thread operation stands) ∨
      (∃ operation stands, state.proceed thread = state.callInner thread operation stands) ∨
      ∃ result, state.proceed thread = state.returns thread result := by
  unfold State.proceed
  split
  · exact .inl rfl
  · split
    · exact .inr (.inl ⟨_, _, rfl⟩)
    · exact .inr (.inr (.inr ⟨_, rfl⟩))
    · exact .inl rfl
  · split
    · exact .inr (.inr (.inr ⟨_, rfl⟩))
    · exact .inl rfl
  · split
    · exact .inr (.inr (.inr ⟨_, rfl⟩))
    · exact .inr (.inr (.inl ⟨_, _, rfl⟩))
    · exact .inl rfl
  · split
    · exact .inr (.inr (.inl ⟨_, _, rfl⟩))
    · exact .inr (.inr (.inr ⟨_, rfl⟩))
    · exact .inl rfl

omit [Fintype ι] in
/-- What a step does: nothing, a step in the semaphore or the inner queue, or what the wrapper
does by itself. -/
theorem step_cases (state : State ι α) (thread : ι) (event : Event α) :
    step state (thread, event) = state ∨
      (∃ inside, event = .semaphore inside ∧ step state (thread, event) =
        { state with sema := LightweightSemaphore.step state.sema (thread, inside) }) ∨
      (∃ inside, event = .inner inside ∧ step state (thread, event) =
        { state with inner := ConcurrentQueue.step state.inner (thread, inside) }) ∨
      (∃ operation stands, step state (thread, event) =
        state.callSemaphore thread operation stands) ∨
      (∃ operation stands, step state (thread, event) =
        state.callInner thread operation stands) ∨
      ∃ result, step state (thread, event) = state.returns thread result := by
  cases event with
  | call operation =>
    simp only [step]
    split
    · cases operation with
      | enqueue item => exact .inr (.inr (.inr (.inr (.inl ⟨_, _, rfl⟩))))
      | _ => exact .inr (.inr (.inr (.inl ⟨_, _, rfl⟩)))
    · exact .inl rfl
  | semaphore inside =>
    simp only [step]
    split
    · exact .inr (.inl ⟨inside, rfl, rfl⟩)
    · exact .inr (.inl ⟨inside, rfl, rfl⟩)
    · exact .inl rfl
  | inner inside =>
    simp only [step]
    split
    · exact .inr (.inr (.inl ⟨inside, rfl, rfl⟩))
    · exact .inr (.inr (.inl ⟨inside, rfl, rfl⟩))
    · exact .inl rfl
  | proceed =>
    rcases proceed_cases state thread with stays | calls | calls | returns
    · exact .inl stays
    · exact .inr (.inr (.inr (.inl calls)))
    · exact .inr (.inr (.inr (.inr (.inl calls))))
    · exact .inr (.inr (.inr (.inr (.inr returns))))

/-- A step in which the clock fits keeps the semaphore sound. -/
theorem step_sema {state : State ι α} {action : Action ι α} (few : Fintype.card ι < 2 ^ 31)
    (sound : LightweightSemaphore.Sound 0 state.sema) (fits : ClockFits state action) :
    LightweightSemaphore.Sound 0 (step state action).sema := by
  obtain ⟨thread, event⟩ := action
  rcases step_cases state thread event with stays | ⟨inside, told, steps⟩ | ⟨inside, _, steps⟩ |
    ⟨operation, stands, calls⟩ | ⟨operation, stands, calls⟩ | ⟨result, returns⟩
  · rw [stays]
    exact sound
  · rw [steps]
    refine LightweightSemaphore.step_sound few _ _ sound ?_
    rw [told] at fits
    exact fits
  · rw [steps]
    exact sound
  · rw [calls]
    exact LightweightSemaphore.step_sound few _ _ sound rfl
  · rw [calls]
    exact sound
  · rw [returns]
    exact sound

/-- A step keeps the inner queue sound. -/
theorem step_inner {bound : Nat} (small : bound < ConcurrentQueue.halfCircle) {state : State ι α}
    (action : Action ι α) (sound : ConcurrentQueue.Sound bound state.inner) :
    ConcurrentQueue.Sound (bound + 1) (step state action).inner := by
  obtain ⟨thread, event⟩ := action
  rcases step_cases state thread event with stays | ⟨inside, _, steps⟩ | ⟨inside, _, steps⟩ |
    ⟨operation, stands, calls⟩ | ⟨operation, stands, calls⟩ | ⟨result, returns⟩
  · rw [stays]
    exact sound.succ
  · rw [steps]
    exact sound.succ
  · rw [steps]
    exact ConcurrentQueue.step_sound state.inner _ sound small
  · rw [calls]
    exact sound.succ
  · rw [calls]
    exact ConcurrentQueue.step_sound state.inner _ sound small
  · rw [returns]
    exact sound.succ

/-- Every step in which the clock fits keeps the queue sound. -/
theorem step_sound {bound : Nat} (few : Fintype.card ι < 2 ^ 31)
    (small : bound < ConcurrentQueue.halfCircle) {state : State ι α} {action : Action ι α}
    (sound : Sound bound state) (fits : ClockFits state action) :
    Sound (bound + 1) (step state action) := by
  obtain ⟨thread, event⟩ := action
  have moves : Moves thread state (step state (thread, event)) := by
    refine step_moves event (sound.coherent thread) fun inner broken => ?_
    have kept := (ConcurrentQueue.step_sound state.inner (thread, inner) sound.inner small).threads
      thread
    rw [broken] at kept
    exact kept
  have frame : (step state (thread, event)).view =
      Function.update state.view thread ((step state (thread, event)).view thread) := by
    funext other
    by_cases own : other = thread
    · subst own
      rw [Function.update_self]
    · rw [Function.update_of_ne own, moves.frame other own]
  have announces := Threads.total_update announced state.view thread
    ((step state (thread, event)).view thread)
  have spends := Threads.total_update unspent state.view thread
    ((step state (thread, event)).view thread)
  rw [← frame] at announces spends
  have announced_move := moves.announced
  have unspent_move := moves.unspent
  have announced_before := sound.announced
  have unspent_before := sound.unspent
  exact {
    sema := step_sema few sound.sema fits
    inner := step_inner small _ sound.inner
    coherent := fun other => by
      by_cases own : other = thread
      · subst own
        exact moves.coherent
      · rw [moves.frame other own]
        exact sound.coherent other
    announced := by omega
    unspent := by omega }

/-- In every run in which the clocks fit and that is shorter than half the circle, the queue is
sound. -/
theorem sound_run {actions : List (Action ι α)} {bound : Nat} {state : State ι α}
    (few : Fintype.card ι < 2 ^ 31) (sound : Sound bound state)
    (short : bound + actions.length ≤ ConcurrentQueue.halfCircle)
    (fits : Steps step ClockFits state actions) :
    Sound (bound + actions.length) (Transition.run step state actions) := by
  induction actions generalizing bound state with
  | nil => exact sound
  | cons action actions ih =>
    rw [List.length_cons] at short ⊢
    have kept := step_sound few (by omega) sound fits.1
    have rest := ih kept (by omega) fits.2
    rw [Transition.run_cons]
    rwa [show bound + 1 + actions.length = bound + (actions.length + 1) by omega] at rest

end BlockingConcurrentQueue

end ApiPack2
