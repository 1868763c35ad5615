import ApiPack2.Utils.QueueBalance
import ApiPack2.Utils.QueueProgress

/-!
# What the blocking queue promises

Every element enqueued is where the balance says, so whoever has taken a token finds an element,
and nobody sleeps beside an element that no thread is about to take. A thread that has its token
returns an element even if all the others have stopped outside of the inner queue.
-/

namespace ApiPack2

namespace BlockingConcurrentQueue

open Threads (total)
open Transition (Steps)

variable {ι α : Type*} [DecidableEq ι] {state : State ι α} {thread : ι}

/-- A step of the blocking queue is a step of its inner queue, or leaves that alone. -/
theorem step_inner_cases (state : State ι α) (action : Action ι α) :
    (step state action).inner = state.inner ∨
      ∃ event, (step state action).inner =
        ConcurrentQueue.step state.inner (action.1, event) := by
  obtain ⟨thread, event⟩ := action
  rcases step_cases state thread event with stays | ⟨inside, _, steps⟩ | ⟨inside, _, steps⟩ |
    ⟨operation, stands, calls⟩ | ⟨operation, stands, calls⟩ | ⟨result, returns⟩
  · exact .inl (by rw [stays])
  · exact .inl (by rw [steps])
  · exact .inr ⟨inside, by rw [steps]⟩
  · exact .inl (by rw [calls]; rfl)
  · exact .inr ⟨.call operation, by rw [calls]; rfl⟩
  · exact .inl (by rw [returns]; rfl)

/-- What every step of the inner queue keeps holds of it in every run of the blocking queue. -/
theorem inner_of_run {property : ConcurrentQueue.State ι α → Prop}
    (keeps : ∀ inner action, property inner → property (ConcurrentQueue.step inner action))
    (start : property ConcurrentQueue.initial) (actions : List (Action ι α)) :
    property (Transition.run step initial actions).inner := by
  have kept : ∀ (state : State ι α) action, property state.inner →
      property (step state action).inner := by
    intro state action holds
    rcases step_inner_cases state action with stays | ⟨event, steps⟩
    · rw [stays]
      exact holds
    · rw [steps]
      exact keeps _ _ holds
  exact Transition.run_invariant kept start actions

/-- A thread in the loop that dequeues takes steps in the inner queue alone. -/
theorem run_inner (seeks : state.threads thread = .dequeuing) (steps : Nat) :
    Transition.run step state (List.replicate steps (thread, .inner .run)) =
      { state with
        inner := Transition.run ConcurrentQueue.step state.inner
          (ConcurrentQueue.alone thread steps) } := by
  induction steps generalizing state with
  | zero => rfl
  | succ steps ih =>
    have first : step state (thread, .inner .run) =
        { state with inner := ConcurrentQueue.step state.inner (thread, .run) } := by
      simp only [step, isCallInner, seeks]
    have still : (step state (thread, .inner .run)).threads thread = .dequeuing := by
      rw [first]
      exact seeks
    rw [List.replicate_succ, Transition.run_cons, ih still, first]
    rfl

/-- A thread that acquires a token takes steps in the semaphore alone. -/
theorem run_semaphore (acquires : state.threads thread = .acquiring) (steps : Nat) :
    Transition.run step state (List.replicate steps (thread, .semaphore .run)) =
      { state with
        sema := Transition.run LightweightSemaphore.step state.sema
          (LightweightSemaphore.alone thread steps) } := by
  induction steps generalizing state with
  | zero => rfl
  | succ steps ih =>
    have first : step state (thread, .semaphore .run) =
        { state with sema := LightweightSemaphore.step state.sema (thread, .run) } := by
      simp only [step, isCallSemaphore, acquires]
    have still : (step state (thread, .semaphore .run)).threads thread = .acquiring := by
      rw [first]
      exact acquires
    rw [List.replicate_succ, Transition.run_cons, ih still, first]
    rfl

/-- What a thread does by itself once it has its token. -/
def Own (thread : ι) (action : Action ι α) : Prop :=
  action = (thread, .inner .run) ∨ action = (thread, .proceed)

/-- It reads no clock. -/
theorem fits_own {later : List (Action ι α)} (own : ∀ action ∈ later, Own thread action)
    (state : State ι α) : Steps step ClockFits state later := by
  refine Transition.steps_of_mem (fun action taken state => ?_) state
  rcases own action taken with inner | proceeds
  · rw [inner]
    trivial
  · rw [proceeds]
    trivial

variable [Fintype ι] {bound : Nat}

/-- Each element that waits has its token: in the count, in the kernel's semaphore, on its way
there, about to be signalled, or in the hand of a thread that has no element for it yet. -/
theorem waiting_of_sound (sound : Sound bound state) :
    state.waiting = state.sema.shared.m_count.toNat + state.sema.shared.m_sema +
      state.sema.posts + total announced state.view + total unspent state.view := by
  have claimed : state.waiting + state.claimed = state.enqueued :=
    Threads.total_add fun owner => Nat.sub_add_cancel (sound.inner.inOrder owner).claimed
  have tokens := sound.sema.tokens
  have announced_elements := sound.announced
  have unspent_tokens := sound.unspent
  omega

/-- In every run in which the clocks fit and that is shorter than half the circle, each element
that waits has its token in one place, and each token its element. -/
theorem elements_balanced {actions : List (Action ι α)} (few : Fintype.card ι < 2 ^ 31)
    (short : actions.length ≤ ConcurrentQueue.halfCircle)
    (fits : Steps step ClockFits initial actions) :
    let state := Transition.run step initial actions
    state.waiting = state.sema.shared.m_count.toNat + state.sema.shared.m_sema +
      state.sema.posts + total announced state.view + total unspent state.view :=
  waiting_of_sound (sound_run few sound_initial (by omega) fits)

omit [DecidableEq ι] in
/-- One thread enqueues an element and signals it, the other takes the token. -/
def enqueuesAndAcquires (one other : ι) : List (Action ι Nat) :=
  (one, .call (.enqueue 7)) :: List.replicate 5 (one, .inner .run) ++
    [(one, .proceed), (one, .semaphore .run), (one, .proceed), (other, .call .wait_dequeue),
      (other, .semaphore .run), (other, .semaphore .run), (other, .proceed)]

/-- No clock is read on the way. -/
theorem fits_enqueuesAndAcquires :
    Steps step ClockFits initial (enqueuesAndAcquires (0 : Fin 2) 1) := by
  refine Transition.steps_of_mem (fun action taken state => ?_) _
  simp only [enqueuesAndAcquires, List.replicate, List.cons_append, List.nil_append,
    List.mem_cons, List.not_mem_nil, or_false] at taken
  rcases taken with h | h | h | h | h | h | h | h | h | h | h | h | h <;> subst h <;> trivial

/-- After that the element waits for the token that was taken. -/
theorem elements_balanced_acquired :
    let state := Transition.run step initial (enqueuesAndAcquires (0 : Fin 2) 1)
    state.waiting = state.sema.shared.m_count.toNat + state.sema.shared.m_sema +
      state.sema.posts + total announced state.view + total unspent state.view :=
  elements_balanced (by decide) (by decide) fits_enqueuesAndAcquires

/-- In every run in which the clocks fit and that is shorter than half the circle, when a thread
sleeps in the kernel, no post is on its way and no enqueued element is yet to be signalled, every
element that waits is for a thread that has its token already: nobody sleeps beside an element
that is left to be taken. -/
theorem no_sleep_beside_elements {actions : List (Action ι α)} (few : Fintype.card ι < 2 ^ 31)
    (short : actions.length ≤ ConcurrentQueue.halfCircle)
    (fits : Steps step ClockFits initial actions)
    (waits : ((Transition.run step initial actions).sema.threads thread).waits = 1)
    (sleeps : (Transition.run step initial actions).sema.shared.m_sema = 0)
    (quiet : (Transition.run step initial actions).sema.posts = 0)
    (signalled : total announced (Transition.run step initial actions).view = 0) :
    (Transition.run step initial actions).waiting =
      total unspent (Transition.run step initial actions).view := by
  have sound := sound_run few sound_initial (by omega) fits
  have balance := waiting_of_sound sound
  have owed := sound.sema.owed waits sleeps quiet
  omega

omit [DecidableEq ι] in
/-- A thread waits for an element of an empty queue until it sleeps. -/
def sleepsOnEmpty (thread : ι) : List (Action ι Nat) :=
  (thread, .call .wait_dequeue) ::
    List.replicate (2 + 2 * LightweightSemaphore.spinCount + 1) (thread, .semaphore .run)

/-- What the thread does is what it does in the semaphore. -/
theorem run_wait_dequeue (steps : Nat) :
    Transition.run step (initial : State (Fin 2) Nat)
        ((0, .call .wait_dequeue) :: List.replicate steps (0, .semaphore .run)) =
      { sema := Transition.run LightweightSemaphore.step (LightweightSemaphore.initial 0)
          ((0, .call (.waitMany 1 (-1))) :: LightweightSemaphore.alone 0 steps)
        inner := ConcurrentQueue.initial
        threads := Function.update (fun _ => .outside (.enqueued true)) 0 .acquiring } := by
  have calls : step (initial : State (Fin 2) Nat) (0, .call .wait_dequeue) =
      initial.callSemaphore 0 (.waitMany 1 (-1)) .acquiring := rfl
  have acquires : ((initial : State (Fin 2) Nat).callSemaphore 0 (.waitMany 1 (-1))
      .acquiring).threads 0 = .acquiring := rfl
  rw [Transition.run_cons, calls, run_semaphore acquires, Transition.run_cons]
  rfl

/-- No element waits, and no thread has a token. -/
theorem no_sleep_beside_elements_empty :
    (Transition.run step initial (sleepsOnEmpty (0 : Fin 2))).waiting =
      total unspent (Transition.run step initial (sleepsOnEmpty (0 : Fin 2))).view := by
  have sleeping := LightweightSemaphore.run_waits (0 : Fin 2) Nat.one_pos (-1)
  rw [LightweightSemaphore.waits_eq] at sleeping
  have run : Transition.run step initial (sleepsOnEmpty (0 : Fin 2)) = _ := run_wait_dequeue _
  rw [sleeping] at run
  have waits :
      ((Transition.run step initial (sleepsOnEmpty (0 : Fin 2))).sema.threads 0).waits = 1 := by
    rw [run]
    decide
  refine no_sleep_beside_elements (by decide) ?_ ?_ waits ?_ ?_ ?_
  · rw [sleepsOnEmpty, List.length_cons, List.length_replicate]
    decide
  · refine Transition.steps_of_mem (fun action taken state => ?_) _
    rcases List.mem_cons.mp taken with calls | runs
    · rw [calls]
      trivial
    · rw [List.eq_of_mem_replicate runs]
      rfl
  · rw [run]
  · rw [run]
    decide
  · rw [run]
    decide

/-- A thread that has taken a token and has no element yet has one waiting for it. -/
theorem waiting_of_seeks (sound : Sound bound state) (seeks : state.threads thread = .dequeuing)
    (nothing : (state.inner.threads thread).got = 0) : 0 < state.waiting := by
  have balance := waiting_of_sound sound
  have held := Threads.le_total unspent state.view thread
  have here : unspent (state.view thread) = 1 := by
    rw [State.view, seeks]
    simp only [unspent, nothing]
  omega

/-- A thread whose `try_dequeue` has found nothing tries again, and if no other thread is in the
inner queue it finds an element. -/
theorem retries_alone (small : bound < ConcurrentQueue.halfCircle) (sound : Sound bound state)
    (present : state.inner.Listed) (rest : state.inner.AtRest)
    (seeks : state.threads thread = .dequeuing)
    (failed : state.inner.threads thread = .outside (.dequeued none)) :
    ∃ later element, (∀ action ∈ later, Own thread action) ∧
      (Transition.run step state later).threads thread = .outside (.dequeued (some element)) := by
  obtain ⟨steps, result, dequeued, empty, _⟩ :=
    sound.inner.dequeues_first small present rest thread
  have retried : step state (thread, .proceed) =
      state.callInner thread .try_dequeue .dequeuing := by
    simp only [step, State.proceed, seeks, failed]
  have still : (state.callInner thread .try_dequeue .dequeuing).threads thread = .dequeuing :=
    Function.update_self ..
  cases result with
  | none =>
    -- the token says that an element waits
    have waits := waiting_of_seeks sound seeks (by rw [failed]; rfl)
    have nothing : state.waiting = 0 := Threads.total_eq_zero (empty rfl)
    omega
  | some element =>
    refine ⟨(thread, .proceed) :: List.replicate steps (thread, .inner .run) ++
      [(thread, .proceed)], element, fun action taken => ?_, ?_⟩
    · simp only [List.cons_append, List.mem_cons, List.mem_append, List.mem_replicate,
        List.not_mem_nil, or_false] at taken
      rcases taken with proceeds | ⟨_, inner⟩ | proceeds
      · exact .inr proceeds
      · exact .inl inner
      · exact .inr proceeds
    · rw [Transition.run_append, Transition.run_cons, Transition.run_nil, Transition.run_cons,
        retried, run_inner still]
      have got : (Transition.run ConcurrentQueue.step
          (state.callInner thread .try_dequeue .dequeuing).inner
          (ConcurrentQueue.alone thread steps)).threads thread =
            .outside (.dequeued (some element)) := dequeued
      simp only [step, State.proceed, still, got, State.returns, Function.update_self]

/-- A thread that is in the loop that dequeues, while no other is in the inner queue, returns an
element. -/
theorem dequeues_alone (few : Fintype.card ι < 2 ^ 31)
    (small : bound + ConcurrentQueue.callBound (Fintype.card ι) < ConcurrentQueue.halfCircle)
    (sound : Sound bound state) (present : state.inner.Listed) (paced : state.inner.Paced)
    (seeks : state.threads thread = .dequeuing)
    (others : ∀ other ≠ thread, Idle (state.inner.threads other)) :
    ∃ later element, (∀ action ∈ later, Own thread action) ∧
      (Transition.run step state later).threads thread = .outside (.dequeued (some element)) := by
  let first := List.replicate (ConcurrentQueue.callBound (Fintype.card ι))
    (thread, (.inner .run : Event α))
  have own : ∀ action ∈ first, Own thread action :=
    fun action taken => .inl (List.eq_of_mem_replicate taken)
  have length : first.length = ConcurrentQueue.callBound (Fintype.card ι) :=
    List.length_replicate
  -- the thread first ends the call of the inner queue that it is in
  have kept : Sound (bound + first.length) (Transition.run step state first) :=
    sound_run few sound (by omega) (fits_own own state)
  have returned := run_inner seeks (ConcurrentQueue.callBound (Fintype.card ι))
  have listed : (Transition.run step state first).inner.Listed := by
    rw [returned]
    exact Transition.run_invariant ConcurrentQueue.step_listed present _
  have still : (Transition.run step state first).threads thread = .dequeuing := by
    rw [returned]
    exact seeks
  have rest : (Transition.run step state first).inner.AtRest := by
    intro other
    rw [returned]
    by_cases same : other = thread
    · subst same
      have alive := kept.inner.alive other
      rw [returned] at alive
      exact paced.returns (ConcurrentQueue.not_call_alone other _)
        (Nat.le_of_eq (ConcurrentQueue.ownSteps_alone other _).symm) alive
    · obtain ⟨result, outside⟩ := others other same
      exact ⟨result, (ConcurrentQueue.threads_alone same _ _).trans outside⟩
  obtain ⟨result, outside⟩ := rest thread
  have dequeues := (kept.coherent thread)
  unfold State.view at dequeues
  rw [still, outside] at dequeues
  cases result with
  | enqueued success => exact dequeues.2.elim
  | dequeued element =>
    cases element with
    | none =>
      obtain ⟨later, element, retries, found⟩ :=
        retries_alone (by omega) kept listed rest still outside
      refine ⟨first ++ later, element, fun action taken => ?_, ?_⟩
      · exact (List.mem_append.mp taken).elim (own action) (retries action)
      · rw [Transition.run_append]
        exact found
    | some element =>
      refine ⟨first ++ [(thread, .proceed)], element, fun action taken => ?_, ?_⟩
      · exact (List.mem_append.mp taken).elim (own action)
          fun last => .inr (List.mem_singleton.mp last)
      · rw [Transition.run_append, Transition.run_cons, Transition.run_nil]
        simp only [step, State.proceed, still, outside, State.returns, Function.update_self]

/-- In every run in which the clocks fit and that ends well before half the circle, a thread that
has taken its token returns an element by steps of its own, whatever the others have done, as
long as no other thread has stopped inside the inner queue. -/
theorem token_delivers {actions : List (Action ι α)} (few : Fintype.card ι < 2 ^ 31)
    (short : actions.length + ConcurrentQueue.callBound (Fintype.card ι) <
      ConcurrentQueue.halfCircle)
    (fits : Steps step ClockFits initial actions)
    (seeks : (Transition.run step initial actions).threads thread = .dequeuing)
    (others : ∀ other ≠ thread,
      Idle ((Transition.run step initial actions).inner.threads other)) :
    ∃ later element, (∀ action ∈ later, Own thread action) ∧
      (Transition.run step initial (actions ++ later)).threads thread =
        .outside (.dequeued (some element)) := by
  have sound := sound_run few sound_initial (by omega) fits
  have present := inner_of_run ConcurrentQueue.step_listed ConcurrentQueue.listed_initial actions
  have paced := inner_of_run ConcurrentQueue.step_paced ConcurrentQueue.paced_initial actions
  obtain ⟨later, element, own, found⟩ :=
    dequeues_alone few (by omega) sound present paced seeks others
  exact ⟨later, element, own, by rwa [Transition.run_append]⟩

/-- The thread that has taken the token of the one element returns that. -/
theorem token_delivers_acquired :
    ∃ later element, (∀ action ∈ later, Own 1 action) ∧
      (Transition.run step initial (enqueuesAndAcquires (0 : Fin 2) 1 ++ later)).threads 1 =
        .outside (.dequeued (some element)) :=
  token_delivers (by decide) (by decide) fits_enqueuesAndAcquires (by decide)
    fun other different => by
      match other with
      | 0 => exact ⟨.enqueued true, by decide⟩
      | 1 => exact absurd rfl different

end BlockingConcurrentQueue

end ApiPack2
