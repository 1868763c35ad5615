import ApiPack2.Lib.Fifos
import ApiPack2.Utils.QueueTokens

/-!
# The queue as a family of queues

What the queue is for: each thread that enqueues has a first-in first-out queue of its own, and
a dequeue takes the first element of one of them. An `enqueue` takes effect when the tail is
stored, a `try_dequeue` that succeeds when it claims an index. In every interleaving the effects,
in the order they take, are operations that such a family of queues allows, and each thread gets
the results of its own.
-/

namespace ApiPack2

namespace ConcurrentQueue

open Fifos (Accepts)
open Transition (labels)

variable {ι α : Type*}

/-- The queues that a state stands for: of each producer, the elements that are not claimed. -/
def State.fifos (state : State ι α) (owner : ι) : List α :=
  (state.producers owner).enqueued.drop (state.producers owner).claims.length

/-- The result that a thread gets of an operation on the queues. -/
def resultOf : Fifos.Operation ι α → Result α
  | .append _ _ => .enqueued true
  | .take _ element => .dequeued (some element)

/-- The result that a thread is going to get: the element whose index it has claimed. -/
def State.pending (state : State ι α) (thread : ι) : List (Result α) :=
  match state.threads thread with
  | .claimed attempt index =>
    (state.producers attempt.producer).enqueued[index.toNat]?.toList.map fun element =>
      .dequeued (some element)
  | _ => []

variable [DecidableEq ι]

/-- The operation on the queues that takes effect in a step, with its thread. -/
def linearizes (state : State ι α) : Action ι α → Option (ι × Fifos.Operation ι α)
  | (thread, .run) =>
    match state.threads thread with
    | .publishing element _ => some (thread, .append thread element)
    | .claiming attempt =>
      let producer := state.producers attempt.producer
      producer.enqueued[producer.claims.length]?.map fun element =>
        (thread, .take attempt.producer element)
    | _ => none
  | _ => none

/-- The result of an operation that has succeeded and returns in a step, with its thread. -/
def returns (state : State ι α) (action : Action ι α) : Option (ι × Result α) :=
  match state.threads action.1, (step state action).threads action.1 with
  | .outside _, _ => none
  | _, .outside (.enqueued true) => some (action.1, .enqueued true)
  | _, .outside (.dequeued (some element)) => some (action.1, .dequeued (some element))
  | _, _ => none

/-- What belongs to a thread. -/
def ofThread {κ : Type*} (thread : ι) (labels : List (ι × κ)) : List κ :=
  labels.filterMap fun (other, label) => if other = thread then some label else none

/-- Where `ofThread` splits. -/
theorem ofThread_append {κ : Type*} (thread : ι) (first second : List (ι × κ)) :
    ofThread thread (first ++ second) = ofThread thread first ++ ofThread thread second :=
  List.filterMap_append

/-- An atomic operation that neither stores the tail nor claims an index leaves the elements
enqueued and the number of those claimed. -/
theorem run_stutters (thread : ι) (list : List ι) (producer : Producer ι α)
    (stands : Thread ι α) (silent : ∀ element tail, stands ≠ .publishing element tail)
    (claimless : ∀ attempt, stands ≠ .claiming attempt) :
    (run thread list producer stands).1.enqueued = producer.enqueued ∧
      (run thread list producer stands).1.claims.length = producer.claims.length := by
  cases stands with
  | publishing element tail => exact absurd rfl (silent element tail)
  | claiming attempt => exact absurd rfl (claimless attempt)
  | enqueuing element =>
    simp only [run]
    split <;> exact ⟨rfl, rfl⟩
  | checking element currentTailIndex =>
    simp only [run]
    split
    · exact ⟨rfl, rfl⟩
    · split <;> exact ⟨rfl, rfl⟩
  | constructing element currentTailIndex =>
    simp only [run]
    split <;> exact ⟨rfl, rfl⟩
  | sizing ptr tail rest nonEmptyCount best bestSize =>
    simp only [run]
    split
    · split <;> exact ⟨rfl, rfl⟩
    · exact ⟨rfl, rfl⟩
  | overcommitLoaded attempt tail overcommit =>
    simp only [run]
    split <;> exact ⟨rfl, rfl⟩
  | counted attempt overcommit myDequeueCount =>
    simp only [run]
    split <;> exact ⟨rfl, rfl⟩
  | claimed attempt index =>
    simp only [run]
    split
    · exact ⟨rfl, List.length_set ..⟩
    · exact ⟨rfl, rfl⟩
  | _ => exact ⟨rfl, rfl⟩

/-- The elements enqueued are a beginning of those enqueued after a step. -/
theorem run_grows (thread : ι) (list : List ι) (producer : Producer ι α) (stands : Thread ι α) :
    producer.enqueued <+: (run thread list producer stands).1.enqueued := by
  by_cases publishes : ∃ element tail, stands = .publishing element tail
  · obtain ⟨element, tail, rfl⟩ := publishes
    exact List.prefix_append ..
  · by_cases claims : ∃ attempt, stands = .claiming attempt
    · obtain ⟨attempt, rfl⟩ := claims
      exact List.prefix_refl _
    · have same := (run_stutters thread list producer stands
        (fun element tail stores => publishes ⟨element, tail, stores⟩)
        (fun attempt claiming => claims ⟨attempt, claiming⟩)).1
      rw [same]

/-- The elements enqueued are a beginning of those enqueued after a step, whatever happens. -/
theorem step_grows (state : State ι α) (action : Action ι α) (owner : ι) :
    (state.producers owner).enqueued <+: ((step state action).producers owner).enqueued := by
  obtain ⟨thread, event⟩ := action
  simp only [step]
  by_cases here : owner = (state.threads thread).target thread
  · subst here
    rw [Function.update_self]
    cases event with
    | run => exact run_grows ..
    | _ => cases state.threads thread <;> exact List.prefix_refl _
  · rw [Function.update_of_ne here]

/-- The queues after a step that changes one producer. -/
theorem fifos_step {state : State ι α} {thread : ι} {event : Event α} {producer : Producer ι α}
    (moves : (react thread state.producerListTail
      (state.producers ((state.threads thread).target thread)) (state.threads thread) event).1 =
        producer) :
    (step state (thread, event)).fifos =
      Function.update state.fifos ((state.threads thread).target thread)
        (producer.enqueued.drop producer.claims.length) := by
  funext owner
  simp only [State.fifos, step, moves]
  by_cases here : owner = (state.threads thread).target thread
  · subst here
    rw [Function.update_self, Function.update_self]
  · rw [Function.update_of_ne here, Function.update_of_ne here]
    rfl

/-- A step that leaves what is enqueued and the number of claims leaves the queues. -/
theorem fifos_stutter {state : State ι α} {thread : ι} {event : Event α}
    (stutters : (react thread state.producerListTail
        (state.producers ((state.threads thread).target thread)) (state.threads thread)
        event).1.enqueued =
          (state.producers ((state.threads thread).target thread)).enqueued ∧
      (react thread state.producerListTail
        (state.producers ((state.threads thread).target thread)) (state.threads thread)
        event).1.claims.length =
          (state.producers ((state.threads thread).target thread)).claims.length) :
    (step state (thread, event)).fifos = state.fifos := by
  rw [fifos_step rfl, stutters.1, stutters.2]
  exact Function.update_eq_self ..

variable [Fintype ι] {bound : Nat} {state : State ι α}

/-- Who is about to claim an index of a producer finds an element enqueued there. -/
theorem Sound.claims_lt (sound : Sound bound state) {thread : ι} {attempt : Attempt ι}
    (claims : state.threads thread = .claiming attempt) :
    (state.producers attempt.producer).claims.length <
      (state.producers attempt.producer).enqueued.length := by
  have covered := (sound.producers attempt.producer).covered.wins_le
  have won := sound.claims attempt.producer
  have own := Threads.le_total (Thread.claims attempt.producer) state.threads thread
  rw [claims, Thread.claims, if_pos rfl] at own
  omega

/-- Each step of the queue is the operation on the queues that takes effect in it, or leaves
them alone. -/
theorem step_accepts (sound : Sound bound state) (action : Action ι α) :
    Accepts state.fifos ((linearizes state action).toList.map Prod.snd)
      (step state action).fifos := by
  obtain ⟨thread, event⟩ := action
  cases event with
  | call operation =>
    refine (fifos_stutter ?_).symm
    cases stands : state.threads thread <;> exact ⟨rfl, rfl⟩
  | exhausted =>
    refine (fifos_stutter ?_).symm
    cases stands : state.threads thread <;> exact ⟨rfl, rfl⟩
  | run =>
    by_cases publishes : ∃ element tail, state.threads thread = .publishing element tail
    · obtain ⟨element, tail, stores⟩ := publishes
      have claimed := (sound.inOrder thread).claimed
      have label : linearizes state (thread, .run) = some (thread, .append thread element) := by
        simp only [linearizes, stores]
      have stepped : (step state (thread, .run)).fifos =
          Function.update state.fifos thread (state.fifos thread ++ [element]) := by
        rw [fifos_step rfl, stores]
        simp only [react, run, Thread.target, State.fifos]
        rw [List.drop_append_of_le_length claimed]
      rw [label, stepped]
      rfl
    · by_cases claims : ∃ attempt, state.threads thread = .claiming attempt
      · obtain ⟨attempt, claiming⟩ := claims
        have inside := sound.claims_lt claiming
        have label : linearizes state (thread, .run) = some (thread, .take attempt.producer
            ((state.producers attempt.producer).enqueued[
              (state.producers attempt.producer).claims.length])) := by
          simp only [linearizes, claiming, List.getElem?_eq_getElem inside, Option.map_some]
        have stepped : (step state (thread, .run)).fifos =
            Function.update state.fifos attempt.producer
              ((state.producers attempt.producer).enqueued.drop
                ((state.producers attempt.producer).claims.length + 1)) := by
          rw [fifos_step rfl, claiming]
          simp only [react, run, Thread.target, List.length_append, List.length_singleton]
        rw [label, stepped]
        exact ⟨_, List.drop_eq_getElem_cons inside, rfl⟩
      · have silent : linearizes state (thread, .run) = none := by
          unfold linearizes
          dsimp only
          split
          · rename_i element tail stores
            exact absurd ⟨element, tail, stores⟩ publishes
          · rename_i attempt claiming
            exact absurd ⟨attempt, claiming⟩ claims
          · rfl
        rw [silent]
        refine (fifos_stutter ?_).symm
        exact run_stutters thread state.producerListTail _ _
          (fun element tail stores => publishes ⟨element, tail, stores⟩)
          (fun attempt claiming => claims ⟨attempt, claiming⟩)

omit [Fintype ι] in
/-- What takes effect in a step of another thread is not the thread's. -/
theorem linearizes_other {thread other : ι} (different : other ≠ thread) (event : Event α) :
    ofThread thread (linearizes state (other, event)).toList = [] := by
  cases found : linearizes state (other, event) with
  | none => rfl
  | some label =>
    have own : label.1 = other := by
      cases event with
      | run =>
        unfold linearizes at found
        dsimp only at found
        split at found
        · cases found
          rfl
        · obtain ⟨element, _, rfl⟩ := Option.map_eq_some_iff.mp found
          rfl
        · cases found
      | _ => cases found
    simp [ofThread, own, different]

omit [Fintype ι] in
/-- What returns in a step of another thread is not the thread's. -/
theorem returns_other {thread other : ι} (different : other ≠ thread) (event : Event α) :
    ofThread thread (returns state (other, event)).toList = [] := by
  unfold returns
  split <;> simp [ofThread, different]

/-- A step of another thread leaves what the thread is going to get. -/
theorem pending_other (sound : Sound bound state) {thread other : ι} (different : other ≠ thread)
    (event : Event α) : (step state (other, event)).pending thread = state.pending thread := by
  have stays : (step state (other, event)).threads thread = state.threads thread :=
    Function.update_of_ne (fun same => different same.symm) ..
  unfold State.pending
  rw [stays]
  cases stands : state.threads thread with
  | claimed attempt index =>
    dsimp only
    have known := sound.threads thread
    rw [stands] at known
    have held := (List.getElem?_eq_some_iff.mp known).1
    have claimed := (sound.inOrder attempt.producer).claimed
    have inside : index.toNat < (state.producers attempt.producer).enqueued.length :=
      Nat.lt_of_lt_of_le held claimed
    have grows : (state.producers attempt.producer).enqueued <+:
        ((step state (other, event)).producers attempt.producer).enqueued :=
      step_grows state (other, event) attempt.producer
    obtain ⟨more, grown⟩ := grows
    rw [← grown, List.getElem?_append_left inside]
  | _ => rfl

/-- The element whose index a thread has claimed is in its cell. -/
theorem pending_claimed (sound : Sound bound state) {thread : ι} {attempt : Attempt ι}
    {index : UInt64} (stands : state.threads thread = .claimed attempt index) :
    ∃ element, (state.producers attempt.producer).cells index = some element ∧
      state.pending thread = [.dequeued (some element)] := by
  have known := sound.threads thread
  rw [stands] at known
  have held := (List.getElem?_eq_some_iff.mp known).1
  have claimed := (sound.inOrder attempt.producer).claimed
  have inside : index.toNat < (state.producers attempt.producer).enqueued.length :=
    Nat.lt_of_lt_of_le held claimed
  refine ⟨(state.producers attempt.producer).enqueued[index.toNat], ?_, ?_⟩
  · rw [(sound.producers attempt.producer).cells_held known inside,
      List.getElem?_eq_getElem inside]
  · unfold State.pending
    rw [stands]
    simp only [List.getElem?_eq_getElem inside, Option.toList_some, List.map_cons, List.map_nil]

omit [DecidableEq ι] [Fintype ι] in
/-- A thread that has claimed nothing is going to get nothing. -/
theorem pending_of_got {state : State ι α} {thread : ι}
    (nothing : (state.threads thread).got = 0) : state.pending thread = [] := by
  unfold State.pending
  cases stands : state.threads thread with
  | claimed attempt index =>
    rw [stands] at nothing
    cases nothing
  | _ => rfl

omit [Fintype ι] in
/-- A step to where the thread has neither enqueued nor got anything returns no result. -/
theorem returns_none {action : Action ι α}
    (announces : ((step state action).threads action.1).announces = 0)
    (nothing : ((step state action).threads action.1).got = 0) : returns state action = none := by
  unfold returns
  split
  · rfl
  · rename_i returned _
    rw [returned] at announces
    cases announces
  · rename_i returned _
    rw [returned] at nothing
    cases nothing
  · rfl

omit [Fintype ι] in
/-- A step that leaves the thread where it is returns no result. -/
theorem returns_stays {action : Action ι α}
    (stays : (step state action).threads action.1 = state.threads action.1) :
    returns state action = none := by
  unfold returns
  rw [stays]
  cases stands : state.threads action.1 with
  | outside result => rfl
  | _ => rfl

omit [Fintype ι] in
/-- A thread that neither has a result to return nor takes effect in a step returns none, and is
going to get none afterwards. -/
theorem results_quiet {thread : ι} {event : Event α}
    (silent : linearizes state (thread, event) = none) (before : state.pending thread = [])
    (announces : ((step state (thread, event)).threads thread).announces = 0)
    (nothing : ((step state (thread, event)).threads thread).got = 0) :
    state.pending thread ++
        (ofThread thread (linearizes state (thread, event)).toList).map resultOf =
      ofThread thread (returns state (thread, event)).toList ++
        (step state (thread, event)).pending thread := by
  rw [silent, returns_none announces nothing, before, pending_of_got nothing]
  rfl

omit [Fintype ι] in
/-- Nothing comes of an event that the thread is not ready for. -/
theorem results_stays {thread : ι} {event : Event α}
    (silent : linearizes state (thread, event) = none)
    (stays : react thread state.producerListTail
      (state.producers ((state.threads thread).target thread)) (state.threads thread) event =
        (state.producers ((state.threads thread).target thread), state.threads thread)) :
    state.pending thread ++
        (ofThread thread (linearizes state (thread, event)).toList).map resultOf =
      ofThread thread (returns state (thread, event)).toList ++
        (step state (thread, event)).pending thread := by
  have same : (step state (thread, event)).threads = state.threads := by
    simp only [step, stays, Function.update_eq_self]
  have producers : (step state (thread, event)).producers = state.producers := by
    simp only [step, stays, Function.update_eq_self]
  have pending : (step state (thread, event)).pending thread = state.pending thread := by
    unfold State.pending
    rw [same, producers]
  rw [silent, returns_stays (congrFun same thread), pending]
  simp [ofThread]

/-- What a thread is going to get, and what takes effect for it in a step of its own, it gets in
the step or is going to get afterwards. -/
theorem results_own (small : bound < halfCircle) (sound : Sound bound state) (thread : ι)
    (event : Event α) :
    state.pending thread ++
        (ofThread thread (linearizes state (thread, event)).toList).map resultOf =
      ofThread thread (returns state (thread, event)).toList ++
        (step state (thread, event)).pending thread := by
  have alive := (step_sound state (thread, event) sound small).alive thread
  have moves : (step state (thread, event)).threads thread =
      (react thread state.producerListTail
        (state.producers ((state.threads thread).target thread)) (state.threads thread)
        event).2 := Function.update_self ..
  cases event with
  | call operation =>
    cases stands : state.threads thread with
    | outside result =>
      rw [stands] at moves
      refine results_quiet rfl ?_ ?_ ?_
      · unfold State.pending
        rw [stands]
      · rw [moves]
        cases operation <;> rfl
      · rw [moves]
        cases operation <;> rfl
    | _ => exact results_stays rfl (by rw [stands]; rfl)
  | exhausted =>
    cases stands : state.threads thread with
    | allocating element tail =>
      rw [stands] at moves
      refine results_quiet rfl (pending_of_got (by rw [stands]; rfl)) ?_ ?_
      · rw [moves]
        rfl
      · rw [moves]
        rfl
    | _ => exact results_stays rfl (by rw [stands]; rfl)
  | run =>
    cases stands : state.threads thread with
    | outside result =>
      have silent : linearizes state (thread, .run) = none := by simp only [linearizes, stands]
      exact results_stays silent (by rw [stands]; rfl)
    | publishing element tail =>
      have label : linearizes state (thread, .run) = some (thread, .append thread element) := by
        simp only [linearizes, stands]
      rw [stands] at moves
      have result : returns state (thread, .run) = some (thread, .enqueued true) := by
        simp only [returns, stands, moves, react, run]
      rw [label, result, pending_of_got (by rw [stands]; rfl), pending_of_got (by rw [moves]; rfl)]
      simp [ofThread, resultOf]
    | claiming attempt =>
      have inside := sound.claims_lt stands
      have label : linearizes state (thread, .run) = some (thread, .take attempt.producer
          ((state.producers attempt.producer).enqueued[
            (state.producers attempt.producer).claims.length])) := by
        simp only [linearizes, stands, List.getElem?_eq_getElem inside, Option.map_some]
      rw [stands] at moves
      have result : returns state (thread, .run) = none := by
        simp only [returns, stands, moves, react, run]
      have head := (sound.producers attempt.producer).head
      have after : (step state (thread, .run)).pending thread = [.dequeued (some
          ((state.producers attempt.producer).enqueued[
            (state.producers attempt.producer).claims.length]))] := by
        unfold State.pending
        rw [moves]
        simp only [react, run, Thread.target, step, stands, Function.update_self, head,
          List.getElem?_eq_getElem inside, Option.toList_some, List.map_cons, List.map_nil]
      rw [label, result, after, pending_of_got (by rw [stands]; rfl)]
      simp [ofThread, resultOf]
    | claimed attempt index =>
      obtain ⟨element, found, pending⟩ := pending_claimed sound stands
      have label : linearizes state (thread, .run) = none := by simp only [linearizes, stands]
      rw [stands] at moves
      have result : returns state (thread, .run) =
          some (thread, .dequeued (some element)) := by
        simp only [returns, stands, moves, react, run, Thread.target, found]
      have after : (step state (thread, .run)).pending thread = [] := by
        unfold State.pending
        rw [moves]
        simp only [react, run, Thread.target, found]
      rw [label, result, pending, after]
      simp [ofThread]
    | _ =>
      have silent : linearizes state (thread, .run) = none := by simp only [linearizes, stands]
      have stutters := run_stutters thread state.producerListTail
        (state.producers ((state.threads thread).target thread)) (state.threads thread)
        (by rw [stands]; simp) (by rw [stands]; simp)
      have continues := run_continues thread state.producerListTail
        (state.producers ((state.threads thread).target thread)) (state.threads thread)
      have announces : (state.threads thread).announces = 0 := by rw [stands]; rfl
      have nothing : (state.threads thread).got = 0 := by rw [stands]; rfl
      have enqueued := continues.enqueued
      have claims := continues.claims (moves ▸ alive)
      rw [stutters.1] at enqueued
      rw [stutters.2] at claims
      refine results_quiet silent (pending_of_got nothing) ?_ ?_
      · rw [moves, react]
        omega
      · rw [moves, react]
        omega

/-- What a thread is going to get, and what takes effect for it in a step, it gets in the step or
is going to get afterwards. -/
theorem step_results (small : bound < halfCircle) (sound : Sound bound state)
    (action : Action ι α) (thread : ι) :
    state.pending thread ++ (ofThread thread (linearizes state action).toList).map resultOf =
      ofThread thread (returns state action).toList ++ (step state action).pending thread := by
  obtain ⟨mover, event⟩ := action
  by_cases own : mover = thread
  · subst own
    exact results_own small sound mover event
  · rw [linearizes_other own, returns_other own, pending_other sound own]
    simp

/-- From a sound queue, the operations that take effect in a run are accepted, and the threads get
their results. -/
theorem run_refines {actions : List (Action ι α)} (sound : Sound bound state)
    (short : bound + actions.length ≤ halfCircle) :
    Accepts state.fifos ((labels step linearizes state actions).map Prod.snd)
        (Transition.run step state actions).fifos ∧
      ∀ thread, state.pending thread ++
          (ofThread thread (labels step linearizes state actions)).map resultOf =
        ofThread thread (labels step returns state actions) ++
          (Transition.run step state actions).pending thread := by
  induction actions generalizing bound state with
  | nil => exact ⟨rfl, fun thread => by simp [labels, ofThread]⟩
  | cons action actions ih =>
    rw [List.length_cons] at short
    have small : bound < halfCircle := by omega
    have kept := step_sound state action sound small
    obtain ⟨accepted, results⟩ := ih kept (by omega)
    rw [Transition.run_cons]
    simp only [labels, List.map_append, ofThread_append]
    refine ⟨(step_accepts sound action).trans accepted, fun thread => ?_⟩
    have here := step_results small sound action thread
    rw [← List.append_assoc, here, List.append_assoc, results thread, List.append_assoc]

/-- In every interleaving shorter than half the circle, the operations that take effect, in their
order, are operations of a family of queues that lead from empty queues to those that the last
state stands for, and each thread gets the results of its own in that order, but for the one
that it has claimed and not yet returned. -/
theorem refines_fifos {actions : List (Action ι α)} (short : actions.length ≤ halfCircle) :
    Accepts (fun _ => []) ((labels step linearizes initial actions).map Prod.snd)
        (Transition.run step initial actions).fifos ∧
      ∀ thread, (ofThread thread (labels step linearizes initial actions)).map resultOf =
        ofThread thread (labels step returns initial actions) ++
          (Transition.run step initial actions).pending thread :=
  run_refines sound_initial (by omega)

/-- Two threads enqueue, and a third dequeues while they do. -/
theorem refines_fifos_race :
    let actions : List (Action (Fin 3) Nat) :=
      [(0, .call (.enqueue 7)), (1, .call (.enqueue 8)), (2, .call .try_dequeue)] ++
        (List.replicate 12 [(0, .run), (1, .run), (2, .run)]).flatten
    Accepts (fun _ => []) ((labels step linearizes initial actions).map Prod.snd)
        (Transition.run step initial actions).fifos ∧
      ∀ thread, (ofThread thread (labels step linearizes initial actions)).map resultOf =
        ofThread thread (labels step returns initial actions) ++
          (Transition.run step initial actions).pending thread :=
  refines_fifos (by decide)

/-- In every interleaving shorter than half the circle, the elements of a producer take effect as
dequeued in the order they were enqueued, none left out. -/
theorem effects_in_order {actions : List (Action ι α)} (short : actions.length ≤ halfCircle)
    (owner : ι) :
    let effects := (labels step linearizes initial actions).map Prod.snd
    Fifos.taken owner effects ++ (Transition.run step initial actions).fifos owner =
      Fifos.appended owner effects := by
  have within : 0 + actions.length ≤ halfCircle := by omega
  have accepted := (run_refines sound_initial within).1
  exact (accepted.in_order owner).trans (List.nil_append _)

end ConcurrentQueue

end ApiPack2
