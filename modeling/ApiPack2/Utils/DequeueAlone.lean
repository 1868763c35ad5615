import ApiPack2.Utils.DequeueClaims

/-!
# The queue at rest

When no thread is inside the queue nothing has been lost: every claim has delivered its element,
and the tickets less those known to have failed are the claims. A `try_dequeue` that no other
thread disturbs finds an element exactly if there is one, at the producer that its scan takes
for the longest.
-/

namespace ApiPack2

namespace ConcurrentQueue

open Tickets (Verdict losses wins)
open Threads (total)

variable {ι α : Type*}

/-- No thread is inside the queue. -/
def State.AtRest (state : State ι α) : Prop :=
  ∀ thread, ∃ result, state.threads thread = .outside result

/-- The elements of a producer that no dequeue has claimed. -/
def Producer.waiting (producer : Producer ι α) : Nat :=
  producer.enqueued.length - producer.claims.length

/-- A producer that no dequeue is at work on. -/
structure Producer.Calm (producer : Producer ι α) : Prop where
  /-- It is sound, and nothing is being published. -/
  sound : producer.Sound none
  /-- The tickets that did not fail are the claims. -/
  settled : producer.dequeueOptimisticCount - producer.dequeueOvercommit = producer.headIndex
  /-- Each ticket known to have failed was drawn. -/
  ordered : producer.dequeueOvercommit ≤ producer.dequeueOptimisticCount
  /-- Each claim has delivered its element. -/
  claims : producer.claims =
    (producer.enqueued.take producer.claims.length).map Claim.delivered
  /-- The elements are fewer than half the circle. -/
  small : producer.enqueued.length < halfCircle

namespace Producer.Calm

variable {producer : Producer ι α}

/-- No more is claimed than was enqueued. -/
theorem claimed (calm : producer.Calm) : producer.claims.length ≤ producer.enqueued.length := by
  have lengths := congrArg List.length calm.claims
  rw [List.length_map, List.length_take] at lengths
  omega

/-- The comparison of the head with the tail says whether an element waits. -/
theorem head_before_tail (calm : producer.Calm) :
    circular_less_than producer.headIndex producer.tailIndex =
      decide (0 < producer.waiting) := by
  have claimed := calm.claimed
  have small := calm.small
  have tail := calm.sound.tail
  have head := calm.sound.head
  rw [circular_less_than_eq (by omega) (by omega), tail, head, Producer.waiting, decide_eq_decide]
  omega

/-- The cell at the head holds the first element that waits. -/
theorem cells_head (calm : producer.Calm) :
    producer.cells producer.headIndex = producer.enqueued[producer.claims.length]? := by
  have fresh : producer.isDelivered producer.claims.length = false := by
    simp [Producer.isDelivered]
  rw [calm.sound.cells, Producer.content, calm.sound.head, fresh, if_neg Bool.false_ne_true]
  split
  · rename_i last
    rw [last, List.getElem?_eq_none (Nat.le_refl _)]
  · rfl

/-- The size that the scan sees is the number of elements that wait. -/
theorem size_approx_pos (calm : producer.Calm) :
    size_approx producer.tailIndex producer.headIndex > 0 ↔ 0 < producer.waiting := by
  have claimed := calm.claimed
  have small := calm.small
  have tail := calm.sound.tail
  have head := calm.sound.head
  rw [size_approx, calm.head_before_tail]
  by_cases waits : 0 < producer.waiting
  · have ordered : producer.headIndex ≤ producer.tailIndex := by
      rw [UInt64.le_iff_toNat_le]
      omega
    rw [decide_eq_true waits, if_pos rfl, gt_iff_lt, UInt64.lt_iff_toNat_lt,
      UInt64.toNat_sub_of_le _ _ ordered, tail, head]
    unfold Producer.waiting at waits ⊢
    exact ⟨fun _ => waits, fun _ => by rw [UInt64.toNat_zero]; omega⟩
  · rw [decide_eq_false waits, if_neg Bool.false_ne_true]
    exact ⟨fun positive => absurd positive (by decide), fun positive => absurd positive waits⟩

end Producer.Calm

variable [DecidableEq ι]

section

variable [Fintype ι]

/-- At rest every producer of a sound queue is calm. -/
theorem Sound.calm {state : State ι α} {bound : Nat} (sound : Sound bound state)
    (small : bound < halfCircle) (rest : state.AtRest) (owner : ι) :
    (state.producers owner).Calm := by
  have producer := sound.producers owner
  have within := sound.within owner
  obtain ⟨result, outside⟩ := rest owner
  rw [outside] at producer
  have undecided : ∀ (number : Nat) (thread : ι),
      (state.producers owner).tickets[number]? ≠ some (.drawn thread) := by
    intro number thread drawn
    obtain ⟨other, outside⟩ := rest thread
    have ticket := sound.tickets owner number thread drawn
    rw [outside] at ticket
    cases ticket
  have none : total (Thread.claims owner) state.threads = 0 := by
    refine Threads.total_eq_zero fun thread => ?_
    obtain ⟨other, outside⟩ := rest thread
    rw [outside]
    rfl
  have claims := sound.claims owner
  have tickets := Tickets.wins_add_losses_eq undecided
  have covered := producer.covered.wins_le
  have ordered : (state.producers owner).dequeueOvercommit ≤
      (state.producers owner).dequeueOptimisticCount := by
    rw [UInt64.le_iff_toNat_le, producer.count, producer.overcommit]
    omega
  refine ⟨producer, ?_, ordered, ?_, by have := within.enqueued; omega⟩
  · apply UInt64.toNat_inj.mp
    rw [UInt64.toNat_sub_of_le _ _ ordered, producer.count, producer.overcommit, producer.head]
    omega
  · apply List.ext_getElem?
    intro number
    rw [List.getElem?_map, List.getElem?_take]
    cases claimed : (state.producers owner).claims[number]? with
    | none =>
      have beyond := List.getElem?_eq_none_iff.mp claimed
      rw [if_neg (by omega)]
      rfl
    | some claim =>
      have inside := (List.getElem?_eq_some_iff.mp claimed).1
      rw [if_pos inside]
      cases claim with
      | held thread =>
        obtain ⟨other, outside⟩ := rest thread
        have holding := sound.held owner number thread claimed
        rw [outside] at holding
        cases holding
      | delivered element =>
        rw [producer.delivered number element claimed]
        rfl

/-- In every interleaving shorter than half the circle, once no thread is inside the queue the
elements delivered are the first that were enqueued, and the others can be dequeued. -/
theorem at_rest_calm {actions : List (Action ι α)} (short : actions.length < halfCircle)
    (rest : (Transition.run step initial actions).AtRest) (owner : ι) :
    ((Transition.run step initial actions).producers owner).Calm :=
  (sound_of_run (Nat.le_of_lt short)).calm short rest owner

end

/-- A thread that takes a number of steps while the others take none. -/
def alone (thread : ι) (steps : Nat) : List (Action ι α) := List.replicate steps (thread, .run)

/-- One thread enqueues an element. -/
def enqueuesOne : List (Action (Fin 2) Nat) := (0, .call (.enqueue 7)) :: alone 0 5

/-- It is outside the queue afterwards, as the other thread is. -/
theorem atRest_enqueuesOne : (Transition.run step initial enqueuesOne).AtRest := by
  intro thread
  match thread with
  | 0 => exact ⟨.enqueued true, by decide +kernel⟩
  | 1 => exact ⟨.enqueued true, by decide +kernel⟩

/-- After one element is enqueued its producer is calm. -/
theorem at_rest_calm_one :
    ((Transition.run step initial enqueuesOne).producers 0).Calm :=
  at_rest_calm (by decide) atRest_enqueuesOne 0

/-- The queue with one thread standing elsewhere. -/
def State.standing (state : State ι α) (thread : ι) (stands : Thread ι α) : State ι α :=
  { state with threads := Function.update state.threads thread stands }

variable {state : State ι α} {thread : ι}

/-- A step that only reads moves the thread. -/
theorem step_reads {stands next : Thread ι α}
    (reads : run thread state.producerListTail (state.producers (stands.target thread)) stands =
      (state.producers (stands.target thread), next))
    (keeps : listed state.producerListTail thread stands (.run : Event α) =
      state.producerListTail) :
    step (state.standing thread stands) (thread, .run) = state.standing thread next := by
  simp only [step, State.standing, Function.update_self, react, reads, keeps,
    Function.update_eq_self, Function.update_idem]

/-- Steps that lead somewhere and those that lead on from there. -/
theorem alone_trans {first second : Nat} {middle last : State ι α}
    (leads : Transition.run step state (alone thread first) = middle)
    (on : Transition.run step middle (alone thread second) = last) :
    Transition.run step state (alone thread (first + second)) = last := by
  rw [alone, List.replicate_add, Transition.run_append]
  subst leads
  exact on

/-- A dequeue from a calm producer where an element waits returns the first one, if no other
thread disturbs it. -/
theorem attempt_alone {attempt : Attempt ι} (calm : (state.producers attempt.producer).Calm)
    (waits : 0 < (state.producers attempt.producer).waiting) :
    (Transition.run step (state.standing thread (.attempting attempt)) (alone thread 7)).threads
      thread = .outside (.dequeued
        (state.producers attempt.producer).enqueued[
          (state.producers attempt.producer).claims.length]?) := by
  have before_tail := calm.head_before_tail
  rw [decide_eq_true waits] at before_tail
  have found := calm.cells_head
  have inside : (state.producers attempt.producer).claims.length <
      (state.producers attempt.producer).enqueued.length := by
    unfold Producer.waiting at waits
    omega
  rw [List.getElem?_eq_getElem inside] at found
  have loaded : Transition.run step (state.standing thread (.attempting attempt))
      (alone thread 3) = state.standing thread
        (.counting attempt (state.producers attempt.producer).dequeueOvercommit) := by
    rw [alone, List.replicate, List.replicate, List.replicate, List.replicate,
      Transition.run_cons, Transition.run_cons, Transition.run_cons, Transition.run_nil]
    have first : step (state.standing thread (.attempting attempt)) (thread, .run) =
        state.standing thread
          (.tailLoaded attempt (state.producers attempt.producer).tailIndex) := step_reads rfl rfl
    have second : step (state.standing thread
        (.tailLoaded attempt (state.producers attempt.producer).tailIndex)) (thread, .run) =
          state.standing thread (.overcommitLoaded attempt
            (state.producers attempt.producer).tailIndex
            (state.producers attempt.producer).dequeueOvercommit) := step_reads rfl rfl
    rw [first, second]
    refine step_reads ?_ rfl
    simp only [run, Thread.target, calm.settled, before_tail, if_pos]
  have delivered : (Transition.run step (state.standing thread
      (.counting attempt (state.producers attempt.producer).dequeueOvercommit))
      (alone thread 4)).threads thread = .outside (.dequeued
        (state.producers attempt.producer).enqueued[
          (state.producers attempt.producer).claims.length]?) := by
    simp only [alone, List.replicate, Transition.run_cons, Transition.run_nil, step,
      State.standing, Function.update_self, react, run, Thread.target, if_pos calm.ordered,
      calm.settled, before_tail, if_pos, found, List.getElem?_eq_getElem inside]
  rw [← delivered, ← loaded, alone, alone, alone, ← Transition.run_append, ← List.replicate_add]

/-- Reading a producer's size takes a thread on with the scan. -/
theorem sizing_alone {ptr : ι} {rest : List ι} {nonEmptyCount : Nat} {best : Option ι}
    {bestSize : UInt64} {next : Thread ι α}
    (sized : (run thread state.producerListTail (state.producers ptr)
      (.sizing ptr (state.producers ptr).tailIndex rest nonEmptyCount best bestSize)).2 = next) :
    Transition.run step
      (state.standing thread (.scanning ptr rest nonEmptyCount best bestSize))
      (alone thread 2) = state.standing thread next := by
  rw [alone, List.replicate, List.replicate, List.replicate, Transition.run_cons,
    Transition.run_cons, Transition.run_nil]
  have first : step (state.standing thread (.scanning ptr rest nonEmptyCount best bestSize))
      (thread, .run) = state.standing thread
        (.sizing ptr (state.producers ptr).tailIndex rest nonEmptyCount best bestSize) :=
    step_reads rfl rfl
  rw [first]
  refine step_reads (Prod.ext ?_ sized) rfl
  unfold run
  dsimp only [Thread.target]
  by_cases positive : size_approx (state.producers ptr).tailIndex
      (state.producers ptr).headIndex > 0
  · rw [if_pos positive]
    exact apply_ite Prod.fst _ _ _ |>.trans (ite_self _)
  · rw [if_neg positive]

/-- Undisturbed, the scan finds a producer where an element waits exactly if there is one. -/
theorem scan_alone (thread : ι) (calm : ∀ owner, (state.producers owner).Calm) (ptrs : List ι)
    {nonEmptyCount : Nat} {best : Option ι} {bestSize : UInt64}
    (remembers : (nonEmptyCount > 0 ∨ bestSize > 0) →
      ∃ owner, best = some owner ∧ 0 < (state.producers owner).waiting) :
    ∃ steps seen chosen,
      Transition.run step (state.standing thread (scan ptrs nonEmptyCount best bestSize))
        (alone thread steps) = state.standing thread (tryBest seen chosen) ∧
      (seen = 0 ↔ nonEmptyCount = 0 ∧ ∀ ptr ∈ ptrs, (state.producers ptr).waiting = 0) ∧
      (0 < seen → ∃ owner, chosen = some owner ∧ 0 < (state.producers owner).waiting) := by
  induction ptrs generalizing nonEmptyCount best bestSize with
  | nil =>
    refine ⟨0, nonEmptyCount, best, rfl, by simp, fun seen => remembers (.inl seen)⟩
  | cons ptr rest ih =>
    by_cases few : nonEmptyCount < 3
    · rw [scan, if_pos few]
      have size := (calm ptr).size_approx_pos
      by_cases waits : 0 < (state.producers ptr).waiting
      · have positive := size.mpr waits
        -- the producer counts, whether it is the longest so far or not
        have goes : ∃ best' bestSize', (run thread state.producerListTail (state.producers ptr)
            (.sizing ptr (state.producers ptr).tailIndex rest nonEmptyCount best bestSize)).2 =
              scan rest (nonEmptyCount + 1) best' bestSize' ∧
            ∃ owner, best' = some owner ∧ 0 < (state.producers owner).waiting := by
          simp only [run, if_pos positive]
          split
          · exact ⟨_, _, rfl, ptr, rfl, waits⟩
          · rename_i smaller
            have seen : bestSize > 0 := UInt64.lt_of_lt_of_le positive (UInt64.not_lt.mp smaller)
            exact ⟨_, _, rfl, remembers (.inr seen)⟩
        obtain ⟨best', bestSize', sized, known⟩ := goes
        have remembers' : (nonEmptyCount + 1 > 0 ∨ bestSize' > 0) →
            ∃ owner, best' = some owner ∧ 0 < (state.producers owner).waiting := fun _ => known
        obtain ⟨steps, seen, chosen, leads, zero, found⟩ := ih remembers'
        refine ⟨2 + steps, seen, chosen, alone_trans (sizing_alone sized) leads, ?_, found⟩
        have counted : seen ≠ 0 := fun none => Nat.succ_ne_zero _ (zero.mp none).1
        refine ⟨fun none => absurd none counted, fun none => ?_⟩
        have empty := none.2 ptr (List.mem_cons_self ..)
        omega
      · have sized : (run thread state.producerListTail (state.producers ptr)
            (.sizing ptr (state.producers ptr).tailIndex rest nonEmptyCount best bestSize)).2 =
              scan rest nonEmptyCount best bestSize := by
          simp only [run, if_neg fun positive => waits (size.mp positive)]
        obtain ⟨steps, seen, chosen, leads, zero, found⟩ := ih remembers
        refine ⟨2 + steps, seen, chosen, alone_trans (sizing_alone sized) leads, ?_, found⟩
        have empty : (state.producers ptr).waiting = 0 := by omega
        rw [zero]
        simp [empty]
    · rw [scan, if_neg few]
      refine ⟨0, nonEmptyCount, best, rfl, ?_, fun seen => remembers (.inl seen)⟩
      constructor
      · intro none
        omega
      · intro none
        omega

/-- The thread is inside `enqueue`, past the start. -/
def Thread.appends : Thread ι α → Prop
  | .checking _ _ | .allocating _ _ | .constructing _ _ | .publishing _ _ => True
  | _ => False

/-- Where a failed attempt leads is not inside `enqueue`. -/
theorem not_appends_failed (attempt : Attempt ι) :
    ¬(attempt.failed : Thread ι α).appends := by
  rcases failed_cases (α := α) attempt with ends | ⟨best, reloads⟩ | ⟨next, tries⟩
  · rw [ends]
    exact id
  · rw [reloads]
    exact id
  · rw [tries]
    exact id

omit [DecidableEq ι] in
/-- Where the scan leads is not inside `enqueue`. -/
theorem not_appends_scan (ptrs : List ι) (nonEmptyCount : Nat) (best : Option ι)
    (bestSize : UInt64) : ¬(scan ptrs nonEmptyCount best bestSize : Thread ι α).appends := by
  have tries : ¬(tryBest nonEmptyCount best : Thread ι α).appends := by
    unfold tryBest
    split
    · cases best <;> exact id
    · exact id
  unfold scan
  split
  · exact tries
  · split
    · exact id
    · exact tries

/-- Only from the start of `enqueue` does an atomic operation get a thread inside. -/
theorem run_appends {list : List ι} {producer : Producer ι α} {stands : Thread ι α}
    (inside : (run thread list producer stands).2.appends) :
    stands.appends ∨ ∃ element, stands = .enqueuing element := by
  cases stands with
  | enqueuing element => exact .inr ⟨element, rfl⟩
  | checking | allocating | constructing | publishing => exact .inl trivial
  | dequeuing => exact (not_appends_scan _ _ _ _ inside).elim
  | sizing ptr tail rest nonEmptyCount best bestSize =>
    simp only [run] at inside
    split at inside
    · split at inside <;> exact (not_appends_scan _ _ _ _ inside).elim
    · exact (not_appends_scan _ _ _ _ inside).elim
  | reloading best =>
    rcases others_cases (α := α) best list with ends | ⟨attempt, tries⟩
    · simp only [run, ends] at inside
      exact inside.elim
    · simp only [run, tries] at inside
      exact inside.elim
  | overcommitLoaded attempt tail overcommit =>
    simp only [run] at inside
    split at inside
    · exact inside.elim
    · exact absurd inside (not_appends_failed attempt)
  | counting attempt overcommit =>
    simp only [run] at inside
    split at inside <;> exact inside.elim
  | counted attempt overcommit myDequeueCount =>
    simp only [run] at inside
    split at inside <;> exact inside.elim
  | overcommitting attempt myDequeueCount => exact absurd inside (not_appends_failed attempt)
  | claimed attempt index =>
    simp only [run] at inside
    split at inside <;> exact inside.elim
  | _ => exact inside.elim

/-- Only a thread inside `enqueue` enqueues. -/
theorem run_enqueued (list : List ι) (producer : Producer ι α) (stands : Thread ι α) :
    (run thread list producer stands).1.enqueued = producer.enqueued ∨ stands.appends := by
  cases stands with
  | checking | allocating | constructing | publishing => exact .inr trivial
  | enqueuing element =>
    refine .inl ?_
    simp only [run]
    split <;> rfl
  | sizing ptr tail rest nonEmptyCount best bestSize =>
    refine .inl ?_
    simp only [run]
    split
    · split <;> rfl
    · rfl
  | overcommitLoaded attempt tail overcommit =>
    refine .inl ?_
    simp only [run]
    split <;> rfl
  | counted attempt overcommit myDequeueCount =>
    refine .inl ?_
    simp only [run]
    split <;> rfl
  | claimed attempt index =>
    refine .inl ?_
    simp only [run]
    split <;> rfl
  | _ => exact .inl rfl

/-- Producers that have something are in the list. -/
def State.Listed (state : State ι α) : Prop :=
  ∀ owner, (state.producers owner).enqueued ≠ [] ∨ (state.threads owner).appends →
    owner ∈ state.producerListTail

/-- The list of producers only grows. -/
theorem mem_listed {list : List ι} {owner : ι} (present : owner ∈ list) (stands : Thread ι α)
    (event : Event α) : owner ∈ listed list thread stands event := by
  unfold listed
  split
  · unfold get_or_add_implicit_producer
    split
    · exact present
    · exact List.mem_cons_of_mem _ present
  · exact present

/-- A thread that enqueues has its producer in the list. -/
theorem self_mem_listed (list : List ι) (element : α) :
    thread ∈ listed list thread (.enqueuing element) (.run : Event α) := by
  simp only [listed, get_or_add_implicit_producer]
  split
  · assumption
  · exact List.mem_cons_self ..

/-- Only a thread inside `enqueue` enqueues, whatever happens. -/
theorem react_enqueued (list : List ι) (producer : Producer ι α) (stands : Thread ι α)
    (event : Event α) :
    (react thread list producer stands event).1.enqueued = producer.enqueued ∨
      stands.appends := by
  cases event with
  | call operation => cases stands <;> exact .inl rfl
  | run => exact run_enqueued list producer stands
  | exhausted => cases stands <;> exact .inl rfl

/-- Only from the start of `enqueue` does a thread get inside. -/
theorem react_appends {list : List ι} {producer : Producer ι α} {stands : Thread ι α}
    {event : Event α} (inside : (react thread list producer stands event).2.appends) :
    stands.appends ∨ (∃ element, stands = .enqueuing element) ∧ event = .run := by
  cases event with
  | call operation =>
    cases stands with
    | outside result => cases operation <;> exact inside.elim
    | _ => exact .inl inside
  | run => exact (run_appends inside).imp id fun starts => ⟨starts, rfl⟩
  | exhausted =>
    cases stands with
    | allocating => exact inside.elim
    | _ => exact .inl inside

omit [DecidableEq ι] in
/-- A thread inside `enqueue` is at its own producer. -/
theorem target_of_appends {stands : Thread ι α} (inside : stands.appends) :
    stands.target thread = thread := by
  cases stands <;> first | rfl | exact inside.elim

/-- Every step keeps the producers that have something in the list. -/
theorem step_listed (state : State ι α) (action : Action ι α) (kept : state.Listed) :
    (step state action).Listed := by
  obtain ⟨thread, event⟩ := action
  -- the producers that had something before the step are still in the list
  have before : ∀ owner, (state.producers owner).enqueued ≠ [] ∨ (state.threads owner).appends →
      owner ∈ (step state (thread, event)).producerListTail :=
    fun owner has => mem_listed (kept owner has) _ _
  rintro owner (filled | inside)
  · simp only [step] at filled
    by_cases here : owner = (state.threads thread).target thread
    · subst here
      rw [Function.update_self] at filled
      rcases react_enqueued state.producerListTail _ _ event with same | appends
      · rw [same] at filled
        exact before _ (.inl filled)
      · rw [target_of_appends appends]
        exact before thread (.inr appends)
    · rw [Function.update_of_ne here] at filled
      exact before owner (.inl filled)
  · simp only [step] at inside
    by_cases own : owner = thread
    · subst own
      rw [Function.update_self] at inside
      rcases react_appends inside with appends | ⟨⟨element, starts⟩, runs⟩
      · exact before owner (.inr appends)
      · subst runs
        simp only [step, starts]
        exact self_mem_listed _ element
    · rw [Function.update_of_ne own] at inside
      exact before owner (.inr inside)

omit [DecidableEq ι] in
/-- A queue is constructed with nothing in its producers. -/
theorem listed_initial : (initial : State ι α).Listed := by
  rintro owner (filled | inside)
  · exact absurd rfl filled
  · exact inside.elim

/-- In every run the producers that have something are in the list. -/
theorem listed_of_run (actions : List (Action ι α)) :
    (Transition.run step initial actions).Listed :=
  Transition.run_invariant step_listed listed_initial actions

variable [Fintype ι]

/-- From a sound queue at rest, an undisturbed `try_dequeue` returns the first element that waits
at some producer if there is one, and none if no element waits. -/
theorem Sound.dequeues_first {bound : Nat} (sound : Sound bound state)
    (small : bound < halfCircle) (present : state.Listed) (rest : state.AtRest) (thread : ι) :
    ∃ steps result,
      (Transition.run step state ((thread, .call .try_dequeue) :: alone thread steps)).threads
        thread = .outside (.dequeued result) ∧
      (result = none → ∀ owner, (state.producers owner).waiting = 0) ∧
      ∀ element, result = some element →
        ∃ owner, (state.producers owner).enqueued[(state.producers owner).claims.length]? =
          some element := by
  have calm : ∀ owner, (state.producers owner).Calm := sound.calm small rest
  obtain ⟨last, outside⟩ := rest thread
  have called : step state (thread, .call .try_dequeue) = state.standing thread .dequeuing := by
    simp only [step, State.standing, outside, react, Operation.start, listed, Thread.target,
      Function.update_eq_self]
  have scans : Transition.run step (state.standing thread .dequeuing) (alone thread 1) =
      state.standing thread (scan state.producerListTail 0 none 0) := step_reads rfl rfl
  have fresh : (0 > 0 ∨ (0 : UInt64) > 0) →
      ∃ owner, none = some owner ∧ 0 < (state.producers owner).waiting :=
    fun seen => by rcases seen with seen | seen <;> exact absurd seen (by decide)
  obtain ⟨steps, seen, chosen, leads, zero, found⟩ :=
    scan_alone thread calm state.producerListTail fresh
  have tries := alone_trans scans leads
  by_cases none : seen = 0
  · refine ⟨1 + steps, Option.none, ?_, fun _ owner => ?_, fun element some => by cases some⟩
    · rw [Transition.run_cons, called, tries, none]
      exact Function.update_self ..
    · by_contra waits
      have filled : (state.producers owner).enqueued ≠ [] := by
        intro empty
        rw [Producer.waiting, empty] at waits
        exact waits (Nat.zero_sub _)
      exact waits ((zero.mp none).2 owner (present owner (.inl filled)))
  · obtain ⟨owner, chose, waits⟩ := found (Nat.pos_of_ne_zero none)
    subst chose
    have tried : (tryBest seen (some owner) : Thread ι α) = .attempting ⟨owner, owner, .none⟩ := by
      rw [tryBest, if_pos (Nat.pos_of_ne_zero none)]
    rw [tried] at tries
    refine ⟨1 + steps + 7, _, ?_, ?_, fun element first => ⟨owner, first⟩⟩
    · rw [Transition.run_cons, called, alone_trans tries rfl]
      exact attempt_alone (calm owner) waits
    · intro beyond
      have inside := List.getElem?_eq_none_iff.mp beyond
      unfold Producer.waiting at waits
      omega

/-- In every interleaving shorter than half the circle, a `try_dequeue` that is called when no
thread is inside the queue, and that no other thread disturbs, returns the first element that
waits at some producer if there is one, and none if no element waits. -/
theorem try_dequeue_alone {actions : List (Action ι α)} (short : actions.length < halfCircle)
    (rest : (Transition.run step initial actions).AtRest) (thread : ι) :
    let state := Transition.run step initial actions
    ∃ steps result,
      (Transition.run step state ((thread, .call .try_dequeue) :: alone thread steps)).threads
        thread = .outside (.dequeued result) ∧
      (result = none → ∀ owner, (state.producers owner).waiting = 0) ∧
      ∀ element, result = some element →
        ∃ owner, (state.producers owner).enqueued[(state.producers owner).claims.length]? =
          some element :=
  (sound_of_run (Nat.le_of_lt short)).dequeues_first short (listed_of_run actions) rest thread

/-- After one element is enqueued, another thread tries to dequeue it. -/
theorem try_dequeue_alone_one :
    ∃ steps result,
      (Transition.run step (Transition.run step initial enqueuesOne)
        ((1, .call .try_dequeue) :: alone 1 steps)).threads 1 = .outside (.dequeued result) ∧
      (result = none → ∀ owner,
        ((Transition.run step initial enqueuesOne).producers owner).waiting = 0) ∧
      ∀ element, result = some element →
        ∃ owner, ((Transition.run step initial enqueuesOne).producers owner).enqueued[
          ((Transition.run step initial enqueuesOne).producers owner).claims.length]? =
            some element :=
  try_dequeue_alone (by decide) atRest_enqueuesOne 1

end ConcurrentQueue

end ApiPack2
