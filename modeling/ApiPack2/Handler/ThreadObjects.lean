import ApiPack2.Handler.Draining
import ApiPack2.Handler.Lifecycle

/-!
# The thread object and the run flag

What holds in every state of the life of a handler, whatever its owner calls: which thread
objects there are, and that a flag that was cleared under a running thread ends its loop.
-/

namespace ApiPack2

/-! ### The thread objects -/

/-- The last part of a list lies before its last element, or is it. -/
theorem sublist_concat_iff {α : Type} (parts whole : List α) (part last : α) :
    (parts ++ [part]).Sublist (whole ++ [last]) ↔
      (parts ++ [part]).Sublist whole ∨ part = last ∧ parts.Sublist whole := by
  have mirrored : (part :: parts.reverse).Sublist (last :: whole.reverse) ↔
      (part :: parts.reverse).Sublist whole.reverse ∨
        part = last ∧ parts.reverse.Sublist whole.reverse := by
    rw [List.sublist_cons_iff]
    apply or_congr_right
    constructor
    · rintro ⟨rest, same, inside⟩
      cases same
      exact ⟨rfl, inside⟩
    · rintro ⟨rfl, inside⟩
      exact ⟨_, rfl, inside⟩
  have turned : (parts ++ [part]).Sublist whole ↔
      (part :: parts.reverse).Sublist whole.reverse := by
    rw [← List.reverse_sublist, List.reverse_append, List.reverse_singleton,
      List.singleton_append]
  rw [turned, ← List.reverse_sublist, List.reverse_append, List.reverse_append,
    List.reverse_singleton, List.reverse_singleton, List.singleton_append, List.singleton_append,
    mirrored, List.reverse_sublist]

/-- The event changes which thread objects there are, or their state. -/
def ThreadEvent.onObject : ThreadEvent → Bool
  | .constructed _ | .joined _ | .deleted _ => true
  | .join _ | .nullDereference | .cleared | .iteration => false

namespace HandlerLife

/-- Other events leave the events on thread objects as they are. -/
theorem mem_append_other {event object : ThreadEvent} (other : event.onObject = false)
    (onObject : object.onObject = true) (events : List ThreadEvent) :
    object ∈ events ++ [event] ↔ object ∈ events := by
  have differ : object ≠ event := by
    rintro rfl
    rw [other] at onObject
    cases onObject
  simp [differ]

/-- Other events do not count as events on thread objects. -/
theorem count_append_other {event object : ThreadEvent} (other : event.onObject = false)
    (onObject : object.onObject = true) (events : List ThreadEvent) :
    (events ++ [event]).count object = events.count object := by
  have differ : event ≠ object := by
    rintro rfl
    rw [other] at onObject
    cases onObject
  rw [List.count_append, List.count_singleton, beq_eq_false_iff_ne.mpr differ]
  rfl

/-- The thread objects that there are, by the pointer to them. -/
inductive Tracked : ThreadPtr → OwnerPoint → List ThreadEvent → Prop where
  | unstarted {owner : OwnerPoint} {events : List ThreadEvent}
      (free : owner = .idle ∨ owner = .crashed)
      (none : ∀ event ∈ events, event.onObject = false) : Tracked .null owner events
  | running {thread : Nat} {owner : OwnerPoint} {events : List ThreadEvent}
      (alive : owner ≠ .destroyed)
      (only : ∀ other, .constructed other ∈ events ↔ other = thread)
      (unjoined : .joined thread ∉ events) (kept : .deleted thread ∉ events) :
      Tracked (.running thread) owner events
  | joined {thread : Nat} {owner : OwnerPoint} {events : List ThreadEvent}
      (free : owner = .idle ∨ owner = .destroyed)
      (made : .constructed thread ∈ events) (kept : .deleted thread ∉ events) :
      Tracked (.joined thread) owner events
  | released {events : List ThreadEvent}
      (each : ∀ thread, .constructed thread ∈ events →
        events.count (.joined thread) = 1 ∧ events.count (.deleted thread) = 1) :
      Tracked .null .destroyed events

namespace Tracked

variable {mThread : ThreadPtr} {owner : OwnerPoint} {events : List ThreadEvent} {thread : Nat}

/-- Other events change nothing. -/
theorem append_other (tracked : Tracked mThread owner events) {event : ThreadEvent}
    (other : event.onObject = false) : Tracked mThread owner (events ++ [event]) := by
  have same (object : ThreadEvent) (onObject : object.onObject = true) :
      object ∈ events ++ [event] ↔ object ∈ events := mem_append_other other onObject events
  cases tracked with
  | unstarted free none =>
    refine .unstarted free fun earlier member => ?_
    rcases List.mem_append.mp member with old | new
    · exact none earlier old
    · rw [List.mem_singleton.mp new]
      exact other
  | @running thread _ _ alive only unjoined kept =>
    exact .running alive (fun other => by rw [same _ rfl]; exact only other)
      (by rw [same _ rfl]; exact unjoined) (by rw [same _ rfl]; exact kept)
  | @joined thread _ _ free made kept =>
    exact .joined free (by rw [same _ rfl]; exact made) (by rw [same _ rfl]; exact kept)
  | released each =>
    refine .released fun thread made => ?_
    rw [count_append_other other rfl, count_append_other other rfl]
    exact each thread ((same _ rfl).mp made)

/-- The owner of a running thread may be anywhere but past the destructor. -/
theorem move (tracked : Tracked (.running thread) owner events) {point : OwnerPoint}
    (alive : point ≠ .destroyed) : Tracked (.running thread) point events := by
  cases tracked with
  | running _ only unjoined kept => exact .running alive only unjoined kept

/-- Without a pointer an idle owner has made no thread object. -/
theorem untouched (tracked : Tracked .null .idle events) :
    ∀ event ∈ events, event.onObject = false := by
  cases tracked with
  | unstarted _ none => exact none

end Tracked

variable {κ : Type} {life : HandlerLife κ}

/-- `start` constructs the first thread object. -/
theorem start_tracked (tracked : Tracked life.mThread life.owner life.events)
    (idle : life.owner = .idle) :
    Tracked life.start.mThread life.start.owner life.start.events := by
  rw [start]
  split
  · rename_i null
    rw [null, idle] at tracked
    have absent (object : ThreadEvent) (onObject : object.onObject = true) :
        object ∉ life.events := fun member => by
      rw [tracked.untouched object member] at onObject
      cases onObject
    refine .running (by rw [idle]; decide) (fun other => ?_) ?_ ?_
    · have fresh := absent (.constructed other) rfl
      simp [fresh]
    · have fresh := absent (.joined life.threads) rfl
      simp [fresh]
    · have fresh := absent (.deleted life.threads) rfl
      simp [fresh]
  · exact tracked

/-- `stop` leaves the thread objects as they are. -/
theorem stop_tracked (tracked : Tracked life.mThread life.owner life.events) :
    Tracked life.stop.mThread life.stop.owner life.stop.events := tracked.append_other rfl

/-- `join` leaves the thread objects as they are. -/
theorem join_tracked (tracked : Tracked life.mThread life.owner life.events)
    (idle : life.owner = .idle) {point : OwnerPoint} (alive : point ≠ .destroyed) :
    Tracked (life.join point).mThread (life.join point).owner (life.join point).events := by
  have after (event : ThreadEvent) (other : event.onObject = false) :=
    tracked.append_other other
  cases pointer : life.mThread with
  | null =>
    simp only [pointer, idle, join] at after ⊢
    cases after .nullDereference rfl with
    | unstarted _ none => exact .unstarted (.inr rfl) none
  | running thread =>
    simp only [pointer, join] at after ⊢
    exact (after (.join thread) rfl).move alive
  | joined thread =>
    simp only [pointer, join] at after ⊢
    exact after (.join thread) rfl

/-- The destructor leaves no thread object but one that has been joined before. -/
theorem destroy_tracked (tracked : Tracked life.mThread life.owner life.events)
    (idle : life.owner = .idle) :
    Tracked life.destroy.mThread life.destroy.owner life.destroy.events := by
  rw [destroy]
  cases pointer : life.mThread with
  | null =>
    simp only [pointer, idle] at tracked ⊢
    refine .released fun thread made => ?_
    have onObject := tracked.untouched _ made
    cases onObject
  | running thread => exact join_tracked (stop_tracked tracked) idle (by decide)
  | joined thread =>
    simp only [pointer, idle] at tracked ⊢
    cases tracked with
    | joined _ made kept => exact .joined (.inr rfl) made kept

/-- A thread that has been joined has not been deleted, unless the destructor has. -/
theorem joinReturns_tracked (tracked : Tracked life.mThread life.owner life.events) :
    Tracked life.joinReturns.mThread life.joinReturns.owner life.joinReturns.events := by
  rw [joinReturns]
  split
  · rename_i thread waiting pointer
    rw [pointer] at tracked
    cases tracked with
    | running alive only unjoined kept =>
      exact .joined (.inl rfl) (by simp [only]) (by simp [kept])
  · rename_i thread destroying pointer
    rw [pointer] at tracked
    cases tracked with
    | running alive only unjoined kept =>
      refine .released fun other made => ?_
      have first : other = thread := by simpa [only] using made
      have joins := List.count_eq_zero.mpr unjoined
      have deletes := List.count_eq_zero.mpr kept
      rw [first]
      constructor
      · rw [List.count_append, joins]
        simp
      · rw [List.count_append, deletes]
        simp
  · exact tracked

/-! ### The run flag -/

/-- Once the flag of a thread has been cleared, the loop ends at its next test. -/
structure Halting (life : HandlerLife κ) : Prop where
  /-- The flag stays clear until the loop has ended. -/
  halted : ∀ thread, [.constructed thread, .cleared].Sublist life.events →
    life.handler.mIsRunning = false ∨ life.handler.point = .stopped
  /-- No iteration starts. -/
  halts : ∀ thread, ¬[.constructed thread, .cleared, .iteration].Sublist life.events

/-- Events other than the start of an iteration start none. -/
theorem Halting.append (halting : Halting life) {event : ThreadEvent}
    (other : event ≠ .iteration) (thread : Nat) :
    ¬[.constructed thread, .cleared, .iteration].Sublist (life.events ++ [event]) := by
  intro inside
  rcases (sublist_concat_iff [_, _] _ _ _).mp inside with old | new
  · exact halting.halts thread old
  · exact other new.1.symm

/-- `start` sets the flag for the first thread object only. -/
theorem start_halting (tracked : Tracked life.mThread life.owner life.events)
    (idle : life.owner = .idle) (halting : Halting life) : Halting life.start := by
  rw [start]
  split
  · rename_i null
    rw [null, idle] at tracked
    constructor
    · intro thread inside
      rcases (sublist_concat_iff [_] _ _ _).mp inside with old | new
      · have made : ThreadEvent.constructed thread ∈ life.events :=
          old.subset List.mem_cons_self
        have onObject := tracked.untouched _ made
        cases onObject
      · cases new.1
    · exact halting.append (by simp)
  · exact halting

/-- `stop` clears the flag. -/
theorem stop_halting (halting : Halting life) : Halting life.stop :=
  ⟨fun _ _ => .inl rfl, halting.append (by simp)⟩

/-- Events but the clearing of the flag and the iterations leave the flag alone. -/
theorem Halting.of_same (halting : Halting life) {after : HandlerLife κ}
    (handler : after.handler = life.handler) {event : ThreadEvent}
    (events : after.events = life.events ++ [event])
    (other : event ≠ .cleared ∧ event ≠ .iteration) : Halting after := by
  constructor
  · intro thread inside
    rw [events] at inside
    rw [handler]
    rcases (sublist_concat_iff [_] _ _ _).mp inside with old | new
    · exact halting.halted thread old
    · exact absurd new.1.symm other.1
  · rw [events]
    exact halting.append other.2

/-- `join` leaves the flag alone. -/
theorem join_halting (halting : Halting life) (point : OwnerPoint) :
    Halting (life.join point) := by
  rw [join]
  split
  · exact halting.of_same rfl rfl (by simp)
  · exact halting.of_same rfl rfl (by simp)
  · exact halting.of_same rfl rfl (by simp)

/-- The destructor clears the flag of a thread that runs. -/
theorem destroy_halting (halting : Halting life) : Halting life.destroy := by
  rw [destroy]
  split
  · exact join_halting (stop_halting halting) .destroying
  · exact ⟨halting.halted, halting.halts⟩
  · exact ⟨halting.halted, halting.halts⟩

/-- The end of a `join` leaves the flag alone. -/
theorem joinReturns_halting (halting : Halting life) : Halting life.joinReturns := by
  rw [joinReturns]
  split
  · exact halting.of_same rfl rfl (by simp)
  · rename_i thread _ _
    have joined : Halting { life with events := life.events ++ [.joined thread] } :=
      halting.of_same rfl rfl (by simp)
    exact joined.of_same rfl (List.append_cons ..) (by simp)
  · exact halting

variable [DecidableEq κ]

/-- The loop records its iterations. -/
theorem loop_events (life : HandlerLife κ) (timedOut : Bool) :
    (life.loop timedOut).events =
      if life.handler.point = .test ∧ life.handler.mIsRunning = true then
        life.events ++ [.iteration]
      else life.events := rfl

/-- The loop leaves the thread objects as they are. -/
theorem loop_tracked (tracked : Tracked life.mThread life.owner life.events) (timedOut : Bool) :
    Tracked (life.loop timedOut).mThread (life.loop timedOut).owner
      (life.loop timedOut).events := by
  rw [loop_events]
  split
  · exact tracked.append_other rfl
  · exact tracked

/-- Every step keeps track of the thread objects. -/
theorem step_tracked (life : HandlerLife κ) (action : LifeAction κ)
    (tracked : Tracked life.mThread life.owner life.events) (enabled : life.Enabled action) :
    Tracked (life.step action).mThread (life.step action).owner (life.step action).events := by
  cases action with
  | call call =>
    cases call with
    | start => exact start_tracked tracked enabled
    | stop => exact stop_tracked tracked
    | stopAndWait => exact join_tracked (stop_tracked tracked) enabled (by decide)
    | destroy => exact destroy_tracked tracked enabled
  | joinReturns => exact joinReturns_tracked tracked
  | loop timedOut => exact loop_tracked tracked timedOut
  | share _ | post _ => exact tracked

open LogicHandler in
/-- A stretch of the loop does not set a flag that is clear, unless it ends the loop. -/
theorem executorStep_halted {handler : LogicHandler κ}
    (halted : handler.mIsRunning = false ∨ handler.point = .stopped)
    (queue : List (LogicHandlerRequest κ)) (timedOut : Bool) :
    (handler.executorStep queue timedOut).1.mIsRunning = false ∨
      (handler.executorStep queue timedOut).1.point = .stopped := by
  cases point : handler.point with
  | stopped =>
    right
    simp [executorStep, point]
  | test =>
    have clear : handler.mIsRunning = false := by simpa [point] using halted
    right
    simp [executorStep, point, clear]
  | accept =>
    have clear : handler.mIsRunning = false := by simpa [point] using halted
    left
    simp only [executorStep, point]
    split
    · split <;> exact clear
    · exact clear
  | insert request =>
    have clear : handler.mIsRunning = false := by simpa [point] using halted
    obtain ⟨mRequestMap, same⟩ := handler.insertRequest_same request
    left
    simp only [executorStep, point, same]
    exact clear
  | drain =>
    have clear : handler.mIsRunning = false := by simpa [point] using halted
    left
    cases queued : handler.mResponseQueue with
    | nil =>
      simp only [executorStep, point, queued]
      exact clear
    | cons response responses =>
      obtain ⟨_, _, same⟩ :=
        applyResponse_same { handler with mResponseQueue := responses } response
      rw [executorStep_response point queued, same]
      exact clear

/-- A loop whose flag has been cleared starts no iteration. -/
theorem loop_halting (halting : Halting life) (timedOut : Bool) :
    Halting (life.loop timedOut) := by
  have before (thread : Nat)
      (inside : [.constructed thread, .cleared].Sublist (life.loop timedOut).events) :
      [.constructed thread, .cleared].Sublist life.events := by
    rw [loop_events] at inside
    split at inside
    · rcases (sublist_concat_iff [_] _ _ _).mp inside with old | new
      · exact old
      · cases new.1
    · exact inside
  constructor
  · intro thread inside
    exact executorStep_halted (halting.halted thread (before thread inside)) _ timedOut
  · intro thread inside
    rw [loop_events] at inside
    split at inside
    · rename_i starts
      rcases (sublist_concat_iff [_, _] _ _ _).mp inside with old | new
      · exact halting.halts thread old
      · -- the iteration that starts found the flag set
        rcases halting.halted thread new.2 with clear | stopped
        · rw [clear] at starts
          cases starts.2
        · rw [stopped] at starts
          cases starts.1
    · exact halting.halts thread inside

/-- Every step keeps a cleared flag from starting iterations. -/
theorem step_halting (life : HandlerLife κ) (action : LifeAction κ)
    (tracked : Tracked life.mThread life.owner life.events) (halting : Halting life)
    (enabled : life.Enabled action) : Halting (life.step action) := by
  cases action with
  | call call =>
    cases call with
    | start => exact start_halting tracked enabled halting
    | stop => exact stop_halting halting
    | stopAndWait => exact join_halting (stop_halting halting) .waiting
    | destroy => exact destroy_halting halting
  | joinReturns => exact joinReturns_halting halting
  | loop timedOut => exact loop_halting halting timedOut
  | share _ | post _ => exact ⟨halting.halted, halting.halts⟩

end HandlerLife

end ApiPack2
