import ApiPack2.Handler.ThreadObjects
import ApiPack2.Lib.Transition

/-!
# Stopping the thread

The destructor joins and deletes a thread that can be joined. `stopAndWait` joins the thread
without deleting it or looking for one, so that a life is sound exactly if its owner never
calls it.
-/

namespace ApiPack2.HandlerLife

variable {κ : Type} {life : HandlerLife κ}

/-! ### The calls of the owner -/

/-- Every call has found the thread as it expects it, and no call of `stopAndWait` waits or has
returned. -/
structure Clean (life : HandlerLife κ) : Prop where
  /-- `mThread` has not been dereferenced when null. -/
  dereferences : .nullDereference ∉ life.events
  /-- No thread has been joined again. -/
  joins : ∀ thread, ¬[.joined thread, .join thread].Sublist life.events
  /-- The owner does not wait. -/
  waits : life.owner ≠ .waiting
  /-- The thread has not been joined. -/
  unjoined : ∀ thread, life.mThread ≠ .joined thread

/-- One more event that dereferences no null pointer and joins no joined thread. -/
theorem Clean.append (clean : Clean life) {after : HandlerLife κ} {event : ThreadEvent}
    (events : after.events = life.events ++ [event]) (valid : event ≠ .nullDereference)
    (first : ∀ thread, event = .join thread → .joined thread ∉ life.events)
    (waits : after.owner ≠ .waiting) (unjoined : ∀ thread, after.mThread ≠ .joined thread) :
    Clean after := by
  have dereferences : .nullDereference ∉ after.events := by
    rw [events]
    simp [clean.dereferences, valid.symm]
  have joins (thread : Nat) : ¬[.joined thread, .join thread].Sublist after.events := by
    intro inside
    rw [events] at inside
    rcases (sublist_concat_iff [_] _ _ _).mp inside with old | new
    · exact clean.joins thread old
    · exact first thread new.1.symm (List.singleton_sublist.mp new.2)
  exact ⟨dereferences, joins, waits, unjoined⟩

/-- `start` waits for nothing. -/
theorem start_clean (clean : Clean life) : Clean life.start := by
  rw [start]
  split
  · exact clean.append rfl (by simp) (by simp) clean.waits (by simp)
  · exact clean

/-- `stop` waits for nothing. -/
theorem stop_clean (clean : Clean life) : Clean life.stop :=
  clean.append rfl (by simp) (by simp) clean.waits clean.unjoined

/-- The destructor joins a thread that has not been joined. -/
theorem destroy_clean (tracked : Tracked life.mThread life.owner life.events)
    (clean : Clean life) : Clean life.destroy := by
  rw [destroy]
  split
  · rename_i thread pointer
    rw [pointer] at tracked
    cases tracked with
    | running alive only unjoined kept =>
      have joins : life.stop.join .destroying =
          { life.stop with
            owner := .destroying
            events := life.stop.events ++ [.join thread] } := by
        simp [join, stop, pointer]
      rw [joins]
      refine (stop_clean clean).append rfl (by simp) (fun other same => ?_) (by simp)
        clean.unjoined
      cases same
      rw [stop, mem_append_other rfl rfl]
      exact unjoined
  · exact ⟨clean.dereferences, clean.joins, by simp, clean.unjoined⟩
  · exact ⟨clean.dereferences, clean.joins, by simp, clean.unjoined⟩

/-- The destructor deletes the thread that it has joined. -/
theorem joinReturns_clean (clean : Clean life) : Clean life.joinReturns := by
  rw [joinReturns]
  split
  · rename_i waiting _
    exact absurd waiting clean.waits
  · rename_i thread _ _
    have joined : Clean { life with events := life.events ++ [.joined thread] } :=
      clean.append rfl (by simp) (by simp) clean.waits clean.unjoined
    exact joined.append (List.append_cons ..) (by simp) (by simp) (by simp) (by simp)
  · exact clean

/-- `stopAndWait` has dereferenced a null pointer, is in its `join`, or has joined the thread. -/
def Ruined (life : HandlerLife κ) : Prop :=
  .nullDereference ∈ life.events ∨
    (∃ thread, life.mThread = .running thread ∧ life.owner = .waiting) ∨
    ∃ thread, life.mThread = .joined thread

/-- After a call of `stopAndWait`. -/
theorem stopAndWait_ruined (life : HandlerLife κ) : Ruined life.stopAndWait := by
  cases pointer : life.mThread with
  | null => exact .inl (by simp [stopAndWait, join, stop, pointer])
  | running thread => exact .inr (.inl ⟨thread, by simp [stopAndWait, join, stop, pointer]⟩)
  | joined thread => exact .inr (.inr ⟨thread, by simp [stopAndWait, join, stop, pointer]⟩)

/-- `join` adds its events. -/
theorem join_events (life : HandlerLife κ) (point : OwnerPoint) :
    life.events <+: (life.join point).events := by
  rw [join]
  split <;> exact List.prefix_append ..

/-! ### What the destructor finds -/

/-- What holds of the thread objects and the flag in every state reached. -/
structure Reached (life : HandlerLife κ) : Prop where
  /-- The thread objects. -/
  tracked : Tracked life.mThread life.owner life.events
  /-- The run flag. -/
  halting : Halting life

/-- A new handler has no thread. -/
theorem new_reached (queue : Option RequestQueuePtr) (requests : List (LogicHandlerRequest κ)) :
    Reached (new queue requests) := by
  constructor
  · exact .unstarted (.inl rfl) (by simp [new])
  · constructor
    · intro thread inside
      cases inside
    · intro thread inside
      cases inside

/-- The destructor does not make up for `stopAndWait`. -/
theorem not_sound_of_ruined (reached : Reached life) (ruined : Ruined life)
    (finished : life.Finished) : ¬Sound life := by
  intro sound
  have tracked := reached.tracked
  rcases ruined with null | ⟨thread, -, waiting⟩ | ⟨thread, pointer⟩
  · exact sound.dereferences null
  · rcases finished with owner | owner <;> rw [waiting] at owner <;> cases owner
  · rw [pointer] at tracked
    cases tracked with
    | joined free made kept =>
      have destroyed : life.owner = .destroyed := by
        rcases finished with owner | owner
        · exact owner
        · rcases free with idle | destroyed
          · rw [idle] at owner
            cases owner
          · exact destroyed
      have deletes := (sound.released destroyed thread made).2
      rw [List.count_eq_zero.mpr kept] at deletes
      cases deletes

/-- A life in which every call finds the thread as it expects it is sound. -/
theorem Clean.sound (clean : Clean life) (reached : Reached life) : Sound life := by
  refine ⟨clean.dereferences, clean.joins, fun destroyed => ?_, reached.halting.halts⟩
  have tracked := reached.tracked
  rw [destroyed] at tracked
  cases pointer : life.mThread with
  | null =>
    rw [pointer] at tracked
    cases tracked with
    | unstarted free =>
      rcases free with idle | crashed
      · cases idle
      · cases crashed
    | released each => exact each
  | running thread =>
    rw [pointer] at tracked
    cases tracked with
    | running alive => exact absurd rfl alive
  | joined thread => exact absurd pointer (clean.unjoined thread)

/-- While the owner is in a `join`, the flag is clear or the loop has ended. -/
def Leaving (life : HandlerLife κ) : Prop :=
  life.owner = .waiting ∨ life.owner = .destroying →
    life.handler.mIsRunning = false ∨ life.handler.point = .stopped

/-- An owner that is in no `join` waits for no flag. -/
theorem leaving_of_owner (free : life.owner ≠ .waiting ∧ life.owner ≠ .destroying) :
    Leaving life := by
  rintro (waiting | destroying)
  · exact absurd waiting free.1
  · exact absurd destroying free.2

/-- `join` leaves a clear flag clear. -/
theorem join_leaving (clear : life.handler.mIsRunning = false) (point : OwnerPoint) :
    Leaving (life.join point) := by
  intro _
  left
  rw [join]
  split <;> exact clear

variable [DecidableEq κ]

/-! ### Whole lives -/

/-- The loop neither joins nor dereferences the thread. -/
theorem loop_clean (clean : Clean life) (timedOut : Bool) : Clean (life.loop timedOut) := by
  have waits : (life.loop timedOut).owner ≠ .waiting := clean.waits
  have unjoined (thread : Nat) : (life.loop timedOut).mThread ≠ .joined thread :=
    clean.unjoined thread
  by_cases starts : life.handler.point = .test ∧ life.handler.mIsRunning = true
  · have events : (life.loop timedOut).events = life.events ++ [.iteration] := if_pos starts
    exact clean.append events (by simp) (by simp) waits unjoined
  · have events : (life.loop timedOut).events = life.events := if_neg starts
    exact ⟨events ▸ clean.dereferences, events ▸ clean.joins, waits, unjoined⟩

/-- A step other than a call of `stopAndWait` finds the thread as it expects it. -/
theorem step_clean (life : HandlerLife κ) (action : LifeAction κ)
    (tracked : Tracked life.mThread life.owner life.events) (clean : Clean life)
    (other : action ≠ .call .stopAndWait) : Clean (life.step action) := by
  cases action with
  | call call =>
    cases call with
    | start => exact start_clean clean
    | stop => exact stop_clean clean
    | stopAndWait => exact absurd rfl other
    | destroy => exact destroy_clean tracked clean
  | joinReturns => exact joinReturns_clean clean
  | loop timedOut => exact loop_clean clean timedOut
  | share _ | post _ => exact ⟨clean.dereferences, clean.joins, clean.waits, clean.unjoined⟩

/-- Every step adds its events. -/
theorem step_events (life : HandlerLife κ) (action : LifeAction κ) :
    life.events <+: (life.step action).events := by
  have stopped : life.events <+: life.stop.events := List.prefix_append ..
  cases action with
  | call call =>
    cases call with
    | start =>
      simp only [step, call, start]
      split
      · exact List.prefix_append ..
      · exact List.prefix_refl _
    | stop => exact stopped
    | stopAndWait => exact stopped.trans (join_events life.stop .waiting)
    | destroy =>
      simp only [step, call, destroy]
      split
      · exact stopped.trans (join_events life.stop .destroying)
      · exact List.prefix_refl _
      · exact List.prefix_refl _
  | joinReturns =>
    simp only [step, joinReturns]
    split
    · exact List.prefix_append ..
    · exact List.prefix_append ..
    · exact List.prefix_refl _
  | loop timedOut =>
    rw [step, loop_events]
    split
    · exact List.prefix_append ..
    · exact List.prefix_refl _
  | share _ | post _ => exact List.prefix_refl _

/-- What `stopAndWait` has done is not undone. -/
theorem step_ruined (life : HandlerLife κ) (action : LifeAction κ) (ruined : Ruined life)
    (enabled : life.Enabled action) : Ruined (life.step action) := by
  rcases ruined with null | ⟨thread, pointer, waiting⟩ | ⟨thread, pointer⟩
  · exact .inl ((step_events life action).subset null)
  · cases action with
    | call call =>
      rw [Enabled, waiting] at enabled
      cases enabled
    | joinReturns => exact .inr (.inr ⟨thread, by simp [step, joinReturns, pointer, waiting]⟩)
    | loop _ | share _ | post _ => exact .inr (.inl ⟨thread, pointer, waiting⟩)
  · right; right
    refine ⟨thread, ?_⟩
    cases action with
    | call call => cases call <;> simp [step, call, start, stop, stopAndWait, destroy, join, pointer]
    | joinReturns => simp [step, joinReturns, pointer]
    | loop _ | share _ | post _ => exact pointer

/-- Every step keeps track of the thread objects and the flag. -/
theorem step_reached (life : HandlerLife κ) (action : LifeAction κ) (reached : Reached life)
    (enabled : life.Enabled action) : Reached (life.step action) :=
  ⟨step_tracked life action reached.tracked enabled,
    step_halting life action reached.tracked reached.halting enabled⟩

/-- Every run keeps track of the thread objects and the flag. -/
theorem run_reached {actions : List (LifeAction κ)} (reached : Reached life)
    (enabled : Transition.Steps step Enabled life actions) :
    Reached (Transition.run step life actions) :=
  (Transition.along_of_steps step_reached reached enabled).last

/-- A run without `stopAndWait` finds the thread as each call expects it. -/
theorem run_clean {actions : List (LifeAction κ)} (reached : Reached life) (clean : Clean life)
    (enabled : Transition.Steps step Enabled life actions)
    (without : .call .stopAndWait ∉ actions) : Clean (Transition.run step life actions) := by
  induction actions generalizing life with
  | nil => exact clean
  | cons action actions ih =>
    have other : action ≠ .call .stopAndWait := fun same => without (same ▸ List.mem_cons_self)
    exact ih (step_reached life action reached enabled.1)
      (step_clean life action reached.tracked clean other) enabled.2
      fun later => without (List.mem_cons_of_mem _ later)

/-- A run keeps what `stopAndWait` has done. -/
theorem run_ruined {actions : List (LifeAction κ)} (ruined : Ruined life)
    (enabled : Transition.Steps step Enabled life actions) :
    Ruined (Transition.run step life actions) :=
  (Transition.along_of_steps step_ruined ruined enabled).last

/-- For all calls of the owner, in any order, and whatever the loop and the other threads do in
between: without a call of `stopAndWait` the life of a handler is sound, and once the owner is
done it is sound exactly if there was none. -/
theorem sound_iff_no_stopAndWait (queue : Option RequestQueuePtr)
    (requests : List (LogicHandlerRequest κ)) {actions : List (LifeAction κ)}
    (enabled : Transition.Steps step Enabled (new queue requests) actions) :
    (.call .stopAndWait ∉ actions → Sound (Transition.run step (new queue requests) actions)) ∧
      ((Transition.run step (new queue requests) actions).Finished →
        (Sound (Transition.run step (new queue requests) actions) ↔
          .call .stopAndWait ∉ actions)) := by
  have initial := new_reached queue requests
  have reached := run_reached initial enabled
  have without_sound (without : .call .stopAndWait ∉ actions) :
      Sound (Transition.run step (new queue requests) actions) := by
    have clean : Clean (new queue requests) :=
      ⟨by simp [new], fun thread inside => (by cases inside), by simp [new], by simp [new]⟩
    exact (run_clean initial clean enabled without).sound reached
  constructor
  · exact without_sound
  · intro finished
    constructor
    · intro sound called
      obtain ⟨before, after, rfl⟩ := List.append_of_mem called
      rw [Transition.run_append, Transition.run_cons] at finished sound reached
      have tail := ((Transition.steps_append _ _ _).mp enabled).2.2
      have ruined := run_ruined (stopAndWait_ruined _) tail
      exact not_sound_of_ruined reached ruined finished sound
    · exact without_sound

/-- A handler that is stopped twice, once before it is started, runs one iteration and is
destroyed. -/
def stoppedTwice : List (LifeAction Nat) :=
  [.call .stop, .call .start, .loop false, .call .stop, .call .destroy, .loop true, .loop true,
    .loop true, .joinReturns]

/-- The life of the handler that is stopped twice is sound. -/
theorem sound_iff_no_stopAndWait_stoppedTwice :
    Sound (Transition.run step (new (some .requests) []) stoppedTwice) :=
  (sound_iff_no_stopAndWait (some .requests) [] (by decide)).1 (by decide)

/-- A handler that is started, stopped with `stopAndWait` and destroyed. -/
def waitedFor : List (LifeAction Nat) :=
  [.call .start, .call .stopAndWait, .loop true, .joinReturns, .call .destroy]

/-- The thread of the handler that is stopped with `stopAndWait` is not deleted. -/
theorem waitedFor_leaks :
    Transition.Steps step Enabled (new (some .requests) []) waitedFor ∧
      (Transition.run step (new (some .requests) []) waitedFor).Finished ∧
      ¬Sound (Transition.run step (new (some .requests) []) waitedFor) := by
  refine ⟨by decide, .inl rfl, fun sound => ?_⟩
  have deletes := (sound.released rfl 0 (by decide)).2
  exact absurd deletes (by decide)

/-! ### The end of a `join` -/

/-- Every step keeps the flag clear while the owner is in a `join`. -/
theorem step_leaving (life : HandlerLife κ) (action : LifeAction κ) (leaving : Leaving life)
    (enabled : life.Enabled action) : Leaving (life.step action) := by
  cases action with
  | call call =>
    have idle : life.owner = .idle := enabled
    cases call with
    | start =>
      have owner : life.start.owner = .idle := by
        rw [start]
        split <;> exact idle
      exact leaving_of_owner (by simp [step, HandlerLife.call, owner])
    | stop => exact fun _ => .inl rfl
    | stopAndWait => exact join_leaving rfl .waiting
    | destroy =>
      simp only [step, HandlerLife.call, destroy]
      split
      · exact join_leaving rfl .destroying
      · exact leaving_of_owner (by simp)
      · exact leaving_of_owner (by simp)
  | joinReturns =>
    simp only [step, joinReturns]
    split
    · exact leaving_of_owner (by simp)
    · exact leaving_of_owner (by simp)
    · exact leaving
  | loop timedOut =>
    exact fun busy => executorStep_halted (leaving busy) life.requestQueue timedOut
  | share _ | post _ => exact leaving

/-- Stretches of the loop alone do to the handler and the shared queue what they do there. -/
theorem run_loop (life : HandlerLife κ) (timedOut : Bool) (stretches : Nat) :
    let after := Transition.run step life (List.replicate stretches (.loop timedOut))
    (after.handler, after.requestQueue) =
      Transition.run LogicHandler.alone (life.handler, life.requestQueue)
        (List.replicate stretches timedOut) := by
  induction stretches generalizing life with
  | zero => rfl
  | succ stretches ih =>
    rw [List.replicate_succ, List.replicate_succ, Transition.run_cons, Transition.run_cons]
    exact ih (life.loop timedOut)

/-- Stretches of the loop leave the owner where it is. -/
theorem run_loop_owner (life : HandlerLife κ) (timedOut : Bool) (stretches : Nat) :
    (Transition.run step life (List.replicate stretches (.loop timedOut))).owner = life.owner := by
  induction stretches generalizing life with
  | zero => rfl
  | succ stretches ih =>
    rw [List.replicate_succ, Transition.run_cons]
    exact ih (life.loop timedOut)

open LogicHandler in
/-- A loop that drains the responses with a clear flag ends. -/
theorem drain_ends {handler : LogicHandler κ} (point : handler.point = .drain)
    (clear : handler.mIsRunning = false) (queue : List (LogicHandlerRequest κ)) :
    ∃ stretches, (Transition.run alone (handler, queue)
      (List.replicate stretches true)).1.point = .stopped := by
  have drained := drain_run handler.mResponseQueue handler queue true point rfl
  obtain ⟨_, _, same⟩ := drainResponses_same handler
  refine ⟨handler.mResponseQueue.length + 1 + 1, ?_⟩
  rw [List.replicate_add, Transition.run_append, drained, same]
  simp [alone, executorStep, clear]

open LogicHandler in
/-- A loop whose flag is clear ends. -/
theorem loop_ends {handler : LogicHandler κ}
    (halted : handler.mIsRunning = false ∨ handler.point = .stopped)
    (queue : List (LogicHandlerRequest κ)) :
    ∃ stretches, (Transition.run alone (handler, queue)
      (List.replicate stretches true)).1.point = .stopped := by
  by_cases stopped : handler.point = .stopped
  · exact ⟨0, stopped⟩
  · have clear : handler.mIsRunning = false := halted.resolve_right stopped
    -- after the first stretch the loop is at the drain, at its test, or has ended
    have first (after : LogicHandler κ × List (LogicHandlerRequest κ))
        (taken : alone (handler, queue) true = after)
        (later : ∃ stretches, (Transition.run alone after
          (List.replicate stretches true)).1.point = .stopped) :
        ∃ stretches, (Transition.run alone (handler, queue)
          (List.replicate stretches true)).1.point = .stopped := by
      obtain ⟨stretches, ends⟩ := later
      refine ⟨stretches + 1, ?_⟩
      rw [List.replicate_succ, Transition.run_cons, taken]
      exact ends
    cases point : handler.point with
    | stopped => exact absurd point stopped
    | test => exact ⟨1, by simp [alone, executorStep, point, clear]⟩
    | accept =>
      by_cases room : handler.mRequestMap.size < handler.mMaxRequest
      · have drains := @drain_ends κ _ { handler with point := .drain } rfl clear queue
        refine first ({ handler with point := .drain }, queue) ?_ drains
        simp [alone, executorStep, point, room]
      · exact ⟨2, by simp [alone, executorStep, point, room, clear]⟩
    | insert request =>
      obtain ⟨mRequestMap, same⟩ := handler.insertRequest_same request
      refine first ({ handler.insertRequest request with point := .drain }, queue) ?_
        (drain_ends rfl (by rw [same]; exact clear) queue)
      simp [alone, executorStep, point]
    | drain => exact drain_ends point clear queue

/-- Wherever the owner is in a `join`, the loop comes to its end by itself, and `join` can
return. -/
theorem join_can_return (queue : Option RequestQueuePtr)
    (requests : List (LogicHandlerRequest κ)) {actions : List (LifeAction κ)}
    (enabled : Transition.Steps step Enabled (new queue requests) actions)
    (busy : (Transition.run step (new queue requests) actions).owner = .waiting ∨
      (Transition.run step (new queue requests) actions).owner = .destroying) :
    ∃ stretches, (Transition.run step (Transition.run step (new queue requests) actions)
      (List.replicate stretches (.loop true))).Enabled .joinReturns := by
  have initial : Leaving (new queue requests) := leaving_of_owner (by simp [new])
  have leaving := (Transition.along_of_steps step_leaving initial enabled).last
  generalize Transition.run step (new queue requests) actions = life at busy leaving ⊢
  obtain ⟨stretches, ends⟩ := loop_ends (leaving busy) life.requestQueue
  refine ⟨stretches, ?_, ?_⟩
  · rwa [run_loop_owner]
  · rw [← run_loop] at ends
    exact ends

end ApiPack2.HandlerLife
