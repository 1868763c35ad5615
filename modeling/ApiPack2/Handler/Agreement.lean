import ApiPack2.Handler.Custody

/-!
# Agreement on the status of requests

The status of a request is kept twice, in its IO handler and in the map of the logic handler
that owns it, and notifications on the response queue are to keep both in step. The program
never calls `setResponseQueue`, so no notification is sent: an entry keeps the status it was
inserted with. The module follows the runs of the program as it is written, in which no other
message arrives on a response queue either.
-/

namespace ApiPack2

/-- The status a callback sets. -/
def Callback.code : Callback → Option ResponseCode
  | .onEOM => none
  | .onEgressPaused => some .paused
  | .onEgressResumed => some .ready
  | .onError => some .error
  | .requestComplete => some .terminated

/-- The last callback that set a status. -/
def lastStatusCallback (callbacks : List Callback) : Option Callback :=
  (callbacks.filter (· ≠ .onEOM)).getLast?

/-- The status after a list of callbacks. -/
def statusAfter (callbacks : List Callback) : ResponseCode :=
  ((lastStatusCallback callbacks).bind Callback.code).getD .ready

/-- One more callback. -/
theorem lastStatusCallback_append (callbacks : List Callback) (callback : Callback) :
    lastStatusCallback (callbacks ++ [callback]) =
      if callback = .onEOM then lastStatusCallback callbacks else some callback := by
  rw [lastStatusCallback, List.filter_append]
  split
  · rename_i eom
    simp [eom, lastStatusCallback]
  · rename_i other
    simp [other]

/-- The status after one more callback. -/
theorem statusAfter_append (callbacks : List Callback) (callback : Callback) :
    statusAfter (callbacks ++ [callback]) = callback.code.getD (statusAfter callbacks) := by
  rw [statusAfter, lastStatusCallback_append]
  cases callback <;> rfl

/-- The status is ready exactly if the last callback that set one, if any, is
`onEgressResumed`. -/
theorem statusAfter_ready (callbacks : List Callback) :
    statusAfter callbacks = .ready ↔
      ∀ callback, lastStatusCallback callbacks = some callback → callback = .onEgressResumed := by
  rw [statusAfter]
  cases last : lastStatusCallback callbacks with
  | none => simp
  | some callback =>
    have set : callback ≠ .onEOM := by
      have kept := List.mem_of_getLast? last
      simpa using (List.mem_filter.mp kept).2
    cases callback <;> simp [Callback.code] at set ⊢

/-- A final callback is the last that sets a status, if no other follows it. -/
theorem lastStatusCallback_final {callbacks : List Callback} {callback : Callback}
    (ran : callback ∈ callbacks) (final : callback.Final)
    (last : ∀ earlier ∈ callbacks.dropLast, ¬earlier.Final) :
    lastStatusCallback callbacks = some callback := by
  have nonempty : callbacks ≠ [] := List.ne_nil_of_mem ran
  rw [← List.dropLast_concat_getLast nonempty] at ran ⊢
  rcases List.mem_append.mp ran with early | late
  · exact absurd final (last callback early)
  · rw [← List.mem_singleton.mp late, lastStatusCallback_append, if_neg]
    rintro rfl
    rcases final with final | final <;> cases final

namespace IOHandler

variable {ι : Type}

/-- The IO handler after a callback, when nobody is notified. -/
def ran (handler : IOHandler ι) (callback : Callback) : IOHandler ι :=
  { handler with
    mStatus := callback.code.getD handler.mStatus
    callbacks := handler.callbacks ++ [callback] }

/-- An IO handler without response queue, whose status is that of its callbacks, of which
only the last can be final. -/
structure Silent (handler : IOHandler ι) : Prop where
  /-- There is no response queue. -/
  unset : handler.mResponseQueue = none
  /-- The status is that of the callbacks. -/
  status : handler.mStatus = statusAfter handler.callbacks
  /-- Only the last callback can be final. -/
  finalLast : ∀ earlier ∈ handler.callbacks.dropLast, ¬earlier.Final

/-- A callback in order keeps an IO handler silent. -/
theorem Silent.ran {handler : IOHandler ι} (silent : handler.Silent) (callback : Callback)
    (inOrder : ∀ earlier ∈ handler.callbacks, ¬earlier.Final) :
    (handler.ran callback).Silent where
  unset := silent.unset
  status := by rw [IOHandler.ran, silent.status, statusAfter_append]
  finalLast := by simpa [IOHandler.ran] using inOrder

end IOHandler

namespace LogicHandler

variable {κ : Type} [DecidableEq κ]

/-- A logic handler no response has reached. -/
structure Silent (handler : LogicHandler κ) : Prop where
  /-- There is no response. -/
  none : handler.mResponseQueue = []
  /-- No entry has been removed. -/
  kept : handler.erased = []
  /-- Every entry has the status it was inserted with. -/
  ready : ∀ ioHandler entry, handler.mRequestMap.lookup ioHandler = some entry →
    entry.ioCode = .ready

/-- An insertion keeps the entries ready. -/
theorem Silent.insertRequest {handler : LogicHandler κ} (silent : handler.Silent)
    (request : LogicHandlerRequest κ) : (handler.insertRequest request).Silent := by
  rw [LogicHandler.insertRequest]
  split
  · exact silent
  · refine ⟨silent.none, silent.kept, fun ioHandler entry found => ?_⟩
    by_cases new : ioHandler = request.ioHandler
    · subst new
      have found := found
      rw [AList.lookup_insert, Option.some_inj] at found
      rw [← found]
      rfl
    · refine silent.ready ioHandler entry ?_
      rwa [AList.lookup_insert_ne new] at found

/-- A stretch of the loop keeps a logic handler silent. -/
theorem Silent.executorStep {handler : LogicHandler κ} (silent : handler.Silent)
    (queue : List (LogicHandlerRequest κ)) (timedOut : Bool) :
    (handler.executorStep queue timedOut).1.Silent := by
  have same (point : LoopPoint κ) (mIsRunning : Bool) :
      { handler with mIsRunning, point }.Silent := ⟨silent.none, silent.kept, silent.ready⟩
  unfold LogicHandler.executorStep
  split
  · exact same _ _
  · split
    · split <;> exact same _ _
    · exact same _ _
  · rename_i request _
    have inserted := silent.insertRequest request
    exact ⟨inserted.none, inserted.kept, inserted.ready⟩
  · split
    · rename_i queued
      exact absurd (silent.none.symm.trans queued) nofun
    · exact same _ _
  · exact silent

end LogicHandler

namespace Server

variable {κ ι : Type} [DecidableEq κ] [DecidableEq ι]

/-- The steps of the program as it is written: callbacks in an order proxygen allows, loops,
and stops. -/
def AsWritten (server : Server κ ι) : ServerAction κ ι → Prop
  | .setResponseQueue .. | .post .. => False
  | action => server.InOrder action

instance (server : Server κ ι) : ∀ action, Decidable (server.AsWritten action)
  | .setResponseQueue .. | .post .. => inferInstanceAs (Decidable False)
  | .callback ioHandler callback =>
    inferInstanceAs (Decidable (server.InOrder (.callback ioHandler callback)))
  | .loop logicHandler timedOut =>
    inferInstanceAs (Decidable (server.InOrder (.loop logicHandler timedOut)))
  | .stop logicHandler => inferInstanceAs (Decidable (server.InOrder (.stop logicHandler)))

/-- No notification has been sent. -/
structure Silent (server : Server κ ι) : Prop where
  /-- The IO handlers are silent. -/
  ioHandlers : ∀ ioHandler, (server.ioHandlers ioHandler).Silent
  /-- The logic handlers are silent. -/
  logicHandlers : ∀ logicHandler, (server.logicHandlers logicHandler).Silent

omit [DecidableEq ι] in
/-- The server starts silent. -/
theorem silent_initial : (initial : Server κ ι).Silent where
  ioHandlers _ := ⟨rfl, rfl, nofun⟩
  logicHandlers _ := ⟨rfl, rfl, by simp [initial, LogicHandler.new, LogicHandler.start]⟩

/-- A callback of a silent IO handler changes this IO handler and the queue only. -/
theorem callback_silent (server : Server κ ι) (ioHandler : κ) (callback : Callback)
    (silent : (server.ioHandlers ioHandler).Silent) :
    ∃ requestQueue, server.step (.callback ioHandler callback) =
      { server with
        requestQueue
        ioHandlers := Function.update server.ioHandlers ioHandler
          ((server.ioHandlers ioHandler).ran callback) } := by
  cases callback with
  | onEOM =>
    rw [step, runCallback, onEOM]
    split <;> exact ⟨_, rfl⟩
  | onEgressPaused | onEgressResumed | onError | requestComplete =>
    refine ⟨server.requestQueue, ?_⟩
    simp [step, runCallback, onEgressPaused, onEgressResumed, onError, requestComplete, setStatus,
      updateIoHandler, handleResponseNotification, silent.unset, IOHandler.ran, Callback.code]

/-- No step of the program as written sends a notification. -/
theorem Silent.step {server : Server κ ι} (silent : server.Silent) {action : ServerAction κ ι}
    (written : server.AsWritten action) : (server.step action).Silent := by
  cases action with
  | callback ioHandler callback =>
    obtain ⟨requestQueue, after⟩ :=
      server.callback_silent ioHandler callback (silent.ioHandlers ioHandler)
    rw [after]
    refine ⟨fun other => ?_, silent.logicHandlers⟩
    by_cases here : other = ioHandler
    · simp only [here, Function.update_self]
      exact (silent.ioHandlers ioHandler).ran callback written.2
    · simp only [Function.update_of_ne here]
      exact silent.ioHandlers other
  | loop logicHandler timedOut =>
    exact ⟨silent.ioHandlers, withLogic_all LogicHandler.Silent silent.logicHandlers
      ((silent.logicHandlers logicHandler).executorStep server.requestQueue timedOut)⟩
  | stop logicHandler =>
    have before := silent.logicHandlers logicHandler
    exact ⟨silent.ioHandlers, withLogic_all LogicHandler.Silent silent.logicHandlers
      (⟨before.none, before.kept, before.ready⟩ :
        (server.logicHandlers logicHandler).stop.Silent)⟩
  | setResponseQueue | post => exact absurd written id

omit [DecidableEq κ] [DecidableEq ι] in
/-- Steps as written satisfy the condition of custody. -/
theorem AsWritten.eomOnce {server : Server κ ι} {action : ServerAction κ ι}
    (written : server.AsWritten action) : server.EomOnce action := by
  cases action with
  | callback | loop | stop => exact written.1
  | setResponseQueue | post => exact absurd written id

/-- The callbacks of an IO handler among the actions of a run. -/
def callbacksOf (ioHandler : κ) : List (ServerAction κ ι) → List Callback
  | [] => []
  | .callback other callback :: actions =>
    if other = ioHandler then callback :: callbacksOf ioHandler actions
    else callbacksOf ioHandler actions
  | _ :: actions => callbacksOf ioHandler actions

/-- The callbacks an IO handler has run are those among the actions. -/
theorem callbacks_run {server : Server κ ι} (silent : server.Silent)
    {actions : List (ServerAction κ ι)} (written : Transition.Steps step AsWritten server actions)
    (ioHandler : κ) :
    ((Transition.run step server actions).ioHandlers ioHandler).callbacks =
      (server.ioHandlers ioHandler).callbacks ++ callbacksOf ioHandler actions := by
  induction actions generalizing server with
  | nil => simp [callbacksOf]
  | cons action actions ih =>
    rw [Transition.run_cons, ih (silent.step written.1) written.2]
    cases action with
    | callback other callback =>
      obtain ⟨_, after⟩ := server.callback_silent other callback (silent.ioHandlers other)
      rw [after, callbacksOf]
      by_cases here : ioHandler = other
      · subst here
        simp [IOHandler.ran]
      · simp [here, Ne.symm here]
    | loop | stop => rfl
    | setResponseQueue | post => exact absurd written.1 id

/-- All queues are empty and every logic handler is between iterations. -/
structure Quiescent (server : Server κ ι) : Prop where
  /-- The request queue is empty. -/
  requests : server.requestQueue = []
  /-- The response queues are empty. -/
  responses : ∀ logicHandler, (server.logicHandlers logicHandler).mResponseQueue = []
  /-- Every logic handler is between iterations. -/
  between : server.BetweenIterations

/-- No map holds an IO handler whose `onError` or `requestComplete` has run, and every entry
has the status of its IO handler. -/
def Agreement (server : Server κ ι) : Prop :=
  ∀ logicHandler ioHandler entry,
    (server.logicHandlers logicHandler).mRequestMap.lookup ioHandler = some entry →
      (∀ callback ∈ (server.ioHandlers ioHandler).callbacks, ¬callback.Final) ∧
        entry.ioCode = (server.ioHandlers ioHandler).mStatus

omit [DecidableEq ι] in
/-- In a quiescent state nobody was notified before, the maps agree exactly if every IO
handler that made its request is ready. -/
theorem Silent.agreement_iff {server : Server κ ι} (silent : server.Silent)
    (custody : server.Custody) (quiescent : server.Quiescent) :
    server.Agreement ↔
      ∀ ioHandler, Callback.onEOM ∈ (server.ioHandlers ioHandler).callbacks →
        statusAfter (server.ioHandlers ioHandler).callbacks = .ready := by
  constructor
  · intro agreement ioHandler eom
    obtain ⟨there, settled, only⟩ := (custody.conserved quiescent.between).made ioHandler eom
    have here := (only there).mpr rfl
    rcases settled with rfl | ⟨logicHandler, rfl | rfl⟩
    · simp only [IsAt, quiescent.requests, List.not_mem_nil] at here
    · obtain ⟨entry, found⟩ := Option.isSome_iff_exists.mp (AList.lookup_isSome.mpr here)
      have agreed := (agreement logicHandler ioHandler entry found).2
      rw [← (silent.ioHandlers ioHandler).status, ← agreed]
      exact (silent.logicHandlers logicHandler).ready ioHandler entry found
    · simp only [IsAt, (silent.logicHandlers logicHandler).kept, List.not_mem_nil] at here
  · intro ready logicHandler ioHandler entry found
    have owned : server.IsAt ioHandler (.owned logicHandler) :=
      AList.lookup_isSome.mp (Option.isSome_iff_exists.mpr ⟨entry, found⟩)
    obtain ⟨there, only⟩ := custody.placed ioHandler
    have eom : Callback.onEOM ∈ (server.ioHandlers ioHandler).callbacks := by
      by_contra never
      have same := ((only _).mp owned).trans ((only .outside).mp never).symm
      cases same
    have status := ready ioHandler eom
    refine ⟨fun callback ran final => ?_, ?_⟩
    · have last := lastStatusCallback_final ran final (silent.ioHandlers ioHandler).finalLast
      have resumed := (statusAfter_ready _).mp status callback last
      subst resumed
      rcases final with final | final <;> cases final
    · rw [(silent.ioHandlers ioHandler).status, status]
      exact (silent.logicHandlers logicHandler).ready ioHandler entry found

/-- In every quiescent state the program as written reaches, whatever the interleaving, the
maps agree with the IO handlers exactly if for every IO handler that ran `onEOM` the last of
its other callbacks, if any, is `onEgressResumed`. -/
theorem quiescent_agreement_iff (actions : List (ServerAction κ ι))
    (written : Transition.Steps step AsWritten (initial : Server κ ι) actions)
    (quiescent : (Transition.run step (initial : Server κ ι) actions).Quiescent) :
    (Transition.run step (initial : Server κ ι) actions).Agreement ↔
      ∀ ioHandler, Callback.onEOM ∈ callbacksOf ioHandler actions →
        ∀ callback, lastStatusCallback (callbacksOf ioHandler actions) = some callback →
          callback = .onEgressResumed := by
  have silent : (Transition.run step (initial : Server κ ι) actions).Silent :=
    (Transition.along_of_steps (fun _ _ silent written => silent.step written)
      silent_initial written).last
  have custody := (custody_along (written.mono fun _ _ written => written.eomOnce)).last
  rw [silent.agreement_iff custody quiescent]
  have callbacks (ioHandler : κ) :
      ((Transition.run step (initial : Server κ ι) actions).ioHandlers ioHandler).callbacks =
        callbacksOf ioHandler actions := callbacks_run silent_initial written ioHandler
  simp only [callbacks, statusAfter_ready]

/-- A request is taken while its egress is paused, and resumed afterwards. -/
def pausedAndResumed : List (ServerAction Unit Unit) :=
  [.callback () .onEOM, .callback () .onEgressPaused, .loop () false, .loop () false,
    .loop () false, .loop () false, .callback () .onEgressResumed]

/-- The paused request is agreed on after it is resumed. -/
theorem quiescent_agreement_iff_resumed :
    (Transition.run step (initial : Server Unit Unit) pausedAndResumed).Agreement := by
  refine (quiescent_agreement_iff pausedAndResumed (by decide +kernel)
    ⟨by decide +kernel, fun () => by decide +kernel, fun () => by decide +kernel⟩).mpr ?_
  intro _ _ callback last
  exact (Option.some_inj.mp last).symm

/-- A request is made and taken, and its response is complete. -/
def completed : List (ServerAction Unit Unit) :=
  [.callback () .onEOM, .loop () false, .loop () false, .loop () false, .loop () false,
    .callback () .requestComplete]

/-- The map holds the request although it is complete, and its entry is still ready. -/
theorem completed_not_agreed :
    Transition.Steps step AsWritten (initial : Server Unit Unit) completed ∧
      (Transition.run step (initial : Server Unit Unit) completed).Quiescent ∧
      ¬(Transition.run step (initial : Server Unit Unit) completed).Agreement := by
  refine ⟨by decide +kernel,
    ⟨by decide +kernel, fun () => by decide +kernel, fun () => by decide +kernel⟩, ?_⟩
  intro agreement
  have kept := agreement () () (.new ⟨()⟩ 100000 100) (by decide +kernel)
  exact kept.1 .requestComplete (by decide +kernel) (.inr rfl)

end Server

end ApiPack2
