import ApiPack2.Handler.Agreement
import ApiPack2.Handler.History

/-!
# Binding the response queue

The program never calls `setResponseQueue`. This module follows what would happen if it did,
for one IO handler and the logic handler that holds its entry: the callbacks before the call
sent nothing, the call itself sends the status if it is not ready, and from then on every
callback notifies the logic handler. Reading the response queue to its end gives the status
of the IO handler, wherever the calls stand between the callbacks.
-/

namespace ApiPack2

variable {κ : Type}

/-- The entry of an IO handler agrees with its status: it is gone exactly if the status is
final, and has the status else. -/
def AgreesWith (entry : Option (LogicHandlerRequestStage κ)) (status : ResponseCode) : Prop :=
  (entry = none ↔ status = .error ∨ status = .terminated) ∧
    ∀ held, entry = some held → held.ioCode = status

/-- A ready entry agrees with the status ready. -/
theorem agreesWith_ready {entry : LogicHandlerRequestStage κ} (ready : entry.ioCode = .ready) :
    AgreesWith (some entry) .ready :=
  ⟨by simp, fun _ held => Option.some_inj.mp held ▸ ready⟩

/-- An entry told of a status agrees with it, if it was there or the status is final. -/
theorem AgreesWith.heard {entry : Option (LogicHandlerRequestStage κ)} {code : ResponseCode}
    (present : code ≠ .error → code ≠ .terminated → entry ≠ none) :
    AgreesWith (heard entry code) code := by
  cases code with
  | error | terminated => exact ⟨by simp [ApiPack2.heard], by simp [ApiPack2.heard]⟩
  | paused | ready =>
    obtain ⟨held, rfl⟩ := Option.ne_none_iff_exists'.mp (present (by simp) (by simp))
    refine ⟨by simp [ApiPack2.heard], fun other same => ?_⟩
    rw [← Option.some_inj.mp same]

/-- A callback that sets a final status is final. -/
theorem Callback.final_of_code {callback : Callback} {status : ResponseCode}
    (code : callback.code = some status) (final : status = .error ∨ status = .terminated) :
    callback.Final := by
  cases callback with
  | onError => exact .inl rfl
  | requestComplete => exact .inr rfl
  | onEOM => cases code
  | onEgressPaused | onEgressResumed =>
    rw [← Option.some_inj.mp code] at final
    simp at final

variable [DecidableEq κ]

/-- Responses about others do not concern an entry. -/
theorem heardAll_others {ioHandler : κ} {responses : List (LogicHandlerResponse κ)}
    (others : ∀ response ∈ responses, response.ioHandler ≠ ioHandler)
    (entry : Option (LogicHandlerRequestStage κ)) :
    heardAll ioHandler responses entry = entry := by
  induction responses with
  | nil => rfl
  | cons response responses ih =>
    rw [heardAll, List.foldl_cons, if_neg (others response List.mem_cons_self)]
    exact ih fun later member => others later (List.mem_cons_of_mem _ member)

/-- More responses are heard after the earlier ones. -/
theorem heardAll_append (ioHandler : κ) (first second : List (LogicHandlerResponse κ))
    (entry : Option (LogicHandlerRequestStage κ)) :
    heardAll ioHandler (first ++ second) entry =
      heardAll ioHandler second (heardAll ioHandler first entry) :=
  List.foldl_append

namespace LogicHandler

/-- The responses a stretch of the loop takes are the first ones in the queue. -/
theorem executorStep_responses (handler : LogicHandler κ)
    (queue : List (LogicHandlerRequest κ)) (timedOut : Bool) :
    handler.mResponseQueue = responsesOf handler.nextEvents ++
      (handler.executorStep queue timedOut).1.mResponseQueue := by
  cases point : handler.point with
  | test | stopped => simp [executorStep, nextEvents, point, responsesOf]
  | accept =>
    simp only [executorStep, nextEvents, point]
    split
    · cases timedOut <;> cases queue <;> rfl
    · rfl
  | insert request =>
    obtain ⟨mRequestMap, inserted⟩ := handler.insertRequest_same request
    simp only [executorStep, nextEvents, point, inserted]
    rfl
  | drain =>
    cases queued : handler.mResponseQueue with
    | nil => simp [executorStep, nextEvents, point, queued, responsesOf]
    | cons response responses =>
      obtain ⟨_, _, applied⟩ :=
        applyResponse_same { handler with mResponseQueue := responses } response
      rw [executorStep_response point queued, applied, nextEvents, point, queued]
      rfl

/-- An entry is removed only if a response about it was queued. -/
theorem executorStep_erased {handler : LogicHandler κ} (queue : List (LogicHandlerRequest κ))
    (timedOut : Bool) {ioHandler : κ}
    (others : ∀ response ∈ handler.mResponseQueue, response.ioHandler ≠ ioHandler)
    (kept : ioHandler ∉ handler.erased) :
    ioHandler ∉ (handler.executorStep queue timedOut).1.erased := by
  cases point : handler.point with
  | test | stopped => simpa only [executorStep, point] using kept
  | accept =>
    simp only [executorStep, point]
    split
    · cases timedOut <;> cases queue <;> exact kept
    · exact kept
  | insert request =>
    obtain ⟨mRequestMap, inserted⟩ := handler.insertRequest_same request
    simpa only [executorStep, point, inserted] using kept
  | drain =>
    cases queued : handler.mResponseQueue with
    | nil => simpa only [executorStep, point, queued] using kept
    | cons response responses =>
      have other := others response (queued ▸ List.mem_cons_self)
      rw [executorStep_response point queued, applyResponse_eq]
      split
      · simp only [eraseRequest]
        split
        · simpa [Ne.symm other] using kept
        · exact kept
      · obtain ⟨_, set⟩ := setIoCode_same { handler with mResponseQueue := responses } response
        rw [set]
        exact kept

/-- What the responses queued will make of an entry is not changed by the loop, unless it
inserts the entry. -/
theorem executorStep_heardAll {handler : LogicHandler κ} (queue : List (LogicHandlerRequest κ))
    (timedOut : Bool) {ioHandler : κ} (notInserted : .inserted ioHandler ∉ handler.nextEvents) :
    heardAll ioHandler (handler.executorStep queue timedOut).1.mResponseQueue
        ((handler.executorStep queue timedOut).1.mRequestMap.lookup ioHandler) =
      heardAll ioHandler handler.mResponseQueue (handler.mRequestMap.lookup ioHandler) := by
  have taken := handler.executorStep_responses queue timedOut
  rw [executorStep_lookup, trackedAll_responses notInserted, ← heardAll_append, ← taken]

end LogicHandler

namespace Server

variable {ι : Type} [DecidableEq ι]

/-- The messages an action sends to the response queue of a logic handler. -/
def sent (logicHandler : ι) (server : Server κ ι) :
    ServerAction κ ι → List (LogicHandlerResponse κ)
  | .callback ioHandler callback =>
    if (server.ioHandlers ioHandler).mResponseQueue = some logicHandler then
      callback.code.toList.map (⟨·, ioHandler⟩)
    else []
  | .setResponseQueue ioHandler other =>
    if other = logicHandler ∧ (server.ioHandlers ioHandler).mStatus ≠ .ready then
      [⟨(server.ioHandlers ioHandler).mStatus, ioHandler⟩]
    else []
  | .post other response => if other = logicHandler then [response] else []
  | .loop .. | .stop .. => []

/-- An IO handler after an action. -/
def ioHandlerAfter (ioHandler : κ) (handler : IOHandler ι) : ServerAction κ ι → IOHandler ι
  | .callback other callback => if other = ioHandler then handler.ran callback else handler
  | .setResponseQueue other logicHandler =>
    if other = ioHandler then { handler with mResponseQueue := some logicHandler } else handler
  | _ => handler

omit [DecidableEq κ] in
/-- A notification adds its message to the response queue the IO handler is bound to. -/
theorem handleResponseNotification_sent (server : Server κ ι) (ioHandler : κ)
    (status : ResponseCode) (logicHandler : ι) :
    ((server.handleResponseNotification ioHandler status).logicHandlers
        logicHandler).mResponseQueue =
      (server.logicHandlers logicHandler).mResponseQueue ++
        if (server.ioHandlers ioHandler).mResponseQueue = some logicHandler then
          [⟨status, ioHandler⟩]
        else [] := by
  rw [handleResponseNotification]
  cases bound : (server.ioHandlers ioHandler).mResponseQueue with
  | none => simp
  | some other =>
    by_cases here : other = logicHandler
    · subst here
      simp [enqueueResponse, updateLogicHandler]
    · simp [enqueueResponse, updateLogicHandler, here, Function.update_of_ne (Ne.symm here)]

omit [DecidableEq κ] in
/-- A notification leaves the IO handlers alone. -/
theorem handleResponseNotification_ioHandlers (server : Server κ ι) (ioHandler : κ)
    (status : ResponseCode) :
    (server.handleResponseNotification ioHandler status).ioHandlers = server.ioHandlers := by
  rw [handleResponseNotification]
  split <;> rfl

/-- A status callback sends its status to the response queue the IO handler is bound to. -/
theorem setStatus_sent (server : Server κ ι) (ioHandler : κ) (status : ResponseCode)
    (logicHandler : ι) :
    ((server.setStatus ioHandler status).logicHandlers logicHandler).mResponseQueue =
      (server.logicHandlers logicHandler).mResponseQueue ++
        if (server.ioHandlers ioHandler).mResponseQueue = some logicHandler then
          [⟨status, ioHandler⟩]
        else [] := by
  rw [setStatus, handleResponseNotification_sent]
  simp only [updateIoHandler, Function.update_self]

/-- `setResponseQueue` sends a status that is not ready to the response queue. -/
theorem setResponseQueue_sent (server : Server κ ι) (ioHandler : κ) (bound logicHandler : ι) :
    ((server.setResponseQueue ioHandler bound).logicHandlers logicHandler).mResponseQueue =
      (server.logicHandlers logicHandler).mResponseQueue ++
        if bound = logicHandler ∧ (server.ioHandlers ioHandler).mStatus ≠ .ready then
          [⟨(server.ioHandlers ioHandler).mStatus, ioHandler⟩]
        else [] := by
  have told (status : ResponseCode) : (status = .paused ∨ status = .error ∨
      status = .terminated) ↔ status ≠ .ready := by cases status <;> simp
  simp only [setResponseQueue, updateIoHandler, Function.update_self, told]
  split
  · rename_i changed
    rw [handleResponseNotification_sent]
    simp [changed]
  · rename_i ready
    simp [ready]

/-- Other steps than its own loop add the messages sent to a response queue. -/
theorem step_sent (server : Server κ ι) (action : ServerAction κ ι) {logicHandler : ι}
    (elsewhere : ∀ timedOut, action ≠ .loop logicHandler timedOut) :
    ((server.step action).logicHandlers logicHandler).mResponseQueue =
      (server.logicHandlers logicHandler).mResponseQueue ++ server.sent logicHandler action := by
  cases action with
  | callback ioHandler callback =>
    cases callback with
    | onEOM =>
      simp only [step, runCallback, onEOM, updateIoHandler, sent, Callback.code]
      split <;> simp
    | onEgressPaused => exact server.setStatus_sent ioHandler .paused logicHandler
    | onEgressResumed => exact server.setStatus_sent ioHandler .ready logicHandler
    | onError => exact server.setStatus_sent ioHandler .error logicHandler
    | requestComplete => exact server.setStatus_sent ioHandler .terminated logicHandler
  | loop other timedOut =>
    have other : logicHandler ≠ other := fun here => elsewhere timedOut (by rw [here])
    simp [step, loop, Function.update_of_ne other, sent]
  | stop other =>
    by_cases here : other = logicHandler
    · subst here
      simp [step, updateLogicHandler, sent, LogicHandler.stop]
    · simp [step, updateLogicHandler, sent, Function.update_of_ne (Ne.symm here)]
  | setResponseQueue ioHandler other =>
    exact server.setResponseQueue_sent ioHandler other logicHandler
  | post other response =>
    by_cases here : other = logicHandler
    · subst here
      simp [step, enqueueResponse, updateLogicHandler, sent]
    · simp [step, enqueueResponse, updateLogicHandler, sent, here,
        Function.update_of_ne (Ne.symm here)]

/-- An IO handler after a step. -/
theorem step_ioHandler (server : Server κ ι) (action : ServerAction κ ι) (ioHandler : κ) :
    (server.step action).ioHandlers ioHandler =
      ioHandlerAfter ioHandler (server.ioHandlers ioHandler) action := by
  cases action with
  | callback other callback =>
    have ran : (server.step (.callback other callback)).ioHandlers =
        Function.update server.ioHandlers other ((server.ioHandlers other).ran callback) := by
      cases callback with
      | onEOM =>
        simp only [step, runCallback, onEOM]
        split <;> rfl
      | onEgressPaused | onEgressResumed | onError | requestComplete =>
        simp only [step, runCallback, onEgressPaused, onEgressResumed, onError, requestComplete,
          setStatus, updateIoHandler, handleResponseNotification_ioHandlers,
          Function.update_self, Function.update_idem]
        rfl
    rw [ran, ioHandlerAfter]
    split
    · rename_i here
      rw [← here, Function.update_self]
    · rename_i elsewhere
      rw [Function.update_of_ne (Ne.symm elsewhere)]
  | setResponseQueue other logicHandler =>
    have set : (server.step (.setResponseQueue other logicHandler)).ioHandlers =
        Function.update server.ioHandlers other
          { server.ioHandlers other with mResponseQueue := some logicHandler } := by
      simp only [step, setResponseQueue]
      split
      · rw [handleResponseNotification_ioHandlers]
        rfl
      · rfl
    rw [set, ioHandlerAfter]
    split
    · rename_i here
      rw [← here, Function.update_self]
    · rename_i elsewhere
      rw [Function.update_of_ne (Ne.symm elsewhere)]
  | loop | stop | post => rfl

/-! ## One IO handler and the logic handler that holds its entry -/

/-- Callbacks run in an order proxygen allows; the response queue of the IO handler is set to
that of the logic handler, after the insertion of its entry; and all messages about the IO
handler are its own. -/
def BindsLate (ioHandler : κ) (logicHandler : ι) (server : Server κ ι) :
    ServerAction κ ι → Prop
  | .callback other callback => server.InOrder (.callback other callback)
  | .setResponseQueue other bound =>
    other = ioHandler → bound = logicHandler ∧ server.Inserted ioHandler logicHandler
  | .post _ response => response.ioHandler ≠ ioHandler
  | .loop .. | .stop .. => True

instance (server : Server κ ι) (ioHandler : κ) : ∀ place, Decidable (server.IsAt ioHandler place)
  | .outside => inferInstanceAs (Decidable (_ ∉ _))
  | .inHand _ => inferInstanceAs (Decidable (_ = _))
  | .queued | .owned _ | .removed _ => inferInstanceAs (Decidable (_ ∈ _))

instance (ioHandler : κ) (logicHandler : ι) (server : Server κ ι) :
    ∀ action, Decidable (BindsLate ioHandler logicHandler server action)
  | .callback other callback =>
    inferInstanceAs (Decidable (server.InOrder (.callback other callback)))
  | .setResponseQueue _ _ => inferInstanceAs (Decidable (_ → _ ∧ (_ ∨ _)))
  | .post _ _ => inferInstanceAs (Decidable (_ ≠ _))
  | .loop .. | .stop .. => inferInstanceAs (Decidable True)

/-- What the responses queued at a logic handler will make of the entry of an IO handler. -/
def foretold (ioHandler : κ) (logicHandler : ι) (server : Server κ ι) :
    Option (LogicHandlerRequestStage κ) :=
  heardAll ioHandler (server.logicHandlers logicHandler).mResponseQueue
    ((server.logicHandlers logicHandler).mRequestMap.lookup ioHandler)

/-- No message about the IO handler has been sent, and its entry is ready once it is there. -/
structure Unheard (ioHandler : κ) (logicHandler : ι) (server : Server κ ι) : Prop where
  /-- No response about it is queued. -/
  others : ∀ response ∈ (server.logicHandlers logicHandler).mResponseQueue,
    response.ioHandler ≠ ioHandler
  /-- No response removed its entry. -/
  kept : ¬server.IsAt ioHandler (.removed logicHandler)
  /-- Its entry is ready. -/
  ready : ∀ entry, (server.logicHandlers logicHandler).mRequestMap.lookup ioHandler = some entry →
    entry.ioCode = .ready

/-- The entry has been inserted, and the responses queued will make it agree with the status
of the IO handler. -/
structure Bound (ioHandler : κ) (logicHandler : ι) (server : Server κ ι) : Prop where
  /-- The entry has been inserted. -/
  inserted : server.Inserted ioHandler logicHandler
  /-- It will agree with the status. -/
  agrees : AgreesWith (server.foretold ioHandler logicHandler) (server.ioHandlers ioHandler).mStatus

/-- Until the response queue is set nothing is heard of the IO handler; afterwards the
responses queued make its entry agree with its status. -/
structure LateBinding (ioHandler : κ) (logicHandler : ι) (server : Server κ ι) : Prop where
  /-- Every request is in one place. -/
  custody : server.Custody
  /-- A final status was set by a final callback. -/
  finished : ∀ status, (server.ioHandlers ioHandler).mStatus = status →
    status = .error ∨ status = .terminated →
      ∃ callback ∈ (server.ioHandlers ioHandler).callbacks, callback.Final
  /-- Before the response queue is set. -/
  unbound : (server.ioHandlers ioHandler).mResponseQueue = none →
    server.Unheard ioHandler logicHandler
  /-- After it is set. -/
  bound : ∀ other, (server.ioHandlers ioHandler).mResponseQueue = some other →
    other = logicHandler ∧ server.Bound ioHandler logicHandler

variable {server : Server κ ι} {action : ServerAction κ ι} {ioHandler : κ} {logicHandler : ι}

/-- What is foretold changes by the messages sent only, once the entry is inserted. -/
theorem step_foretold (notInserted : .inserted ioHandler ∉ server.events logicHandler action) :
    (server.step action).foretold ioHandler logicHandler =
      heardAll ioHandler (server.sent logicHandler action)
        (server.foretold ioHandler logicHandler) := by
  obtain ⟨timedOut, rfl, after⟩ | ⟨elsewhere, _, _, after⟩ :=
    server.step_logicHandler action logicHandler
  · rw [events, if_pos rfl] at notInserted
    rw [foretold, after, LogicHandler.executorStep_heardAll _ _ notInserted]
    rfl
  · have responses := server.step_sent action elsewhere
    rw [foretold, responses, heardAll_append, after]
    rfl

omit [DecidableEq κ] in
/-- Messages sent by an action that is not of the IO handler are about others. -/
theorem sent_others (binds : server.BindsLate ioHandler logicHandler action)
    (notCallback : ∀ callback, action ≠ .callback ioHandler callback)
    (notSet : ∀ bound, action ≠ .setResponseQueue ioHandler bound) :
    ∀ response ∈ server.sent logicHandler action, response.ioHandler ≠ ioHandler := by
  intro response member
  cases action with
  | callback other callback =>
    have unnamed : other ≠ ioHandler := fun same => notCallback callback (by rw [same])
    rw [sent] at member
    split at member
    · obtain ⟨_, -, rfl⟩ := List.mem_map.mp member
      exact unnamed
    · cases member
  | setResponseQueue other bound =>
    have unnamed : other ≠ ioHandler := fun same => notSet bound (by rw [same])
    rw [sent] at member
    split at member
    · rw [List.mem_singleton.mp member]
      exact unnamed
    · cases member
  | post other posted =>
    rw [sent] at member
    split at member
    · rw [List.mem_singleton.mp member]
      exact binds
    · cases member
  | loop | stop => cases member

/-- A stretch of the loop leaves the entry of an IO handler nothing is heard of ready. -/
theorem Unheard.loop (unheard : server.Unheard ioHandler logicHandler) (timedOut : Bool)
    (mine : action = .loop logicHandler timedOut) {entry : LogicHandlerRequestStage κ}
    (found : ((server.step action).logicHandlers logicHandler).mRequestMap.lookup ioHandler =
      some entry) : entry.ioCode = .ready := by
  rw [server.step_lookup action logicHandler ioHandler] at found
  by_cases now : .inserted ioHandler ∈ server.events logicHandler action
  · rw [(inserted_events now).1, trackedAll, List.foldl_cons, LoopEvent.tracked, if_pos rfl]
      at found
    rw [← Option.some_inj.mp found]
    cases before : (server.logicHandlers logicHandler).mRequestMap.lookup ioHandler with
    | none => rfl
    | some earlier => exact unheard.ready earlier before
  · have taken := (server.logicHandlers logicHandler).executorStep_responses
      server.requestQueue timedOut
    rw [trackedAll_responses now, mine, events, if_pos rfl, heardAll_others] at found
    · exact unheard.ready entry found
    · intro response member
      exact unheard.others response (taken ▸ List.mem_append_left _ member)

/-- As long as the response queue is not set, nothing is heard of the IO handler. -/
theorem Unheard.step (unheard : server.Unheard ioHandler logicHandler)
    (silent : ∀ response ∈ server.sent logicHandler action, response.ioHandler ≠ ioHandler) :
    (server.step action).Unheard ioHandler logicHandler := by
  obtain ⟨timedOut, mine, after⟩ | ⟨elsewhere, _, _, after⟩ :=
    server.step_logicHandler action logicHandler
  · have taken := (server.logicHandlers logicHandler).executorStep_responses
      server.requestQueue timedOut
    refine ⟨?_, ?_, fun entry found => unheard.loop timedOut mine found⟩
    · rw [after]
      intro response member
      exact unheard.others response (taken ▸ List.mem_append_right _ member)
    · rw [IsAt, after]
      exact LogicHandler.executorStep_erased _ timedOut unheard.others unheard.kept
  · have responses := server.step_sent action elsewhere
    refine ⟨?_, ?_, ?_⟩
    · rw [responses]
      intro response member
      rcases List.mem_append.mp member with before | now
      · exact unheard.others response before
      · exact silent response now
    · rw [IsAt, after]
      exact unheard.kept
    · rw [after]
      exact unheard.ready

omit [DecidableEq ι] in
/-- The entry of an IO handler nothing is heard of is foretold as ready. -/
theorem Unheard.foretold (unheard : server.Unheard ioHandler logicHandler)
    (inserted : server.Inserted ioHandler logicHandler) :
    AgreesWith (server.foretold ioHandler logicHandler) .ready := by
  have owned := inserted.resolve_right unheard.kept
  obtain ⟨entry, found⟩ := Option.isSome_iff_exists.mp (AList.lookup_isSome.mpr owned)
  rw [Server.foretold, heardAll_others unheard.others, found]
  exact agreesWith_ready (unheard.ready entry found)

/-- What is foretold of an inserted entry changes by the messages sent only. -/
theorem Inserted.step_foretold (inserted : server.Inserted ioHandler logicHandler)
    (custody : server.Custody) :
    (server.step action).foretold ioHandler logicHandler =
      heardAll ioHandler (server.sent logicHandler action)
        (server.foretold ioHandler logicHandler) :=
  Server.step_foretold fun now => inserted.not_inHand custody logicHandler (inserted_events now).2.1

/-- Setting the response queue makes the entry agree with the status, whatever was heard
before. -/
theorem LateBinding.set (late : server.LateBinding ioHandler logicHandler)
    (inserted : server.Inserted ioHandler logicHandler) :
    AgreesWith ((server.step (.setResponseQueue ioHandler logicHandler)).foretold ioHandler
      logicHandler) (server.ioHandlers ioHandler).mStatus := by
  -- before the call the entry agrees with the status, or is ready and nothing was sent
  have before : ∃ status, AgreesWith (server.foretold ioHandler logicHandler) status ∧
      (status = .ready ∨ status = (server.ioHandlers ioHandler).mStatus) := by
    cases queue : (server.ioHandlers ioHandler).mResponseQueue with
    | none => exact ⟨.ready, (late.unbound queue).foretold inserted, .inl rfl⟩
    | some other => exact ⟨_, (late.bound other queue).2.agrees, .inr rfl⟩
  obtain ⟨status, agrees, which⟩ := before
  rw [inserted.step_foretold late.custody, sent]
  by_cases ready : (server.ioHandlers ioHandler).mStatus = .ready
  · rw [if_neg (by simp [ready]), ready]
    rcases which with rfl | rfl
    · exact agrees
    · exact ready ▸ agrees
  · rw [if_pos ⟨rfl, ready⟩, heardAll, List.foldl_cons, if_pos rfl, List.foldl_nil]
    refine .heard fun notError notTerminated gone => ?_
    rcases which with rfl | rfl
    · simpa using agrees.1.mp gone
    · exact (agrees.1.mp gone).elim notError notTerminated

/-- A callback of a bound IO handler tells its status. -/
theorem Bound.callback (bound : server.Bound ioHandler logicHandler) (custody : server.Custody)
    (queue : (server.ioHandlers ioHandler).mResponseQueue = some logicHandler)
    (callback : Callback)
    (running : (server.ioHandlers ioHandler).mStatus ≠ .error ∧
      (server.ioHandlers ioHandler).mStatus ≠ .terminated) :
    AgreesWith ((server.step (.callback ioHandler callback)).foretold ioHandler logicHandler)
      ((server.ioHandlers ioHandler).ran callback).mStatus := by
  rw [bound.inserted.step_foretold custody, sent, if_pos queue, IOHandler.ran]
  cases told : callback.code with
  | none => exact bound.agrees
  | some code =>
    simp only [Option.toList_some, List.map_cons, List.map_nil, heardAll, List.foldl_cons,
      if_true, List.foldl_nil, Option.getD_some]
    exact .heard fun _ _ gone => (bound.agrees.1.mp gone).elim running.1 running.2

/-- An action that changes nothing of the IO handler and sends nothing about it keeps the
binding. -/
theorem LateBinding.elsewhere (late : server.LateBinding ioHandler logicHandler)
    (once : server.EomOnce action)
    (same : (server.step action).ioHandlers ioHandler = server.ioHandlers ioHandler)
    (others : ∀ response ∈ server.sent logicHandler action, response.ioHandler ≠ ioHandler) :
    (server.step action).LateBinding ioHandler logicHandler := by
  obtain ⟨custody, moves⟩ := late.custody.step once
  refine ⟨custody, ?_, ?_, ?_⟩ <;> rw [same]
  · exact late.finished
  · exact fun unset => (late.unbound unset).step others
  · intro other set
    obtain ⟨here, bound⟩ := late.bound other set
    refine ⟨here, bound.inserted.movesAlong late.custody moves, ?_⟩
    rw [bound.inserted.step_foretold late.custody, heardAll_others others, same]
    exact bound.agrees

omit [DecidableEq κ] [DecidableEq ι] in
/-- A callback that leaves a final status, on an IO handler whose status was not final, is a
final callback. -/
theorem final_of_ran {handler : IOHandler ι}
    (running : handler.mStatus ≠ .error ∧ handler.mStatus ≠ .terminated) {callback : Callback}
    (final : (handler.ran callback).mStatus = .error ∨
      (handler.ran callback).mStatus = .terminated) : callback.Final := by
  cases told : callback.code with
  | none =>
    rw [IOHandler.ran, told, Option.getD_none] at final
    exact absurd final (not_or_intro running.1 running.2)
  | some code =>
    rw [IOHandler.ran, told, Option.getD_some] at final
    exact Callback.final_of_code told final

/-- A callback of the IO handler keeps its binding. -/
theorem LateBinding.callback (late : server.LateBinding ioHandler logicHandler)
    {callback : Callback} (inOrder : server.InOrder (.callback ioHandler callback)) :
    (server.step (.callback ioHandler callback)).LateBinding ioHandler logicHandler := by
  obtain ⟨custody, moves⟩ := late.custody.step inOrder.1
  have after := server.step_ioHandler (.callback ioHandler callback) ioHandler
  rw [ioHandlerAfter, if_pos rfl] at after
  have running : (server.ioHandlers ioHandler).mStatus ≠ .error ∧
      (server.ioHandlers ioHandler).mStatus ≠ .terminated := by
    by_contra final
    obtain ⟨earlier, ran, last⟩ := late.finished _ rfl (by tauto)
    exact inOrder.2 earlier ran last
  refine ⟨custody, ?_, ?_, ?_⟩ <;> rw [after]
  · rintro status rfl final
    exact ⟨callback, List.mem_append_right _ List.mem_cons_self, final_of_ran running final⟩
  · intro unset
    have unset : (server.ioHandlers ioHandler).mResponseQueue = none := unset
    refine (late.unbound unset).step ?_
    rw [sent, unset, if_neg (by simp)]
    exact fun _ member => absurd member List.not_mem_nil
  · intro queue set
    have set : (server.ioHandlers ioHandler).mResponseQueue = some queue := set
    obtain ⟨rfl, bound⟩ := late.bound queue set
    refine ⟨rfl, bound.inserted.movesAlong late.custody moves, ?_⟩
    rw [after]
    exact bound.callback late.custody set callback running

/-- Setting the response queue of the IO handler after the insertion of its entry binds it. -/
theorem LateBinding.setResponseQueue (late : server.LateBinding ioHandler logicHandler)
    (inserted : server.Inserted ioHandler logicHandler) :
    (server.step (.setResponseQueue ioHandler logicHandler)).LateBinding ioHandler
      logicHandler := by
  have once : server.EomOnce (.setResponseQueue ioHandler logicHandler) := trivial
  obtain ⟨custody, moves⟩ := late.custody.step once
  have after := server.step_ioHandler (.setResponseQueue ioHandler logicHandler) ioHandler
  rw [ioHandlerAfter, if_pos rfl] at after
  have agrees := late.set inserted
  refine ⟨custody, ?_, ?_, ?_⟩ <;> rw [after]
  · exact late.finished
  · exact fun unset => absurd unset (by simp)
  · intro bound set
    refine ⟨(Option.some_inj.mp set).symm, inserted.movesAlong late.custody moves, ?_⟩
    rw [after]
    exact agrees

/-- Every step keeps the binding. -/
theorem LateBinding.step (late : server.LateBinding ioHandler logicHandler)
    (binds : server.BindsLate ioHandler logicHandler action) :
    (server.step action).LateBinding ioHandler logicHandler := by
  have after := server.step_ioHandler action ioHandler
  cases action with
  | loop | stop | post =>
    exact late.elsewhere trivial after (sent_others binds (by simp) (by simp))
  | callback other callback =>
    by_cases here : other = ioHandler
    · subst here
      exact late.callback binds
    · rw [ioHandlerAfter, if_neg here] at after
      exact late.elsewhere binds.1 after (sent_others binds (by simpa using here) (by simp))
  | setResponseQueue other queue =>
    by_cases here : other = ioHandler
    · subst here
      obtain ⟨rfl, inserted⟩ := binds rfl
      exact late.setResponseQueue inserted
    · rw [ioHandlerAfter, if_neg here] at after
      exact late.elsewhere trivial after (sent_others binds (by simp) (by simpa using here))

/-- The binding holds of every state reached. -/
theorem lateBinding_along {actions : List (ServerAction κ ι)}
    (binds : Transition.Steps step (BindsLate ioHandler logicHandler) (initial : Server κ ι)
      actions) :
    Transition.Along step (LateBinding ioHandler logicHandler) (initial : Server κ ι) actions := by
  refine Transition.along_of_steps (fun _ _ late binds => late.step binds) ?_ binds
  refine ⟨custody_initial, ?_, fun _ => ⟨?_, ?_, ?_⟩, ?_⟩ <;>
    simp [initial, IOHandler.new, LogicHandler.new, LogicHandler.start, IsAt]

/-- A response queue that was set stays set. -/
theorem set_of_called (server : Server κ ι) {actions : List (ServerAction κ ι)} {bound : ι}
    (called : .setResponseQueue ioHandler bound ∈ actions) :
    ((Transition.run step server actions).ioHandlers ioHandler).mResponseQueue ≠ none := by
  have stays (server : Server κ ι) (action : ServerAction κ ι)
      (set : (server.ioHandlers ioHandler).mResponseQueue ≠ none) :
      ((server.step action).ioHandlers ioHandler).mResponseQueue ≠ none := by
    rw [step_ioHandler]
    cases action with
    | callback | setResponseQueue =>
      rw [ioHandlerAfter]
      split
      · first | exact set | simp
      · exact set
    | loop | stop | post => exact set
  induction actions generalizing server with
  | nil => cases called
  | cons action actions ih =>
    rcases List.mem_cons.mp called with rfl | later
    · refine Transition.run_invariant stays ?_ actions
      rw [step_ioHandler, ioHandlerAfter, if_pos rfl]
      simp
    · exact ih (server.step action) later

/-- Wherever the calls of `setResponseQueue` stand after the insertion of the entry, between
the callbacks of the IO handler and the drain loop: once one was made and the response queue
is drained, the entry is gone exactly if the status of the IO handler is final, and has its
status else. -/
theorem late_binding_agrees (ioHandler : κ) (logicHandler : ι) (actions : List (ServerAction κ ι))
    (binds : Transition.Steps step (BindsLate ioHandler logicHandler) (initial : Server κ ι)
      actions)
    (called : .setResponseQueue ioHandler logicHandler ∈ actions) :
    let last := Transition.run step (initial : Server κ ι) actions
    let entry := (last.logicHandlers logicHandler).mRequestMap.lookup ioHandler
    let mStatus := (last.ioHandlers ioHandler).mStatus
    (last.logicHandlers logicHandler).mResponseQueue = [] →
      (entry = none ↔ mStatus = .error ∨ mStatus = .terminated) ∧
        ∀ held, entry = some held → held.ioCode = mStatus := by
  intro last entry mStatus drained
  obtain ⟨queue, set⟩ := Option.ne_none_iff_exists'.mp (set_of_called initial called)
  have agrees := ((lateBinding_along binds).last.bound queue set).2.agrees
  rw [foretold, drained] at agrees
  exact agrees

/-- A request pauses before it is inserted, and ends between two calls of
`setResponseQueue`. -/
def boundTwice : List (ServerAction Unit Unit) :=
  [.callback () .onEOM, .loop () false, .callback () .onEgressPaused, .loop () false,
    .loop () false, .setResponseQueue () (), .loop () false, .callback () .requestComplete,
    .setResponseQueue () (), .loop () false, .loop () false]

/-- When the responses are drained, the entry of the ended request is gone. -/
theorem late_binding_agrees_ended :
    ((Transition.run step (initial : Server Unit Unit) boundTwice).logicHandlers
      ()).mRequestMap.lookup () = none :=
  ((late_binding_agrees () () boundTwice (by decide +kernel) (by simp [boundTwice]))
    (by decide +kernel)).1.mpr (by decide +kernel)

end Server

end ApiPack2
