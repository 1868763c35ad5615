import ApiPack2.Handler.Custody

/-!
# Draining the responses

One iteration of the loop of `executor_func` as a whole, and what it does with the response
queue. The drain loop stands inside the test of the map against its limit, so the responses
are taken only while the map has room.
-/

namespace ApiPack2

variable {κ : Type} [DecidableEq κ]

/-- Looking up an entry after one was replaced. -/
theorem RequestMap.lookup_replace (map : RequestMap κ) (ioHandler other : κ)
    (entry : LogicHandlerRequestStage κ) :
    AList.lookup other (map.replace ioHandler entry) =
      if other = ioHandler then (map.lookup other).map fun _ => entry
      else map.lookup other := by
  obtain ⟨entries, distinct⟩ := map
  simp only [AList.lookup, AList.replace]
  clear distinct
  induction entries with
  | nil => split <;> rfl
  | cons head rest ih =>
    obtain ⟨first, value⟩ := head
    rw [List.kreplace] at ih ⊢
    by_cases found : ioHandler = first
    · subst found
      rw [List.lookmap_cons_some _ rest (if_pos rfl)]
      by_cases same : other = ioHandler
      · subst same
        simp
      · simp [same]
    · rw [List.lookmap_cons_none _ rest (if_neg found)]
      by_cases same : other = first
      · subst same
        simp [Ne.symm found]
      · rw [List.dlookup_cons_ne _ _ same, ih, List.dlookup_cons_ne _ _ same]

/-- What a response makes of the entry it names. -/
def heard (entry : Option (LogicHandlerRequestStage κ)) (code : ResponseCode) :
    Option (LogicHandlerRequestStage κ) :=
  match code with
  | .error | .terminated => none
  | .paused | .ready => entry.map fun entry => { entry with ioCode := code }

/-- What a list of responses makes of the entry of one IO handler. -/
def heardAll (ioHandler : κ) (responses : List (LogicHandlerResponse κ))
    (entry : Option (LogicHandlerRequestStage κ)) : Option (LogicHandlerRequestStage κ) :=
  responses.foldl (fun entry response =>
    if response.ioHandler = ioHandler then heard entry response.code else entry) entry

/-- Responses make no entry where there is none. -/
theorem heardAll_none (ioHandler : κ) (responses : List (LogicHandlerResponse κ)) :
    heardAll ioHandler responses none = none := by
  induction responses with
  | nil => rfl
  | cons response responses ih =>
    have still : heard (none : Option (LogicHandlerRequestStage κ)) response.code = none := by
      cases response.code <;> rfl
    rw [heardAll, List.foldl_cons, still, ite_self]
    exact ih

/-- A final response among the responses for an entry removes it. -/
theorem heardAll_final {ioHandler : κ} {responses : List (LogicHandlerResponse κ)}
    {response : LogicHandlerResponse κ} (queued : response ∈ responses)
    (named : response.ioHandler = ioHandler)
    (final : response.code = .error ∨ response.code = .terminated)
    (entry : Option (LogicHandlerRequestStage κ)) : heardAll ioHandler responses entry = none := by
  induction responses generalizing entry with
  | nil => cases queued
  | cons first rest ih =>
    rw [heardAll, List.foldl_cons]
    rcases List.mem_cons.mp queued with rfl | later
    · have gone : heard entry response.code = none := by
        rcases final with code | code <;> rw [code] <;> rfl
      rw [if_pos named, gone]
      exact heardAll_none ioHandler rest
    · exact ih later _

namespace LogicHandler

/-- The wait for a request and its insertion. -/
def acceptRequest (handler : LogicHandler κ) (queue : List (LogicHandlerRequest κ))
    (timedOut : Bool) : LogicHandler κ × List (LogicHandlerRequest κ) :=
  match timedOut, queue with
  | false, request :: queue => (handler.insertRequest request, queue)
  | _, queue => (handler, queue)

/-- The drain loop. -/
def drainResponses (handler : LogicHandler κ) : LogicHandler κ :=
  handler.mResponseQueue.foldl applyResponse { handler with mResponseQueue := [] }

/-- One iteration of the loop of `executor_func`, with no other thread in between. -/
def executorIteration (handler : LogicHandler κ) (queue : List (LogicHandlerRequest κ))
    (timedOut : Bool) : LogicHandler κ × List (LogicHandlerRequest κ) :=
  if handler.mIsRunning then
    if handler.mRequestMap.size < handler.mMaxRequest then
      let (handler, queue) := handler.acceptRequest queue timedOut
      let handler := handler.drainResponses
      ({ handler with
        mRequestMap := (processRequests handleRequestLogic handler.mRequestMap).2 }, queue)
    else (handler, queue)
  else ({ handler with mIsRunning := true, point := .stopped }, queue)

/-- The stretches of the loop while no other thread comes in between. -/
def alone (state : LogicHandler κ × List (LogicHandlerRequest κ)) (timedOut : Bool) :
    LogicHandler κ × List (LogicHandlerRequest κ) :=
  state.1.executorStep state.2 timedOut

/-- A response leaves the rest of the response queue, the flag, the limit and the point. -/
theorem applyResponse_same (handler : LogicHandler κ) (response : LogicHandlerResponse κ) :
    ∃ mRequestMap erased, handler.applyResponse response =
      { handler with mRequestMap, erased } := by
  rw [applyResponse_eq]
  split
  · exact ⟨_, _, rfl⟩
  · obtain ⟨mRequestMap, same⟩ := setIoCode_same handler response
    exact ⟨mRequestMap, handler.erased, same⟩

/-- A response is applied alike whatever else is queued. -/
theorem applyResponse_queue (handler : LogicHandler κ) (response : LogicHandlerResponse κ)
    (mResponseQueue : List (LogicHandlerResponse κ)) :
    { handler with mResponseQueue }.applyResponse response =
      { handler.applyResponse response with mResponseQueue } := by
  simp only [applyResponse_eq]
  split
  · rfl
  · simp only [setIoCode]
    split <;> rfl

/-- A response is applied alike wherever the thread is. -/
theorem applyResponse_point (handler : LogicHandler κ) (response : LogicHandlerResponse κ)
    (point : LoopPoint κ) :
    { handler with point }.applyResponse response =
      { handler.applyResponse response with point } := by
  simp only [applyResponse_eq]
  split
  · rfl
  · simp only [setIoCode]
    split <;> rfl

/-- The drain loop empties the response queue and changes the map. -/
theorem drainResponses_same (handler : LogicHandler κ) :
    ∃ mRequestMap erased, handler.drainResponses =
      { handler with mResponseQueue := [], mRequestMap, erased } := by
  have folded (responses : List (LogicHandlerResponse κ)) (handler : LogicHandler κ) :
      ∃ mRequestMap erased, responses.foldl applyResponse handler =
        { handler with mRequestMap, erased } := by
    induction responses generalizing handler with
    | nil => exact ⟨_, _, rfl⟩
    | cons response responses ih =>
      obtain ⟨_, _, first⟩ := applyResponse_same handler response
      obtain ⟨mRequestMap, erased, rest⟩ := ih (handler.applyResponse response)
      exact ⟨mRequestMap, erased, by rw [List.foldl_cons, rest, first]⟩
  exact folded handler.mResponseQueue { handler with mResponseQueue := [] }

/-- An insertion changes the map only. -/
theorem insertRequest_same (handler : LogicHandler κ) (request : LogicHandlerRequest κ) :
    ∃ mRequestMap, handler.insertRequest request = { handler with mRequestMap } := by
  rw [insertRequest]
  split
  · exact ⟨handler.mRequestMap, rfl⟩
  · exact ⟨_, rfl⟩

/-- The wait for a request changes the map only. -/
theorem acceptRequest_same (handler : LogicHandler κ) (queue : List (LogicHandlerRequest κ))
    (timedOut : Bool) :
    ∃ mRequestMap, (handler.acceptRequest queue timedOut).1 = { handler with mRequestMap } := by
  cases timedOut with
  | true => exact ⟨_, rfl⟩
  | false =>
    cases queue with
    | nil => exact ⟨_, rfl⟩
    | cons request queue => exact insertRequest_same handler request

/-- The drain loop does the same wherever the thread is. -/
theorem drainResponses_point (handler : LogicHandler κ) (point : LoopPoint κ) :
    { handler with point }.drainResponses = { handler.drainResponses with point } := by
  have folded (responses : List (LogicHandlerResponse κ)) (handler : LogicHandler κ) :
      responses.foldl applyResponse { handler with point } =
        { responses.foldl applyResponse handler with point } := by
    induction responses generalizing handler with
    | nil => rfl
    | cons response responses ih =>
      rw [List.foldl_cons, List.foldl_cons, ← ih, applyResponse_point]
  exact folded handler.mResponseQueue { handler with mResponseQueue := [] }

/-- A response at the front of the queue is the first the drain loop applies. -/
theorem drainResponses_cons {handler : LogicHandler κ} {response : LogicHandlerResponse κ}
    {responses : List (LogicHandlerResponse κ)}
    (queued : handler.mResponseQueue = response :: responses) :
    handler.drainResponses =
      ({ handler with mResponseQueue := responses }.applyResponse response).drainResponses := by
  have rest : ({ handler with mResponseQueue := responses }.applyResponse
      response).mResponseQueue = responses := by
    obtain ⟨_, _, same⟩ := applyResponse_same { handler with mResponseQueue := responses } response
    rw [same]
  rw [drainResponses, drainResponses, queued, rest, List.foldl_cons]
  simp only [applyResponse_queue]

/-- The first response in the queue is taken and applied. -/
theorem executorStep_response {handler : LogicHandler κ} {response : LogicHandlerResponse κ}
    {responses : List (LogicHandlerResponse κ)} (point : handler.point = .drain)
    (queued : handler.mResponseQueue = response :: responses)
    (queue : List (LogicHandlerRequest κ)) (timedOut : Bool) :
    handler.executorStep queue timedOut =
      ({ handler with mResponseQueue := responses }.applyResponse response, queue) := by
  simp only [executorStep, point, queued]

/-- The stretches of the loop from the first response to the end of the iteration. -/
theorem drain_run (responses : List (LogicHandlerResponse κ)) (handler : LogicHandler κ)
    (queue : List (LogicHandlerRequest κ)) (timedOut : Bool) (point : handler.point = .drain)
    (queued : handler.mResponseQueue = responses) :
    Transition.run alone (handler, queue) (List.replicate (responses.length + 1) timedOut) =
      ({ handler.drainResponses with point := .test }, queue) := by
  induction responses generalizing handler with
  | nil =>
    simp [alone, executorStep, point, queued, drainResponses, processRequests]
  | cons response responses ih =>
    obtain ⟨_, _, same⟩ := applyResponse_same { handler with mResponseQueue := responses } response
    rw [List.length_cons, List.replicate_succ, Transition.run_cons, drainResponses_cons queued]
    rw [alone, executorStep_response point queued]
    exact ih _ (by rw [same, point]) (by rw [same])

/-- The stretches of the loop from its test to the first response, while the map has room. -/
theorem accept_run (handler : LogicHandler κ) (queue : List (LogicHandlerRequest κ))
    (timedOut : Bool) (between : handler.point = .test) (running : handler.mIsRunning = true)
    (room : handler.mRequestMap.size < handler.mMaxRequest) :
    ∃ stretches, Transition.run alone (handler, queue) (List.replicate stretches timedOut) =
      ({ (handler.acceptRequest queue timedOut).1 with point := .drain },
        (handler.acceptRequest queue timedOut).2) := by
  obtain ⟨mIsRunning, mRequestQueue, mResponseQueue, mRequestMap, mMaxRequest, point, erased⟩ :=
    handler
  obtain rfl : mIsRunning = true := running
  obtain rfl : point = .test := between
  have room : mRequestMap.size < mMaxRequest := room
  cases timedOut with
  | true => exact ⟨2, by simp [alone, executorStep, room, acceptRequest]⟩
  | false =>
    cases queue with
    | nil => exact ⟨2, by simp [alone, executorStep, room, acceptRequest]⟩
    | cons request queue =>
      refine ⟨3, ?_⟩
      by_cases known : request.ioHandler ∈ mRequestMap <;>
        simp [alone, executorStep, room, acceptRequest, insertRequest, known]

/-- The stretches of the loop of one handler, with no other thread in between, make up one
iteration. -/
theorem executorIteration_run (handler : LogicHandler κ) (queue : List (LogicHandlerRequest κ))
    (timedOut : Bool) (between : handler.point = .test) :
    ∃ stretches, Transition.run alone (handler, queue) (List.replicate stretches timedOut) =
      handler.executorIteration queue timedOut := by
  cases running : handler.mIsRunning with
  | false =>
    refine ⟨1, ?_⟩
    simp [alone, executorStep, executorIteration, between, running]
  | true =>
    by_cases room : handler.mRequestMap.size < handler.mMaxRequest
    · obtain ⟨stretches, admitted⟩ := accept_run handler queue timedOut between running room
      obtain ⟨mRequestMap, same⟩ := acceptRequest_same handler queue timedOut
      have drained := drain_run handler.mResponseQueue
        { (handler.acceptRequest queue timedOut).1 with point := .drain }
        (handler.acceptRequest queue timedOut).2 timedOut rfl (by rw [same])
      refine ⟨stretches + (handler.mResponseQueue.length + 1), ?_⟩
      rw [List.replicate_add, Transition.run_append, admitted, drained, drainResponses_point]
      simp only [executorIteration, running, room, if_true, processRequests]
      have point : (handler.acceptRequest queue timedOut).1.drainResponses.point = .test := by
        obtain ⟨_, _, drainedSame⟩ := drainResponses_same (handler.acceptRequest queue timedOut).1
        rw [drainedSame, same, between]
      rw [← point]
    · refine ⟨2, ?_⟩
      obtain ⟨mIsRunning, mRequestQueue, mResponseQueue, mRequestMap, mMaxRequest, point, erased⟩ :=
        handler
      obtain rfl : mIsRunning = true := running
      obtain rfl : point = .test := between
      have full : ¬mRequestMap.size < mMaxRequest := room
      simp [alone, executorStep, executorIteration, full]

/-- Setting a status changes the entry the response names. -/
theorem setIoCode_lookup (handler : LogicHandler κ) (response : LogicHandlerResponse κ)
    (ioHandler : κ) :
    (handler.setIoCode response).mRequestMap.lookup ioHandler =
      if response.ioHandler = ioHandler then
        (handler.mRequestMap.lookup ioHandler).map fun entry =>
          { entry with ioCode := response.code }
      else handler.mRequestMap.lookup ioHandler := by
  rw [setIoCode]
  split
  · rename_i none
    split
    · rename_i named
      rw [← named, none]
      rfl
    · rfl
  · rename_i found entry
    rw [RequestMap.lookup_replace]
    by_cases named : response.ioHandler = ioHandler
    · subst named
      simp only [if_true, entry, Option.map_some]
    · rw [if_neg named, if_neg (Ne.symm named)]

/-- A response changes the entry it names. -/
theorem applyResponse_lookup (handler : LogicHandler κ) (response : LogicHandlerResponse κ)
    (ioHandler : κ) :
    (handler.applyResponse response).mRequestMap.lookup ioHandler =
      if response.ioHandler = ioHandler then
        heard (handler.mRequestMap.lookup ioHandler) response.code
      else handler.mRequestMap.lookup ioHandler := by
  have erased : (handler.eraseRequest response.ioHandler).mRequestMap.lookup ioHandler =
      if response.ioHandler = ioHandler then none else handler.mRequestMap.lookup ioHandler := by
    split
    · rename_i named
      rw [← named]
      exact AList.lookup_erase ..
    · rename_i other
      exact AList.lookup_erase_ne (Ne.symm other)
  rw [applyResponse_eq]
  cases code : response.code with
  | error | terminated => simpa [heard] using erased
  | paused | ready => simpa [heard, code] using setIoCode_lookup handler response ioHandler

/-- The drain loop applies every response. -/
theorem drainResponses_lookup (handler : LogicHandler κ) (ioHandler : κ) :
    handler.drainResponses.mRequestMap.lookup ioHandler =
      heardAll ioHandler handler.mResponseQueue (handler.mRequestMap.lookup ioHandler) := by
  have folded (responses : List (LogicHandlerResponse κ)) (handler : LogicHandler κ) :
      (responses.foldl applyResponse handler).mRequestMap.lookup ioHandler =
        heardAll ioHandler responses (handler.mRequestMap.lookup ioHandler) := by
    induction responses generalizing handler with
    | nil => rfl
    | cons response responses ih =>
      rw [List.foldl_cons, ih, applyResponse_lookup]
      rfl
  exact folded handler.mResponseQueue { handler with mResponseQueue := [] }

/-- What an iteration is to do with the response queue: empty it, and apply every response
to the entries, after at most one request came from the shared queue. -/
structure Drains (handler : LogicHandler κ) (queue : List (LogicHandlerRequest κ))
    (timedOut : Bool) : Prop where
  /-- No response is left. -/
  emptied : (handler.executorIteration queue timedOut).1.mResponseQueue = []
  /-- Every response is applied. -/
  applied : ∃ entered : RequestMap κ,
    (entered = handler.mRequestMap ∨ ∃ request ∈ queue,
      entered = (handler.insertRequest request).mRequestMap) ∧
    ∀ ioHandler, (handler.executorIteration queue timedOut).1.mRequestMap.lookup ioHandler =
      heardAll ioHandler handler.mResponseQueue (entered.lookup ioHandler)
  /-- No entry named by a final response is left. -/
  removed : ∀ response ∈ handler.mResponseQueue,
    response.code = .error ∨ response.code = .terminated →
      response.ioHandler ∉ (handler.executorIteration queue timedOut).1.mRequestMap

/-- No iteration changes the map, the responses or the shared queue, and there are
responses. -/
structure Wedged (handler : LogicHandler κ) (queue : List (LogicHandlerRequest κ)) : Prop where
  /-- There are responses. -/
  queued : handler.mResponseQueue ≠ []
  /-- Nothing changes. -/
  unchanged : ∀ timedOut,
    (handler.executorIteration queue timedOut).1.mRequestMap = handler.mRequestMap ∧
      (handler.executorIteration queue timedOut).1.mResponseQueue = handler.mResponseQueue ∧
      (handler.executorIteration queue timedOut).2 = queue

/-- An iteration with a full map does nothing. -/
theorem executorIteration_full {handler : LogicHandler κ}
    (queue : List (LogicHandlerRequest κ)) (timedOut : Bool) (running : handler.mIsRunning = true)
    (full : ¬handler.mRequestMap.size < handler.mMaxRequest) :
    handler.executorIteration queue timedOut = (handler, queue) := by
  rw [executorIteration, if_pos running, if_neg full]

/-- An iteration while the map has room drains the response queue. -/
theorem drains_of_room {handler : LogicHandler κ} {queue : List (LogicHandlerRequest κ)}
    {timedOut : Bool} (running : handler.mIsRunning = true)
    (room : handler.mRequestMap.size < handler.mMaxRequest) :
    handler.Drains queue timedOut := by
  obtain ⟨mRequestMap, admitted⟩ := acceptRequest_same handler queue timedOut
  have drained : ∀ ioHandler,
      (handler.executorIteration queue timedOut).1.mRequestMap.lookup ioHandler =
        heardAll ioHandler handler.mResponseQueue (mRequestMap.lookup ioHandler) := by
    intro ioHandler
    have applied := drainResponses_lookup (handler.acceptRequest queue timedOut).1 ioHandler
    rw [executorIteration, if_pos running, if_pos room]
    simpa only [admitted, processRequests] using applied
  have emptied : (handler.executorIteration queue timedOut).1.mResponseQueue = [] := by
    obtain ⟨_, _, same⟩ := drainResponses_same (handler.acceptRequest queue timedOut).1
    rw [executorIteration, if_pos running, if_pos room]
    simp only [same]
  have entered : mRequestMap = handler.mRequestMap ∨ ∃ request ∈ queue,
      mRequestMap = (handler.insertRequest request).mRequestMap := by
    have map := congrArg LogicHandler.mRequestMap admitted
    cases timedOut with
    | true => exact .inl map.symm
    | false =>
      cases queue with
      | nil => exact .inl map.symm
      | cons request queue => exact .inr ⟨request, List.mem_cons_self, map.symm⟩
  have removed : ∀ response ∈ handler.mResponseQueue,
      response.code = .error ∨ response.code = .terminated →
        response.ioHandler ∉ (handler.executorIteration queue timedOut).1.mRequestMap := by
    intro response queued final
    rw [← AList.lookup_eq_none, drained]
    exact heardAll_final queued rfl final _
  exact ⟨emptied, ⟨mRequestMap, entered, drained⟩, removed⟩

/-- An iteration drains the response queue exactly if the map has room or there is nothing
to drain. -/
theorem drains_iff {handler : LogicHandler κ} {queue : List (LogicHandlerRequest κ)}
    {timedOut : Bool} (running : handler.mIsRunning = true) :
    handler.Drains queue timedOut ↔
      handler.mRequestMap.size < handler.mMaxRequest ∨ handler.mResponseQueue = [] := by
  by_cases room : handler.mRequestMap.size < handler.mMaxRequest
  · exact iff_of_true (drains_of_room running room) (.inl room)
  have unchanged := executorIteration_full queue timedOut running room
  constructor
  · intro drains
    have emptied := drains.emptied
    rw [unchanged] at emptied
    exact .inr emptied
  · rintro (room' | none)
    · exact absurd room' room
    · have applied (ioHandler : κ) :
          (handler.executorIteration queue timedOut).1.mRequestMap.lookup ioHandler =
            heardAll ioHandler handler.mResponseQueue (handler.mRequestMap.lookup ioHandler) := by
        rw [unchanged, none]
        rfl
      exact ⟨by rw [unchanged, none], ⟨handler.mRequestMap, .inl rfl, applied⟩, by simp [none]⟩

/-- A running handler is wedged exactly if an iteration would not drain its responses. -/
theorem wedged_iff {handler : LogicHandler κ} {queue : List (LogicHandlerRequest κ)}
    (running : handler.mIsRunning = true) :
    handler.Wedged queue ↔
      ¬(handler.mRequestMap.size < handler.mMaxRequest ∨ handler.mResponseQueue = []) := by
  constructor
  · rintro ⟨queued, unchanged⟩ (room | none)
    · have same := (unchanged true).2.1
      rw [(drains_of_room running room).emptied] at same
      exact queued same.symm
    · exact queued none
  · intro full
    obtain ⟨full, queued⟩ := not_or.mp full
    refine ⟨queued, fun timedOut => ?_⟩
    rw [executorIteration_full queue timedOut running full]
    exact ⟨rfl, rfl, rfl⟩

end LogicHandler

namespace Server

variable {ι : Type} [DecidableEq ι]

/-- An iteration of one logic handler. -/
def iteration (server : Server κ ι) (logicHandler : ι) (timedOut : Bool) : Server κ ι :=
  let (handler, queue) :=
    (server.logicHandlers logicHandler).executorIteration server.requestQueue timedOut
  server.withLogic logicHandler handler queue

/-- Stretches of the loop of one logic handler, with no other step in between. -/
theorem loops_run (server : Server κ ι) (logicHandler : ι) (timedOut : Bool) (stretches : Nat) :
    Transition.run step server (List.replicate stretches (.loop logicHandler timedOut)) =
      server.withLogic logicHandler
        (Transition.run LogicHandler.alone
          (server.logicHandlers logicHandler, server.requestQueue)
          (List.replicate stretches timedOut)).1
        (Transition.run LogicHandler.alone
          (server.logicHandlers logicHandler, server.requestQueue)
          (List.replicate stretches timedOut)).2 := by
  induction stretches generalizing server with
  | zero => simp [withLogic]
  | succ stretches ih =>
    rw [List.replicate_succ, Transition.run_cons, ih, List.replicate_succ, Transition.run_cons]
    simp [withLogic, step, loop, LogicHandler.alone]

/-- An iteration is made of steps of the server. -/
theorem iteration_run (server : Server κ ι) (logicHandler : ι) (timedOut : Bool)
    (between : (server.logicHandlers logicHandler).point = .test) :
    ∃ stretches, Transition.run step server
      (List.replicate stretches (.loop logicHandler timedOut)) =
        server.iteration logicHandler timedOut := by
  obtain ⟨stretches, run⟩ := LogicHandler.executorIteration_run
    (server.logicHandlers logicHandler) server.requestQueue timedOut between
  exact ⟨stretches, by rw [loops_run, run, iteration]⟩

/-- In every state reached, whatever the callbacks, the messages and the interleaving, an
iteration of a running logic handler empties the response queue and applies all of it
exactly if the map has room or no response is queued; else the handler is wedged. -/
theorem iterations_drain_iff (actions : List (ServerAction κ ι)) :
    Transition.Along step (fun server => ∀ logicHandler,
      (server.logicHandlers logicHandler).point = .test →
      (server.logicHandlers logicHandler).mIsRunning = true →
        let handler := server.logicHandlers logicHandler
        let drains := handler.mRequestMap.size < handler.mMaxRequest ∨ handler.mResponseQueue = []
        (∀ timedOut, handler.Drains server.requestQueue timedOut ↔ drains) ∧
          (handler.Wedged server.requestQueue ↔ ¬drains)) (initial : Server κ ι) actions := by
  have reached : Transition.Along step (fun _ : Server κ ι => True) initial actions :=
    Transition.along_of_invariant (fun _ _ _ => trivial) trivial actions
  exact reached.mono fun server _ logicHandler _ running =>
    ⟨fun timedOut => LogicHandler.drains_iff running, LogicHandler.wedged_iff running⟩

/-- A logic handler that is between iterations or stopped has a full map, and responses are
queued. -/
structure Stalled (server : Server κ ι) (logicHandler : ι) (mRequestMap : RequestMap κ)
    (responses : List (LogicHandlerResponse κ)) : Prop where
  /-- No request is in hand and no response is being taken. -/
  point : (server.logicHandlers logicHandler).point = .test ∨
    (server.logicHandlers logicHandler).point = .accept ∨
      (server.logicHandlers logicHandler).point = .stopped
  /-- The map of the handler. -/
  map : (server.logicHandlers logicHandler).mRequestMap = mRequestMap
  /-- The map is full. -/
  full : ¬mRequestMap.size < (server.logicHandlers logicHandler).mMaxRequest
  /-- The responses are at the front of the response queue. -/
  queued : responses <+: (server.logicHandlers logicHandler).mResponseQueue

omit [DecidableEq κ] [DecidableEq ι] in
/-- A stall outlasts every step that adds responses only. -/
theorem Stalled.elsewhere {server after : Server κ ι} {logicHandler : ι}
    {mRequestMap : RequestMap κ} {responses : List (LogicHandlerResponse κ)}
    (stalled : server.Stalled logicHandler mRequestMap responses)
    (same : ∃ mIsRunning more, after.logicHandlers logicHandler =
      { server.logicHandlers logicHandler with
        mIsRunning
        mResponseQueue := (server.logicHandlers logicHandler).mResponseQueue ++ more }) :
    after.Stalled logicHandler mRequestMap responses := by
  obtain ⟨_, more, same⟩ := same
  refine ⟨?_, ?_, ?_, ?_⟩ <;> rw [same]
  · exact stalled.point
  · exact stalled.map
  · exact stalled.full
  · exact stalled.queued.trans (List.prefix_append _ more)

/-- A stall outlasts every step. -/
theorem Stalled.step {server : Server κ ι} {logicHandler : ι} {mRequestMap : RequestMap κ}
    {responses : List (LogicHandlerResponse κ)}
    (stalled : server.Stalled logicHandler mRequestMap responses) (action : ServerAction κ ι) :
    (server.step action).Stalled logicHandler mRequestMap responses := by
  obtain ⟨timedOut, -, after⟩ | ⟨-, same⟩ := server.step_logicHandler action logicHandler
  · obtain ⟨point, rfl, full, queued⟩ := stalled
    rcases point with point | point | point
    · cases running : (server.logicHandlers logicHandler).mIsRunning <;>
        constructor <;> simp [after, LogicHandler.executorStep, point, running, full, queued]
    · constructor <;> simp [after, LogicHandler.executorStep, point, full, queued]
    · constructor <;> simp [after, LogicHandler.executorStep, point, full, queued]
  · exact stalled.elsewhere same

omit [DecidableEq ι] in
/-- A wedged handler is stalled. -/
theorem Stalled.of_wedged {server : Server κ ι} {logicHandler : ι}
    (between : (server.logicHandlers logicHandler).point = .test)
    (running : (server.logicHandlers logicHandler).mIsRunning = true)
    (wedged : (server.logicHandlers logicHandler).Wedged server.requestQueue) :
    server.Stalled logicHandler (server.logicHandlers logicHandler).mRequestMap
      (server.logicHandlers logicHandler).mResponseQueue where
  point := .inl between
  map := rfl
  full := (not_or.mp ((LogicHandler.wedged_iff running).mp wedged)).1
  queued := List.prefix_refl _

/-- A wedged handler stays wedged: whatever the callbacks, the messages and the interleaving
from there on, its map stays as it is and its responses stay in the response queue. -/
theorem wedged_forever {server : Server κ ι} {logicHandler : ι}
    (between : (server.logicHandlers logicHandler).point = .test)
    (running : (server.logicHandlers logicHandler).mIsRunning = true)
    (wedged : (server.logicHandlers logicHandler).Wedged server.requestQueue)
    (actions : List (ServerAction κ ι)) :
    Transition.Along step (fun later =>
      (later.logicHandlers logicHandler).mRequestMap =
          (server.logicHandlers logicHandler).mRequestMap ∧
        (server.logicHandlers logicHandler).mResponseQueue <+:
          (later.logicHandlers logicHandler).mResponseQueue) server actions := by
  have stalled := Stalled.of_wedged between running wedged
  have keeps (later : Server κ ι) (action : ServerAction κ ι)
      (stalled : later.Stalled logicHandler (server.logicHandlers logicHandler).mRequestMap
        (server.logicHandlers logicHandler).mResponseQueue) :
      (later.step action).Stalled logicHandler (server.logicHandlers logicHandler).mRequestMap
        (server.logicHandlers logicHandler).mResponseQueue := stalled.step action
  exact (Transition.along_of_invariant keeps stalled actions).mono fun _ stalled =>
    ⟨stalled.map, stalled.queued⟩

/-- The server after a number of requests, all in the map of its one logic handler. -/
def filled (n : Nat) (mRequestMap : RequestMap Nat) : Server Nat Unit :=
  { requestQueue := []
    ioHandlers := fun ioHandler =>
      { IOHandler.new (some .requests) with callbacks := if ioHandler < n then [.onEOM] else [] }
    logicHandlers := fun _ => { (LogicHandler.new (some .requests)).start with mRequestMap } }

/-- A request is made and taken. -/
def oneRequest (n : Nat) : List (ServerAction Nat Unit) :=
  [.callback n .onEOM, .loop () false, .loop () false, .loop () false, .loop () false]

/-- Requests made and taken one after the other. -/
def requests : Nat → List (ServerAction Nat Unit)
  | 0 => []
  | n + 1 => requests n ++ oneRequest n

/-- One more request goes into the map. -/
theorem filled_next {n : Nat} {mRequestMap : RequestMap Nat} (fresh : n ∉ mRequestMap)
    (room : mRequestMap.size < 128) :
    Transition.run step (filled n mRequestMap) (oneRequest n) =
      filled (n + 1) (mRequestMap.insert n (.new ⟨n⟩ 100000 100)) := by
  simp only [oneRequest, filled, Transition.run_cons, Transition.run_nil, step, runCallback, onEOM,
    updateIoHandler, loop, LogicHandler.executorStep, LogicHandler.new, LogicHandler.start,
    IOHandler.new, LogicHandler.insertRequest, LogicHandler.processRequests]
  simp only [Option.isSome_some, if_true, room, fresh, if_false, List.nil_append,
    Function.update_self, Function.update_idem]
  refine congrArg₂ (Server.mk []) (funext fun ioHandler => ?_) (funext fun _ => ?_)
  · by_cases here : ioHandler = n
    · simp [here]
    · have side : ioHandler < n + 1 ↔ ioHandler < n := by omega
      simp [here, side]
  · simp

/-- One more request is made in order. -/
theorem filled_inOrder (n : Nat) (mRequestMap : RequestMap Nat) :
    Transition.Steps step InOrder (filled n mRequestMap) (oneRequest n) := by
  simp [oneRequest, Transition.Steps, InOrder, EomOnce, FinalLast, filled]

/-- As long as the map has room, each request made and taken is in it. -/
theorem requests_run (n : Nat) (few : n ≤ 128) :
    ∃ mRequestMap : RequestMap Nat,
      Transition.run step initial (requests n) = filled n mRequestMap ∧
      Transition.Steps step InOrder initial (requests n) ∧
      mRequestMap.size = n ∧ ∀ ioHandler, ioHandler ∈ mRequestMap ↔ ioHandler < n := by
  induction n with
  | zero =>
    refine ⟨∅, ?_, trivial, rfl, fun ioHandler => ?_⟩
    · simp [requests, filled, initial, IOHandler.new, LogicHandler.new, LogicHandler.start]
    · simp
  | succ n ih =>
    obtain ⟨mRequestMap, run, steps, size, keys⟩ := ih (by omega)
    have fresh : n ∉ mRequestMap := fun known => Nat.lt_irrefl n ((keys n).mp known)
    refine ⟨mRequestMap.insert n (.new ⟨n⟩ 100000 100), ?_, ?_, ?_, fun ioHandler => ?_⟩
    · rw [requests, Transition.run_append, run, filled_next fresh (by omega)]
    · rw [requests, Transition.steps_append, run]
      exact ⟨steps, filled_inOrder n mRequestMap⟩
    · rw [RequestMap.size, AList.keys_insert, List.erase_of_not_mem fresh]
      exact congrArg (· + 1) size
    · rw [AList.mem_insert, keys]
      omega

/-- Requests made and taken, and then the end of the first of them. -/
def firstEnds (n : Nat) : List (ServerAction Nat Unit) :=
  requests n ++ [.setResponseQueue 0 (), .callback 0 .requestComplete]

/-- As long as the map has room, each request is in it when the end of the first is queued. -/
theorem firstEnds_run (n : Nat) (few : n ≤ 128) :
    Transition.Steps step InOrder initial (firstEnds n) ∧
      ∃ mRequestMap : RequestMap Nat,
        (Transition.run step initial (firstEnds n)).logicHandlers () =
          { (LogicHandler.new (some .requests)).start with
            mRequestMap, mResponseQueue := [⟨.terminated, 0⟩] } ∧
        mRequestMap.size = n ∧ ∀ ioHandler, ioHandler ∈ mRequestMap ↔ ioHandler < n := by
  obtain ⟨mRequestMap, run, steps, size, keys⟩ := requests_run n few
  refine ⟨?_, mRequestMap, ?_, size, keys⟩
  · rw [firstEnds, Transition.steps_append, run]
    refine ⟨steps, ?_⟩
    have early : ∀ callback ∈ if 0 < n then [Callback.onEOM] else [], ¬callback.Final := by
      split <;> simp [Callback.Final]
    simpa [Transition.Steps, InOrder, EomOnce, FinalLast, filled, step, setResponseQueue,
      updateIoHandler, IOHandler.new] using early
  · rw [firstEnds, Transition.run_append, run]
    simp [filled, step, setResponseQueue, runCallback, requestComplete, setStatus, updateIoHandler,
      handleResponseNotification, enqueueResponse, updateLogicHandler, IOHandler.new,
      LogicHandler.new, LogicHandler.start]

/-- After as many requests as the map takes, the end of a request is queued, an iteration
leaves its entry in the map, and the handler is wedged. -/
theorem full_map_wedges :
    Transition.Steps step InOrder initial (firstEnds 128) ∧
      ∃ server : Server Nat Unit, Transition.run step initial (firstEnds 128) = server ∧
        (server.logicHandlers ()).point = .test ∧
        (server.logicHandlers ()).mIsRunning = true ∧
        ⟨.terminated, 0⟩ ∈ (server.logicHandlers ()).mResponseQueue ∧
        0 ∈ (server.logicHandlers ()).mRequestMap ∧
        (∀ timedOut, ¬(server.logicHandlers ()).Drains server.requestQueue timedOut) ∧
        (server.logicHandlers ()).Wedged server.requestQueue := by
  refine (firstEnds_run 128 (Nat.le_refl _)).imp_right ?_
  rintro ⟨mRequestMap, last, size, keys⟩
  have full : ¬mRequestMap.size < 128 := by omega
  refine ⟨_, rfl, ?_⟩
  rw [last]
  refine ⟨rfl, rfl, List.mem_singleton_self _, (keys 0).mpr (by omega),
    fun timedOut drains => ?_, ?_⟩
  · rcases (LogicHandler.drains_iff rfl).mp drains with room | none
    · exact full room
    · cases none
  · refine (LogicHandler.wedged_iff rfl).mpr ?_
    rintro (room | none)
    · exact full room
    · cases none

end Server

end ApiPack2
