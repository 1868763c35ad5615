import Mathlib.Data.List.AList

/-!
# The logic handler

A `LogicHandler` is a thread that takes requests from the queue all handlers share, keeps
them in its map, and keeps up with their status through its own response queue. The loop of
`executor_func` is cut where another thread can come in between: before the test of the run
flag, before the wait for a request, before the insertion, and before each response. Queues
are lists with their front first. Waiting times, timers and log lines are left out.
-/

namespace ApiPack2

/-- `ResponseCode`. -/
inductive ResponseCode where
  | ready
  | error
  | terminated
  | paused
  deriving DecidableEq

/-- `LogicHandlerResponse`, over the type of the pointers to IO handlers. -/
structure LogicHandlerResponse (κ : Type) where
  /-- Status of the request. -/
  code : ResponseCode
  /-- IO handler of the request. -/
  ioHandler : κ
  deriving DecidableEq

/-- `RequestStage`. -/
inductive RequestStage where
  | ready
  | begin_
  | continue_
  | end_
  deriving DecidableEq

/-- `LogicHandlerRequest`. -/
structure LogicHandlerRequest (κ : Type) where
  /-- IO handler of the request. -/
  ioHandler : κ
  deriving DecidableEq

/-- `LogicHandlerRequestStage`. -/
structure LogicHandlerRequestStage (κ : Type) where
  /-- Stage of the processing. -/
  stage : RequestStage
  /-- Last status heard of. -/
  ioCode : ResponseCode
  /-- Lines to produce. -/
  numLines : Nat
  /-- Lines produced. -/
  currLine : Nat
  /-- Lines to produce at a time. -/
  batch : Nat
  /-- The request. -/
  request : LogicHandlerRequest κ
  deriving DecidableEq

/-- `LogicHandlerRequestStage::LogicHandlerRequestStage`. -/
def LogicHandlerRequestStage.new {κ : Type} (r : LogicHandlerRequest κ) (l b : Nat) :
    LogicHandlerRequestStage κ :=
  { stage := .ready, ioCode := .ready, numLines := l, currLine := 0, batch := b, request := r }

/-- `LogicHandler::RequestMap`. -/
abbrev RequestMap (κ : Type) := AList fun _ : κ => LogicHandlerRequestStage κ

/-- `RequestMap::size`. -/
def RequestMap.size {κ : Type} (map : RequestMap κ) : Nat := map.keys.length

/-- Pointer to the request queue of the server. -/
inductive RequestQueuePtr where
  | requests
  deriving DecidableEq

/-- Where a thread is in the loop of `executor_func`. -/
inductive LoopPoint (κ : Type) where
  /-- Before the test of the run flag, between two iterations. -/
  | test
  /-- Before the comparison of the map with its limit and the wait for a request. -/
  | accept
  /-- Before the insertion of a request taken from the queue. -/
  | insert (request : LogicHandlerRequest κ)
  /-- Before a response is taken from the response queue. -/
  | drain
  /-- After the loop. -/
  | stopped
  deriving DecidableEq

/-- `LogicHandler`, with the point its thread is at. -/
structure LogicHandler (κ : Type) where
  /-- The run flag. -/
  mIsRunning : Bool
  /-- The shared request queue, none for a null pointer. -/
  mRequestQueue : Option RequestQueuePtr
  /-- Responses not taken yet. -/
  mResponseQueue : List (LogicHandlerResponse κ)
  /-- Requests the handler works on. -/
  mRequestMap : RequestMap κ
  /-- No request is taken while the map has this size. -/
  mMaxRequest : Nat
  /-- Where the thread is. -/
  point : LoopPoint κ
  /-- IO handlers whose entries responses have removed, in order. -/
  erased : List κ

namespace LogicHandler

variable {κ : Type} [DecidableEq κ]

/-- `LogicHandler::LogicHandler`. -/
def new (queue : Option RequestQueuePtr) : LogicHandler κ :=
  { mIsRunning := false
    mRequestQueue := queue
    mResponseQueue := []
    mRequestMap := ∅
    mMaxRequest := 128
    point := .stopped
    erased := [] }

/-- `LogicHandler::start`: the new thread enters the loop if there is a queue. -/
def start (handler : LogicHandler κ) : LogicHandler κ :=
  { handler with
    mIsRunning := true
    point := if handler.mRequestQueue.isSome then .test else .stopped }

/-- `LogicHandler::stop`. -/
def stop (handler : LogicHandler κ) : LogicHandler κ := { handler with mIsRunning := false }

/-- `mRequestMap.insert`, which keeps an entry that exists. -/
def insertRequest (handler : LogicHandler κ) (request : LogicHandlerRequest κ) :
    LogicHandler κ :=
  if request.ioHandler ∈ handler.mRequestMap then handler
  else { handler with mRequestMap :=
    handler.mRequestMap.insert request.ioHandler (.new request 100000 100) }

/-- `mRequestMap.erase`, noting an entry that existed. -/
def eraseRequest (handler : LogicHandler κ) (ioHandler : κ) : LogicHandler κ :=
  { handler with
    mRequestMap := handler.mRequestMap.erase ioHandler
    erased := if ioHandler ∈ handler.mRequestMap then handler.erased ++ [ioHandler]
      else handler.erased }

/-- Set the status of an entry, if it is found. -/
def setIoCode (handler : LogicHandler κ) (response : LogicHandlerResponse κ) : LogicHandler κ :=
  match handler.mRequestMap.lookup response.ioHandler with
  | none => handler
  | some found => { handler with mRequestMap :=
      handler.mRequestMap.replace response.ioHandler { found with ioCode := response.code } }

/-- One response, as the drain loop treats it. -/
def applyResponse (handler : LogicHandler κ) (response : LogicHandlerResponse κ) :
    LogicHandler κ :=
  let handler :=
    if response.code = .error then handler.eraseRequest response.ioHandler else handler
  if response.code = .terminated then handler.eraseRequest response.ioHandler
  else if response.code = .paused then handler.setIoCode response
  else if response.code = .ready then handler.setIoCode response
  else handler

/-- `LogicHandler::handleRequestLogic`, whose body is empty. -/
def handleRequestLogic (request : LogicHandlerRequestStage κ) : LogicHandlerRequestStage κ :=
  request

/-- The processing loop: it iterates over copies of the entries. Returned are the copies as
the loop leaves them, and the map. -/
def processRequests (logic : LogicHandlerRequestStage κ → LogicHandlerRequestStage κ)
    (map : RequestMap κ) : List (LogicHandlerRequestStage κ) × RequestMap κ :=
  (map.entries.map fun p => if p.2.ioCode ≠ .paused then logic p.2 else p.2, map)

/-- `LogicHandler::executor_func` up to the next point where another thread can come in
between, on the handler and the shared queue. `timedOut` says that a wait gives up. -/
def executorStep (handler : LogicHandler κ) (queue : List (LogicHandlerRequest κ))
    (timedOut : Bool) : LogicHandler κ × List (LogicHandlerRequest κ) :=
  match handler.point with
  | .test =>
    -- `test_and_set` sets the flag whatever it was
    ({ handler with
      mIsRunning := true
      point := if handler.mIsRunning then .accept else .stopped }, queue)
  | .accept =>
    if handler.mRequestMap.size < handler.mMaxRequest then
      match timedOut, queue with
      | false, request :: queue => ({ handler with point := .insert request }, queue)
      | _, queue => ({ handler with point := .drain }, queue)
    else ({ handler with point := .test }, queue)
  | .insert request => ({ handler.insertRequest request with point := .drain }, queue)
  | .drain =>
    match handler.mResponseQueue with
    | response :: responses =>
      ({ handler with mResponseQueue := responses }.applyResponse response, queue)
    | [] =>
      ({ handler with
        mRequestMap := (processRequests handleRequestLogic handler.mRequestMap).2
        point := .test }, queue)
  | .stopped => (handler, queue)

end LogicHandler

end ApiPack2
