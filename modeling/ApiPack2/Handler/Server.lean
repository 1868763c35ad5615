import ApiPack2.Handler.LogicHandler
import Mathlib.Logic.Function.Basic

/-!
# The server

IO handlers, one for each request, and logic handlers pass messages through the shared
request queue and the response queue of each logic handler. A step is one callback of an IO
handler, one stretch of the loop of a logic handler, or one of the calls the program has but
does not make. The types of the pointers to both are parameters.
-/

namespace ApiPack2

/-- The callbacks of an `IOHandler` that concern its logic handler. -/
inductive Callback where
  | onEOM
  | onEgressPaused
  | onEgressResumed
  | onError
  | requestComplete
  deriving DecidableEq

/-- `IOHandler`, with the callbacks it has run. -/
structure IOHandler (ι : Type) where
  /-- Status of the request. -/
  mStatus : ResponseCode
  /-- Logic handler whose response queue is notified, none for a null pointer. -/
  mResponseQueue : Option ι
  /-- The shared request queue, none for a null pointer. -/
  mRequestQueue : Option RequestQueuePtr
  /-- Callbacks run so far, in order. -/
  callbacks : List Callback

/-- `IOHandler::IOHandler`. -/
def IOHandler.new {ι : Type} (queue : Option RequestQueuePtr) : IOHandler ι :=
  { mStatus := .ready, mResponseQueue := none, mRequestQueue := queue, callbacks := [] }

/-- The handlers and the queue they share. -/
structure Server (κ ι : Type) where
  /-- Requests no logic handler has taken yet. -/
  requestQueue : List (LogicHandlerRequest κ)
  /-- The IO handlers. -/
  ioHandlers : κ → IOHandler ι
  /-- The logic handlers. -/
  logicHandlers : ι → LogicHandler κ

/-- What can happen next. -/
inductive ServerAction (κ ι : Type) where
  /-- A callback of an IO handler. -/
  | callback (ioHandler : κ) (callback : Callback)
  /-- A stretch of the loop of a logic handler; its wait for a request may give up. -/
  | loop (logicHandler : ι) (timedOut : Bool)
  /-- `LogicHandler::stop`. -/
  | stop (logicHandler : ι)
  /-- `IOHandler::setResponseQueue` with the queue of a logic handler. -/
  | setResponseQueue (ioHandler : κ) (logicHandler : ι)
  /-- Any message arrives on a response queue. -/
  | post (logicHandler : ι) (response : LogicHandlerResponse κ)

namespace Server

variable {κ ι : Type} [DecidableEq κ] [DecidableEq ι]

/-- Change one IO handler. -/
def updateIoHandler (server : Server κ ι) (ioHandler : κ) (edit : IOHandler ι → IOHandler ι) :
    Server κ ι :=
  { server with
    ioHandlers := Function.update server.ioHandlers ioHandler
      (edit (server.ioHandlers ioHandler)) }

/-- Change one logic handler. -/
def updateLogicHandler (server : Server κ ι) (logicHandler : ι)
    (edit : LogicHandler κ → LogicHandler κ) : Server κ ι :=
  { server with
    logicHandlers := Function.update server.logicHandlers logicHandler
      (edit (server.logicHandlers logicHandler)) }

/-- `mResponseQueue->enqueue` on the queue of a logic handler. -/
def enqueueResponse (server : Server κ ι) (logicHandler : ι)
    (response : LogicHandlerResponse κ) : Server κ ι :=
  server.updateLogicHandler logicHandler fun handler =>
    { handler with mResponseQueue := handler.mResponseQueue ++ [response] }

/-- `IOHandler::handleResponseNotification`. -/
def handleResponseNotification (server : Server κ ι) (ioHandler : κ) (status : ResponseCode) :
    Server κ ι :=
  match (server.ioHandlers ioHandler).mResponseQueue with
  | none => server
  | some logicHandler => server.enqueueResponse logicHandler ⟨status, ioHandler⟩

/-- The common body of the status callbacks. -/
def setStatus (server : Server κ ι) (ioHandler : κ) (status : ResponseCode) : Server κ ι :=
  (server.updateIoHandler ioHandler fun handler =>
    { handler with mStatus := status }).handleResponseNotification ioHandler status

/-- `IOHandler::onEOM`. -/
def onEOM (server : Server κ ι) (ioHandler : κ) : Server κ ι :=
  match (server.ioHandlers ioHandler).mRequestQueue with
  | none => server
  | some .requests => { server with requestQueue := server.requestQueue ++ [⟨ioHandler⟩] }

/-- `IOHandler::requestComplete`. -/
def requestComplete (server : Server κ ι) (ioHandler : κ) : Server κ ι :=
  server.setStatus ioHandler .terminated

/-- `IOHandler::onError`. -/
def onError (server : Server κ ι) (ioHandler : κ) : Server κ ι :=
  server.setStatus ioHandler .error

/-- `IOHandler::onEgressPaused`. -/
def onEgressPaused (server : Server κ ι) (ioHandler : κ) : Server κ ι :=
  server.setStatus ioHandler .paused

/-- `IOHandler::onEgressResumed`. -/
def onEgressResumed (server : Server κ ι) (ioHandler : κ) : Server κ ι :=
  server.setStatus ioHandler .ready

/-- `IOHandler::setResponseQueue`. -/
def setResponseQueue (server : Server κ ι) (ioHandler : κ) (logicHandler : ι) : Server κ ι :=
  let server := server.updateIoHandler ioHandler fun handler =>
    { handler with mResponseQueue := some logicHandler }
  let status := (server.ioHandlers ioHandler).mStatus
  if status = .paused ∨ status = .error ∨ status = .terminated then
    server.handleResponseNotification ioHandler status
  else server

/-- Run a callback. -/
def runCallback (server : Server κ ι) (ioHandler : κ) : Callback → Server κ ι
  | .onEOM => server.onEOM ioHandler
  | .onEgressPaused => server.onEgressPaused ioHandler
  | .onEgressResumed => server.onEgressResumed ioHandler
  | .onError => server.onError ioHandler
  | .requestComplete => server.requestComplete ioHandler

/-- One stretch of the loop of a logic handler. -/
def loop (server : Server κ ι) (logicHandler : ι) (timedOut : Bool) : Server κ ι :=
  let (handler, queue) :=
    (server.logicHandlers logicHandler).executorStep server.requestQueue timedOut
  { server with
    requestQueue := queue
    logicHandlers := Function.update server.logicHandlers logicHandler handler }

/-- One action. -/
def step (server : Server κ ι) : ServerAction κ ι → Server κ ι
  | .callback ioHandler callback =>
    (server.runCallback ioHandler callback).updateIoHandler ioHandler fun handler =>
      { handler with callbacks := handler.callbacks ++ [callback] }
  | .loop logicHandler timedOut => server.loop logicHandler timedOut
  | .stop logicHandler => server.updateLogicHandler logicHandler .stop
  | .setResponseQueue ioHandler logicHandler => server.setResponseQueue ioHandler logicHandler
  | .post logicHandler response => server.enqueueResponse logicHandler response

/-- The server of `main`: one queue, every logic handler started on it, and IO handlers made
with it by the factory. -/
def initial : Server κ ι :=
  { requestQueue := []
    ioHandlers := fun _ => .new (some .requests)
    logicHandlers := fun _ => (LogicHandler.new (some .requests)).start }

end Server

/-- A callback after which an IO handler runs no other. -/
def Callback.Final (callback : Callback) : Prop :=
  callback = .onError ∨ callback = .requestComplete

instance (callback : Callback) : Decidable callback.Final := inferInstanceAs (Decidable (_ ∨ _))

namespace Server

variable {κ ι : Type} [DecidableEq κ] [DecidableEq ι]

/-- `onEOM` runs at most once for each IO handler. -/
def EomOnce (server : Server κ ι) : ServerAction κ ι → Prop
  | .callback ioHandler callback =>
    callback = .onEOM → callback ∉ (server.ioHandlers ioHandler).callbacks
  | _ => True

/-- No callback runs after `onError` or `requestComplete`. -/
def FinalLast (server : Server κ ι) : ServerAction κ ι → Prop
  | .callback ioHandler _ =>
    ∀ earlier ∈ (server.ioHandlers ioHandler).callbacks, ¬earlier.Final
  | _ => True

/-- The orders of callbacks proxygen allows. -/
def InOrder (server : Server κ ι) (action : ServerAction κ ι) : Prop :=
  server.EomOnce action ∧ server.FinalLast action

instance (server : Server κ ι) : ∀ action, Decidable (server.EomOnce action)
  | .callback .. => inferInstanceAs (Decidable (_ → _))
  | .loop .. | .stop .. | .setResponseQueue .. | .post .. => inferInstanceAs (Decidable True)

instance (server : Server κ ι) : ∀ action, Decidable (server.FinalLast action)
  | .callback .. => inferInstanceAs (Decidable (∀ _ ∈ _, _))
  | .loop .. | .stop .. | .setResponseQueue .. | .post .. => inferInstanceAs (Decidable True)

instance (server : Server κ ι) (action : ServerAction κ ι) : Decidable (server.InOrder action) :=
  inferInstanceAs (Decidable (_ ∧ _))

end Server

end ApiPack2
