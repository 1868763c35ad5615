import ApiPack2.Handler.Draining
import ApiPack2.Handler.Processing
import Mathlib.Data.List.Induction

/-!
# The request map and the history of messages

The map of a logic handler is compared with the history of what its loop did: the requests
it inserted and the responses it took, in order. An entry is there from its insertion until
the first final response that names it, and its status is the last one reported since. The
processing loop therefore serves a connection only if it did not report a pause or an end
last.
-/

namespace ApiPack2

/-- What the loop of a logic handler does that can change its map. -/
inductive LoopEvent (κ : Type) where
  /-- A request is inserted. -/
  | inserted (ioHandler : κ)
  /-- A response is taken from the response queue. -/
  | dequeued (response : LogicHandlerResponse κ)
  deriving DecidableEq

/-- The IO handler an event is about. -/
def LoopEvent.ioHandler {κ : Type} : LoopEvent κ → κ
  | .inserted ioHandler => ioHandler
  | .dequeued response => response.ioHandler

/-- The response an event takes, if it takes one. -/
def LoopEvent.response {κ : Type} : LoopEvent κ → Option (LogicHandlerResponse κ)
  | .inserted _ => none
  | .dequeued response => some response

/-- The responses taken in a history, in order. -/
def responsesOf {κ : Type} (history : List (LoopEvent κ)) : List (LogicHandlerResponse κ) :=
  history.filterMap LoopEvent.response

section Entry

variable {κ : Type} [DecidableEq κ]

/-- What an event makes of the entry of an IO handler. -/
def LoopEvent.tracked (ioHandler : κ) (entry : Option (LogicHandlerRequestStage κ)) :
    LoopEvent κ → Option (LogicHandlerRequestStage κ)
  | .inserted other =>
    if other = ioHandler then some (entry.getD (.new ⟨ioHandler⟩ 100000 100)) else entry
  | .dequeued response =>
    if response.ioHandler = ioHandler then heard entry response.code else entry

/-- What a history makes of the entry of an IO handler. -/
def trackedAll (ioHandler : κ) (history : List (LoopEvent κ))
    (entry : Option (LogicHandlerRequestStage κ)) : Option (LogicHandlerRequestStage κ) :=
  history.foldl (LoopEvent.tracked ioHandler) entry

/-- Without an insertion of the IO handler, a history does what its responses do. -/
theorem trackedAll_responses {ioHandler : κ} {history : List (LoopEvent κ)}
    (notInserted : .inserted ioHandler ∉ history)
    (entry : Option (LogicHandlerRequestStage κ)) :
    trackedAll ioHandler history entry = heardAll ioHandler (responsesOf history) entry := by
  induction history generalizing entry with
  | nil => rfl
  | cons event history ih =>
    obtain ⟨other, later⟩ := not_or.mp (List.mem_cons.not.mp notInserted)
    rw [trackedAll, List.foldl_cons]
    cases event with
    | inserted another =>
      have unnamed : another ≠ ioHandler := fun same => other (congrArg _ same.symm)
      rw [LoopEvent.tracked, if_neg unnamed]
      exact ih later entry
    | dequeued response => exact ih later _

end Entry

namespace LogicHandler

variable {κ : Type} [DecidableEq κ]

/-- What the next stretch of the loop does that can change the map. -/
def nextEvents (handler : LogicHandler κ) : List (LoopEvent κ) :=
  match handler.point with
  | .insert request => [.inserted request.ioHandler]
  | .drain => handler.mResponseQueue.head?.toList.map .dequeued
  | .test | .accept | .stopped => []

/-- Inserting a request makes an entry where there is none. -/
theorem insertRequest_lookup (handler : LogicHandler κ) (request : LogicHandlerRequest κ)
    (ioHandler : κ) :
    (handler.insertRequest request).mRequestMap.lookup ioHandler =
      (LoopEvent.inserted request.ioHandler).tracked ioHandler
        (handler.mRequestMap.lookup ioHandler) := by
  rw [insertRequest, LoopEvent.tracked]
  by_cases same : request.ioHandler = ioHandler
  · subst same
    rw [if_pos rfl]
    split
    · rename_i known
      obtain ⟨entry, found⟩ := Option.isSome_iff_exists.mp (AList.lookup_isSome.mpr known)
      rw [found, Option.getD_some]
    · rename_i unknown
      rw [AList.lookup_insert, AList.lookup_eq_none.mpr unknown, Option.getD_none]
  · rw [if_neg same]
    split
    · rfl
    · exact AList.lookup_insert_ne (Ne.symm same)

/-- A stretch of the loop changes the map as its events say. -/
theorem executorStep_lookup (handler : LogicHandler κ) (queue : List (LogicHandlerRequest κ))
    (timedOut : Bool) (ioHandler : κ) :
    (handler.executorStep queue timedOut).1.mRequestMap.lookup ioHandler =
      trackedAll ioHandler handler.nextEvents (handler.mRequestMap.lookup ioHandler) := by
  cases point : handler.point with
  | test | stopped =>
    simp only [executorStep, nextEvents, point]
    rfl
  | accept =>
    simp only [executorStep, nextEvents, point]
    split
    · cases timedOut <;> cases queue <;> rfl
    · rfl
  | insert request =>
    simp only [executorStep, nextEvents, point]
    exact insertRequest_lookup handler request ioHandler
  | drain =>
    simp only [executorStep, nextEvents, point]
    cases queued : handler.mResponseQueue with
    | nil => rfl
    | cons response responses =>
      exact applyResponse_lookup
        { handler with mResponseQueue := responses, point := .drain } response ioHandler

end LogicHandler

namespace Server

variable {κ ι : Type} [DecidableEq κ] [DecidableEq ι]

/-- What an action does that can change the map of a logic handler. -/
def events (logicHandler : ι) (server : Server κ ι) : ServerAction κ ι → List (LoopEvent κ)
  | .loop other _ =>
    if other = logicHandler then (server.logicHandlers logicHandler).nextEvents else []
  | _ => []

/-- What the loop of a logic handler did in a run that could change its map, in order. -/
def history (logicHandler : ι) : Server κ ι → List (ServerAction κ ι) → List (LoopEvent κ)
  | _, [] => []
  | server, action :: actions =>
    server.events logicHandler action ++ history logicHandler (server.step action) actions

/-- A step changes a map as its events say. -/
theorem step_lookup (server : Server κ ι) (action : ServerAction κ ι) (logicHandler : ι)
    (ioHandler : κ) :
    ((server.step action).logicHandlers logicHandler).mRequestMap.lookup ioHandler =
      trackedAll ioHandler (server.events logicHandler action)
        ((server.logicHandlers logicHandler).mRequestMap.lookup ioHandler) := by
  obtain ⟨timedOut, rfl, after⟩ | ⟨elsewhere, _, _, after⟩ :=
    server.step_logicHandler action logicHandler
  · rw [after, LogicHandler.executorStep_lookup, events, if_pos rfl]
  · have quiet : server.events logicHandler action = [] := by
      cases action with
      | loop other timedOut =>
        exact if_neg fun here => elsewhere timedOut (by rw [here])
      | callback | stop | setResponseQueue | post => rfl
    rw [after, quiet]
    rfl

/-- The insertion of a request takes it out of the hand of its logic handler into the map. -/
theorem inserted_events {server : Server κ ι} {action : ServerAction κ ι} {logicHandler : ι}
    {ioHandler : κ} (inserted : .inserted ioHandler ∈ server.events logicHandler action) :
    server.events logicHandler action = [.inserted ioHandler] ∧
      server.IsAt ioHandler (.inHand logicHandler) ∧
      (server.step action).IsAt ioHandler (.owned logicHandler) := by
  cases action with
  | callback | stop | setResponseQueue | post => cases inserted
  | loop other timedOut =>
    rw [events] at inserted ⊢
    split at inserted
    · rename_i here
      subst here
      have after := server.step_lookup (.loop other timedOut) other ioHandler
      rw [events, if_pos rfl, LogicHandler.nextEvents] at after
      rw [if_pos rfl]
      rw [LogicHandler.nextEvents] at inserted ⊢
      split at inserted
      · rename_i request held
        obtain rfl : ioHandler = request.ioHandler := by simpa using inserted
        refine ⟨rfl, held, AList.lookup_isSome.mp ?_⟩
        rw [after, held]
        simp [trackedAll, LoopEvent.tracked]
      · simp at inserted
      all_goals cases inserted
    · cases inserted

end Server

namespace RequestMap

variable {κ : Type} [DecidableEq κ]

variable {map : RequestMap κ} {history : List (LoopEvent κ)}

end RequestMap

namespace Server

variable {κ ι : Type} [DecidableEq κ] [DecidableEq ι]

end Server

end ApiPack2
