import ApiPack2.Handler.LogicHandler

/-!
# The life of the handler's thread

The owner of a `LogicHandler` starts and stops its thread, and destroys the handler. Between
the calls of the owner, and while it is in a `join`, the loop of the thread goes on, and the
other threads use the queues. What happens to the thread objects is recorded in a list of
events.
-/

namespace ApiPack2

/-- `std::thread *mThread`, with the state of the thread object that it points to. The objects
are numbered as they are constructed. -/
inductive ThreadPtr where
  | null
  | running (thread : Nat)
  | joined (thread : Nat)
  deriving DecidableEq

/-- Where the owner of a handler is. -/
inductive OwnerPoint where
  /-- Between two calls. -/
  | idle
  /-- In the `join` of `stopAndWait`. -/
  | waiting
  /-- In the `join` of the destructor. -/
  | destroying
  /-- After the destructor. -/
  | destroyed
  /-- Past the dereference of a null pointer. -/
  | crashed
  deriving DecidableEq

/-- The calls of the owner of a handler. -/
inductive OwnerCall where
  | start
  | stop
  | stopAndWait
  | destroy
  deriving DecidableEq

/-- What happens to the thread objects, the run flag and the loop. -/
inductive ThreadEvent where
  /-- A thread object is constructed. -/
  | constructed (thread : Nat)
  /-- `join` is called. -/
  | join (thread : Nat)
  /-- `join` returns. -/
  | joined (thread : Nat)
  /-- A thread object is deleted. -/
  | deleted (thread : Nat)
  /-- `mThread` is dereferenced when null. -/
  | nullDereference
  /-- The owner clears the run flag. -/
  | cleared
  /-- The loop starts an iteration. -/
  | iteration
  deriving DecidableEq

/-- A `LogicHandler` with its owner and the shared request queue. -/
structure HandlerLife (κ : Type) where
  /-- The handler. -/
  handler : LogicHandler κ
  /-- Requests no logic handler has taken yet. -/
  requestQueue : List (LogicHandlerRequest κ)
  /-- The thread. -/
  mThread : ThreadPtr
  /-- Where the owner is. -/
  owner : OwnerPoint
  /-- Number of thread objects constructed so far. -/
  threads : Nat
  /-- What has happened, in order. -/
  events : List ThreadEvent

/-- What can happen next. -/
inductive LifeAction (κ : Type) where
  /-- The owner makes a call. -/
  | call (call : OwnerCall)
  /-- The `join` the owner is in returns. -/
  | joinReturns
  /-- A stretch of the loop; its wait for a request may give up. -/
  | loop (timedOut : Bool)
  /-- Other threads leave the shared queue with these requests. -/
  | share (requests : List (LogicHandlerRequest κ))
  /-- A message arrives on the response queue. -/
  | post (response : LogicHandlerResponse κ)
  deriving DecidableEq

namespace HandlerLife

variable {κ : Type}

/-- A new handler, with a shared queue or none. -/
def new (queue : Option RequestQueuePtr) (requests : List (LogicHandlerRequest κ)) :
    HandlerLife κ :=
  { handler := .new queue
    requestQueue := requests
    mThread := .null
    owner := .idle
    threads := 0
    events := [] }

/-- `LogicHandler::start`. -/
def start (life : HandlerLife κ) : HandlerLife κ :=
  if life.mThread = .null then
    { life with
      handler := life.handler.start
      mThread := .running life.threads
      threads := life.threads + 1
      events := life.events ++ [.constructed life.threads] }
  else life

/-- `LogicHandler::stop`. -/
def stop (life : HandlerLife κ) : HandlerLife κ :=
  { life with handler := life.handler.stop, events := life.events ++ [.cleared] }

/-- `mThread->join()`, where the owner waits at the given point. -/
def join (life : HandlerLife κ) (point : OwnerPoint) : HandlerLife κ :=
  match life.mThread with
  | .null => { life with owner := .crashed, events := life.events ++ [.nullDereference] }
  | .running thread => { life with owner := point, events := life.events ++ [.join thread] }
  -- the exception of `join` goes to the owner
  | .joined thread => { life with events := life.events ++ [.join thread] }

/-- `LogicHandler::stopAndWait`, up to the return of `join`. -/
def stopAndWait (life : HandlerLife κ) : HandlerLife κ := life.stop.join .waiting

/-- `LogicHandler::~LogicHandler`, up to the return of `join`. -/
def destroy (life : HandlerLife κ) : HandlerLife κ :=
  match life.mThread with
  | .running _ => life.stop.join .destroying
  -- a thread that has been joined is not joinable
  | .null | .joined _ => { life with owner := .destroyed }

/-- A call of the owner. -/
def call (life : HandlerLife κ) : OwnerCall → HandlerLife κ
  | .start => life.start
  | .stop => life.stop
  | .stopAndWait => life.stopAndWait
  | .destroy => life.destroy

/-- What the owner does once its `join` has returned. -/
def joinReturns (life : HandlerLife κ) : HandlerLife κ :=
  match life.owner, life.mThread with
  | .waiting, .running thread =>
    { life with
      mThread := .joined thread
      owner := .idle
      events := life.events ++ [.joined thread] }
  | .destroying, .running thread =>
    { life with
      mThread := .null
      owner := .destroyed
      events := life.events ++ [.joined thread, .deleted thread] }
  | _, _ => life

variable [DecidableEq κ]

/-- A stretch of the loop. -/
def loop (life : HandlerLife κ) (timedOut : Bool) : HandlerLife κ :=
  let (handler, queue) := life.handler.executorStep life.requestQueue timedOut
  { life with
    handler := handler
    requestQueue := queue
    events := if life.handler.point = .test ∧ life.handler.mIsRunning = true then
      life.events ++ [.iteration] else life.events }

/-- One action. -/
def step (life : HandlerLife κ) : LifeAction κ → HandlerLife κ
  | .call call => life.call call
  | .joinReturns => life.joinReturns
  | .loop timedOut => life.loop timedOut
  | .share requests => { life with requestQueue := requests }
  | .post response =>
    { life with handler :=
      { life.handler with mResponseQueue := life.handler.mResponseQueue ++ [response] } }

/-- The owner makes one call at a time, and `join` returns once the thread has ended. -/
def Enabled (life : HandlerLife κ) : LifeAction κ → Prop
  | .call _ => life.owner = .idle
  | .joinReturns =>
    (life.owner = .waiting ∨ life.owner = .destroying) ∧ life.handler.point = .stopped
  | .loop _ | .share _ | .post _ => True

instance (life : HandlerLife κ) : ∀ action, Decidable (life.Enabled action)
  | .call _ => inferInstanceAs (Decidable (_ = _))
  | .joinReturns => inferInstanceAs (Decidable (_ ∧ _))
  | .loop _ | .share _ | .post _ => inferInstanceAs (Decidable True)

/-- No null pointer is dereferenced, no thread joined again, no iteration started after a stop,
and the destructor leaves no thread object. -/
structure Sound (life : HandlerLife κ) : Prop where
  /-- `mThread` is not dereferenced when null. -/
  dereferences : .nullDereference ∉ life.events
  /-- `join` is not called on a thread that has been joined. -/
  joins : ∀ thread, ¬[.joined thread, .join thread].Sublist life.events
  /-- Once the destructor is done, every thread object has been joined and deleted once. -/
  released : life.owner = .destroyed → ∀ thread, .constructed thread ∈ life.events →
    life.events.count (.joined thread) = 1 ∧ life.events.count (.deleted thread) = 1
  /-- Once the flag of a thread has been cleared, its loop starts no further iteration. -/
  halts : ∀ thread, ¬[.constructed thread, .cleared, .iteration].Sublist life.events

/-- The owner makes no further call. -/
def Finished (life : HandlerLife κ) : Prop := life.owner = .destroyed ∨ life.owner = .crashed

end HandlerLife

end ApiPack2
