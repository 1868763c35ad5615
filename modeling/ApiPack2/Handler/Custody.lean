import ApiPack2.Handler.Server
import ApiPack2.Lib.Transition
import Mathlib.Logic.Relation

/-!
# Custody of the requests

Every request is in one place: not made yet, in the shared queue, in the hand of a logic
handler between the queue and its map, in the map of a logic handler, or removed from it by
a response. The places form the abstract machine the server refines: each step of the server
leaves a request where it is or moves it one place along.
-/

namespace ApiPack2

/-- Where a request is. -/
inductive Place (ι : Type) where
  /-- Its IO handler has not run `onEOM`. -/
  | outside
  /-- In the shared queue. -/
  | queued
  /-- Taken from the queue by a logic handler and not inserted yet. -/
  | inHand (logicHandler : ι)
  /-- In the map of a logic handler. -/
  | owned (logicHandler : ι)
  /-- Removed from the map of a logic handler by a response. -/
  | removed (logicHandler : ι)
  deriving DecidableEq

/-- The ways of a request from place to place. -/
inductive Place.Next {ι : Type} : Place ι → Place ι → Prop
  /-- Its IO handler runs `onEOM`. -/
  | made : Next .outside .queued
  /-- A logic handler takes it from the queue. -/
  | taken (logicHandler : ι) : Next .queued (.inHand logicHandler)
  /-- This logic handler puts it into its map. -/
  | inserted (logicHandler : ι) : Next (.inHand logicHandler) (.owned logicHandler)
  /-- A response removes it from this map. -/
  | erased (logicHandler : ι) : Next (.owned logicHandler) (.removed logicHandler)

namespace LogicHandler

variable {κ : Type} [DecidableEq κ]

/-- What a stretch of the loop does to the requests: nothing, or one request is taken from
the queue, put into the map, or removed from it. -/
inductive Move (handler : LogicHandler κ) (queue : List (LogicHandlerRequest κ)) :
    LogicHandler κ → List (LogicHandlerRequest κ) → Prop where
  /-- No request moves. -/
  | stays (after : LogicHandler κ) (keys : after.mRequestMap.keys = handler.mRequestMap.keys)
      (erased : after.erased = handler.erased) (limit : after.mMaxRequest = handler.mMaxRequest)
      (free : ∀ request, handler.point ≠ .insert request)
      (stillFree : ∀ request, after.point ≠ .insert request) : Move handler queue after queue
  /-- A request is taken from the queue while the map has room. -/
  | takes (request : LogicHandlerRequest κ) (rest : List (LogicHandlerRequest κ))
      (front : queue = request :: rest) (room : handler.mRequestMap.size < handler.mMaxRequest)
      (free : ∀ request, handler.point ≠ .insert request) :
      Move handler queue { handler with point := .insert request } rest
  /-- The request in hand is put into the map. -/
  | inserts (request : LogicHandlerRequest κ) (held : handler.point = .insert request) :
      Move handler queue { handler.insertRequest request with point := .drain } queue
  /-- An entry is removed from the map. -/
  | erases (ioHandler : κ) (responses : List (LogicHandlerResponse κ))
      (known : ioHandler ∈ handler.mRequestMap) (draining : handler.point = .drain) :
      Move handler queue
        ({ handler with mResponseQueue := responses }.eraseRequest ioHandler) queue

/-- Removing an entry that does not exist changes nothing. -/
theorem eraseRequest_unknown (handler : LogicHandler κ) {ioHandler : κ}
    (unknown : ioHandler ∉ handler.mRequestMap) :
    handler.eraseRequest ioHandler = handler := by
  have map : handler.mRequestMap.erase ioHandler = handler.mRequestMap :=
    AList.ext (List.kerase_of_notMem_keys unknown)
  rw [eraseRequest, if_neg unknown, map]

/-- Setting a status keeps the keys. -/
theorem setIoCode_keys (handler : LogicHandler κ) (response : LogicHandlerResponse κ) :
    (handler.setIoCode response).mRequestMap.keys = handler.mRequestMap.keys := by
  rw [setIoCode]
  split
  · rfl
  · exact AList.keys_replace ..

/-- Setting a status changes the map only. -/
theorem setIoCode_same (handler : LogicHandler κ) (response : LogicHandlerResponse κ) :
    ∃ mRequestMap, handler.setIoCode response = { handler with mRequestMap } := by
  rw [setIoCode]
  split
  · exact ⟨handler.mRequestMap, rfl⟩
  · exact ⟨_, rfl⟩

/-- A response removes the entry it names if its code is final, and sets a status else. -/
theorem applyResponse_eq (handler : LogicHandler κ) (response : LogicHandlerResponse κ) :
    handler.applyResponse response =
      if response.code = .error ∨ response.code = .terminated then
        handler.eraseRequest response.ioHandler
      else handler.setIoCode response := by
  cases code : response.code <;> simp [applyResponse, code]

/-- A map with room for a request is within its limit once the request is in it. -/
theorem insertRequest_limit {handler : LogicHandler κ} (request : LogicHandlerRequest κ)
    (room : handler.mRequestMap.size < handler.mMaxRequest) :
    (handler.insertRequest request).mRequestMap.size ≤
      (handler.insertRequest request).mMaxRequest := by
  rw [insertRequest]
  split
  · exact Nat.le_of_lt room
  · rename_i new
    rw [RequestMap.size, AList.keys_insert, List.erase_of_not_mem new]
    exact room

/-- A removal does not make the map larger. -/
theorem eraseRequest_size (handler : LogicHandler κ) (ioHandler : κ) :
    (handler.eraseRequest ioHandler).mRequestMap.size ≤ handler.mRequestMap.size := by
  rw [RequestMap.size, eraseRequest, AList.keys_erase]
  exact List.length_erase_le

/-- A stretch of the loop is one of the moves. -/
theorem executorStep_move (handler : LogicHandler κ) (queue : List (LogicHandlerRequest κ))
    (timedOut : Bool) :
    Move handler queue (handler.executorStep queue timedOut).1
      (handler.executorStep queue timedOut).2 := by
  have stays (after : LogicHandler κ) (free : ∀ request, handler.point ≠ .insert request)
      (stillFree : ∀ request, after.point ≠ .insert request)
      (same : ∃ mIsRunning mResponseQueue point, after = { handler with
        mIsRunning, mResponseQueue, point }) : Move handler queue after queue := by
    obtain ⟨mIsRunning, mResponseQueue, point, rfl⟩ := same
    exact .stays _ rfl rfl rfl free stillFree
  unfold LogicHandler.executorStep
  split
  · rename_i point
    refine stays _ (by simp [point]) ?_ ⟨_, _, _, rfl⟩
    cases handler.mIsRunning <;> simp
  · rename_i point
    split
    · rename_i room
      split
      · exact .takes _ _ rfl room (by simp [point])
      · exact stays _ (by simp [point]) (by simp) ⟨_, _, _, rfl⟩
    · exact stays _ (by simp [point]) (by simp) ⟨_, _, _, rfl⟩
  · rename_i request point
    exact .inserts request point
  · rename_i point
    split
    · rename_i response responses queued
      let emptied := { handler with mResponseQueue := responses }
      rw [applyResponse_eq]
      split
      · by_cases known : response.ioHandler ∈ handler.mRequestMap
        · exact .erases _ responses known point
        · rw [eraseRequest_unknown emptied known]
          exact stays _ (by simp [point]) (by simp [emptied, point]) ⟨_, _, _, rfl⟩
      · have keys := setIoCode_keys emptied response
        obtain ⟨map, same⟩ := setIoCode_same emptied response
        rw [same] at keys ⊢
        exact .stays _ keys rfl rfl (by simp [point]) (by simp [emptied, point])
    · exact stays _ (by simp [point]) (by simp) ⟨_, _, _, rfl⟩
  · rename_i point
    exact stays _ (by simp [point]) (by simp [point]) ⟨_, _, _, rfl⟩

end LogicHandler

namespace Server

variable {κ ι : Type}

/-- The request of an IO handler is at a place. -/
def IsAt (server : Server κ ι) (ioHandler : κ) : Place ι → Prop
  | .outside => Callback.onEOM ∉ (server.ioHandlers ioHandler).callbacks
  | .queued => ⟨ioHandler⟩ ∈ server.requestQueue
  | .inHand logicHandler => (server.logicHandlers logicHandler).point = .insert ⟨ioHandler⟩
  | .owned logicHandler => ioHandler ∈ (server.logicHandlers logicHandler).mRequestMap
  | .removed logicHandler => ioHandler ∈ (server.logicHandlers logicHandler).erased

/-- The request of an IO handler is at a place and at no other. -/
def OnlyAt (server : Server κ ι) (ioHandler : κ) (there : Place ι) : Prop :=
  ∀ place, server.IsAt ioHandler place ↔ place = there

/-- A request that moves is at its new place only, if all its other places are unchanged. -/
theorem OnlyAt.moves {server after : Server κ ι} {ioHandler : κ} {there next : Place ι}
    (only : server.OnlyAt ioHandler there) (left : ¬after.IsAt ioHandler there)
    (arrived : after.IsAt ioHandler next)
    (others : ∀ place, place ≠ there → place ≠ next →
      (after.IsAt ioHandler place ↔ server.IsAt ioHandler place)) :
    after.OnlyAt ioHandler next := by
  intro place
  by_cases new : place = next
  · simp only [new, arrived]
  by_cases old : place = there
  · simp only [old ▸ left, new]
  · simp only [others place old new, only place, old, new]

/-- A request whose places are unchanged stays where it is. -/
theorem OnlyAt.stays {server after : Server κ ι} {ioHandler : κ} {there : Place ι}
    (only : server.OnlyAt ioHandler there)
    (same : ∀ place, after.IsAt ioHandler place ↔ server.IsAt ioHandler place) :
    after.OnlyAt ioHandler there :=
  fun place => (same place).trans (only place)

/-- Every request is in one place, no map outgrows its limit, and the parts are wired as
`main` does it. -/
structure Custody (server : Server κ ι) : Prop where
  /-- Every request is in one place. -/
  placed : ∀ ioHandler, ∃ there, server.OnlyAt ioHandler there
  /-- No request is twice in the queue. -/
  once : server.requestQueue.Nodup
  /-- No map outgrows its limit. -/
  limit : ∀ logicHandler, (server.logicHandlers logicHandler).mRequestMap.size ≤
    (server.logicHandlers logicHandler).mMaxRequest
  /-- A request is in hand only while the map has room for it. -/
  room : ∀ logicHandler request,
    (server.logicHandlers logicHandler).point = .insert request →
      (server.logicHandlers logicHandler).mRequestMap.size <
        (server.logicHandlers logicHandler).mMaxRequest
  /-- Every IO handler knows the queue. -/
  wired : ∀ ioHandler, (server.ioHandlers ioHandler).mRequestQueue = some .requests

/-- In custody, a request that is at a place is nowhere else. -/
theorem Custody.only {server : Server κ ι} (custody : server.Custody) {ioHandler : κ}
    {place : Place ι} (here : server.IsAt ioHandler place) : server.OnlyAt ioHandler place := by
  obtain ⟨there, only⟩ := custody.placed ioHandler
  exact (only place).mp here ▸ only

/-- The request of an IO handler has been inserted into the map of a logic handler. -/
def Inserted (ioHandler : κ) (logicHandler : ι) (server : Server κ ι) : Prop :=
  server.IsAt ioHandler (.owned logicHandler) ∨ server.IsAt ioHandler (.removed logicHandler)

/-- Every request stays where it is or moves one place along. -/
def MovesAlong (server after : Server κ ι) : Prop :=
  ∀ ioHandler there, server.OnlyAt ioHandler there →
    ∃ next, (next = there ∨ there.Next next) ∧ after.OnlyAt ioHandler next

/-- A request that was inserted stays in its map or is removed from it. -/
theorem Inserted.movesAlong {server after : Server κ ι} {ioHandler : κ} {logicHandler : ι}
    (inserted : server.Inserted ioHandler logicHandler) (custody : server.Custody)
    (moves : server.MovesAlong after) : after.Inserted ioHandler logicHandler := by
  rcases inserted with owned | removed
  · obtain ⟨next, rfl | way, only⟩ := moves ioHandler _ (custody.only owned)
    · exact .inl ((only _).mpr rfl)
    · cases way
      exact .inr ((only _).mpr rfl)
  · obtain ⟨next, rfl | way, only⟩ := moves ioHandler _ (custody.only removed)
    · exact .inr ((only _).mpr rfl)
    · cases way

/-- A request that was inserted is in no hand. -/
theorem Inserted.not_inHand {server : Server κ ι} {ioHandler : κ} {logicHandler : ι}
    (inserted : server.Inserted ioHandler logicHandler) (custody : server.Custody) (other : ι) :
    ¬server.IsAt ioHandler (.inHand other) := by
  intro held
  rcases inserted with here | here <;> cases (custody.only here _).mp held

/-- Requests in one place are in one place after they moved along. -/
theorem MovesAlong.placed {server after : Server κ ι} (moves : server.MovesAlong after)
    (placed : ∀ ioHandler, ∃ there, server.OnlyAt ioHandler there) (ioHandler : κ) :
    ∃ there, after.OnlyAt ioHandler there := by
  obtain ⟨there, only⟩ := placed ioHandler
  obtain ⟨next, -, onlyNext⟩ := moves ioHandler there only
  exact ⟨next, onlyNext⟩

section Logic

variable [DecidableEq ι]

/-- The server after a stretch of the loop of one logic handler. -/
def withLogic (server : Server κ ι) (logicHandler : ι) (handler : LogicHandler κ)
    (queue : List (LogicHandlerRequest κ)) : Server κ ι :=
  { server with
    requestQueue := queue
    logicHandlers := Function.update server.logicHandlers logicHandler handler }

variable {server : Server κ ι} {logicHandler : ι} {handler : LogicHandler κ}
  {queue : List (LogicHandlerRequest κ)}

/-- What a change of one logic handler keeps is kept for all of them. -/
theorem withLogic_iff (property : LogicHandler κ → Prop) (other : ι)
    (kept : other = logicHandler →
      (property handler ↔ property (server.logicHandlers logicHandler))) :
    property ((server.withLogic logicHandler handler queue).logicHandlers other) ↔
      property (server.logicHandlers other) := by
  by_cases here : other = logicHandler
  · simp only [withLogic, here, Function.update_self]
    exact kept here
  · simp only [withLogic, Function.update_of_ne here]

/-- What holds of all logic handlers holds after a change of one, if it holds of this one. -/
theorem withLogic_all (property : LogicHandler κ → Prop)
    (all : ∀ other, property (server.logicHandlers other)) (new : property handler) (other : ι) :
    property ((server.withLogic logicHandler handler queue).logicHandlers other) :=
  (withLogic_iff property other fun _ => iff_of_true new (all logicHandler)).mpr (all other)

/-- A stretch of the loop changes the places of its own logic handler and the queue only. -/
theorem withLogic_isAt {ioHandler : κ} {place : Place ι}
    (queued : place = .queued → (⟨ioHandler⟩ ∈ queue ↔ server.IsAt ioHandler .queued))
    (inHand : place = .inHand logicHandler → (handler.point = .insert ⟨ioHandler⟩ ↔
      server.IsAt ioHandler (.inHand logicHandler)))
    (owned : place = .owned logicHandler → (ioHandler ∈ handler.mRequestMap ↔
      server.IsAt ioHandler (.owned logicHandler)))
    (removed : place = .removed logicHandler → (ioHandler ∈ handler.erased ↔
      server.IsAt ioHandler (.removed logicHandler))) :
    (server.withLogic logicHandler handler queue).IsAt ioHandler place ↔
      server.IsAt ioHandler place := by
  cases place with
  | outside => exact Iff.rfl
  | queued => exact queued rfl
  | inHand other =>
    exact withLogic_iff (·.point = .insert ⟨ioHandler⟩) other fun here => inHand (by rw [here])
  | owned other =>
    exact withLogic_iff (ioHandler ∈ ·.mRequestMap) other fun here => owned (by rw [here])
  | removed other =>
    exact withLogic_iff (ioHandler ∈ ·.erased) other fun here => removed (by rw [here])

/-- The places of a logic handler after its own step. -/
theorem withLogic_isAt_self {ioHandler : κ} :
    ((server.withLogic logicHandler handler queue).IsAt ioHandler (.inHand logicHandler) ↔
      handler.point = .insert ⟨ioHandler⟩) ∧
    ((server.withLogic logicHandler handler queue).IsAt ioHandler (.owned logicHandler) ↔
      ioHandler ∈ handler.mRequestMap) ∧
    ((server.withLogic logicHandler handler queue).IsAt ioHandler (.removed logicHandler) ↔
      ioHandler ∈ handler.erased) := by
  simp only [IsAt, withLogic, Function.update_self, true_and]

/-- A request whose places in its logic handler and the queue are unchanged stays. -/
theorem OnlyAt.staysWithLogic {ioHandler : κ} {there : Place ι}
    (only : server.OnlyAt ioHandler there)
    (queued : ⟨ioHandler⟩ ∈ queue ↔ ⟨ioHandler⟩ ∈ server.requestQueue)
    (inHand : handler.point = .insert ⟨ioHandler⟩ ↔
      (server.logicHandlers logicHandler).point = .insert ⟨ioHandler⟩)
    (owned : ioHandler ∈ handler.mRequestMap ↔
      ioHandler ∈ (server.logicHandlers logicHandler).mRequestMap)
    (removed : ioHandler ∈ handler.erased ↔
      ioHandler ∈ (server.logicHandlers logicHandler).erased) :
    (server.withLogic logicHandler handler queue).OnlyAt ioHandler there :=
  only.stays fun _ => withLogic_isAt (fun _ => queued) (fun _ => inHand) (fun _ => owned)
    fun _ => removed

/-- A stretch of the loop that moves requests along keeps custody. -/
theorem Custody.withLogic (custody : server.Custody)
    (moves : server.MovesAlong (server.withLogic logicHandler handler queue))
    (once : queue.Nodup) (limit : handler.mRequestMap.size ≤ handler.mMaxRequest)
    (room : ∀ request, handler.point = .insert request →
      handler.mRequestMap.size < handler.mMaxRequest) :
    (server.withLogic logicHandler handler queue).Custody where
  placed := moves.placed custody.placed
  once := once
  limit := withLogic_all (fun handler => handler.mRequestMap.size ≤ handler.mMaxRequest)
    custody.limit limit
  room := withLogic_all (fun handler => ∀ request, handler.point = .insert request →
    handler.mRequestMap.size < handler.mMaxRequest) custody.room room
  wired := custody.wired

/-- A stretch of the loop that moves no request leaves them where they are. -/
theorem stays_moves
    (keys : handler.mRequestMap.keys = (server.logicHandlers logicHandler).mRequestMap.keys)
    (erased : handler.erased = (server.logicHandlers logicHandler).erased)
    (free : ∀ request, (server.logicHandlers logicHandler).point ≠ .insert request)
    (stillFree : ∀ request, handler.point ≠ .insert request) :
    server.MovesAlong (server.withLogic logicHandler handler server.requestQueue) := by
  intro ioHandler there only
  have inHand : handler.point = .insert ⟨ioHandler⟩ ↔
      (server.logicHandlers logicHandler).point = .insert ⟨ioHandler⟩ :=
    iff_of_false (stillFree _) (free _)
  have owned : ioHandler ∈ handler.mRequestMap ↔
      ioHandler ∈ (server.logicHandlers logicHandler).mRequestMap := by
    rw [AList.mem_keys, keys, ← AList.mem_keys]
  exact ⟨there, .inl rfl, only.staysWithLogic Iff.rfl inHand owned (by rw [erased])⟩

/-- The request taken from the queue moves into the hand of the logic handler. -/
theorem takes_moves {request : LogicHandlerRequest κ} (once : server.requestQueue.Nodup)
    (front : server.requestQueue = request :: queue)
    (free : ∀ request, (server.logicHandlers logicHandler).point ≠ .insert request) :
    server.MovesAlong (server.withLogic logicHandler
      { server.logicHandlers logicHandler with point := .insert request } queue) := by
  intro ioHandler there only
  by_cases here : request = ⟨ioHandler⟩
  · have queued : server.IsAt ioHandler .queued := by simp [IsAt, front, here]
    obtain rfl := (only .queued).mp queued
    rw [front, here, List.nodup_cons] at once
    refine ⟨_, .inr (.taken logicHandler), only.moves once.1 ?_ fun place old new => ?_⟩
    · exact withLogic_isAt_self.1.mpr (by rw [here])
    · exact withLogic_isAt (absurd · old) (absurd · new) (fun _ => Iff.rfl) fun _ => Iff.rfl
  · have queued : ⟨ioHandler⟩ ∈ queue ↔ ⟨ioHandler⟩ ∈ server.requestQueue := by
      simp [front, Ne.symm here]
    have inHand : (LoopPoint.insert request) = .insert ⟨ioHandler⟩ ↔
        (server.logicHandlers logicHandler).point = .insert ⟨ioHandler⟩ :=
      iff_of_false (by simp [here]) (free _)
    exact ⟨there, .inl rfl, only.staysWithLogic queued inHand Iff.rfl Iff.rfl⟩

variable [DecidableEq κ]

/-- The request in hand moves into the map of the logic handler. -/
theorem inserts_moves {request : LogicHandlerRequest κ}
    (held : (server.logicHandlers logicHandler).point = .insert request) :
    server.MovesAlong (server.withLogic logicHandler
      { (server.logicHandlers logicHandler).insertRequest request with point := .drain }
      server.requestQueue) := by
  intro ioHandler there only
  have kept : ((server.logicHandlers logicHandler).insertRequest request).erased =
      (server.logicHandlers logicHandler).erased := by
    rw [LogicHandler.insertRequest]
    split <;> rfl
  have removed : ioHandler ∈ ((server.logicHandlers logicHandler).insertRequest request).erased ↔
      ioHandler ∈ (server.logicHandlers logicHandler).erased := by rw [kept]
  by_cases here : request = ⟨ioHandler⟩
  · subst here
    obtain rfl := (only (.inHand logicHandler)).mp held
    -- the map does not hold the request yet, so the insertion takes effect
    have new : ioHandler ∉ (server.logicHandlers logicHandler).mRequestMap := fun known => by
      simpa using (only (.owned logicHandler)).mp known
    refine ⟨_, .inr (.inserted logicHandler), only.moves ?_ ?_ fun place old new => ?_⟩
    · simp [withLogic_isAt_self.1]
    · simp [withLogic_isAt_self.2.1, LogicHandler.insertRequest, new]
    · exact withLogic_isAt (fun _ => Iff.rfl) (absurd · old) (absurd · new) fun _ => removed
  · have other : ioHandler ≠ request.ioHandler := fun same => here (by rw [same])
    have owned : ioHandler ∈ ((server.logicHandlers logicHandler).insertRequest
        request).mRequestMap ↔ ioHandler ∈ (server.logicHandlers logicHandler).mRequestMap := by
      rw [LogicHandler.insertRequest]
      split
      · exact Iff.rfl
      · simp [other]
    exact ⟨there, .inl rfl, only.staysWithLogic Iff.rfl (by simp [held, here]) owned removed⟩

/-- The entry a response removes moves to the removals of the logic handler. -/
theorem erases_moves {gone : κ} {responses : List (LogicHandlerResponse κ)}
    (known : gone ∈ (server.logicHandlers logicHandler).mRequestMap) :
    server.MovesAlong (server.withLogic logicHandler
      ({ server.logicHandlers logicHandler with mResponseQueue := responses }.eraseRequest gone)
      server.requestQueue) := by
  intro ioHandler there only
  by_cases here : ioHandler = gone
  · subst here
    obtain rfl := (only (.owned logicHandler)).mp known
    refine ⟨_, .inr (.erased logicHandler), only.moves ?_ ?_ fun place old new => ?_⟩
    · simp [withLogic_isAt_self.2.1, LogicHandler.eraseRequest]
    · simp [withLogic_isAt_self.2.2, LogicHandler.eraseRequest, known]
    · exact withLogic_isAt (fun _ => Iff.rfl) (fun _ => Iff.rfl) (absurd · old) (absurd · new)
  · have owned : ioHandler ∈ ({ server.logicHandlers logicHandler with
        mResponseQueue := responses }.eraseRequest gone).mRequestMap ↔
          ioHandler ∈ (server.logicHandlers logicHandler).mRequestMap := by
      simp [LogicHandler.eraseRequest, here]
    have removed : ioHandler ∈ ({ server.logicHandlers logicHandler with
        mResponseQueue := responses }.eraseRequest gone).erased ↔
          ioHandler ∈ (server.logicHandlers logicHandler).erased := by
      simp [LogicHandler.eraseRequest, known, here]
    exact ⟨there, .inl rfl, only.staysWithLogic Iff.rfl Iff.rfl owned removed⟩

/-- A stretch of the loop moves requests along. -/
theorem withLogic_moves (custody : server.Custody)
    (move : (server.logicHandlers logicHandler).Move server.requestQueue handler queue) :
    server.MovesAlong (server.withLogic logicHandler handler queue) := by
  cases move with
  | stays _ keys erased limit free stillFree => exact stays_moves keys erased free stillFree
  | takes request rest front room free => exact takes_moves custody.once front free
  | inserts request held => exact inserts_moves held
  | erases gone responses known draining => exact erases_moves known

/-- A stretch of the loop keeps custody. -/
theorem Custody.move (custody : server.Custody)
    (move : (server.logicHandlers logicHandler).Move server.requestQueue handler queue) :
    (server.withLogic logicHandler handler queue).Custody := by
  have moves := withLogic_moves custody move
  have once := custody.once
  have limit := custody.limit logicHandler
  cases move with
  | stays _ keys erased sameLimit free stillFree =>
    have within : handler.mRequestMap.size ≤ handler.mMaxRequest := by
      rw [sameLimit, RequestMap.size, keys]
      exact limit
    exact custody.withLogic moves once within fun request held => absurd held (stillFree request)
  | takes request rest front room free =>
    have onceRest : queue.Nodup := by
      rw [front] at once
      exact once.of_cons
    exact custody.withLogic moves onceRest limit fun _ _ => room
  | inserts request held =>
    have room := custody.room logicHandler request held
    have within := LogicHandler.insertRequest_limit request room
    exact custody.withLogic moves once within nofun
  | erases gone responses known draining =>
    have smaller := LogicHandler.eraseRequest_size
      { server.logicHandlers logicHandler with mResponseQueue := responses } gone
    have free : ∀ request, (server.logicHandlers logicHandler).point ≠ .insert request := by
      simp [draining]
    exact custody.withLogic moves once (Nat.le_trans smaller limit) fun request held =>
      absurd held (free request)

/-- A stretch of the loop of any logic handler keeps custody and moves requests along. -/
theorem Custody.loop (custody : server.Custody) (timedOut : Bool) :
    (server.loop logicHandler timedOut).Custody ∧
      server.MovesAlong (server.loop logicHandler timedOut) := by
  have move := LogicHandler.executorStep_move (server.logicHandlers logicHandler)
    server.requestQueue timedOut
  exact ⟨custody.move move, withLogic_moves custody move⟩

end Logic

section Rest

/-- No request moves: the queue, the maps, the hands and the removals are the same, and so
are the IO handlers that ran `onEOM`. -/
structure Untouched (server after : Server κ ι) : Prop where
  /-- The queue is the same. -/
  requestQueue : after.requestQueue = server.requestQueue
  /-- The logic handlers differ in flags and more responses only. -/
  logicHandlers : ∀ logicHandler, ∃ mIsRunning responses,
    after.logicHandlers logicHandler =
      { server.logicHandlers logicHandler with
        mIsRunning
        mResponseQueue := (server.logicHandlers logicHandler).mResponseQueue ++ responses }
  /-- The same IO handlers ran `onEOM`. -/
  onEOM : ∀ ioHandler, Callback.onEOM ∈ (after.ioHandlers ioHandler).callbacks ↔
    Callback.onEOM ∈ (server.ioHandlers ioHandler).callbacks
  /-- The IO handlers know the same queues. -/
  mRequestQueue : ∀ ioHandler, (after.ioHandlers ioHandler).mRequestQueue =
    (server.ioHandlers ioHandler).mRequestQueue

/-- Nothing is touched by doing nothing. -/
theorem Untouched.refl (server : Server κ ι) : server.Untouched server :=
  ⟨rfl, fun _ => ⟨_, [], by rw [List.append_nil]⟩, fun _ => Iff.rfl, fun _ => rfl⟩

/-- Two changes that move no request move no request. -/
theorem Untouched.trans {server middle after : Server κ ι} (first : server.Untouched middle)
    (second : middle.Untouched after) : server.Untouched after where
  requestQueue := second.requestQueue.trans first.requestQueue
  logicHandlers logicHandler := by
    obtain ⟨_, earlier, before⟩ := first.logicHandlers logicHandler
    obtain ⟨mIsRunning, later, now⟩ := second.logicHandlers logicHandler
    exact ⟨mIsRunning, earlier ++ later, by rw [now, before, List.append_assoc]⟩
  onEOM ioHandler := (second.onEOM ioHandler).trans (first.onEOM ioHandler)
  mRequestQueue ioHandler := (second.mRequestQueue ioHandler).trans (first.mRequestQueue ioHandler)

/-- No place changes when no request moves. -/
theorem Untouched.isAt {server after : Server κ ι} (untouched : server.Untouched after)
    (ioHandler : κ) (place : Place ι) :
    after.IsAt ioHandler place ↔ server.IsAt ioHandler place := by
  cases place with
  | outside => exact not_congr (untouched.onEOM ioHandler)
  | queued => simp only [IsAt, untouched.requestQueue]
  | inHand logicHandler | owned logicHandler | removed logicHandler =>
    obtain ⟨_, _, same⟩ := untouched.logicHandlers logicHandler
    simp only [IsAt, same]

/-- Custody is kept when no request moves. -/
theorem Untouched.custody {server after : Server κ ι} (untouched : server.Untouched after)
    (custody : server.Custody) : after.Custody ∧ server.MovesAlong after := by
  have moves : server.MovesAlong after := fun ioHandler there only =>
    ⟨there, .inl rfl, only.stays (untouched.isAt ioHandler)⟩
  have once : after.requestQueue.Nodup := by
    rw [untouched.requestQueue]
    exact custody.once
  have limit (logicHandler : ι) : (after.logicHandlers logicHandler).mRequestMap.size ≤
      (after.logicHandlers logicHandler).mMaxRequest := by
    obtain ⟨_, _, same⟩ := untouched.logicHandlers logicHandler
    rw [same]
    exact custody.limit logicHandler
  have room (logicHandler : ι) (request : LogicHandlerRequest κ)
      (held : (after.logicHandlers logicHandler).point = .insert request) :
      (after.logicHandlers logicHandler).mRequestMap.size <
        (after.logicHandlers logicHandler).mMaxRequest := by
    obtain ⟨_, _, same⟩ := untouched.logicHandlers logicHandler
    rw [same] at held ⊢
    exact custody.room logicHandler request held
  have wired (ioHandler : κ) :
      (after.ioHandlers ioHandler).mRequestQueue = some .requests := by
    rw [untouched.mRequestQueue]
    exact custody.wired ioHandler
  exact ⟨⟨moves.placed custody.placed, once, limit, room, wired⟩, moves⟩

variable [DecidableEq κ] [DecidableEq ι]

omit [DecidableEq ι] in
/-- A change of one IO handler that keeps its queue and whether it ran `onEOM`. -/
theorem updateIoHandler_untouched (server : Server κ ι) (ioHandler : κ)
    (edit : IOHandler ι → IOHandler ι)
    (onEOM : Callback.onEOM ∈ (edit (server.ioHandlers ioHandler)).callbacks ↔
      Callback.onEOM ∈ (server.ioHandlers ioHandler).callbacks)
    (mRequestQueue : (edit (server.ioHandlers ioHandler)).mRequestQueue =
      (server.ioHandlers ioHandler).mRequestQueue) :
    server.Untouched (server.updateIoHandler ioHandler edit) where
  requestQueue := rfl
  logicHandlers _ := ⟨_, [], by rw [List.append_nil]; rfl⟩
  onEOM other := by
    by_cases here : other = ioHandler
    · simp only [updateIoHandler, here, Function.update_self, onEOM]
    · simp only [updateIoHandler, Function.update_of_ne here]
  mRequestQueue other := by
    by_cases here : other = ioHandler
    · simp only [updateIoHandler, here, Function.update_self, mRequestQueue]
    · simp only [updateIoHandler, Function.update_of_ne here]

omit [DecidableEq κ] in
/-- A change of the flag and the responses of one logic handler. -/
theorem updateLogicHandler_untouched (server : Server κ ι) (logicHandler : ι)
    (edit : LogicHandler κ → LogicHandler κ)
    (same : ∃ mIsRunning responses, edit (server.logicHandlers logicHandler) =
      { server.logicHandlers logicHandler with
        mIsRunning
        mResponseQueue := (server.logicHandlers logicHandler).mResponseQueue ++ responses }) :
    server.Untouched (server.updateLogicHandler logicHandler edit) where
  requestQueue := rfl
  logicHandlers other := by
    by_cases here : other = logicHandler
    · simpa only [updateLogicHandler, here, Function.update_self] using same
    · simp only [updateLogicHandler, Function.update_of_ne here]
      exact ⟨_, [], by rw [List.append_nil]⟩
  onEOM _ := Iff.rfl
  mRequestQueue _ := rfl

omit [DecidableEq κ] in
/-- Stopping a logic handler moves no request. -/
theorem stop_untouched (server : Server κ ι) (logicHandler : ι) :
    server.Untouched (server.updateLogicHandler logicHandler .stop) :=
  server.updateLogicHandler_untouched logicHandler _ ⟨_, [], by rw [List.append_nil]; rfl⟩

omit [DecidableEq κ] in
/-- A message on a response queue moves no request. -/
theorem enqueueResponse_untouched (server : Server κ ι) (logicHandler : ι)
    (response : LogicHandlerResponse κ) :
    server.Untouched (server.enqueueResponse logicHandler response) :=
  server.updateLogicHandler_untouched logicHandler _ ⟨_, _, rfl⟩

omit [DecidableEq κ] in
/-- A notification moves no request. -/
theorem handleResponseNotification_untouched (server : Server κ ι) (ioHandler : κ)
    (status : ResponseCode) :
    server.Untouched (server.handleResponseNotification ioHandler status) := by
  rw [handleResponseNotification]
  split
  · exact .refl server
  · exact server.enqueueResponse_untouched ..

/-- A status callback moves no request. -/
theorem setStatus_untouched (server : Server κ ι) (ioHandler : κ) (status : ResponseCode) :
    server.Untouched (server.setStatus ioHandler status) :=
  (server.updateIoHandler_untouched ioHandler _ Iff.rfl rfl).trans
    (handleResponseNotification_untouched _ ioHandler status)

/-- `setResponseQueue` moves no request. -/
theorem setResponseQueue_untouched (server : Server κ ι) (ioHandler : κ) (logicHandler : ι) :
    server.Untouched (server.setResponseQueue ioHandler logicHandler) := by
  have set := server.updateIoHandler_untouched ioHandler (fun handler =>
    { handler with mResponseQueue := some logicHandler }) Iff.rfl rfl
  simp only [setResponseQueue]
  split
  · exact set.trans (handleResponseNotification_untouched ..)
  · exact set

end Rest

section Runs

variable [DecidableEq κ] [DecidableEq ι]

/-- The server after an IO handler put its request into the queue. -/
def withRequest (server : Server κ ι) (ioHandler : κ) : Server κ ι :=
  { server with
    requestQueue := server.requestQueue ++ [⟨ioHandler⟩]
    ioHandlers := Function.update server.ioHandlers ioHandler
      { server.ioHandlers ioHandler with
        callbacks := (server.ioHandlers ioHandler).callbacks ++ [.onEOM] } }

omit [DecidableEq ι] in
/-- The request of an IO handler that runs `onEOM` for the first time moves into the queue. -/
theorem withRequest_moves {server : Server κ ι} {ioHandler : κ}
    (first : Callback.onEOM ∉ (server.ioHandlers ioHandler).callbacks) :
    server.MovesAlong (server.withRequest ioHandler) := by
  intro other there only
  by_cases here : other = ioHandler
  · subst here
    obtain rfl := (only .outside).mp first
    have left : ¬(server.withRequest other).IsAt other .outside := by simp [IsAt, withRequest]
    have arrived : (server.withRequest other).IsAt other .queued := by simp [IsAt, withRequest]
    refine ⟨_, .inr .made, only.moves left arrived fun place old new => ?_⟩
    cases place with
    | outside => exact absurd rfl old
    | queued => exact absurd rfl new
    | inHand | owned | removed => exact Iff.rfl
  · refine ⟨there, .inl rfl, only.stays fun place => ?_⟩
    cases place with
    | outside => simp only [IsAt, withRequest, Function.update_of_ne here]
    | queued => simp [IsAt, withRequest, here]
    | inHand | owned | removed => exact Iff.rfl

/-- The callback `onEOM`, if it has not run before, keeps custody. -/
theorem Custody.onEOM {server : Server κ ι} (custody : server.Custody) {ioHandler : κ}
    (first : Callback.onEOM ∉ (server.ioHandlers ioHandler).callbacks) :
    (server.step (.callback ioHandler .onEOM)).Custody ∧
      server.MovesAlong (server.step (.callback ioHandler .onEOM)) := by
  have after : server.step (.callback ioHandler .onEOM) = server.withRequest ioHandler := by
    simp only [Server.step, runCallback, Server.onEOM, custody.wired ioHandler, updateIoHandler,
      withRequest]
  have moves := withRequest_moves first
  have once : (server.withRequest ioHandler).requestQueue.Nodup := by
    obtain ⟨there, only⟩ := custody.placed ioHandler
    obtain rfl := (only .outside).mp first
    have fresh : ⟨ioHandler⟩ ∉ server.requestQueue := fun old => by
      simpa using (only .queued).mp old
    rw [withRequest, List.nodup_append_comm]
    exact List.nodup_cons.mpr ⟨fresh, custody.once⟩
  have wired (other : κ) :
      ((server.withRequest ioHandler).ioHandlers other).mRequestQueue = some .requests := by
    by_cases here : other = ioHandler
    · simp only [withRequest, here, Function.update_self]
      exact custody.wired ioHandler
    · simp only [withRequest, Function.update_of_ne here]
      exact custody.wired other
  rw [after]
  exact ⟨⟨moves.placed custody.placed, once, custody.limit, custody.room, wired⟩, moves⟩

/-- A callback other than `onEOM` moves no request. -/
theorem callback_untouched (server : Server κ ι) (ioHandler : κ) {callback : Callback}
    (other : callback ≠ .onEOM) :
    server.Untouched (server.step (.callback ioHandler callback)) := by
  have ran : server.Untouched (server.runCallback ioHandler callback) := by
    cases callback with
    | onEOM => exact absurd rfl other
    | onEgressPaused | onEgressResumed | onError | requestComplete =>
      exact server.setStatus_untouched ioHandler _
  refine ran.trans (updateIoHandler_untouched _ ioHandler (fun handler =>
    { handler with callbacks := handler.callbacks ++ [callback] }) ?_ rfl)
  rw [List.mem_append, List.mem_singleton, or_iff_left (Ne.symm other)]

/-- What a step does to a logic handler: its own loop runs a stretch, or others change its
run flag and add responses. -/
theorem step_logicHandler (server : Server κ ι) (action : ServerAction κ ι) (logicHandler : ι) :
    (∃ timedOut, action = .loop logicHandler timedOut ∧
      (server.step action).logicHandlers logicHandler =
        ((server.logicHandlers logicHandler).executorStep server.requestQueue timedOut).1) ∨
    ((∀ timedOut, action ≠ .loop logicHandler timedOut) ∧ ∃ mIsRunning responses,
      (server.step action).logicHandlers logicHandler =
        { server.logicHandlers logicHandler with
          mIsRunning
          mResponseQueue := (server.logicHandlers logicHandler).mResponseQueue ++ responses }) := by
  have elsewhere : server.logicHandlers logicHandler =
      { server.logicHandlers logicHandler with
        mIsRunning := (server.logicHandlers logicHandler).mIsRunning
        mResponseQueue := (server.logicHandlers logicHandler).mResponseQueue ++ [] } := by
    rw [List.append_nil]
  cases action with
  | callback ioHandler callback =>
    refine .inr ⟨by simp, ?_⟩
    by_cases eom : callback = .onEOM
    · refine ⟨_, _, Eq.trans ?_ elsewhere⟩
      rw [eom, Server.step, runCallback, Server.onEOM]
      split <;> rfl
    · exact (server.callback_untouched ioHandler eom).logicHandlers logicHandler
  | loop other timedOut =>
    by_cases here : other = logicHandler
    · subst here
      exact .inl ⟨timedOut, rfl, by simp only [Server.step, Server.loop, Function.update_self]⟩
    · refine .inr ⟨fun _ same => here (ServerAction.loop.inj same).1, _, _, Eq.trans ?_ elsewhere⟩
      simp only [Server.step, Server.loop, Function.update_of_ne (Ne.symm here)]
  | stop other => exact .inr ⟨by simp, (server.stop_untouched other).logicHandlers logicHandler⟩
  | setResponseQueue ioHandler other =>
    exact .inr ⟨by simp,
      (server.setResponseQueue_untouched ioHandler other).logicHandlers logicHandler⟩
  | post other response =>
    exact .inr ⟨by simp,
      (server.enqueueResponse_untouched other response).logicHandlers logicHandler⟩

/-- Every step keeps custody and moves requests along. -/
theorem Custody.step {server : Server κ ι} (custody : server.Custody) {action : ServerAction κ ι}
    (once : server.EomOnce action) :
    (server.step action).Custody ∧ server.MovesAlong (server.step action) := by
  cases action with
  | callback ioHandler callback =>
    by_cases eom : callback = .onEOM
    · subst eom
      exact custody.onEOM (once rfl)
    · exact (server.callback_untouched ioHandler eom).custody custody
  | loop logicHandler timedOut => exact custody.loop timedOut
  | stop logicHandler => exact (server.stop_untouched logicHandler).custody custody
  | setResponseQueue ioHandler logicHandler =>
    exact (server.setResponseQueue_untouched ioHandler logicHandler).custody custody
  | post logicHandler response =>
    exact (server.enqueueResponse_untouched logicHandler response).custody custody

omit [DecidableEq κ] [DecidableEq ι] in
/-- The server starts in custody. -/
theorem custody_initial : (initial : Server κ ι).Custody where
  placed ioHandler := by
    refine ⟨.outside, fun place => ?_⟩
    cases place <;> simp [IsAt, initial, IOHandler.new, LogicHandler.new, LogicHandler.start]
  once := List.nodup_nil
  limit _ := Nat.zero_le _
  room _ _ := nofun
  wired _ := rfl

/-- Custody holds of every state reached. -/
theorem custody_along {actions : List (ServerAction κ ι)}
    (once : Transition.Steps step EomOnce (initial : Server κ ι) actions) :
    Transition.Along step Custody (initial : Server κ ι) actions :=
  Transition.along_of_steps (fun _ _ custody once => (custody.step once).1) custody_initial once

/-- The server refines the life of a request: over a run each request goes along the ways from
place to place, so that one a logic handler owns is never owned by another. -/
theorem requests_advance {server : Server κ ι} (custody : server.Custody)
    {actions : List (ServerAction κ ι)} (once : Transition.Steps step EomOnce server actions)
    {ioHandler : κ} {there : Place ι} (only : server.OnlyAt ioHandler there) :
    ∃ next, Relation.ReflTransGen Place.Next there next ∧
      (Transition.run step server actions).OnlyAt ioHandler next := by
  induction actions generalizing server there with
  | nil => exact ⟨there, .refl, only⟩
  | cons action actions ih =>
    obtain ⟨stepped, moves⟩ := custody.step once.1
    obtain ⟨middle, way, onlyMiddle⟩ := moves ioHandler there only
    obtain ⟨next, ways, onlyNext⟩ := ih stepped once.2 onlyMiddle
    refine ⟨next, ?_, onlyNext⟩
    rcases way with rfl | way
    · exact ways
    · exact ways.head way

/-- Every logic handler is between two iterations of its loop. -/
def BetweenIterations (server : Server κ ι) : Prop :=
  ∀ logicHandler, (server.logicHandlers logicHandler).point = .test ∨
    (server.logicHandlers logicHandler).point = .stopped

/-- No request is lost, duplicated or owned twice. -/
structure Conserved (server : Server κ ι) : Prop where
  /-- A request made is in the queue, in one map, or removed from one, and nowhere else. -/
  made : ∀ ioHandler, Callback.onEOM ∈ (server.ioHandlers ioHandler).callbacks →
    ∃ there, (there = .queued ∨ ∃ logicHandler,
      there = .owned logicHandler ∨ there = .removed logicHandler) ∧
        server.OnlyAt ioHandler there
  /-- A request not made is nowhere. -/
  notMade : ∀ ioHandler, Callback.onEOM ∉ (server.ioHandlers ioHandler).callbacks →
    server.OnlyAt ioHandler .outside
  /-- No request is twice in the queue. -/
  once : server.requestQueue.Nodup

omit [DecidableEq κ] [DecidableEq ι] in
/-- Between iterations, custody conserves the requests. -/
theorem Custody.conserved {server : Server κ ι} (custody : server.Custody)
    (between : server.BetweenIterations) : server.Conserved where
  made ioHandler eom := by
    obtain ⟨there, only⟩ := custody.placed ioHandler
    refine ⟨there, ?_, only⟩
    have here := (only there).mpr rfl
    cases there with
    | outside => exact absurd eom here
    | queued => exact .inl rfl
    | inHand logicHandler =>
      have held : (server.logicHandlers logicHandler).point = .insert ⟨ioHandler⟩ := here
      simpa [held] using between logicHandler
    | owned logicHandler => exact .inr ⟨logicHandler, .inl rfl⟩
    | removed logicHandler => exact .inr ⟨logicHandler, .inr rfl⟩
  notMade ioHandler none := by
    obtain ⟨there, only⟩ := custody.placed ioHandler
    obtain rfl := (only .outside).mp none
    exact only
  once := custody.once

end Runs

end Server

end ApiPack2
