import ApiPack2.Datastore.IteratorSpec
import ApiPack2.Lib.Transition

/-!
# The datastore and the handles to its iterator

A `Datastore` owns one iterator. Each accepted call of `data` runs a query on it and returns
a handle to it, a `DatastoreIteratorPtr`, which clients copy, assign and drop; the last handle
to go notifies the datastore through the creator of the iterator. The state is the datastore,
the iterator and every handle, and a step is one public call or one handle operation. Calls
that the program cannot make, on a null pointer or on a destroyed datastore, change nothing.
-/

namespace ApiPack2

/-- One datastore with its iterator and the handles of its clients. -/
structure System (σ : Type) where
  /-- Rows to fetch at a time. -/
  mFetchSize : Nat
  /-- The iterator of the datastore. -/
  mDataIter : DatastoreIterator σ
  /-- The datastore has not been destroyed. -/
  storeAlive : Bool
  /-- How many times the iterator has been destroyed. -/
  iterDestroyed : Nat
  /-- How many times a destroyed datastore has been called through the creator. -/
  danglingReleases : Nat
  /-- How many queries have been accepted. -/
  queries : Nat
  /-- Every handle made so far: none for a null pointer, which a dropped handle also leaves,
  else the number of the query the handle was returned for. -/
  handles : List (Option Nat)

/-- What the clients of a datastore can do. -/
inductive ClientAction where
  /-- `Datastore::data`, which returns a new handle. -/
  | data (query : Query)
  /-- `DatastoreIterator::next` through a handle. -/
  | next (handle : Nat)
  /-- `DatastoreIterator::resetError` through a handle. -/
  | resetError (handle : Nat)
  /-- `Datastore::setFetchSize`. -/
  | setFetchSize (val : Nat)
  /-- A new handle constructed from another one. -/
  | copy (handle : Nat)
  /-- `target = source` of two handles. -/
  | assign (target source : Nat)
  /-- The destruction of a handle. -/
  | drop (handle : Nat)

/-- The client actions and the destruction of the datastore. -/
inductive Action where
  | client (action : ClientAction)
  | destroyStore

namespace System

variable {σ : Type} (pq : Libpq σ)

/-- The query of a handle, none if the handle is a null pointer. -/
def handle (system : System σ) (index : Nat) : Option Nat := (system.handles[index]?).join

/-- How many handles point to the iterator. -/
def liveHandles (system : System σ) : Nat := system.handles.countP Option.isSome

/-- `delete` of the iterator. -/
def deleteIterator (system : System σ) : System σ :=
  { system with
    mDataIter := system.mDataIter.destroy pq
    iterDestroyed := system.iterDestroyed + 1 }

/-- `Datastore::release` with the iterator. On a destroyed datastore the call is undefined;
it is counted and nothing else happens. -/
def release (system : System σ) : System σ :=
  if system.storeAlive then { system with mDataIter := system.mDataIter.closeAndReset pq }
  else { system with danglingReleases := system.danglingReleases + 1 }

/-- `IntrusiveTracked::releaseObject`. -/
def releaseObject (system : System σ) : System σ :=
  match system.mDataIter.mCreator with
  | some .datastore => system.release pq
  | none => system.deleteIterator pq

/-- `intrusive_ptr_add_ref`. -/
def intrusivePtrAddRef (system : System σ) : System σ :=
  { system with
    mDataIter := { system.mDataIter with mReference := system.mDataIter.mReference + 1 } }

/-- `intrusive_ptr_release`. -/
def intrusivePtrRelease (system : System σ) : System σ :=
  let system := { system with
    mDataIter := { system.mDataIter with mReference := system.mDataIter.mReference - 1 } }
  if system.mDataIter.mReference = 0 then system.releaseObject pq else system

/-- `Datastore::setFetchSize`. -/
def setFetchSize (system : System σ) (val : Nat) : System σ :=
  { system with mFetchSize := if val < 1 then 1 else val }

/-- `Datastore::data`: refused with a null handle unless the iterator is ready. -/
def data (system : System σ) (query : Query) : System σ :=
  if ¬system.mDataIter.isReady then { system with handles := system.handles ++ [none] }
  else
    let number := system.queries
    let system := { system with
      mDataIter := system.mDataIter.executeQuery pq query system.mFetchSize
      queries := number + 1 }
    { system.intrusivePtrAddRef with handles := system.handles ++ [some number] }

/-- The copy constructor of a handle. -/
def copy (system : System σ) (index : Nat) : System σ :=
  match system.handles[index]? with
  | none => system
  | some none => { system with handles := system.handles ++ [none] }
  | some (some query) =>
    { system.intrusivePtrAddRef with handles := system.handles ++ [some query] }

/-- `this_type(rhs).swap(*this)`: reference the new pointer, then release the old one. -/
def replace (system : System σ) (target : Nat) (pointer : Option Nat) : System σ :=
  let old := system.handle target
  let system := if pointer.isSome then system.intrusivePtrAddRef else system
  let system := { system with handles := system.handles.set target pointer }
  if old.isSome then system.intrusivePtrRelease pq else system

/-- The assignment of a handle. -/
def assign (system : System σ) (target source : Nat) : System σ :=
  if target < system.handles.length ∧ source < system.handles.length then
    system.replace pq target (system.handle source)
  else system

/-- The destructor of a handle. -/
def drop (system : System σ) (index : Nat) : System σ := system.replace pq index none

/-- `Datastore::~Datastore`. -/
def destroyStore (system : System σ) : System σ :=
  let system := if system.mDataIter.mReference = 0 then system.deleteIterator pq else system
  { system with storeAlive := false }

/-- One client action. -/
def clientStep (system : System σ) : ClientAction → System σ
  | .data query => if system.storeAlive then system.data pq query else system
  | .next index =>
    match system.handle index with
    | none => system
    | some _ => { system with mDataIter := (system.mDataIter.next pq).2 }
  | .resetError index =>
    match system.handle index with
    | none => system
    | some _ => { system with mDataIter := system.mDataIter.resetError }
  | .setFetchSize val => if system.storeAlive then system.setFetchSize val else system
  | .copy index => system.copy index
  | .assign target source => system.assign pq target source
  | .drop index => system.drop pq index

/-- One action. -/
def step (system : System σ) : Action → System σ
  | .client action => system.clientStep pq action
  | .destroyStore => if system.storeAlive then system.destroyStore pq else system

/-- A datastore over a constructed iterator that has the datastore as its creator. -/
def constructed (connectionString threadId : String) (fetchSize : Nat) : System σ :=
  { mFetchSize := fetchSize
    mDataIter := { DatastoreIterator.new pq connectionString threadId with
      mCreator := some .datastore }
    storeAlive := true
    iterDestroyed := 0
    danglingReleases := 0
    queries := 0
    handles := [] }

/-! ## What an action does -/

/-- What a client action can do to the iterator while its datastore is alive. -/
inductive Effect (iter : DatastoreIterator σ) (fetchSize : Nat) :
    ClientAction → DatastoreIterator σ → Prop where
  /-- Only the reference count or the error flag changes, and the last reference stays. -/
  | kept (action : ClientAction) (mReference : Nat) (mWasError : Bool)
      (referenced : mReference = 0 → iter.mReference = 0) :
      Effect iter fetchSize action { iter with mReference, mWasError }
  /-- A ready iterator runs a query and gets a reference. -/
  | queried (query : Query) (ready : iter.mState = .ready) :
      Effect iter fetchSize (.data query)
        { iter.executeQuery pq query fetchSize with mReference := iter.mReference + 1 }
  /-- A handle is used to get the next object. -/
  | advanced (index : Nat) : Effect iter fetchSize (.next index) (iter.next pq).2
  /-- The last reference goes. -/
  | released (action : ClientAction) :
      Effect iter fetchSize action ({ iter with mReference := 0 }.closeAndReset pq)

/-- A reference that is not the last one is only counted. -/
theorem intrusivePtrRelease_shared {system : System σ}
    (shared : system.mDataIter.mReference - 1 ≠ 0) :
    system.intrusivePtrRelease pq = { system with
      mDataIter := { system.mDataIter with mReference := system.mDataIter.mReference - 1 } } :=
  if_neg shared

/-- The last reference resets the iterator of a living datastore. -/
theorem intrusivePtrRelease_last {system : System σ}
    (last : system.mDataIter.mReference - 1 = 0)
    (creator : system.mDataIter.mCreator = some .datastore)
    (alive : system.storeAlive = true) :
    system.intrusivePtrRelease pq = { system with
      mDataIter := { system.mDataIter with mReference := 0 }.closeAndReset pq } := by
  simp [intrusivePtrRelease, last, releaseObject, creator, release, alive]

/-- The last reference calls a destroyed datastore. -/
theorem intrusivePtrRelease_dangling {system : System σ}
    (last : system.mDataIter.mReference - 1 = 0)
    (creator : system.mDataIter.mCreator = some .datastore)
    (dead : system.storeAlive = false) :
    system.intrusivePtrRelease pq = { system with
      mDataIter := { system.mDataIter with mReference := 0 }
      danglingReleases := system.danglingReleases + 1 } := by
  simp [intrusivePtrRelease, last, releaseObject, creator, release, dead]

/-- Releasing a handle, perhaps after the count of the iterator has been changed, drops a
reference, and resets the iterator with the last one. -/
theorem intrusivePtrRelease_effect (system : System σ) {iter : DatastoreIterator σ}
    {mReference : Nat} (counted : system.mDataIter = { iter with mReference })
    (creator : iter.mCreator = some .datastore) (alive : system.storeAlive = true)
    (fetchSize : Nat) (action : ClientAction) :
    Effect pq iter fetchSize action (system.intrusivePtrRelease pq).mDataIter := by
  by_cases last : system.mDataIter.mReference - 1 = 0
  · rw [intrusivePtrRelease_last pq last (by rw [counted]; exact creator) alive, counted]
    exact .released action
  · rw [intrusivePtrRelease_shared pq last, counted]
    rw [counted] at last
    exact .kept action _ _ fun none => absurd none last

/-- Replacing a pointer references or releases the iterator at most. -/
theorem replace_effect {system : System σ}
    (creator : system.mDataIter.mCreator = some .datastore) (alive : system.storeAlive = true)
    (action : ClientAction) (target : Nat) (pointer : Option Nat) :
    Effect pq system.mDataIter system.mFetchSize action
      (system.replace pq target pointer).mDataIter := by
  let placed := { system with handles := system.handles.set target pointer }
  cases old : system.handle target <;> cases pointer <;>
    simp only [replace, old, Option.isSome_none, Option.isSome_some, Bool.false_eq_true,
      ↓reduceIte]
  · exact .kept _ _ _ id
  · exact .kept _ _ _ fun none => absurd none (Nat.succ_ne_zero _)
  · exact intrusivePtrRelease_effect pq placed rfl creator alive _ _
  · exact intrusivePtrRelease_effect pq placed.intrusivePtrAddRef rfl creator alive _ _

/-- A query is refused while the iterator is open. -/
theorem data_refused {system : System σ} (opened : system.mDataIter.mState = .opened)
    (query : Query) :
    system.data pq query = { system with handles := system.handles ++ [none] } := by
  simp [data, DatastoreIterator.isReady, opened]

/-- A ready iterator runs the query and is referenced by the handle returned. -/
theorem data_accepted {system : System σ} (ready : system.mDataIter.mState = .ready)
    (query : Query) :
    system.data pq query = { system with
      mDataIter := { system.mDataIter.executeQuery pq query system.mFetchSize with
        mReference := system.mDataIter.mReference + 1 }
      queries := system.queries + 1
      handles := system.handles ++ [some system.queries] } := by
  have tracked := congrArg IntrusiveTracked.mReference
    (DatastoreIterator.executeQuery_tracked pq system.mDataIter query system.mFetchSize)
  rw [← tracked]
  simp [data, DatastoreIterator.isReady, ready, intrusivePtrAddRef]

/-- Every client action has one of these effects on the iterator. -/
theorem clientStep_effect {system : System σ}
    (creator : system.mDataIter.mCreator = some .datastore) (alive : system.storeAlive = true)
    (action : ClientAction) :
    Effect pq system.mDataIter system.mFetchSize action
      (system.clientStep pq action).mDataIter := by
  have unchanged : Effect pq system.mDataIter system.mFetchSize action system.mDataIter :=
    .kept action system.mDataIter.mReference system.mDataIter.mWasError id
  cases action with
  | data query =>
    simp only [clientStep, alive, ↓reduceIte]
    cases state : system.mDataIter.mState with
    | ready =>
      rw [data_accepted pq state]
      exact .queried query state
    | opened =>
      rw [data_refused pq state]
      exact unchanged
  | next index =>
    cases pointed : system.handle index with
    | none => simpa only [clientStep, pointed] using unchanged
    | some number =>
      simp only [clientStep, pointed]
      exact .advanced index
  | resetError index =>
    cases pointed : system.handle index with
    | none => simpa only [clientStep, pointed] using unchanged
    | some number =>
      simp only [clientStep, pointed]
      exact .kept _ _ false id
  | setFetchSize val =>
    simp only [clientStep, alive, ↓reduceIte]
    exact unchanged
  | copy index =>
    rw [clientStep, copy]
    split
    · exact unchanged
    · exact unchanged
    · exact .kept _ _ _ fun none => absurd none (Nat.succ_ne_zero _)
  | assign target source =>
    rw [clientStep, assign]
    split
    · exact replace_effect pq creator alive ..
    · exact unchanged
  | drop index => exact replace_effect pq creator alive ..

/-- Releasing a reference touches neither the handles nor the fetch size. -/
theorem intrusivePtrRelease_frame (system : System σ) :
    (system.intrusivePtrRelease pq).handles = system.handles ∧
      (system.intrusivePtrRelease pq).mFetchSize = system.mFetchSize := by
  simp only [intrusivePtrRelease, releaseObject, release, deleteIterator]
  split
  · split
    · split <;> exact ⟨rfl, rfl⟩
    · exact ⟨rfl, rfl⟩
  · exact ⟨rfl, rfl⟩

@[simp]
theorem intrusivePtrRelease_handles (system : System σ) :
    (system.intrusivePtrRelease pq).handles = system.handles :=
  (intrusivePtrRelease_frame pq system).1

@[simp]
theorem intrusivePtrRelease_mFetchSize (system : System σ) :
    (system.intrusivePtrRelease pq).mFetchSize = system.mFetchSize :=
  (intrusivePtrRelease_frame pq system).2

/-- Replacing a pointer sets it. -/
@[simp]
theorem replace_handles (system : System σ) (target : Nat) (pointer : Option Nat) :
    (system.replace pq target pointer).handles = system.handles.set target pointer := by
  cases old : system.handle target <;> cases pointer <;> simp [replace, old, intrusivePtrAddRef]

/-- Replacing a pointer does not touch the fetch size. -/
@[simp]
theorem replace_mFetchSize (system : System σ) (target : Nat) (pointer : Option Nat) :
    (system.replace pq target pointer).mFetchSize = system.mFetchSize := by
  cases old : system.handle target <;> cases pointer <;> simp [replace, old, intrusivePtrAddRef]

/-- Only `setFetchSize` changes the fetch size, and never to zero. -/
theorem clientStep_mFetchSize (system : System σ) (action : ClientAction)
    (positive : 1 ≤ system.mFetchSize) : 1 ≤ (system.clientStep pq action).mFetchSize := by
  cases action with
  | data query =>
    rw [clientStep]
    split
    · cases state : system.mDataIter.mState with
      | ready => rwa [data_accepted pq state]
      | opened => rwa [data_refused pq state]
    · exact positive
  | next index =>
    rw [clientStep]
    split <;> exact positive
  | resetError index =>
    rw [clientStep]
    split <;> exact positive
  | setFetchSize val =>
    simp only [clientStep, setFetchSize]
    split
    · split
      · exact Nat.le_refl 1
      · exact Nat.le_of_not_lt ‹_›
    · exact positive
  | copy index =>
    rw [clientStep, copy]
    split <;> exact positive
  | assign target source =>
    rw [clientStep, assign]
    split
    · rwa [replace_mFetchSize]
    · exact positive
  | drop index => rwa [clientStep, drop, replace_mFetchSize]

/-! ## Counting the handles -/

/-- The datastore is the creator of the iterator, and the reference count of the iterator is
the number of handles that point to it. -/
structure Counted (system : System σ) : Prop where
  /-- The datastore is notified of the last release. -/
  creator : system.mDataIter.mCreator = some .datastore
  /-- Each live handle is one reference. -/
  references : system.mDataIter.mReference = system.liveHandles

/-- A pointer counts as one handle or as none. -/
def weight (pointer : Option Nat) : Nat := if pointer.isSome then 1 else 0

@[simp]
theorem weight_none : weight none = 0 := rfl

@[simp]
theorem weight_some (number : Nat) : weight (some number) = 1 := rfl

/-- A new handle adds its weight. -/
theorem countP_push (handles : List (Option Nat)) (pointer : Option Nat) :
    (handles ++ [pointer]).countP Option.isSome =
      handles.countP Option.isSome + weight pointer := by
  rw [List.countP_append, List.countP_singleton, weight]

/-- Replacing a pointer exchanges the weight of the old one for that of the new one. -/
theorem countP_replace (handles : List (Option Nat)) {target : Nat} {pointer : Option Nat}
    (placed : target < handles.length ∨ pointer = none) :
    (handles.set target pointer).countP Option.isSome + weight (handles[target]?).join =
      handles.countP Option.isSome + weight pointer := by
  by_cases inside : target < handles.length
  · have least := List.boole_getElem_le_countP (p := Option.isSome) inside
    rw [List.countP_set inside, List.getElem?_eq_getElem inside, Option.join_some, weight, weight]
    omega
  · obtain rfl := placed.resolve_left inside
    rw [List.set_eq_of_length_le (Nat.le_of_not_lt inside),
      List.getElem?_eq_none (Nat.le_of_not_lt inside), Option.join_none]

/-- A handle that points to the iterator is among the live ones. -/
theorem liveHandles_pos {system : System σ} {index number : Nat}
    (pointed : system.handle index = some number) : 1 ≤ system.liveHandles := by
  have counted := countP_replace system.handles (Or.inr rfl : index < _ ∨ none = none)
  rw [show (system.handles[index]?).join = some number from pointed, weight_some,
    weight_none] at counted
  rw [liveHandles]
  omega

/-- Releasing takes one reference; a destroyed datastore is called when it was the last. -/
theorem intrusivePtrRelease_spec (system : System σ)
    (creator : system.mDataIter.mCreator = some .datastore) :
    (system.intrusivePtrRelease pq).mDataIter.toIntrusiveTracked =
        ⟨system.mDataIter.mReference - 1, some .datastore⟩ ∧
      (system.intrusivePtrRelease pq).handles = system.handles ∧
      (system.intrusivePtrRelease pq).storeAlive = system.storeAlive ∧
      (system.intrusivePtrRelease pq).iterDestroyed = system.iterDestroyed ∧
      (system.intrusivePtrRelease pq).danglingReleases = system.danglingReleases +
        if system.mDataIter.mReference - 1 = 0 ∧ system.storeAlive = false then 1 else 0 := by
  by_cases last : system.mDataIter.mReference - 1 = 0
  · cases alive : system.storeAlive with
    | true =>
      rw [intrusivePtrRelease_last pq last creator alive]
      simp [alive, last, creator]
    | false =>
      rw [intrusivePtrRelease_dangling pq last creator alive]
      simp [alive, last, creator]
  · rw [intrusivePtrRelease_shared pq last]
    simp [last, creator]

/-- What a client action leaves of the bookkeeping: handles stay counted, nothing is
destroyed, and a destroyed datastore is called exactly when its last handle goes. -/
structure Bookkept (system after : System σ) : Prop where
  /-- The handles are counted. -/
  counted : after.Counted
  /-- The datastore is as alive as before. -/
  alive : after.storeAlive = system.storeAlive
  /-- The iterator is not destroyed. -/
  destroyed : after.iterDestroyed = system.iterDestroyed
  /-- A destroyed datastore is called for its last handle. -/
  dangling : after.danglingReleases = system.danglingReleases +
    if system.storeAlive = false ∧ after.liveHandles = 0 ∧ system.liveHandles ≠ 0 then 1 else 0

/-- A step that gains handles and as many references keeps the bookkeeping. -/
theorem Bookkept.of_gain {system after : System σ} (counted : system.Counted) (gained : Nat)
    (tracked : after.mDataIter.toIntrusiveTracked =
      ⟨system.mDataIter.mReference + gained, system.mDataIter.mCreator⟩)
    (live : after.liveHandles = system.liveHandles + gained)
    (alive : after.storeAlive = system.storeAlive)
    (destroyed : after.iterDestroyed = system.iterDestroyed)
    (dangling : after.danglingReleases = system.danglingReleases) : Bookkept system after := by
  refine ⟨⟨by rw [tracked]; exact counted.creator, ?_⟩, alive, destroyed, ?_⟩
  · rw [tracked, live]
    exact congrArg (· + gained) counted.references
  · rw [dangling, live, if_neg (by omega), Nat.add_zero]

/-- Replacing a pointer keeps the bookkeeping. -/
theorem replace_bookkept {system : System σ} (counted : system.Counted) {target : Nat}
    {pointer : Option Nat} (placed : target < system.handles.length ∨ pointer = none) :
    Bookkept system (system.replace pq target pointer) := by
  have live := countP_replace system.handles placed
  let referenced := if pointer.isSome then system.intrusivePtrAddRef else system
  let prepared := { referenced with handles := system.handles.set target pointer }
  have tracked : prepared.mDataIter.toIntrusiveTracked =
      ⟨system.mDataIter.mReference + weight pointer, system.mDataIter.mCreator⟩ := by
    cases pointer <;> rfl
  have kept : prepared.storeAlive = system.storeAlive ∧
      prepared.iterDestroyed = system.iterDestroyed ∧
      prepared.danglingReleases = system.danglingReleases := by
    cases pointer <;> exact ⟨rfl, rfl, rfl⟩
  have replaced : system.replace pq target pointer =
      if (system.handle target).isSome then prepared.intrusivePtrRelease pq else prepared := by
    cases pointer <;> rfl
  rw [show (system.handles[target]?).join = system.handle target from rfl] at live
  cases old : system.handle target with
  | none =>
    rw [old, weight_none, Nat.add_zero] at live
    rw [replaced, old, Option.isSome_none, if_neg Bool.false_ne_true]
    exact .of_gain counted (weight pointer) tracked live kept.1 kept.2.1 kept.2.2
  | some number =>
    have references : prepared.mDataIter.mReference =
        system.liveHandles + weight pointer := by
      rw [tracked, ← counted.references]
    rw [old, weight_some] at live
    obtain ⟨released, handles, alive, destroyed, dangling⟩ := intrusivePtrRelease_spec pq
      prepared (by rw [tracked]; exact counted.creator)
    have remaining : (prepared.intrusivePtrRelease pq).liveHandles + 1 =
        system.liveHandles + weight pointer := by
      rw [liveHandles, handles]
      exact live
    have held := liveHandles_pos old
    rw [replaced, old, Option.isSome_some, if_pos rfl]
    refine ⟨⟨by rw [released], ?_⟩, alive.trans kept.1, destroyed.trans kept.2.1, ?_⟩
    · rw [released, references, ← remaining, Nat.add_sub_cancel]
    · rw [dangling, kept.2.2, kept.1, references, ← remaining, Nat.add_sub_cancel]
      congr 1
      exact if_congr ⟨fun ⟨last, dead⟩ => ⟨dead, last, Nat.ne_of_gt held⟩,
        fun ⟨dead, last, _⟩ => ⟨last, dead⟩⟩ rfl rfl

/-- Every client action keeps the bookkeeping. -/
theorem clientStep_bookkept {system : System σ} (counted : system.Counted)
    (action : ClientAction) : Bookkept system (system.clientStep pq action) := by
  have unchanged : Bookkept system system := .of_gain counted 0 rfl rfl rfl rfl rfl
  cases action with
  | data query =>
    rw [clientStep]
    split
    · cases state : system.mDataIter.mState with
      | ready =>
        rw [data_accepted pq state]
        refine .of_gain counted 1 ?_ (countP_push ..) rfl rfl rfl
        rw [← DatastoreIterator.executeQuery_tracked pq system.mDataIter query system.mFetchSize]
      | opened =>
        rw [data_refused pq state]
        exact .of_gain counted 0 rfl (countP_push ..) rfl rfl rfl
    · exact unchanged
  | next index =>
    rw [clientStep]
    split
    · exact unchanged
    · exact .of_gain counted 0 (DatastoreIterator.next_tracked ..) rfl rfl rfl rfl
  | resetError index =>
    rw [clientStep]
    split
    · exact unchanged
    · exact .of_gain counted 0 rfl rfl rfl rfl rfl
  | setFetchSize val =>
    rw [clientStep]
    split
    · exact .of_gain counted 0 rfl rfl rfl rfl rfl
    · exact unchanged
  | copy index =>
    rw [clientStep, copy]
    split
    · exact unchanged
    · exact .of_gain counted 0 rfl (countP_push ..) rfl rfl rfl
    · exact .of_gain counted 1 rfl (countP_push ..) rfl rfl rfl
  | assign target source =>
    rw [clientStep, assign]
    split
    · rename_i inside
      exact replace_bookkept pq counted (.inl inside.1)
    · exact unchanged
  | drop index => exact replace_bookkept pq counted (.inr rfl)

/-! ## Invariants of the iterator -/

/-- The datastore is alive, its handles are counted, and its iterator has the property. -/
structure Holds (property : DatastoreIterator σ → Prop) (system : System σ) : Prop where
  /-- The datastore has not been destroyed. -/
  alive : system.storeAlive = true
  /-- The handles are counted. -/
  counted : system.Counted
  /-- The iterator has the property. -/
  iterator : property system.mDataIter

variable {pq} {property : DatastoreIterator σ → Prop}

/-- A property of the iterator that every effect keeps is kept by every client action. -/
theorem Holds.step
    (keeps : ∀ iter fetchSize action after, Effect pq iter fetchSize action after →
      property iter → property after)
    (system : System σ) (action : ClientAction) (holds : Holds property system) :
    Holds property (system.clientStep pq action) := by
  have bookkept := clientStep_bookkept pq holds.counted action
  exact ⟨bookkept.alive.trans holds.alive, bookkept.counted, keeps _ _ _ _
    (clientStep_effect pq holds.counted.creator holds.alive action) holds.iterator⟩

/-- A property of the iterator that every effect keeps holds at the end of every run. -/
theorem Holds.run
    (keeps : ∀ iter fetchSize action after, Effect pq iter fetchSize action after →
      property iter → property after)
    {system : System σ} (holds : Holds property system) (actions : List ClientAction) :
    Holds property (Transition.run (clientStep pq) system actions) :=
  Transition.run_invariant (Holds.step keeps) holds actions

/-- A constructed datastore is alive and its handles are counted. -/
theorem constructed_holds {connectionString threadId : String} {fetchSize : Nat}
    (initial : property (constructed pq connectionString threadId fetchSize).mDataIter) :
    Holds property (constructed pq connectionString threadId fetchSize) := by
  obtain ⟨mError, created⟩ := DatastoreIterator.new_spec pq connectionString threadId
  exact ⟨rfl, ⟨rfl, by rw [constructed, created]; rfl⟩, initial⟩

end System

end ApiPack2
