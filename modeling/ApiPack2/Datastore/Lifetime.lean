import ApiPack2.Datastore.Handles
import ApiPack2.Datastore.Postgres
import ApiPack2.Lib.Transition

/-!
# Lifetime of the iterator

The iterator belongs to the datastore and is referenced by the handles. The destructor of the
datastore deletes it only if it has no reference, and the last reference only notifies the
datastore, so a datastore destroyed under a live handle leaves nobody to delete the iterator.
-/

namespace ApiPack2.System

variable {σ : Type} (pq : Libpq σ)

/-- The lifetime rules: the iterator is destroyed at most once, never under a live handle,
and once datastore and handles are gone; a destroyed datastore is never called. -/
structure LifetimeSafe (system : System σ) : Prop where
  /-- The iterator is destroyed at most once. -/
  once : system.iterDestroyed ≤ 1
  /-- The iterator is not destroyed while a handle is live. -/
  referenced : system.liveHandles ≠ 0 → system.iterDestroyed = 0
  /-- No destroyed datastore has been called. -/
  notDangling : system.danglingReleases = 0
  /-- The iterator does not survive the datastore and the last handle. -/
  reclaimed : system.storeAlive = false → system.liveHandles = 0 → system.iterDestroyed = 1

/-- The datastore is destroyed only while no handle is live. -/
def DestroyedUnheld (system : System σ) : Action → Prop
  | .client _ => True
  | .destroyStore => system.storeAlive = true → system.liveHandles = 0

instance (system : System σ) : ∀ action, Decidable (DestroyedUnheld system action)
  | .client _ => inferInstanceAs (Decidable True)
  | .destroyStore => inferInstanceAs (Decidable (_ → _))

/-- The states of an orderly life: alive and nothing destroyed, or gone with everything. -/
structure Lived (system : System σ) : Prop where
  /-- The handles are counted. -/
  counted : system.Counted
  /-- No destroyed datastore has been called. -/
  notDangling : system.danglingReleases = 0
  /-- Alive and not destroyed, or destroyed with no handle left. -/
  stage : (system.storeAlive = true ∧ system.iterDestroyed = 0) ∨
    (system.storeAlive = false ∧ system.iterDestroyed = 1 ∧ system.liveHandles = 0)

/-- The states after a datastore was destroyed under a live handle. -/
structure Abandoned (system : System σ) : Prop where
  /-- The handles are counted. -/
  counted : system.Counted
  /-- The datastore is gone. -/
  dead : system.storeAlive = false
  /-- The iterator is not. -/
  kept : system.iterDestroyed = 0

/-- An orderly life is safe. -/
theorem Lived.safe {system : System σ} (lived : Lived system) : LifetimeSafe system := by
  obtain ⟨-, notDangling, ⟨alive, kept⟩ | ⟨dead, destroyed, unheld⟩⟩ := lived
  · exact ⟨by omega, fun _ => kept, notDangling, fun dead => absurd (alive.symm.trans dead) nofun⟩
  · exact ⟨by omega, fun held => absurd unheld held, notDangling, fun _ _ => destroyed⟩

/-- The destruction of the datastore, with and without references left. -/
theorem destroyStore_spec (system : System σ) :
    (system.destroyStore pq).storeAlive = false ∧
      (system.destroyStore pq).handles = system.handles ∧
      (system.destroyStore pq).danglingReleases = system.danglingReleases ∧
      (system.destroyStore pq).iterDestroyed = system.iterDestroyed +
        (if system.mDataIter.mReference = 0 then 1 else 0) ∧
      (system.destroyStore pq).mDataIter.toIntrusiveTracked =
        system.mDataIter.toIntrusiveTracked := by
  by_cases unreferenced : system.mDataIter.mReference = 0
  · simp only [destroyStore, unreferenced, ↓reduceIte, deleteIterator]
    exact ⟨trivial, trivial, trivial, trivial, DatastoreIterator.closeAndReset_tracked ..⟩
  · simp [destroyStore, unreferenced]

/-- The destruction of the datastore does not touch the counting. -/
theorem destroyStore_counted {system : System σ} (counted : system.Counted) :
    (system.destroyStore pq).Counted ∧
      (system.destroyStore pq).liveHandles = system.liveHandles := by
  obtain ⟨-, handles, -, -, tracked⟩ := destroyStore_spec pq system
  have live : (system.destroyStore pq).liveHandles = system.liveHandles := by
    rw [liveHandles, handles, liveHandles]
  exact ⟨⟨by rw [tracked]; exact counted.creator, by
    rw [tracked, live]
    exact counted.references⟩, live⟩

/-- Nobody gets a handle once the datastore and all handles are gone. -/
theorem clientStep_unheld {system : System σ} (dead : system.storeAlive = false)
    (unheld : system.liveHandles = 0) (action : ClientAction) :
    (system.clientStep pq action).liveHandles = 0 := by
  have null (index : Nat) : system.handle index = none := by
    cases pointed : system.handle index with
    | none => rfl
    | some number => exact absurd (liveHandles_pos pointed) (by omega)
  have replaced (target : Nat) : (system.replace pq target none).liveHandles = 0 := by
    have live := countP_replace system.handles (Or.inr rfl : target < _ ∨ none = none)
    rw [liveHandles] at unheld
    rw [liveHandles, replace_handles]
    rw [unheld, weight_none] at live
    omega
  cases action with
  | data query => rwa [clientStep, dead, if_neg Bool.false_ne_true]
  | next index => rwa [clientStep, null index]
  | resetError index => rwa [clientStep, null index]
  | setFetchSize val => rwa [clientStep, dead, if_neg Bool.false_ne_true]
  | copy index =>
    rw [clientStep, copy]
    split
    · exact unheld
    · rw [liveHandles, countP_push, weight_none]
      exact unheld
    · rename_i number pointed
      have live := null index
      rw [handle, pointed] at live
      exact absurd live (Option.some_ne_none number)
  | assign target source =>
    rw [clientStep, assign, null source]
    split
    · exact replaced target
    · exact unheld
  | drop index => exact replaced index

/-- An orderly life goes on with every step that does not destroy the datastore under a
handle. -/
theorem step_lived (system : System σ) (action : Action) (lived : Lived system)
    (unheld : DestroyedUnheld system action) : Lived (system.step pq action) := by
  obtain ⟨counted, notDangling, stage⟩ := lived
  cases action with
  | client action =>
    have bookkept := clientStep_bookkept pq counted action
    have dangling := bookkept.dangling
    rw [step]
    rcases stage with ⟨alive, kept⟩ | ⟨dead, destroyed, unheld⟩
    · rw [alive, if_neg (fun called => absurd called.1 nofun)] at dangling
      exact ⟨bookkept.counted, dangling.trans notDangling,
        .inl ⟨bookkept.alive.trans alive, bookkept.destroyed.trans kept⟩⟩
    · rw [if_neg (fun called => called.2.2 unheld)] at dangling
      exact ⟨bookkept.counted, dangling.trans notDangling,
        .inr ⟨bookkept.alive.trans dead, bookkept.destroyed.trans destroyed,
          clientStep_unheld pq dead unheld action⟩⟩
  | destroyStore =>
    rw [step]
    rcases stage with ⟨alive, kept⟩ | ⟨dead, destroyed, gone⟩
    · obtain ⟨dead, -, dangling, destroyed, -⟩ := destroyStore_spec pq system
      obtain ⟨counted', live⟩ := destroyStore_counted pq counted
      have none := unheld alive
      rw [counted.references, none, if_pos rfl, kept] at destroyed
      rw [if_pos alive]
      exact ⟨counted', dangling.trans notDangling, .inr ⟨dead, destroyed, live.trans none⟩⟩
    · rw [if_neg (by rw [dead]; exact Bool.false_ne_true)]
      exact ⟨counted, notDangling, .inr ⟨dead, destroyed, gone⟩⟩

/-- Nothing deletes the iterator once the datastore was destroyed under a live handle. -/
theorem step_abandoned (system : System σ) (action : Action) (abandoned : Abandoned system) :
    Abandoned (system.step pq action) := by
  cases action with
  | client action =>
    have bookkept := clientStep_bookkept pq abandoned.counted action
    exact ⟨bookkept.counted, bookkept.alive.trans abandoned.dead,
      bookkept.destroyed.trans abandoned.kept⟩
  | destroyStore =>
    rw [step, abandoned.dead, if_neg Bool.false_ne_true]
    exact abandoned

/-- Every step keeps the handles counted. -/
theorem step_counted (system : System σ) (action : Action) (counted : system.Counted) :
    (system.step pq action).Counted := by
  cases action with
  | client action => exact (clientStep_bookkept pq counted action).counted
  | destroyStore =>
    rw [step]
    split
    · exact (destroyStore_counted pq counted).1
    · exact counted

/-- In a safe run that ends with datastore and handles gone, the datastore was destroyed while
no handle was live. -/
theorem destroyedUnheld_of_safe {start : System σ} {actions : List Action}
    (counted : start.Counted) (safe : Transition.Along (step pq) LifetimeSafe start actions)
    (dead : (Transition.run (step pq) start actions).storeAlive = false)
    (unheld : (Transition.run (step pq) start actions).liveHandles = 0) :
    Transition.Steps (step pq) DestroyedUnheld start actions := by
  induction actions generalizing start with
  | nil => trivial
  | cons action actions ih =>
    refine ⟨?_, ih (step_counted pq start action counted) safe.2 dead unheld⟩
    cases action with
    | client action => trivial
    | destroyStore =>
      intro alive
      by_contra held
      have abandoned : Abandoned (start.step pq .destroyStore) := by
        obtain ⟨gone, -, -, destroyed, -⟩ := destroyStore_spec pq start
        rw [counted.references, if_neg held, safe.1.referenced held] at destroyed
        rw [step, if_pos alive]
        exact ⟨(destroyStore_counted pq counted).1, gone, destroyed⟩
      have last := Transition.run_invariant (step_abandoned pq) abandoned actions
      have reclaimed := safe.2.last.reclaimed dead unheld
      exact absurd (last.kept.symm.trans reclaimed) (by decide)

/-- The lifetime rules hold along every run in which the datastore is destroyed only while no
handle is live; in a run at whose end datastore and handles are gone they hold only then. -/
theorem lifetime_safe_iff (connectionString threadId : String) (fetchSize : Nat)
    (actions : List Action) :
    let start := constructed pq connectionString threadId fetchSize
    let last := Transition.run (step pq) start actions
    (Transition.Steps (step pq) DestroyedUnheld start actions →
        Transition.Along (step pq) LifetimeSafe start actions) ∧
      (last.storeAlive = false ∧ last.liveHandles = 0 →
        (Transition.Along (step pq) LifetimeSafe start actions ↔
          Transition.Steps (step pq) DestroyedUnheld start actions)) := by
  intro start last
  have counted : start.Counted := by
    obtain ⟨mError, created⟩ := DatastoreIterator.new_spec pq connectionString threadId
    refine ⟨rfl, ?_⟩
    simp only [start, constructed, created, liveHandles, List.countP_nil]
  have safe (steps : Transition.Steps (step pq) DestroyedUnheld start actions) :
      Transition.Along (step pq) LifetimeSafe start actions := by
    have lived := Transition.along_of_steps (step_lived pq)
      (⟨counted, rfl, .inl ⟨rfl, rfl⟩⟩ : Lived start) steps
    exact lived.mono fun system lived => lived.safe
  exact ⟨safe, fun gone =>
    ⟨fun along => destroyedUnheld_of_safe pq counted along gone.1 gone.2, safe⟩⟩

/-- A handle is dropped after its datastore. -/
def handleOutlivesStore : List Action :=
  [.client (.data (.ids [10003] .metamorphosisStation)), .destroyStore, .client (.drop 0)]

/-- The handle dropped after its datastore calls it, and the iterator is never deleted. -/
theorem outliving_handle_unsafe :
    ¬∀ actions, Transition.Along (step (Postgres.server [[some [1]]] [])) LifetimeSafe
      (constructed (Postgres.server [[some [1]]] []) "" "7" 500) actions := by
  intro claim
  have last := (claim handleOutlivesStore).last
  exact absurd last.notDangling (by decide +kernel)

end ApiPack2.System
