import ApiPack2.Utils.PoolSlots

/-!
# How far a pool grows

`resize` clamps the number of items it is told to add to the room that is left. The guard of
the clamp and the check after it compute the same sum in machine words. As long as the sum
does not wrap, the pool asks the allocator for exactly the clamped number; a sum that wraps
passes both, and the pool asks for the number it was told. `create` returns a null pointer
when there is no free item and the pool does not grow: at its limit, or with a step of zero.
-/

namespace ApiPack2

namespace ObjectPool

variable {T : Type} {pool : ObjectPool T} {count : UInt64}

/-- The items the pool may still add. -/
def room (pool : ObjectPool T) : Nat := pool.mMaxItems.toNat - pool.mCurrItems.toNat

/-- Without wrapping, the count is clamped to the room. -/
theorem toNat_clamp (bounded : pool.mCurrItems ≤ pool.mMaxItems)
    (noWrap : pool.mCurrItems.toNat + count.toNat < 2 ^ 64) :
    (pool.clamp count).toNat = min count.toNat pool.room := by
  have ordered := UInt64.le_iff_toNat_le.mp bounded
  rw [clamp, room]
  split
  · rename_i exceeds
    rw [gt_iff_lt, UInt64.lt_iff_toNat_lt, UInt64.toNat_add, Nat.mod_eq_of_lt noWrap] at exceeds
    rw [UInt64.toNat_sub_of_le _ _ bounded]
    omega
  · rename_i fits
    rw [gt_iff_lt, UInt64.lt_iff_toNat_lt, UInt64.toNat_add, Nat.mod_eq_of_lt noWrap] at fits
    omega

/-- What a call leaves of the sizes of a pool: the limit and the step are the same, and a pool
within its limit stays so. -/
structure KeepsLimit (pool after : ObjectPool T) : Prop where
  /-- The limit. -/
  limit : after.mMaxItems = pool.mMaxItems
  /-- The step. -/
  increase : after.mIncreaseStep = pool.mIncreaseStep
  /-- The number of items. -/
  bounded : pool.mCurrItems ≤ pool.mMaxItems → after.mCurrItems ≤ after.mMaxItems

/-- A pool keeps its own limit. -/
theorem KeepsLimit.refl (pool : ObjectPool T) : KeepsLimit pool pool := ⟨rfl, rfl, id⟩

/-- Two calls in a row keep the limit. -/
theorem KeepsLimit.trans {first second third : ObjectPool T} (left : KeepsLimit first second)
    (right : KeepsLimit second third) : KeepsLimit first third :=
  ⟨right.limit.trans left.limit, right.increase.trans left.increase,
    fun bounded => right.bounded (left.bounded bounded)⟩

variable [Poolable T]

/-- The number of objects that `resize` asks the allocator for: the sizes of the caches it
adds if they are granted. -/
def asked (pool : ObjectPool T) (count : UInt64) : Nat :=
  match pool.resize count true with
  | .ok (_, after) =>
    ((after.mItemCaches.drop pool.mItemCaches.length).map fun cacheItem =>
      cacheItem.count.toNat).sum
  | .error _ => 0

/-- `resize` asks for what it was told, clamped to the room that is left, and told to add more
than that it fills the pool. -/
structure GrowsToRoom (pool : ObjectPool T) (count : UInt64) : Prop where
  /-- The number asked for. -/
  asked : pool.asked count = min count.toNat pool.room
  /-- The pool afterwards. -/
  filled : pool.room ≤ count.toNat → ∀ grew after, pool.resize count true = .ok (grew, after) →
    after.mCurrItems = pool.mMaxItems

/-- Without wrapping, `resize` does nothing if the clamped count is zero, and else allocates as
many items. -/
theorem resize_noWrap (bounded : pool.mCurrItems ≤ pool.mMaxItems)
    (noWrap : pool.mCurrItems.toNat + count.toNat < 2 ^ 64) (allocates : Bool) :
    pool.resize count allocates =
      if min count.toNat pool.room = 0 then .ok (false, pool)
      else if allocates then .ok (true, pool.grown (pool.clamp count)) else .error .badAlloc := by
  have clamped := toNat_clamp bounded noWrap
  have ordered := UInt64.le_iff_toNat_le.mp bounded
  have size := pool.mMaxItems.toNat_lt
  have fits : pool.mCurrItems + pool.clamp count ≤ pool.mMaxItems := by
    rw [UInt64.le_iff_toNat_le, UInt64.toNat_add, clamped, room, Nat.mod_eq_of_lt (by omega)]
    omega
  have positive : pool.clamp count > 0 ↔ ¬min count.toNat pool.room = 0 := by
    rw [gt_iff_lt, UInt64.lt_iff_toNat_lt, clamped, UInt64.toNat_zero]
    exact Nat.pos_iff_ne_zero
  rw [resize]
  by_cases full : min count.toNat pool.room = 0
  · rw [if_pos full, if_neg fun grows => positive.mp grows.1 full]
  · rw [if_neg full, if_pos ⟨positive.mpr full, fits⟩]
    rfl

/-- A sum that wraps passes the guard of the clamp and the check. -/
theorem resize_wrapped (bounded : pool.mCurrItems ≤ pool.mMaxItems)
    (wraps : 2 ^ 64 ≤ pool.mCurrItems.toNat + count.toNat) (allocates : Bool) :
    pool.resize count allocates =
      if allocates then .ok (true, pool.grown count) else .error .badAlloc := by
  have ordered := UInt64.le_iff_toNat_le.mp bounded
  have current := pool.mCurrItems.toNat_lt
  have told := count.toNat_lt
  have sum : (pool.mCurrItems + count).toNat =
      pool.mCurrItems.toNat + count.toNat - 2 ^ 64 := by
    rw [UInt64.toNat_add]
    omega
  have small : pool.mCurrItems + count ≤ pool.mMaxItems := by
    rw [UInt64.le_iff_toNat_le, sum]
    omega
  have unclamped : pool.clamp count = count := by
    rw [clamp, if_neg]
    rw [gt_iff_lt, UInt64.lt_iff_toNat_lt, sum]
    omega
  have positive : count > 0 := by
    rw [gt_iff_lt, UInt64.lt_iff_toNat_lt, UInt64.toNat_zero]
    omega
  rw [resize, unclamped, if_pos ⟨positive, small⟩]
  rfl

/-- A pool that has grown asked for as many items. -/
theorem asked_of_grown {fitting : UInt64}
    (grew : pool.resize count true = .ok (true, pool.grown fitting)) :
    pool.asked count = fitting.toNat := by
  simp [asked, grew, grown]

/-- A pool that stays as it is asked for nothing. -/
theorem asked_of_kept (kept : pool.resize count true = .ok (false, pool)) :
    pool.asked count = 0 := by
  simp [asked, kept]

/-- Without wrapping the pool grows to the room that is left. -/
theorem growsToRoom_of_noWrap (bounded : pool.mCurrItems ≤ pool.mMaxItems)
    (noWrap : pool.mCurrItems.toNat + count.toNat < 2 ^ 64) : GrowsToRoom pool count := by
  have resized := resize_noWrap bounded noWrap true
  have ordered := UInt64.le_iff_toNat_le.mp bounded
  have size := pool.mMaxItems.toNat_lt
  by_cases full : min count.toNat pool.room = 0
  · rw [if_pos full] at resized
    constructor
    · exact (asked_of_kept resized).trans full.symm
    · intro more grew after outcome
      rw [resized] at outcome
      cases outcome
      apply UInt64.toNat_inj.mp
      rw [room] at full more
      omega
  · rw [if_neg full, if_pos rfl] at resized
    have clamped := toNat_clamp bounded noWrap
    constructor
    · exact (asked_of_grown resized).trans clamped
    · intro more grew after outcome
      rw [resized] at outcome
      cases outcome
      apply UInt64.toNat_inj.mp
      rw [grown, UInt64.toNat_add, clamped, Nat.min_eq_right more, room,
        Nat.mod_eq_of_lt (by omega)]
      omega

/-- The pool grows to the room that is left exactly if the sum does not wrap. -/
theorem growsToRoom_iff (bounded : pool.mCurrItems ≤ pool.mMaxItems) :
    GrowsToRoom pool count ↔ pool.mCurrItems.toNat + count.toNat < 2 ^ 64 := by
  constructor
  · intro grows
    by_contra wraps
    have asked := asked_of_grown (resize_wrapped bounded (Nat.le_of_not_lt wraps) true)
    have clamped := grows.asked
    have ordered := UInt64.le_iff_toNat_le.mp bounded
    have size := pool.mMaxItems.toNat_lt
    rw [asked, room] at clamped
    omega
  · exact growsToRoom_of_noWrap bounded

/-- `resize` keeps the limit, also when the sum wraps. -/
theorem resize_keepsLimit {grew allocates : Bool} {after : ObjectPool T}
    (resized : pool.resize count allocates = .ok (grew, after)) : KeepsLimit pool after := by
  rw [resize] at resized
  split at resized
  · rename_i fits
    cases allocates with
    | false => cases resized
    | true =>
      cases resized
      exact ⟨rfl, rfl, fun _ => fits.2⟩
  · cases resized
    exact .refl pool

/-- Taking a free item keeps the limit. -/
theorem takeBack_keepsLimit (pool : ObjectPool T) : KeepsLimit pool pool.takeBack.2 := by
  rw [takeBack]
  split <;> exact ⟨rfl, rfl, id⟩

/-- `create` keeps the limit. -/
theorem create_keepsLimit {allocates : Bool} {item : Option ItemPtr} {after : ObjectPool T}
    (created : pool.create allocates = .ok (item, after)) : KeepsLimit pool after := by
  rw [create] at created
  split at created
  · have taken : pool.takeBack.2 = after := congrArg Prod.snd (Except.ok.inj created)
    exact taken ▸ takeBack_keepsLimit pool
  · cases resized : pool.resize pool.mIncreaseStep allocates with
    | error threw => simp [resized, bind, Except.bind] at created
    | ok outcome =>
      obtain ⟨grew, grown⟩ := outcome
      have kept := resize_keepsLimit resized
      cases grew with
      | false =>
        have unchanged : (none, grown) = (item, after) := by
          simpa [resized, bind, Except.bind] using created
        have same : grown = after := congrArg Prod.snd unchanged
        exact same ▸ kept
      | true =>
        have taken : grown.takeBack = (item, after) := by
          simpa [resized, bind, Except.bind] using created
        have same : grown.takeBack.2 = after := congrArg Prod.snd taken
        exact same ▸ kept.trans (takeBack_keepsLimit grown)

end ObjectPool

namespace PoolUse

open ObjectPool

variable {T : Type} [Poolable T]

/-- Every call keeps the limit. -/
theorem step_keepsLimit (use : PoolUse T) (action : PoolAction) :
    KeepsLimit use.pool (use.step action).pool := by
  cases action with
  | create allocates =>
    rw [step]
    split
    · rename_i created
      exact create_keepsLimit created
    · rename_i created
      exact create_keepsLimit created
    · exact .refl _
  | destroy item => exact ⟨rfl, rfl, id⟩
  | destroyItems items count =>
    rw [step, destroyItems, destroyLoop_eq]
    exact ⟨rfl, rfl, id⟩
  | reset => exact ⟨rfl, rfl, id⟩

/-- Every run keeps the limit. -/
theorem run_keepsLimit (use : PoolUse T) (actions : List PoolAction) :
    KeepsLimit use.pool (Transition.run step use actions).pool := by
  have along : Transition.Along step (fun after => KeepsLimit use.pool after.pool) use actions :=
    Transition.along_of_invariant
      (fun after action kept => kept.trans (step_keepsLimit after action)) (.refl _) actions
  exact along.last

variable {initialCapacity maxItems increaseStep : UInt64} {allocates : Bool}
  {pool : ObjectPool T}

/-- A new pool has the limit and the step it was given, the step halved from the initial
capacity if it was given none, and as many items as it was given, up to the limit. -/
theorem new_sizes
    (created : ObjectPool.new initialCapacity maxItems increaseStep allocates = .ok pool) :
    pool.mMaxItems = maxItems ∧
      pool.mIncreaseStep = (if increaseStep = 0 then initialCapacity >>> 1 else increaseStep) ∧
      pool.mCurrItems.toNat = min initialCapacity.toNat maxItems.toNat := by
  let blank : ObjectPool T :=
    { mFreeItems := []
      mItemCaches := []
      mMaxItems := maxItems
      mCurrItems := 0
      mIncreaseStep := if increaseStep = 0 then initialCapacity >>> 1 else increaseStep
      mAllocationCount := 0 }
  have bounded : blank.mCurrItems ≤ blank.mMaxItems := Nat.zero_le _
  have noWrap : blank.mCurrItems.toNat + initialCapacity.toNat < 2 ^ 64 := by
    simpa [blank] using initialCapacity.toNat_lt
  have room : blank.room = maxItems.toNat := by simp [ObjectPool.room, blank]
  have resized : (blank.resize initialCapacity allocates).map Prod.snd = .ok pool := created
  rw [resize_noWrap bounded noWrap, room] at resized
  split at resized
  · rename_i nothing
    cases resized
    exact ⟨rfl, rfl, nothing.symm⟩
  · cases allocates with
    | false => cases resized
    | true =>
      cases resized
      refine ⟨rfl, rfl, ?_⟩
      have clamped := toNat_clamp bounded noWrap
      have size := maxItems.toNat_lt
      rw [grown, UInt64.toNat_add, clamped, room, Nat.mod_eq_of_lt]
      · simp [blank]
      · simp only [blank, UInt64.toNat_zero]
        omega

/-- In every state reached, whatever the calls and the outcomes of the allocations, `resize`
asks for the number it is told, clamped to the room left, exactly if the sum of the size of
the pool and the number does not wrap. -/
theorem growsToRoom_reached_iff
    (created : ObjectPool.new initialCapacity maxItems increaseStep allocates = .ok pool)
    (actions : List PoolAction) (count : UInt64) :
    let reached := (Transition.run step { pool, live := [] } actions).pool
    GrowsToRoom reached count ↔ reached.mCurrItems.toNat + count.toNat < 2 ^ 64 :=
  growsToRoom_iff
    ((run_keepsLimit { pool, live := [] } actions).bounded (new_partitioned created).bounded)

/-- A new pool of one item with no limit that is to grow by the largest step. -/
def greedy : ObjectPool Unit :=
  { mFreeItems := [⟨0, 0⟩]
    mItemCaches := [⟨1, [()]⟩]
    mMaxItems := UInt64.ofNat (2 ^ 64 - 1)
    mCurrItems := 1
    mIncreaseStep := UInt64.ofNat (2 ^ 64 - 1)
    mAllocationCount := 1 }

/-- The pool of two items has room for three more, and asks for no more than that. -/
theorem growsToRoom_reached_iff_pair : GrowsToRoom pair 100 := by
  have created : ObjectPool.new 2 5 0 true = .ok pair := rfl
  exact (growsToRoom_reached_iff created [] 100).mpr (by decide)

/-- Told to add the largest number of items to one, the pool asks for all of them. -/
theorem greedy_asks_too_much :
    ObjectPool.new 1 (UInt64.ofNat (2 ^ 64 - 1)) (UInt64.ofNat (2 ^ 64 - 1)) true = .ok greedy ∧
      ¬GrowsToRoom (Transition.run step { pool := greedy, live := [] } [.create true]).pool
        greedy.mIncreaseStep := by
  refine ⟨rfl, fun grows => ?_⟩
  have wraps := (growsToRoom_iff (by decide)).mp grows
  exact absurd wraps (by decide)

/-! ## Giving up -/

/-- `create` returns a null pointer exactly when clients have as many items as the pool may
have. -/
def NullAtLimit (maxItems : UInt64) (use : PoolUse T) : Prop :=
  (∃ after, use.pool.create true = .ok (none, after)) ↔ use.live.length = maxItems.toNat

variable {use : PoolUse T}

/-- `create` returns a null pointer exactly when there is no free item and no room or no step
to grow by. -/
theorem create_null_iff (partitioned : Partitioned use) (noWrap : use.Legal (.create true)) :
    (∃ after, use.pool.create true = .ok (none, after)) ↔
      use.pool.mFreeItems = [] ∧ min use.pool.mIncreaseStep.toNat use.pool.room = 0 := by
  by_cases free : use.pool.mFreeItems = []
  · have resized := resize_noWrap partitioned.bounded (noWrap free) true
    by_cases full : min use.pool.mIncreaseStep.toNat use.pool.room = 0
    · rw [if_pos full] at resized
      have null : use.pool.create true = .ok (none, use.pool) := by
        simp [create, free, resized]
        rfl
      exact ⟨fun _ => ⟨free, full⟩, fun _ => ⟨_, null⟩⟩
    · rw [if_neg full, if_pos rfl] at resized
      have positive : 0 < (use.pool.clamp use.pool.mIncreaseStep).toNat := by
        rw [toNat_clamp partitioned.bounded (noWrap free)]
        omega
      obtain ⟨mFreeItems, item, -, taken⟩ := takeBack_spec (grown_free use.pool positive)
      have handed : use.pool.create true =
          .ok (use.pool.grown (use.pool.clamp use.pool.mIncreaseStep)).takeBack := by
        simp [create, free, resized]
        rfl
      constructor
      · rintro ⟨after, null⟩
        rw [handed, taken] at null
        cases null
      · intro null
        exact absurd null.2 full
  · obtain ⟨mFreeItems, item, -, taken⟩ := takeBack_spec free
    have handed : use.pool.create true = .ok use.pool.takeBack := by simp [create, free]
    constructor
    · rintro ⟨after, null⟩
      rw [handed, taken] at null
      cases null
    · intro null
      exact absurd null.1 free

/-- The pool gives up at its limit exactly if, out of free items and with no step to grow by,
it has all items it may have. -/
theorem nullAtLimit_iff (partitioned : Partitioned use) (noWrap : use.Legal (.create true)) :
    NullAtLimit use.pool.mMaxItems use ↔
      (use.pool.mFreeItems = [] → use.pool.mIncreaseStep.toNat = 0 → use.pool.room = 0) := by
  have counted := partitioned.live_length
  have ordered := UInt64.le_iff_toNat_le.mp partitioned.bounded
  rw [NullAtLimit, create_null_iff partitioned noWrap, room]
  by_cases free : use.pool.mFreeItems = []
  · rw [free, List.length_nil] at counted
    simp only [free, true_and, forall_const]
    omega
  · have some := List.length_pos_iff.mpr free
    simp only [free, false_and, false_implies, iff_true, false_iff]
    omega

/-- The pool does not shrink. -/
theorem step_mCurrItems (partitioned : Partitioned use) {action : PoolAction}
    (legal : use.Legal action) :
    use.pool.mCurrItems.toNat ≤ (use.step action).pool.mCurrItems.toNat := by
  cases action with
  | create allocates =>
    obtain threw | full | ⟨-, took⟩ | ⟨fitting, -, fits, took⟩ :=
      create_cases allocates partitioned.bounded legal
    · rw [step, threw]
    · rw [step_create full]
    · rw [step_create took, takeBack_mCurrItems]
    · have size := use.pool.mMaxItems.toNat_lt
      rw [step_create took, takeBack_mCurrItems, grown, UInt64.toNat_add,
        Nat.mod_eq_of_lt (by omega)]
      exact Nat.le_add_right ..
  | destroy item => exact Nat.le_refl _
  | destroyItems items count => rw [step, destroyItems, destroyLoop_eq]
  | reset => exact Nat.le_refl _

/-- The items of a pool are partitioned at the end of every legal run, and are no fewer than at
its start. -/
theorem run_partitioned (partitioned : Partitioned use) {actions : List PoolAction}
    (legal : Transition.Steps step Legal use actions) :
    Partitioned (Transition.run step use actions) ∧
      use.pool.mCurrItems.toNat ≤
        (Transition.run step use actions).pool.mCurrItems.toNat := by
  have along : Transition.Along step (fun after : PoolUse T =>
      Partitioned after ∧ use.pool.mCurrItems.toNat ≤ after.pool.mCurrItems.toNat) use actions :=
    Transition.along_of_steps
      (fun after action kept legal => ⟨step_partitioned after action kept.1 legal,
        Nat.le_trans kept.2 (step_mCurrItems kept.1 legal)⟩) ⟨partitioned, Nat.le_refl _⟩ legal
  exact along.last

/-- Taking every free item is legal, and leaves none and the pool as large as it was. -/
theorem run_exhausted (partitioned : Partitioned use) :
    ∃ actions, Transition.Steps step Legal use actions ∧
      (Transition.run step use actions).pool.mFreeItems = [] ∧
      (Transition.run step use actions).pool.mCurrItems = use.pool.mCurrItems := by
  induction counted : use.pool.mFreeItems.length generalizing use with
  | zero => exact ⟨[], trivial, List.eq_nil_of_length_eq_zero counted, rfl⟩
  | succ count ih =>
    have free : use.pool.mFreeItems ≠ [] := List.ne_nil_of_length_eq_add_one counted
    have legal : use.Legal (.create true) := fun none => absurd none free
    have took : use.pool.create true = .ok use.pool.takeBack := by simp [create, free]
    have left : (use.step (.create true)).pool.mFreeItems.length = count := by
      obtain ⟨mFreeItems, item, back, taken⟩ := takeBack_spec free
      rw [step_create took, taken]
      rw [back, List.length_append, List.length_singleton] at counted
      exact Nat.succ.inj counted
    obtain ⟨actions, steps, none, same⟩ :=
      ih (step_partitioned use _ partitioned legal) left
    refine ⟨.create true :: actions, ⟨legal, steps⟩, none, same.trans ?_⟩
    rw [step_create took, takeBack_mCurrItems]

/-- The step of a new pool is zero exactly if it was given none and halving leaves none. -/
theorem step_eq_zero_iff :
    (if increaseStep = 0 then initialCapacity >>> 1 else increaseStep).toNat = 0 ↔
      increaseStep = 0 ∧ initialCapacity.toNat < 2 := by
  by_cases given : increaseStep = 0
  · have halved : (initialCapacity >>> 1).toNat = initialCapacity.toNat / 2 := by
      rw [UInt64.toNat_shiftRight]
      exact Nat.shiftRight_eq_div_pow ..
    rw [if_pos given, halved]
    simp only [given, true_and]
    omega
  · rw [if_neg given]
    simp only [given, false_and, iff_false]
    exact fun zero => given (UInt64.toNat_inj.mp zero)

/-- The pool gives up at its limit and only there, in every state of every legal run, exactly
if it has a step to grow by or starts at its limit. Halving gives no step to a pool of at most
one item. -/
theorem gives_up_at_limit_iff
    (created : ObjectPool.new initialCapacity maxItems increaseStep allocates = .ok pool) :
    (∀ actions, Transition.Steps step Legal { pool, live := [] } actions →
      (Transition.run step { pool, live := [] } actions).Legal (.create true) →
      NullAtLimit maxItems (Transition.run step { pool, live := [] } actions)) ↔
      increaseStep ≠ 0 ∨ 2 ≤ initialCapacity.toNat ∨ maxItems ≤ initialCapacity := by
  obtain ⟨limit, increase, size⟩ := new_sizes created
  have partitioned := new_partitioned created
  have atLimit {actions : List PoolAction}
      (legal : Transition.Steps step Legal { pool, live := [] } actions)
      (noWrap : (Transition.run step { pool, live := [] } actions).Legal (.create true)) :
      NullAtLimit maxItems (Transition.run step { pool, live := [] } actions) ↔
        ((Transition.run step { pool, live := [] } actions).pool.mFreeItems = [] →
          increaseStep = 0 ∧ initialCapacity.toNat < 2 →
          maxItems.toNat -
            (Transition.run step { pool, live := [] } actions).pool.mCurrItems.toNat = 0) := by
    have kept := run_keepsLimit { pool, live := [] } actions
    have exactly := nullAtLimit_iff (run_partitioned partitioned legal).1 noWrap
    rwa [room, kept.limit, kept.increase, limit, increase, step_eq_zero_iff] at exactly
  rw [UInt64.le_iff_toNat_le]
  constructor
  · intro always
    by_contra stuck
    obtain ⟨given, small, below⟩ : increaseStep = 0 ∧ initialCapacity.toNat < 2 ∧
        initialCapacity.toNat < maxItems.toNat := by
      simpa only [not_or, ne_eq, not_not, Nat.not_le] using stuck
    obtain ⟨actions, legal, none, same⟩ := run_exhausted partitioned
    have increaseZero : pool.mIncreaseStep.toNat = 0 := by
      rw [increase, step_eq_zero_iff]
      exact ⟨given, small⟩
    have noWrap : (Transition.run step { pool, live := [] } actions).Legal (.create true) := by
      intro _
      rw [(run_keepsLimit { pool, live := [] } actions).increase, increaseZero]
      exact UInt64.toNat_lt _
    have full := (atLimit legal noWrap).mp (always actions legal noWrap) none ⟨given, small⟩
    rw [same, size] at full
    omega
  · intro condition actions legal noWrap
    refine (atLimit legal noWrap).mpr fun _ stuck => ?_
    have grown := (run_partitioned partitioned legal).2
    have full : maxItems.toNat ≤ initialCapacity.toNat := by
      rcases condition with given | large | full
      · exact absurd stuck.1 given
      · exact absurd stuck.2 (Nat.not_lt.mpr large)
      · exact full
    simp only [size] at grown
    omega

/-- A pool of one item that is not given a step. -/
def lone : ObjectPool Unit :=
  { mFreeItems := [⟨0, 0⟩]
    mItemCaches := [⟨1, [()]⟩]
    mMaxItems := 16
    mCurrItems := 1
    mIncreaseStep := 0
    mAllocationCount := 1 }

/-- The pool of two items gives up at its limit once it has grown to it. -/
theorem gives_up_at_limit_iff_pair :
    NullAtLimit 5 (Transition.run step { pool := pair, live := [] }
      (List.replicate 5 (.create true))) := by
  have created : ObjectPool.new 2 5 0 true = .ok pair := rfl
  have always := (gives_up_at_limit_iff created).mpr (.inr (.inl (by decide)))
  exact always (List.replicate 5 (.create true)) (by decide +kernel) (by decide +kernel)

/-- The pool of one item gives up with one item handed out, though it may have sixteen. -/
theorem lone_gives_up_early :
    ObjectPool.new 1 16 0 true = .ok lone ∧
      Transition.Steps step Legal { pool := lone, live := [] } [.create true] ∧
      (Transition.run step { pool := lone, live := [] } [.create true]).Legal (.create true) ∧
      ¬NullAtLimit 16 (Transition.run step { pool := lone, live := [] } [.create true]) := by
  refine ⟨rfl, by decide +kernel, by decide +kernel, fun atLimit => ?_⟩
  have early := atLimit.mp ⟨_, rfl⟩
  exact absurd early (by decide +kernel)

end PoolUse

end ApiPack2
