import ApiPack2.Lib.Memory
import ApiPack2.Utils.PoolSlots

/-!
# The debug assertions of the pool

In the debug build `destroy` compares the address of each item given back with the ends of
every cache. An item lies in one cache, and the allocator places the caches apart from each
other, so the assertions hold exactly as long as there is no second cache.
-/

namespace ApiPack2

open Memory

/-- Where the allocator has placed the caches of a pool. -/
structure Placement where
  /-- Address of the first item of a cache, by its number. -/
  base : Nat → Nat
  /-- `sizeof(T)`. -/
  itemSize : Nat
  /-- No type has size zero. -/
  positive : 0 < itemSize

namespace Placement

variable {T : Type} (placement : Placement)

/-- The address of an item. -/
def address (item : ItemPtr) : Nat :=
  placement.base item.cache + item.index * placement.itemSize

/-- The addresses of a cache. -/
def region (cache : Nat) (cacheItem : CacheItem T) : Region :=
  ⟨placement.base cache, cacheItem.count.toNat * placement.itemSize⟩

/-- The allocator has placed the caches apart from each other. -/
def Separate (mItemCaches : List (CacheItem T)) : Prop :=
  (mItemCaches.mapIdx placement.region).Pairwise Region.Apart

instance (mItemCaches : List (CacheItem T)) : Decidable (placement.Separate mItemCaches) :=
  inferInstanceAs (Decidable (List.Pairwise _ _))

/-- The condition asserted for an item and a cache:
`item>=cacheItem.cache && item<(cacheItem.cache+cacheItem.count)`. -/
def inCache (item : ItemPtr) (cache : Nat) (cacheItem : CacheItem T) : Bool :=
  placement.address item ≥ placement.address ⟨cache, 0⟩ &&
    placement.address item < placement.address ⟨cache, cacheItem.count.toNat⟩

end Placement

namespace ObjectPool

variable {T : Type} (placement : Placement)

/-- The loop of the assertions over the caches. -/
def asserts (pool : ObjectPool T) (item : ItemPtr) : Bool :=
  (pool.mItemCaches.mapIdx (placement.inCache item)).all id

/-- The assertions that `destroy` of one item executes. -/
def destroyAsserts (pool : ObjectPool T) : Option ItemPtr → Bool
  | none => true
  | some item => pool.asserts placement item

/-- The assertions that the loop of `destroy` executes, from the given item on. -/
def destroyLoopAsserts (pool : ObjectPool T) (current : ItemPtr) : Nat → Bool
  | 0 => true
  | count + 1 => pool.asserts placement current &&
    destroyLoopAsserts { pool with mFreeItems := pool.mFreeItems ++ [current] } current.succ count

/-- The assertions that `destroy` of items in a row executes. -/
def destroyItemsAsserts (pool : ObjectPool T) (items : ItemPtr) (count : UInt64) : Bool :=
  pool.destroyLoopAsserts placement items count.toNat

variable {placement}

/-- The assertions of the loop are those of the items in a row. -/
theorem destroyLoopAsserts_eq (pool : ObjectPool T) (current : ItemPtr) (count : Nat) :
    pool.destroyLoopAsserts placement current count =
      (inRow current count).all (pool.asserts placement) := by
  induction count generalizing pool current with
  | zero => rfl
  | succ count ih =>
    rw [destroyLoopAsserts, ih, inRow, List.all_cons]
    rfl

/-- An address is in a cache if it is in its region. -/
theorem inCache_iff (item : ItemPtr) (cache : Nat) (cacheItem : CacheItem T) :
    placement.inCache item cache cacheItem = true ↔
      (placement.region cache cacheItem).Has (placement.address item) := by
  rw [Placement.inCache, Bool.and_eq_true, decide_eq_true_eq, decide_eq_true_eq]
  simp only [Placement.region, Placement.address, has_mk, Nat.zero_mul, Nat.add_zero, ge_iff_le]

/-- The items of a cache have their addresses in its region. -/
theorem has_of_item {item : ItemPtr} {cacheItem : CacheItem T}
    (inside : item.index < cacheItem.count.toNat) :
    (placement.region item.cache cacheItem).Has (placement.address item) := by
  refine ⟨Nat.le_add_right .., Nat.add_lt_add_left ?_ _⟩
  exact Nat.mul_lt_mul_of_pos_right inside placement.positive

/-- Caches placed apart have no address in common. -/
theorem not_has_of_separate {mItemCaches : List (CacheItem T)}
    (separate : placement.Separate mItemCaches) {left right : Nat} (differ : left ≠ right)
    {leftItem rightItem : CacheItem T} (leftStored : mItemCaches[left]? = some leftItem)
    (rightStored : mItemCaches[right]? = some rightItem) {address : Nat}
    (inside : (placement.region left leftItem).Has address) :
    ¬(placement.region right rightItem).Has address := by
  have placedAt {position : Nat} {cacheItem : CacheItem T}
      (stored : mItemCaches[position]? = some cacheItem) :
      ∃ _ : position < (mItemCaches.mapIdx placement.region).length,
        (mItemCaches.mapIdx placement.region)[position] = placement.region position cacheItem := by
    apply List.getElem?_eq_some_iff.mp
    rw [List.getElem?_mapIdx, stored]
    rfl
  obtain ⟨leftBound, leftPlaced⟩ := placedAt leftStored
  obtain ⟨rightBound, rightPlaced⟩ := placedAt rightStored
  have apart := List.pairwise_iff_getElem.mp separate
  rcases Nat.lt_or_gt_of_ne differ with before | after
  · have pair := apart left right leftBound rightBound before
    rw [leftPlaced, rightPlaced] at pair
    exact pair.not_has inside
  · have pair := apart right left rightBound leftBound after
    rw [leftPlaced, rightPlaced] at pair
    exact pair.symm.not_has inside

/-- The assertions accept an item of the pool exactly if there is no second cache. -/
theorem asserts_iff {pool : ObjectPool T} (separate : placement.Separate pool.mItemCaches)
    {item : ItemPtr} (isItem : item ∈ pool.items) :
    pool.asserts placement item = true ↔ pool.mItemCaches.length ≤ 1 := by
  obtain ⟨position, cacheItem, stored, same, inside⟩ := (mem_itemsFrom ..).mp isItem
  rw [Nat.zero_add] at same
  subst same
  have own : (placement.region item.cache cacheItem).Has (placement.address item) :=
    has_of_item inside
  have every : pool.asserts placement item = true ↔ ∀ cache other,
      pool.mItemCaches[cache]? = some other →
        (placement.region cache other).Has (placement.address item) := by
    simp only [asserts, List.all_eq_true, List.mem_iff_getElem?, List.getElem?_mapIdx,
      ← inCache_iff, id]
    constructor
    · exact fun all cache other stored => all _ ⟨cache, by rw [stored]; rfl⟩
    · rintro all outcome ⟨cache, found⟩
      obtain ⟨other, stored, rfl⟩ := Option.map_eq_some_iff.mp found
      exact all cache other stored
  rw [every]
  obtain ⟨position, -⟩ := List.getElem?_eq_some_iff.mp stored
  constructor
  · intro all
    by_contra second
    -- some cache has another number than that of the item
    obtain ⟨cache, other, exists_⟩ : ∃ cache, cache ≠ item.cache ∧
        cache < pool.mItemCaches.length := by
      rcases Nat.eq_zero_or_pos item.cache with first | later
      · exact ⟨1, by omega, by omega⟩
      · exact ⟨0, by omega, by omega⟩
    have found := List.getElem?_eq_getElem exists_
    exact not_has_of_separate separate other found stored (all cache _ found) own
  · intro single cache other found
    obtain ⟨bound, -⟩ := List.getElem?_eq_some_iff.mp found
    have same : cache = item.cache := by omega
    subst same
    rw [stored] at found
    cases found
    exact own

end ObjectPool

namespace PoolUse

open ObjectPool

variable {T : Type} [Poolable T] (placement : Placement)

/-- Only items handed out are given back, and the allocator has placed the caches apart. -/
def GivesBackPlaced (use : PoolUse T) (action : PoolAction) : Prop :=
  use.GivesBack action ∧ placement.Separate use.pool.mItemCaches

instance (use : PoolUse T) (action : PoolAction) :
    Decidable (use.GivesBackPlaced placement action) :=
  inferInstanceAs (Decidable (_ ∧ _))

/-- Every assertion that the call executes holds. -/
def Accepted (use : PoolUse T) : PoolAction → Prop
  | .destroy item => use.pool.destroyAsserts placement (some item) = true
  | .destroyItems items count => use.pool.destroyItemsAsserts placement items count = true
  | .create _ | .reset => True

/-- The call gives back no item of a pool with more than one cache. -/
def OneCache (use : PoolUse T) : PoolAction → Prop
  | .destroy _ => use.pool.mItemCaches.length ≤ 1
  | .destroyItems _ count => count ≠ 0 → use.pool.mItemCaches.length ≤ 1
  | .create _ | .reset => True

instance (use : PoolUse T) : ∀ action, Decidable (use.Accepted placement action)
  | .destroy _ | .destroyItems _ _ => inferInstanceAs (Decidable (_ = true))
  | .create _ | .reset => inferInstanceAs (Decidable True)

instance (use : PoolUse T) : ∀ action, Decidable (use.OneCache action)
  | .destroy _ => inferInstanceAs (Decidable (_ ≤ 1))
  | .destroyItems _ _ => inferInstanceAs (Decidable (_ → _))
  | .create _ | .reset => inferInstanceAs (Decidable True)

variable {placement} {use : PoolUse T}

omit [Poolable T] in
/-- A call that gives back items handed out passes its assertions exactly if the pool has no
second cache or no item is given back. -/
theorem accepted_iff (shared : Shared use)
    (separate : placement.Separate use.pool.mItemCaches) {action : PoolAction}
    (returns : use.GivesBack action) : use.Accepted placement action ↔ use.OneCache action := by
  have owned {item : ItemPtr} (live : item ∈ use.live) : item ∈ use.pool.items :=
    shared.mem_iff.mp (List.mem_append_right _ live)
  cases action with
  | create allocates => exact Iff.rfl
  | destroy item => exact asserts_iff separate (owned returns)
  | destroyItems items count =>
    rw [Accepted, OneCache, destroyItemsAsserts, destroyLoopAsserts_eq, List.all_eq_true]
    have each (item : ItemPtr) (returned : item ∈ inRow items count.toNat) :
        use.pool.asserts placement item = true ↔ use.pool.mItemCaches.length ≤ 1 :=
      asserts_iff separate (owned (returns item returned))
    constructor
    · intro all some
      have positive : count.toNat ≠ 0 := fun zero => some (UInt64.toNat_inj.mp zero)
      have first : items ∈ inRow items count.toNat := by
        rw [mem_inRow]
        omega
      exact (each items first).mp (all items first)
    · intro single item returned
      have some : count ≠ 0 := by
        rintro rfl
        simp at returned
        omega
      exact (each item returned).mpr (single some)
  | reset => exact Iff.rfl

/-- In every run in which only items handed out are given back, the assertions of the debug
build hold exactly if no item is given back while the pool has more than one cache. -/
theorem debug_accepts_iff {initialCapacity maxItems increaseStep : UInt64} {allocates : Bool}
    {pool : ObjectPool T}
    (created : ObjectPool.new initialCapacity maxItems increaseStep allocates = .ok pool)
    {actions : List PoolAction}
    (returns : Transition.Steps step (GivesBackPlaced placement) { pool, live := [] } actions) :
    Transition.Steps step (Accepted placement) { pool, live := [] } actions ↔
      Transition.Steps step OneCache { pool, live := [] } actions :=
  Transition.steps_congr_of_steps
    (fun use action shared returns _ => step_shared use action shared returns.1)
    (fun _ _ shared returns => accepted_iff shared returns.2 returns.1)
    (new_partitioned created).items returns

/-- Every cache has its own kilobyte. -/
def kilobytes : Placement := { base := fun cache => 1024 * cache, itemSize := 8, positive := by decide }

/-- A client that does not make the pool grow passes the assertions. -/
theorem debug_accepts_iff_pair :
    Transition.Steps step (Accepted kilobytes) { pool := pair, live := [] }
      [.create true, .create true, .destroy ⟨0, 1⟩, .destroyItems ⟨0, 0⟩ 1] := by
  have created : ObjectPool.new 2 5 0 true = .ok pair := rfl
  exact (debug_accepts_iff created (by decide +kernel)).mpr (by decide +kernel)

/-- After the pool of two items has grown, the assertions refuse an item of its first cache that
is handed out. -/
theorem grown_refuses_first :
    Transition.Steps step (GivesBackPlaced kilobytes) { pool := pair, live := [] }
        [.create true, .create true, .create true, .destroy ⟨0, 0⟩] ∧
      ¬Transition.Steps step (Accepted kilobytes) { pool := pair, live := [] }
        [.create true, .create true, .create true, .destroy ⟨0, 0⟩] := by
  constructor <;> decide +kernel

end PoolUse

end ApiPack2
