import Mathlib.Data.List.Basic

/-!
# The object pool

`ObjectPool` hands out items of arrays that it allocates as it grows, the caches, and keeps
the pointers to its free items in a list whose back is handed out next. A pointer is the
number of its cache with an index into it; sizes are machine words, so that additions wrap.
`new` may throw, which each function that allocates is told.
-/

namespace ApiPack2

/-- What the pool needs of the type of its items. -/
class Poolable (T : Type) where
  /-- The default constructor. -/
  make : T
  /-- `reset`. -/
  reset : T → T

/-- `T *` into a cache. -/
structure ItemPtr where
  /-- The cache pointed into. -/
  cache : Nat
  /-- The item pointed to, from the start of the cache. -/
  index : Nat
  deriving DecidableEq

/-- The pointer to the next item. -/
def ItemPtr.succ (item : ItemPtr) : ItemPtr := { item with index := item.index + 1 }

/-- `ObjectPool::CacheItem`: a size and an array of as many items. -/
structure CacheItem (T : Type) where
  /-- Number of items. -/
  count : UInt64
  /-- The items. -/
  cache : List T

/-- `std::bad_alloc`. -/
inductive BadAlloc where
  | badAlloc
  deriving DecidableEq

/-- `ObjectPool`. -/
structure ObjectPool (T : Type) where
  /-- Pointers to the free items, the back last. -/
  mFreeItems : List ItemPtr
  /-- The caches in the order of their allocation. -/
  mItemCaches : List (CacheItem T)
  /-- Items the pool may have. -/
  mMaxItems : UInt64
  /-- Items the pool has. -/
  mCurrItems : UInt64
  /-- Items to grow by. -/
  mIncreaseStep : UInt64
  /-- Caches allocated. -/
  mAllocationCount : UInt64

namespace ObjectPool

variable {T : Type} [Poolable T]

/-- The loop that pushes `--cache` as often as the cache has items, from its end. -/
def pushCache (mFreeItems : List ItemPtr) (cache : Nat) : Nat → List ItemPtr
  | 0 => mFreeItems
  | index + 1 => pushCache (mFreeItems ++ [⟨cache, index⟩]) cache index

/-- The loop over the caches in `reset`, from the given number on. -/
def pushCaches (mFreeItems : List ItemPtr) : Nat → List (CacheItem T) → List ItemPtr
  | _, [] => mFreeItems
  | cache, cacheItem :: mItemCaches =>
    pushCaches (pushCache mFreeItems cache cacheItem.count.toNat) (cache + 1) mItemCaches

/-- The number of items `resize` asks for when told to grow by `count`. -/
def clamp (pool : ObjectPool T) (count : UInt64) : UInt64 :=
  if pool.mCurrItems + count > pool.mMaxItems then pool.mMaxItems - pool.mCurrItems else count

/-- `ObjectPool::resize`: whether the pool has grown, and the pool afterwards. -/
def resize (pool : ObjectPool T) (count : UInt64) (allocates : Bool) :
    Except BadAlloc (Bool × ObjectPool T) :=
  let count := pool.clamp count
  if count > 0 ∧ pool.mCurrItems + count ≤ pool.mMaxItems then
    if allocates then
      let cache := pool.mItemCaches.length
      .ok (true, { pool with
        mItemCaches := pool.mItemCaches ++ [⟨count, List.replicate count.toNat Poolable.make⟩]
        mAllocationCount := pool.mAllocationCount + 1
        mFreeItems := pushCache pool.mFreeItems cache count.toNat
        mCurrItems := pool.mCurrItems + count })
    else .error .badAlloc
  else .ok (false, pool)

/-- `ObjectPool::ObjectPool`. -/
def new (initialCapacity maxItems increaseStep : UInt64) (allocates : Bool) :
    Except BadAlloc (ObjectPool T) :=
  let pool : ObjectPool T :=
    { mFreeItems := []
      mItemCaches := []
      mMaxItems := maxItems
      mCurrItems := 0
      mIncreaseStep := if increaseStep = 0 then initialCapacity >>> 1 else increaseStep
      mAllocationCount := 0 }
  (pool.resize initialCapacity allocates).map Prod.snd

/-- `item->reset()`. -/
def resetItem (pool : ObjectPool T) (item : ItemPtr) : ObjectPool T :=
  { pool with
    mItemCaches := pool.mItemCaches.modify item.cache fun cacheItem =>
      { cacheItem with cache := cacheItem.cache.modify item.index Poolable.reset } }

/-- Take the back of the free items and reset it; none when there is no free item. -/
def takeBack (pool : ObjectPool T) : Option ItemPtr × ObjectPool T :=
  match pool.mFreeItems.getLast? with
  | some item => (some item,
      { pool with mFreeItems := pool.mFreeItems.dropLast }.resetItem item)
  | none => (none, pool)

/-- `ObjectPool::create`: the item handed out, none for a null pointer, and the pool
afterwards. -/
def create (pool : ObjectPool T) (allocates : Bool) :
    Except BadAlloc (Option ItemPtr × ObjectPool T) :=
  if ¬pool.mFreeItems.isEmpty then .ok pool.takeBack
  else do
    let (grown, pool) ← pool.resize pool.mIncreaseStep allocates
    if grown then .ok pool.takeBack else .ok (none, pool)

/-- `ObjectPool::destroy` of one item. -/
def destroy (pool : ObjectPool T) : Option ItemPtr → Bool × ObjectPool T
  | none => (false, pool)
  | some item => (true, { pool with mFreeItems := pool.mFreeItems ++ [item] })

/-- The loop of `destroy` over the items from the given one on; the pointer to an item is
never null. -/
def destroyLoop (pool : ObjectPool T) (current : ItemPtr) : Nat → ObjectPool T
  | 0 => pool
  | count + 1 =>
    destroyLoop { pool with mFreeItems := pool.mFreeItems ++ [current] } current.succ count

/-- `ObjectPool::destroy` of items in a row. -/
def destroyItems (pool : ObjectPool T) (items : ItemPtr) (count : UInt64) :
    UInt64 × ObjectPool T :=
  (count, pool.destroyLoop items count.toNat)

/-- `ObjectPool::capacity`. -/
def capacity (pool : ObjectPool T) : UInt64 := pool.mMaxItems

/-- `ObjectPool::availableCount`. -/
def availableCount (pool : ObjectPool T) : Nat := pool.mFreeItems.length

/-- `ObjectPool::allocationCount`. -/
def allocationCount (pool : ObjectPool T) : UInt64 := pool.mAllocationCount

/-- `ObjectPool::reset`. -/
def reset (pool : ObjectPool T) : ObjectPool T :=
  { pool with mFreeItems := pushCaches [] 0 pool.mItemCaches }

end ObjectPool

end ApiPack2
