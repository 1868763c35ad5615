import ApiPack2.Lib.Transition
import ApiPack2.Utils.ObjectPool
import Mathlib.Data.List.Nodup
import Mathlib.Data.List.Perm.Basic
import Mathlib.Tactic.Linarith

/-!
# Who has the items of a pool

Every item of every cache is either free or with a client. The free list followed by the items
handed out is a rearrangement of all items of the caches; this is what every operation keeps,
and the facts about duplicates, owners and counts follow from it.
-/

namespace ApiPack2

namespace ObjectPool

variable {T : Type}

/-- Pointers to the items of a cache. -/
def itemsOf (cache count : Nat) : List ItemPtr := (List.range count).map (⟨cache, ·⟩)

/-- Pointers to the items of the caches, numbered from the given one on. -/
def itemsFrom : Nat → List (CacheItem T) → List ItemPtr
  | _, [] => []
  | cache, cacheItem :: mItemCaches =>
    itemsOf cache cacheItem.count.toNat ++ itemsFrom (cache + 1) mItemCaches

/-- Pointers to all items of the pool. -/
def items (pool : ObjectPool T) : List ItemPtr := itemsFrom 0 pool.mItemCaches

/-- The items of a cache are those with its number, up to its size. -/
@[simp]
theorem mem_itemsOf (cache count : Nat) (item : ItemPtr) :
    item ∈ itemsOf cache count ↔ item.cache = cache ∧ item.index < count := by
  obtain ⟨itsCache, itsIndex⟩ := item
  simp only [itemsOf, List.mem_map, List.mem_range, ItemPtr.mk.injEq]
  constructor
  · rintro ⟨index, inside, rfl, rfl⟩
    exact ⟨rfl, inside⟩
  · rintro ⟨rfl, inside⟩
    exact ⟨itsIndex, inside, rfl, rfl⟩

/-- The items of the caches are those of one of them. -/
theorem mem_itemsFrom (cache : Nat) (mItemCaches : List (CacheItem T)) (item : ItemPtr) :
    item ∈ itemsFrom cache mItemCaches ↔
      ∃ position cacheItem, mItemCaches[position]? = some cacheItem ∧
        item.cache = cache + position ∧ item.index < cacheItem.count.toNat := by
  induction mItemCaches generalizing cache with
  | nil => simp [itemsFrom]
  | cons first mItemCaches ih =>
    rw [itemsFrom, List.mem_append, mem_itemsOf, ih]
    constructor
    · rintro (⟨same, inside⟩ | ⟨position, cacheItem, stored, same, inside⟩)
      · exact ⟨0, first, rfl, same, inside⟩
      · exact ⟨position + 1, cacheItem, stored, by omega, inside⟩
    · rintro ⟨position, cacheItem, stored, same, inside⟩
      cases position with
      | zero =>
        cases stored
        exact .inl ⟨same, inside⟩
      | succ position => exact .inr ⟨position, cacheItem, stored, by omega, inside⟩

/-- No two pointers to items of the caches are the same. -/
theorem nodup_itemsFrom (cache : Nat) (mItemCaches : List (CacheItem T)) :
    (itemsFrom cache mItemCaches).Nodup := by
  induction mItemCaches generalizing cache with
  | nil => exact List.nodup_nil
  | cons first mItemCaches ih =>
    refine List.Nodup.append ?_ (ih (cache + 1)) ?_
    · exact List.nodup_range.map fun left right same => congrArg ItemPtr.index same
    · intro item here later
      obtain ⟨same, -⟩ := (mem_itemsOf ..).mp here
      obtain ⟨position, -, -, other, -⟩ := (mem_itemsFrom ..).mp later
      omega

/-- The caches have as many items as their sizes add up to. -/
theorem length_itemsFrom (cache : Nat) (mItemCaches : List (CacheItem T)) :
    (itemsFrom cache mItemCaches).length =
      (mItemCaches.map fun cacheItem => cacheItem.count.toNat).sum := by
  induction mItemCaches generalizing cache with
  | nil => rfl
  | cons first mItemCaches ih => simp [itemsFrom, itemsOf, ih]

/-- A new cache adds its items. -/
theorem itemsFrom_append (cache : Nat) (mItemCaches : List (CacheItem T))
    (cacheItem : CacheItem T) :
    itemsFrom cache (mItemCaches ++ [cacheItem]) =
      itemsFrom cache mItemCaches ++
        itemsOf (cache + mItemCaches.length) cacheItem.count.toNat := by
  induction mItemCaches generalizing cache with
  | nil => simp [itemsFrom]
  | cons first mItemCaches ih =>
    have shift : cache + 1 + mItemCaches.length = cache + (mItemCaches.length + 1) := by omega
    rw [List.cons_append, itemsFrom, itemsFrom, ih, List.append_assoc, List.length_cons, shift]

/-- The items depend on the sizes of the caches only. -/
theorem itemsFrom_congr (cache : Nat) {left right : List (CacheItem T)}
    (same : left.map CacheItem.count = right.map CacheItem.count) :
    itemsFrom cache left = itemsFrom cache right := by
  induction left generalizing cache right with
  | nil =>
    cases right with
    | nil => rfl
    | cons => simp at same
  | cons first left ih =>
    cases right with
    | nil => simp at same
    | cons second right =>
      obtain ⟨head, tail⟩ := List.cons.inj same
      rw [itemsFrom, itemsFrom, head, ih (cache + 1) tail]

/-- Pushing a cache adds its items. -/
theorem pushCache_perm (mFreeItems : List ItemPtr) (cache count : Nat) :
    (pushCache mFreeItems cache count).Perm (mFreeItems ++ itemsOf cache count) := by
  induction count generalizing mFreeItems with
  | zero => simp [pushCache, itemsOf]
  | succ count ih =>
    have last : itemsOf cache (count + 1) = itemsOf cache count ++ [⟨cache, count⟩] := by
      simp [itemsOf, List.range_succ]
    rw [pushCache, last]
    calc (pushCache (mFreeItems ++ [⟨cache, count⟩]) cache count).Perm
          ((mFreeItems ++ [⟨cache, count⟩]) ++ itemsOf cache count) := ih _
      _ = mFreeItems ++ ([⟨cache, count⟩] ++ itemsOf cache count) := List.append_assoc ..
      List.Perm _ (mFreeItems ++ (itemsOf cache count ++ [⟨cache, count⟩])) :=
        List.perm_append_comm.append_left mFreeItems

/-- Pushing every cache adds all items. -/
theorem pushCaches_perm (mFreeItems : List ItemPtr) (cache : Nat)
    (mItemCaches : List (CacheItem T)) :
    (pushCaches mFreeItems cache mItemCaches).Perm
      (mFreeItems ++ itemsFrom cache mItemCaches) := by
  induction mItemCaches generalizing mFreeItems cache with
  | nil => simp [pushCaches, itemsFrom]
  | cons first mItemCaches ih =>
    rw [pushCaches, itemsFrom, ← List.append_assoc]
    exact (ih _ _).trans ((pushCache_perm ..).append_right _)

/-- Pointers to items in a row, from the given one on. -/
def inRow : ItemPtr → Nat → List ItemPtr
  | _, 0 => []
  | item, count + 1 => item :: inRow item.succ count

/-- The items in a row are those of one cache with indices in a row. -/
@[simp]
theorem mem_inRow (first : ItemPtr) (count : Nat) (item : ItemPtr) :
    item ∈ inRow first count ↔
      item.cache = first.cache ∧ first.index ≤ item.index ∧ item.index < first.index + count := by
  induction count generalizing first with
  | zero => simp [inRow]
  | succ count ih =>
    rw [inRow, List.mem_cons, ih]
    obtain ⟨itsCache, itsIndex⟩ := item
    obtain ⟨cache, index⟩ := first
    simp only [ItemPtr.succ, ItemPtr.mk.injEq]
    omega

/-- No two items in a row are the same. -/
theorem nodup_inRow (first : ItemPtr) (count : Nat) : (inRow first count).Nodup := by
  induction count generalizing first with
  | zero => exact List.nodup_nil
  | succ count ih =>
    refine List.nodup_cons.mpr ⟨?_, ih first.succ⟩
    rw [mem_inRow, ItemPtr.succ]
    exact fun later => Nat.not_succ_le_self _ later.2.1

/-- The loop of `destroy` pushes the items in a row. -/
theorem destroyLoop_eq (pool : ObjectPool T) (current : ItemPtr) (count : Nat) :
    pool.destroyLoop current count =
      { pool with mFreeItems := pool.mFreeItems ++ inRow current count } := by
  induction count generalizing pool current with
  | zero => simp [destroyLoop, inRow]
  | succ count ih => simp [destroyLoop, ih, inRow]

/-- Without wrapping, the clamped count fits. -/
theorem clamp_le {pool : ObjectPool T} {count : UInt64}
    (bounded : pool.mCurrItems ≤ pool.mMaxItems)
    (noWrap : pool.mCurrItems.toNat + count.toNat < 2 ^ 64) :
    pool.mCurrItems.toNat + (pool.clamp count).toNat ≤ pool.mMaxItems.toNat := by
  rw [UInt64.le_iff_toNat_le] at bounded
  rw [clamp]
  split
  · rw [UInt64.toNat_sub_of_le _ _ bounded]
    omega
  · rename_i fits
    rw [gt_iff_lt, UInt64.lt_iff_toNat_lt, UInt64.toNat_add, Nat.mod_eq_of_lt noWrap] at fits
    omega

variable [Poolable T]

/-- The pool after `resize` has allocated a cache. -/
def grown (pool : ObjectPool T) (count : UInt64) : ObjectPool T :=
  { pool with
    mItemCaches := pool.mItemCaches ++ [⟨count, List.replicate count.toNat Poolable.make⟩]
    mAllocationCount := pool.mAllocationCount + 1
    mFreeItems := pushCache pool.mFreeItems pool.mItemCaches.length count.toNat
    mCurrItems := pool.mCurrItems + count }

/-- `resize` throws, or does nothing, or allocates a cache. -/
theorem resize_outcomes (pool : ObjectPool T) (count : UInt64) (allocates : Bool) :
    pool.resize count allocates = .error .badAlloc ∨
      pool.resize count allocates = .ok (false, pool) ∨
      0 < (pool.clamp count).toNat ∧
        pool.resize count allocates = .ok (true, pool.grown (pool.clamp count)) := by
  rw [resize]
  split
  · rename_i room
    cases allocates with
    | false => exact .inl rfl
    | true => exact .inr (.inr ⟨room.1, rfl⟩)
  · exact .inr (.inl rfl)

/-- `resize` throws, or has no room, or allocates a cache that fits. -/
theorem resize_cases {pool : ObjectPool T} {count : UInt64} (allocates : Bool)
    (bounded : pool.mCurrItems ≤ pool.mMaxItems)
    (noWrap : pool.mCurrItems.toNat + count.toNat < 2 ^ 64) :
    pool.resize count allocates = .error .badAlloc ∨
      pool.resize count allocates = .ok (false, pool) ∨
      ∃ fitting : UInt64, 0 < fitting.toNat ∧
        pool.mCurrItems.toNat + fitting.toNat ≤ pool.mMaxItems.toNat ∧
        pool.resize count allocates = .ok (true, pool.grown fitting) := by
  have fits := clamp_le bounded noWrap
  obtain threw | full | ⟨positive, grew⟩ := resize_outcomes pool count allocates
  · exact .inl threw
  · exact .inr (.inl full)
  · exact .inr (.inr ⟨pool.clamp count, positive, fits, grew⟩)

/-- Resetting an item keeps the items. -/
@[simp]
theorem resetItem_items (pool : ObjectPool T) (item : ItemPtr) :
    (pool.resetItem item).items = pool.items := by
  refine itemsFrom_congr 0 (List.ext_getElem? fun position => ?_)
  simp only [resetItem, List.getElem?_map, List.getElem?_modify]
  cases pool.mItemCaches[position]? with
  | none => rfl
  | some cacheItem =>
    simp only [Option.map_some]
    split <;> rfl

/-- Taking the back of the free items keeps the items. -/
@[simp]
theorem takeBack_items (pool : ObjectPool T) : pool.takeBack.2.items = pool.items := by
  rw [takeBack]
  split
  · exact resetItem_items ..
  · rfl

/-- Taking the back of the free items keeps the number of items. -/
@[simp]
theorem takeBack_mCurrItems (pool : ObjectPool T) :
    pool.takeBack.2.mCurrItems = pool.mCurrItems := by
  rw [takeBack]
  split <;> rfl

/-- Taking the back of the free items keeps the limit. -/
@[simp]
theorem takeBack_mMaxItems (pool : ObjectPool T) :
    pool.takeBack.2.mMaxItems = pool.mMaxItems := by
  rw [takeBack]
  split <;> rfl

/-- With a free item, the back of the free items is taken. -/
theorem takeBack_spec {pool : ObjectPool T} (free : pool.mFreeItems ≠ []) :
    ∃ mFreeItems item, pool.mFreeItems = mFreeItems ++ [item] ∧
      pool.takeBack = (some item, { pool with mFreeItems }.resetItem item) := by
  refine ⟨pool.mFreeItems.dropLast, pool.mFreeItems.getLast free,
    (List.dropLast_append_getLast free).symm, ?_⟩
  rw [takeBack, List.getLast?_eq_getLast_of_ne_nil free]

/-- A cache with items makes the free list nonempty. -/
theorem grown_free (pool : ObjectPool T) {count : UInt64} (positive : 0 < count.toNat) :
    (pool.grown count).mFreeItems ≠ [] := by
  intro none
  have added := (pushCache_perm pool.mFreeItems pool.mItemCaches.length count.toNat).length_eq
  rw [show pushCache pool.mFreeItems pool.mItemCaches.length count.toNat = [] from none] at added
  simp [itemsOf] at added
  omega

/-- `create` throws, or returns a null pointer, or takes the back of the free items, of the
pool as it is or as it has grown. -/
theorem create_outcomes (pool : ObjectPool T) (allocates : Bool) :
    pool.create allocates = .error .badAlloc ∨ pool.create allocates = .ok (none, pool) ∨
      (pool.mFreeItems ≠ [] ∧ pool.create allocates = .ok pool.takeBack) ∨
      pool.mFreeItems = [] ∧ 0 < (pool.clamp pool.mIncreaseStep).toNat ∧
        pool.create allocates = .ok (pool.grown (pool.clamp pool.mIncreaseStep)).takeBack := by
  by_cases free : pool.mFreeItems = []
  · obtain threw | full | ⟨positive, grew⟩ := resize_outcomes pool pool.mIncreaseStep allocates
    · exact .inl (by simp [create, free, threw]; rfl)
    · exact .inr (.inl (by simp [create, free, full]; rfl))
    · exact .inr (.inr (.inr ⟨free, positive, by simp [create, free, grew]; rfl⟩))
  · exact .inr (.inr (.inl ⟨free, by simp [create, free]⟩))

/-- Without wrapping, the pool grows by no more than it may have. -/
theorem create_cases {pool : ObjectPool T} (allocates : Bool)
    (bounded : pool.mCurrItems ≤ pool.mMaxItems)
    (noWrap : pool.mFreeItems = [] →
      pool.mCurrItems.toNat + pool.mIncreaseStep.toNat < 2 ^ 64) :
    pool.create allocates = .error .badAlloc ∨ pool.create allocates = .ok (none, pool) ∨
      (pool.mFreeItems ≠ [] ∧ pool.create allocates = .ok pool.takeBack) ∨
      ∃ fitting : UInt64, 0 < fitting.toNat ∧
        pool.mCurrItems.toNat + fitting.toNat ≤ pool.mMaxItems.toNat ∧
        pool.create allocates = .ok (pool.grown fitting).takeBack := by
  obtain threw | full | took | ⟨free, positive, took⟩ := create_outcomes pool allocates
  · exact .inl threw
  · exact .inr (.inl full)
  · exact .inr (.inr (.inl took))
  · exact .inr (.inr (.inr ⟨_, positive, clamp_le bounded (noWrap free), took⟩))

end ObjectPool

/-- A pool with the items that clients got from `create` and have not given back. -/
structure PoolUse (T : Type) where
  /-- The pool. -/
  pool : ObjectPool T
  /-- The items handed out. -/
  live : List ItemPtr

/-- The public calls of a pool. -/
inductive PoolAction where
  /-- `create`, in which an allocation succeeds or throws. -/
  | create (allocates : Bool)
  /-- `destroy` of one item. -/
  | destroy (item : ItemPtr)
  /-- `destroy` of items in a row. -/
  | destroyItems (items : ItemPtr) (count : UInt64)
  /-- `reset`, after which no item counts as handed out. -/
  | reset

namespace PoolUse

open ObjectPool

variable {T : Type} {use : PoolUse T}

/-- The caller may make the call: `create` does not wrap the size of the pool, and only items
handed out are given back. -/
def Legal (use : PoolUse T) : PoolAction → Prop
  | .create _ => use.pool.mFreeItems = [] →
      use.pool.mCurrItems.toNat + use.pool.mIncreaseStep.toNat < 2 ^ 64
  | .destroy item => item ∈ use.live
  | .destroyItems items count => ∀ item ∈ inRow items count.toNat, item ∈ use.live
  | .reset => True

instance (use : PoolUse T) : ∀ action, Decidable (use.Legal action)
  | .create _ => inferInstanceAs (Decidable (_ → _))
  | .destroy _ => inferInstanceAs (Decidable (_ ∈ _))
  | .destroyItems items count =>
    inferInstanceAs (Decidable (∀ item ∈ inRow items count.toNat, item ∈ use.live))
  | .reset => inferInstanceAs (Decidable True)

/-- Only items handed out are given back. -/
def GivesBack (use : PoolUse T) : PoolAction → Prop
  | .create _ => True
  | .destroy item => item ∈ use.live
  | .destroyItems items count => ∀ item ∈ inRow items count.toNat, item ∈ use.live
  | .reset => True

instance (use : PoolUse T) : ∀ action, Decidable (use.GivesBack action)
  | .create _ | .reset => inferInstanceAs (Decidable True)
  | .destroy _ => inferInstanceAs (Decidable (_ ∈ _))
  | .destroyItems items count =>
    inferInstanceAs (Decidable (∀ item ∈ inRow items count.toNat, item ∈ use.live))

/-- The free items and those handed out are all items, each once. -/
def Shared (use : PoolUse T) : Prop := (use.pool.mFreeItems ++ use.live).Perm use.pool.items

/-- Every item is free or handed out, once, and the pool has as many as it counts and no more
than it may have. -/
structure Partitioned (use : PoolUse T) : Prop where
  /-- The free items and those handed out are all items. -/
  items : (use.pool.mFreeItems ++ use.live).Perm use.pool.items
  /-- The items are counted. -/
  counted : use.pool.mCurrItems.toNat = use.pool.items.length
  /-- There are not too many. -/
  bounded : use.pool.mCurrItems ≤ use.pool.mMaxItems

/-- Legal calls give back items handed out. -/
theorem Legal.givesBack {action : PoolAction} (legal : use.Legal action) :
    use.GivesBack action := by
  cases action with
  | create allocates => trivial
  | destroy item => exact legal
  | destroyItems items count => exact legal
  | reset => trivial

/-- No item is free or handed out twice, and none is both. -/
theorem Shared.nodup (shared : Shared use) : (use.pool.mFreeItems ++ use.live).Nodup :=
  shared.nodup_iff.mpr (nodup_itemsFrom ..)

/-- Items given back are free. -/
theorem Shared.giveBack (shared : Shared use) {items remaining : List ItemPtr}
    (returned : (items ++ remaining).Perm use.live) :
    Shared { pool := { use.pool with mFreeItems := use.pool.mFreeItems ++ items }
             live := remaining } := by
  rw [Shared, List.append_assoc]
  exact (returned.append_left _).trans shared

/-- No item is free or handed out twice, and none is both. -/
theorem Partitioned.nodup (partitioned : Partitioned use) :
    (use.pool.mFreeItems ++ use.live).Nodup :=
  Shared.nodup partitioned.items

/-- The items of clients are those of the pool that are not free. -/
theorem Partitioned.live_length (partitioned : Partitioned use) :
    use.live.length + use.pool.mFreeItems.length = use.pool.mCurrItems.toNat := by
  rw [partitioned.counted, ← partitioned.items.length_eq, List.length_append, Nat.add_comm]

variable [Poolable T]

/-- One call. -/
def step (use : PoolUse T) : PoolAction → PoolUse T
  | .create allocates =>
    match use.pool.create allocates with
    | .ok (some item, pool) => { pool, live := item :: use.live }
    | .ok (none, pool) => { use with pool }
    | .error .badAlloc => use
  | .destroy item =>
    { pool := (use.pool.destroy (some item)).2, live := use.live.erase item }
  | .destroyItems items count =>
    { pool := (use.pool.destroyItems items count).2
      live := use.live.filter (· ∉ inRow items count.toNat) }
  | .reset => { pool := use.pool.reset, live := [] }

/-- The pool after `create` is the one it returns. -/
theorem step_create {allocates : Bool} {outcome : Option ItemPtr × ObjectPool T}
    (created : use.pool.create allocates = .ok outcome) :
    (use.step (.create allocates)).pool = outcome.2 := by
  obtain ⟨item, after⟩ := outcome
  rw [step, created]
  cases item <;> rfl

/-! ### Who has an item -/

/-- The items of a cache that was allocated are added. -/
theorem grown_items (pool : ObjectPool T) (fitting : UInt64) :
    (pool.grown fitting).items =
      pool.items ++ itemsOf pool.mItemCaches.length fitting.toNat := by
  rw [ObjectPool.items, ObjectPool.grown, itemsFrom_append, Nat.zero_add]
  rfl

/-- Growing adds free items. -/
theorem Shared.grown (shared : Shared use) (fitting : UInt64) :
    Shared { use with pool := use.pool.grown fitting } := by
  have pushed := pushCache_perm use.pool.mFreeItems use.pool.mItemCaches.length fitting.toNat
  rw [Shared, grown_items]
  calc ((use.pool.grown fitting).mFreeItems ++ use.live).Perm
        ((use.pool.mFreeItems ++ itemsOf use.pool.mItemCaches.length fitting.toNat) ++
          use.live) := pushed.append_right _
    List.Perm _ (use.pool.mFreeItems ++ (use.live ++ itemsOf use.pool.mItemCaches.length
          fitting.toNat)) := by
      rw [List.append_assoc]
      exact List.perm_append_comm.append_left _
    _ = (use.pool.mFreeItems ++ use.live) ++ itemsOf use.pool.mItemCaches.length
          fitting.toNat := (List.append_assoc ..).symm
    List.Perm _ _ := shared.append_right _

/-- Taking the back of the free items hands out an item that was not handed out. -/
theorem Shared.takeBack (shared : Shared use) (free : use.pool.mFreeItems ≠ []) :
    ∃ item, use.pool.takeBack.1 = some item ∧ item ∉ use.live ∧
      Shared { pool := use.pool.takeBack.2, live := item :: use.live } := by
  obtain ⟨mFreeItems, item, back, taken⟩ := takeBack_spec free
  have nodup := shared.nodup
  have items : (use.pool.mFreeItems ++ use.live).Perm use.pool.items := shared
  rw [back, List.append_assoc, List.singleton_append] at nodup items
  refine ⟨item, by rw [taken], ?_, ?_⟩
  · exact (List.nodup_cons.mp (List.nodup_append.mp nodup).2.1).1
  · rw [Shared, taken, resetItem_items]
    exact items

/-- `create` hands out no item twice. -/
theorem Shared.create (shared : Shared use) (allocates : Bool) :
    Shared (use.step (.create allocates)) ∧
      ∀ item pool, use.pool.create allocates = .ok (some item, pool) → item ∉ use.live := by
  -- an item taken from the pool, as it is or grown
  have taken {after : ObjectPool T} (same : Shared { use with pool := after })
      (free : after.mFreeItems ≠ []) (took : use.pool.create allocates = .ok after.takeBack) :
      Shared (use.step (.create allocates)) ∧
        ∀ item pool, use.pool.create allocates = .ok (some item, pool) → item ∉ use.live := by
    obtain ⟨item, back, fresh, kept⟩ := same.takeBack free
    have split : after.takeBack = (some item, after.takeBack.2) := Prod.ext back rfl
    refine ⟨?_, fun other pool handed => ?_⟩
    · rw [step, took, split]
      exact kept
    · rw [took, split] at handed
      cases handed
      exact fresh
  obtain threw | full | ⟨free, took⟩ | ⟨-, positive, took⟩ :=
    create_outcomes use.pool allocates
  · exact ⟨by rwa [step, threw], by simp [threw]⟩
  · exact ⟨by rwa [step, full], by simp [full]⟩
  · exact taken shared free took
  · exact taken (shared.grown _) (grown_free use.pool positive) took

/-- Every call that gives back what was handed out keeps each item with one owner. -/
theorem step_shared (use : PoolUse T) (action : PoolAction) (shared : Shared use)
    (returns : use.GivesBack action) : Shared (use.step action) := by
  cases action with
  | create allocates => exact (shared.create allocates).1
  | destroy item => exact shared.giveBack (List.perm_cons_erase returns).symm
  | destroyItems items count =>
    rw [step, destroyItems, destroyLoop_eq]
    have once := (List.nodup_append.mp shared.nodup).2.1
    have apart : (inRow items count.toNat ++
        use.live.filter (· ∉ inRow items count.toNat)).Nodup :=
      (nodup_inRow ..).append (once.filter _) fun item returned kept =>
        absurd returned (of_decide_eq_true (List.mem_filter.mp kept).2)
    refine shared.giveBack ((List.perm_ext_iff_of_nodup apart once).mpr fun item => ?_)
    have given := returns item
    simp only [List.mem_append, List.mem_filter, decide_eq_true_eq]
    tauto
  | reset =>
    rw [Shared, step, List.append_nil]
    exact pushCaches_perm [] 0 use.pool.mItemCaches

/-! ### How many items there are -/

/-- Growing keeps the items partitioned. -/
theorem Partitioned.grown (partitioned : Partitioned use) {fitting : UInt64}
    (fits : use.pool.mCurrItems.toNat + fitting.toNat ≤ use.pool.mMaxItems.toNat) :
    Partitioned { use with pool := use.pool.grown fitting } := by
  have fitsWord := use.pool.mMaxItems.toNat_lt
  have size : (use.pool.mCurrItems + fitting).toNat =
      use.pool.mCurrItems.toNat + fitting.toNat := by
    rw [UInt64.toNat_add, Nat.mod_eq_of_lt (by omega)]
  refine ⟨Shared.grown partitioned.items fitting, ?_, ?_⟩
  · rw [grown_items, List.length_append, ← partitioned.counted]
    simp [ObjectPool.grown, itemsOf, size]
  · exact UInt64.le_iff_toNat_le.mpr (Nat.le_trans (Nat.le_of_eq size) fits)

/-- Every legal call keeps the items partitioned. -/
theorem step_partitioned (use : PoolUse T) (action : PoolAction) (partitioned : Partitioned use)
    (legal : use.Legal action) : Partitioned (use.step action) := by
  have shared := step_shared use action partitioned.items legal.givesBack
  cases action with
  | create allocates =>
    obtain threw | full | ⟨-, took⟩ | ⟨fitting, -, fits, took⟩ :=
      create_cases allocates partitioned.bounded legal
    · rwa [step, threw]
    · rwa [step, full]
    · refine ⟨shared, ?_, ?_⟩ <;> rw [step_create took]
      · simpa using partitioned.counted
      · simpa using partitioned.bounded
    · have more := partitioned.grown fits
      refine ⟨shared, ?_, ?_⟩ <;> rw [step_create took]
      · simpa using more.counted
      · simpa using more.bounded
  | destroy item => exact ⟨shared, partitioned.counted, partitioned.bounded⟩
  | destroyItems items count =>
    rw [step, destroyItems, destroyLoop_eq] at shared ⊢
    exact ⟨shared, partitioned.counted, partitioned.bounded⟩
  | reset => exact ⟨shared, partitioned.counted, partitioned.bounded⟩

/-- What clients may rely on: the free list has no item twice, only items of the caches, and
none that is handed out; the free items and those handed out are as many as the pool counts,
which is as many as the caches have and no more than the pool may have; `create` hands out no
item that is handed out already; and no item is lost. -/
structure Represented (use : PoolUse T) : Prop where
  /-- The free list contains no item twice. -/
  once : use.pool.mFreeItems.Nodup
  /-- It contains only items of the caches. -/
  inside : ∀ item ∈ use.pool.mFreeItems, ∃ cacheItem,
    use.pool.mItemCaches[item.cache]? = some cacheItem ∧ item.index < cacheItem.count.toNat
  /-- It contains no item handed out. -/
  apart : ∀ item ∈ use.pool.mFreeItems, item ∉ use.live
  /-- The items are counted. -/
  counted : use.pool.availableCount + use.live.length = use.pool.mCurrItems.toNat
  /-- The count is the sum of the sizes of the caches. -/
  sum : use.pool.mCurrItems.toNat =
    (use.pool.mItemCaches.map fun cacheItem => cacheItem.count.toNat).sum
  /-- It does not exceed the maximum. -/
  bounded : use.pool.mCurrItems ≤ use.pool.mMaxItems
  /-- `create` hands out no item that is handed out already. -/
  fresh : ∀ allocates item pool, use.Legal (.create allocates) →
    use.pool.create allocates = .ok (some item, pool) → item ∉ use.live
  /-- Every item of the caches is free or handed out. -/
  kept : ∀ item cacheItem, use.pool.mItemCaches[item.cache]? = some cacheItem →
    item.index < cacheItem.count.toNat → item ∈ use.pool.mFreeItems ∨ item ∈ use.live

/-- A pool whose items are partitioned is what clients rely on. -/
theorem Partitioned.represented (partitioned : Partitioned use) : Represented use := by
  obtain ⟨once, -, apart⟩ := List.nodup_append.mp partitioned.nodup
  have isItem (item : ItemPtr) : item ∈ use.pool.items ↔ ∃ cacheItem,
      use.pool.mItemCaches[item.cache]? = some cacheItem ∧
        item.index < cacheItem.count.toNat := by
    simp [ObjectPool.items, mem_itemsFrom]
  have owned (item : ItemPtr) :
      item ∈ use.pool.items ↔ item ∈ use.pool.mFreeItems ∨ item ∈ use.live := by
    rw [← partitioned.items.mem_iff, List.mem_append]
  exact {
    once
    inside := fun item free => (isItem item).mp ((owned item).mpr (.inl free))
    apart := fun item free live => apart item free item live rfl
    counted := by
      rw [partitioned.counted, ← partitioned.items.length_eq, List.length_append]
      rfl
    sum := partitioned.counted.trans (length_itemsFrom ..)
    bounded := partitioned.bounded
    fresh := fun allocates item pool _ handed =>
      (Shared.create partitioned.items allocates).2 item pool handed
    kept := fun item cacheItem stored inside =>
      (owned item).mp ((isItem item).mpr ⟨cacheItem, stored, inside⟩) }

/-- A new pool has its items free. -/
theorem new_partitioned {initialCapacity maxItems increaseStep : UInt64} {allocates : Bool}
    {pool : ObjectPool T}
    (created : ObjectPool.new initialCapacity maxItems increaseStep allocates = .ok pool) :
    Partitioned { pool, live := [] } := by
  let blank : ObjectPool T :=
    { mFreeItems := []
      mItemCaches := []
      mMaxItems := maxItems
      mCurrItems := 0
      mIncreaseStep := if increaseStep = 0 then initialCapacity >>> 1 else increaseStep
      mAllocationCount := 0 }
  have empty : Partitioned { pool := blank, live := [] } := ⟨.nil, rfl, Nat.zero_le _⟩
  have noWrap : blank.mCurrItems.toNat + initialCapacity.toNat < 2 ^ 64 := by
    simpa [blank] using initialCapacity.toNat_lt
  have resized : (blank.resize initialCapacity allocates).map Prod.snd = .ok pool := created
  obtain threw | full | ⟨fitting, -, fits, grew⟩ := resize_cases allocates empty.bounded noWrap
  · rw [threw] at resized
    cases resized
  · rw [full] at resized
    cases resized
    exact empty
  · rw [grew] at resized
    cases resized
    exact empty.grown fits

/-- A pool that is constructed and then used legally represents its items along the whole run. -/
theorem represented_along {initialCapacity maxItems increaseStep : UInt64} {allocates : Bool}
    {pool : ObjectPool T}
    (created : ObjectPool.new initialCapacity maxItems increaseStep allocates = .ok pool)
    {actions : List PoolAction}
    (legal : Transition.Steps step Legal { pool, live := [] } actions) :
    Transition.Along step Represented { pool, live := [] } actions :=
  (Transition.along_of_steps step_partitioned (new_partitioned created) legal).mono
    fun _ partitioned => partitioned.represented

/-- Items without content. -/
instance : Poolable Unit := ⟨(), id⟩

/-- A new pool of two items that may grow to five. -/
def pair : ObjectPool Unit :=
  { mFreeItems := [⟨0, 1⟩, ⟨0, 0⟩]
    mItemCaches := [⟨2, [(), ()]⟩]
    mMaxItems := 5
    mCurrItems := 2
    mIncreaseStep := 1
    mAllocationCount := 1 }

/-- A client that makes it grow, returns items singly and in a row, and resets it. -/
def growing : List PoolAction :=
  [.create true, .create true, .destroy ⟨0, 1⟩, .create true, .create true, .destroyItems ⟨0, 0⟩ 2,
    .create true, .reset, .create true]

/-- The pool represents its items along this run. -/
theorem represented_along_growing :
    Transition.Along step Represented { pool := pair, live := [] } growing := by
  have created : ObjectPool.new 2 5 0 true = .ok pair := rfl
  exact represented_along created (by decide +kernel)

end PoolUse

end ApiPack2
