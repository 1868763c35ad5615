import ApiPack2.Lib.Memory
import ApiPack2.Memorystore.CacheEntry
import ApiPack2.Utils.ObjectPool
import Mathlib.Data.List.AList

/-!
# The grid cache

`GridCache` keeps an array of cache entries for each station, one entry for each day. An array
is a vector: an object of three pointers, to the first entry, behind the last one and behind the
storage, and the storage of the entries. Both are stretches of a memory of bytes, placed by the
allocator, so that `memset` writes where the program tells it to.
-/

namespace ApiPack2

open Memory

/-- `CacheEntryArray *`, the address of the vector object. -/
abbrev ArrayPtr := Nat

/-- A vector of cache entries as a client reads it. -/
structure CacheEntryArray where
  /-- Address of the first entry. -/
  first : Nat
  /-- The entries, in order. -/
  entries : List CacheEntry
  deriving DecidableEq

namespace CacheEntryArray

/-- `sizeof(CacheEntry)`. -/
def entrySize : Nat := 16

/-- `sizeof(CacheEntryArray)`. -/
def headerSize : Nat := 24

/-- The pointer to the first entry. -/
def begin_ (heap : Bytes) (array : ArrayPtr) : Nat := load heap array 8

/-- The pointer behind the last entry. -/
def end_ (heap : Bytes) (array : ArrayPtr) : Nat := load heap (array + 8) 8

/-- `CacheEntryArray::size`. -/
def size (heap : Bytes) (array : ArrayPtr) : Nat :=
  (end_ heap array - begin_ heap array) / entrySize

/-- The entry at an address. -/
def entry (heap : Bytes) (address : Nat) : CacheEntry :=
  { data := UInt64.ofNat (load heap address 8)
    cacheMeta := ⟨UInt64.ofNat (load heap (address + 8) 8)⟩ }

/-- What a client reads. -/
def read (heap : Bytes) (array : ArrayPtr) : CacheEntryArray :=
  { first := begin_ heap array
    entries := (List.range (size heap array)).map fun index =>
      entry heap (begin_ heap array + entrySize * index) }

end CacheEntryArray

/-- Where the allocator places a new vector: its object, and the storage of its entries. -/
structure Allocation where
  /-- Address of the vector object. -/
  header : Nat
  /-- Address of the storage, which a vector without entries does not ask for. -/
  row : Nat

namespace Allocation

open CacheEntryArray

/-- The pointer to the first entry. -/
def first (allocation : Allocation) (count : Nat) : Nat :=
  if count = 0 then 0 else allocation.row

/-- The storage asked for. -/
def blocks (allocation : Allocation) (count : Nat) : List Region :=
  ⟨allocation.header, headerSize⟩ ::
    if count = 0 then [] else [⟨allocation.row, entrySize * count⟩]

/-- `new CacheEntryArray(count)`, which initializes its entries with zeros. -/
def construct (allocation : Allocation) (heap : Bytes) (count : Nat) : Bytes :=
  let first := allocation.first count
  let heap := fill heap first (entrySize * count) 0
  let heap := store heap allocation.header 8 first
  let heap := store heap (allocation.header + 8) 8 (first + entrySize * count)
  store heap (allocation.header + 16) 8 (first + entrySize * count)

end Allocation

/-- `GridCache`, with the memory of its arrays. -/
structure GridCache where
  /-- Days to keep before the current one. -/
  mDaysBack : UInt64
  /-- Days to keep from the current one on. -/
  mDaysForward : UInt64
  /-- Stations expected. -/
  mNumStations : UInt64
  /-- `StationScheduleCache`: the array of each station. -/
  mCache : AList fun _ : Int64 => ArrayPtr
  /-- The memory. -/
  heap : Bytes
  /-- The stretches of the memory that are allocated. -/
  blocks : List Region

/-- A call of `GridCache::array`, with what the allocator does if it is asked for an array. -/
structure ArrayCall where
  /-- The station. -/
  station : Int64
  /-- Whether to create an array for a station without one. -/
  createIfMissing : Bool
  /-- Where a new array is placed, none if the allocator throws. -/
  allocation : Option Allocation

namespace GridCache

open CacheEntryArray

/-- `GridCache::GridCache`, in a memory that the rest of the program uses too. -/
def new (numberOfDaysBack numberOfDaysForward numberOfStations : UInt64) (heap : Bytes)
    (blocks : List Region) : GridCache :=
  { mDaysBack := numberOfDaysBack
    mDaysForward := numberOfDaysForward
    mNumStations := numberOfStations
    mCache := ∅
    heap
    blocks }

/-- Number of entries of an array. -/
def count (cache : GridCache) : Nat := (cache.mDaysBack * cache.mDaysForward).toNat

/-- `GridCache::array`: the array returned, none for a null pointer, and the cache afterwards. -/
def array (cache : GridCache) (call : ArrayCall) :
    Except BadAlloc (Option ArrayPtr × GridCache) :=
  match cache.mCache.lookup call.station with
  | some found => .ok (some found, cache)
  | none =>
    if call.createIfMissing then
      match call.allocation with
      | none => .error .badAlloc
      | some allocation =>
        let entry := allocation.header
        let heap := allocation.construct cache.heap cache.count
        -- `memset(&entry[0],0,entry->size())`
        let heap := fill heap entry (size heap entry) 0
        .ok (some entry, { cache with
          heap
          mCache := cache.mCache.insert call.station entry
          blocks := allocation.blocks cache.count ++ cache.blocks })
    else .ok (none, cache)

/-- One call. -/
def step (cache : GridCache) (call : ArrayCall) : GridCache :=
  match cache.array call with
  | .ok (_, cache) => cache
  | .error .badAlloc => cache

end GridCache

end ApiPack2
