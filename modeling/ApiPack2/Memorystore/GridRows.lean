import ApiPack2.Lib.Transition
import ApiPack2.Memorystore.GridCache

/-!
# The rows of the grid

A new array has all its entries zero before `memset` runs, which is given the address of the
vector object instead of that of the entries. It clears the lowest bytes of the pointer to the
first entry, as many as the array has entries, and what follows it. So an array is what it
should be exactly if these bytes are zero already, and then every later call leaves it alone.
-/

namespace ApiPack2

open Memory CacheEntryArray

namespace Allocation

variable {allocation : Allocation} {heap : Bytes} {count : Nat}

/-- What the allocator promises: the blocks are apart from each other and from those allocated
before, inside of the address space, and aligned for every type. -/
structure Granted (allocation : Allocation) (count : Nat) (blocks : List Region) : Prop where
  /-- The new blocks are apart from the old ones. -/
  fresh : ∀ new ∈ allocation.blocks count, ∀ old ∈ blocks, new.Apart old
  /-- The new blocks are apart from each other. -/
  apart : (allocation.blocks count).Pairwise Region.Apart
  /-- The new blocks are inside of the address space, which has no block at address zero. -/
  inside : ∀ new ∈ allocation.blocks count, 0 < new.start ∧ new.start + new.length < 2 ^ 64
  /-- The new blocks are aligned. -/
  aligned : ∀ new ∈ allocation.blocks count, 16 ∣ new.start

instance (allocation : Allocation) (count : Nat) (blocks : List Region) :
    Decidable (allocation.Granted count blocks) :=
  decidable_of_iff
    ((∀ new ∈ allocation.blocks count, ∀ old ∈ blocks, new.Apart old) ∧
      (allocation.blocks count).Pairwise Region.Apart ∧
      (∀ new ∈ allocation.blocks count, 0 < new.start ∧ new.start + new.length < 2 ^ 64) ∧
      ∀ new ∈ allocation.blocks count, 16 ∣ new.start)
    ⟨fun ⟨fresh, apart, inside, aligned⟩ => ⟨fresh, apart, inside, aligned⟩,
      fun granted => ⟨granted.fresh, granted.apart, granted.inside, granted.aligned⟩⟩

/-- The addresses outside of the blocks of an array keep their bytes when it is constructed. -/
theorem construct_outside {address : Nat}
    (outside : ∀ block ∈ allocation.blocks count, ¬block.Has address) :
    allocation.construct heap count address = heap address := by
  have header : ¬(Region.mk allocation.header headerSize).Has address :=
    outside _ List.mem_cons_self
  have row : ¬(Region.mk (allocation.first count) (entrySize * count)).Has address := by
    by_cases empty : count = 0
    · simp [empty, has_mk]
    · rw [first, if_neg empty]
      exact outside _ (List.mem_cons_of_mem _ (by simp [empty]))
  rw [has_mk, headerSize] at header
  rw [construct, store_outside, store_outside, store_outside, fill_outside row] <;>
    rw [has_mk] <;> omega

/-- The end of the storage of an array is in the address space. -/
theorem Granted.first_lt {blocks : List Region} (granted : allocation.Granted count blocks) :
    allocation.first count + entrySize * count < 256 ^ 8 := by
  by_cases empty : count = 0
  · simp [first, empty]
  · have inside := (granted.inside ⟨allocation.row, entrySize * count⟩
      (List.mem_cons_of_mem _ (by simp [empty]))).2
    rw [first, if_neg empty]
    exact inside

/-- The header is apart from the storage of the entries. -/
theorem Granted.header_apart {blocks : List Region} (granted : allocation.Granted count blocks) :
    (Region.mk allocation.header headerSize).Apart
      ⟨allocation.first count, entrySize * count⟩ := by
  by_cases empty : count = 0
  · have inside := (granted.inside _ List.mem_cons_self).1
    exact .inr (by simp [first, empty])
  · have apart := granted.apart
    rw [Allocation.blocks, if_neg empty, List.pairwise_pair] at apart
    rwa [first, if_neg empty]

variable {blocks : List Region}

/-- A constructed array starts at its storage. -/
theorem begin_construct (granted : allocation.Granted count blocks) :
    begin_ (allocation.construct heap count) allocation.header = allocation.first count := by
  have small := granted.first_lt
  rw [begin_, construct, load_store_apart (apart_of_le (by omega)), load_store_apart (apart_of_le (by omega)),
    load_store, Nat.mod_eq_of_lt (by omega)]

/-- A constructed array ends behind its storage. -/
theorem end_construct (granted : allocation.Granted count blocks) :
    end_ (allocation.construct heap count) allocation.header =
      allocation.first count + entrySize * count := by
  rw [end_, construct, load_store_apart (apart_of_le (by omega)), load_store,
    Nat.mod_eq_of_lt granted.first_lt]

/-- A constructed array has as many entries as asked for. -/
theorem size_construct (granted : allocation.Granted count blocks) :
    size (allocation.construct heap count) allocation.header = count := by
  rw [size, begin_construct granted, end_construct granted, Nat.add_sub_cancel_left]
  exact Nat.mul_div_cancel_left _ (by decide)

/-- The storage of a constructed array is zero. -/
theorem construct_row (granted : allocation.Granted count blocks) {address : Nat}
    (inside : (Region.mk (allocation.first count) (entrySize * count)).Has address) :
    allocation.construct heap count address = 0 := by
  have header := granted.header_apart.symm.not_has inside
  rw [has_mk, headerSize] at header
  have filled : fill heap (allocation.first count) (entrySize * count) 0 address = 0 :=
    if_pos inside
  rw [construct, store_outside, store_outside, store_outside, filled] <;> rw [has_mk] <;> omega

/-- The storage of an array with entries is not at address zero, and aligned. -/
theorem Granted.first_aligned (granted : allocation.Granted count blocks) (some : count ≠ 0) :
    0 < allocation.first count ∧ 16 ∣ allocation.first count := by
  have member : Region.mk allocation.row (entrySize * count) ∈ allocation.blocks count :=
    List.mem_cons_of_mem _ (by simp [some])
  rw [first, if_neg some]
  exact ⟨(granted.inside _ member).1, granted.aligned _ member⟩

/-- `memset` changes nothing if the bytes that it clears are zero already. -/
theorem memset_of_dvd (granted : allocation.Granted count blocks)
    (divides : 256 ^ count ∣ allocation.first count) :
    fill (allocation.construct heap count) allocation.header count 0 =
      allocation.construct heap count := by
  refine fill_eq_self fun address inside => ?_
  rw [has_mk] at inside
  have some : count ≠ 0 := by omega
  have positive := (granted.first_aligned some).1
  have short : count < 8 := by
    by_contra long
    have least := Nat.le_of_dvd positive
      (Nat.dvd_trans (Nat.pow_dvd_pow 256 (Nat.le_of_not_lt long)) divides)
    have most := granted.first_lt
    omega
  obtain ⟨index, rfl⟩ := Nat.exists_eq_add_of_le inside.1
  have digit : allocation.construct heap count (allocation.header + index) =
      UInt8.ofNat (load (allocation.construct heap count) allocation.header 8 / 256 ^ index) :=
    digit_of_load index (by omega)
  have loaded : load (allocation.construct heap count) allocation.header 8 =
      allocation.first count := begin_construct granted
  obtain ⟨quotient, multiple⟩ := Nat.dvd_trans
    (Nat.pow_dvd_pow 256 (show index + 1 ≤ count by omega)) divides
  rw [digit, loaded, multiple, Nat.pow_succ, Nat.mul_assoc,
    Nat.mul_div_cancel_left _ (Nat.pow_pos (by decide))]
  apply UInt8.toNat_inj.mp
  rw [UInt8.toNat_ofNat']
  exact Nat.mul_mod_right ..

/-- `memset` leaves an array with the number of entries that the pointers it has cleared are
apart. -/
theorem size_memset (granted : allocation.Granted count blocks) :
    size (fill (allocation.construct heap count) allocation.header count 0) allocation.header =
      ((allocation.first count + entrySize * count) / 256 ^ (count - 8) * 256 ^ (count - 8) -
        allocation.first count / 256 ^ count * 256 ^ count) / entrySize := by
  have starts := load_fill_zero (allocation.construct heap count) allocation.header count 0 8
  have stops := load_fill_zero (allocation.construct heap count) allocation.header count 8 8
  have loadedBegin : load (allocation.construct heap count) allocation.header 8 =
      allocation.first count := begin_construct granted
  have loadedEnd : load (allocation.construct heap count) (allocation.header + 8) 8 =
      allocation.first count + entrySize * count := end_construct granted
  rw [Nat.add_zero, Nat.sub_zero, loadedBegin] at starts
  rw [loadedEnd] at stops
  rw [size, begin_, end_, starts, stops]

/-- Pointers of which bytes other than zero have been cleared are not as many entries apart as
they were. -/
theorem cleared_size_ne {first count : Nat} (some : count ≠ 0)
    (aligned : 16 ∣ first) (small : first + 16 * count < 256 ^ 8)
    (indivisible : ¬256 ^ count ∣ first) :
    ((first + 16 * count) / 256 ^ (count - 8) * 256 ^ (count - 8) -
      first / 256 ^ count * 256 ^ count) / 16 ≠ count := by
  by_cases short : count ≤ 8
  · -- only the pointer to the first entry is cleared
    have none : count - 8 = 0 := by omega
    have remainder := Nat.div_add_mod first (256 ^ count)
    have rest : first % 256 ^ count ≠ 0 := fun zero =>
      indivisible (Nat.dvd_of_mod_eq_zero zero)
    have alignedRest : 16 ∣ first % 256 ^ count :=
      (Nat.dvd_mod_iff (Nat.dvd_trans (show 16 ∣ 256 ^ 1 by decide)
        (Nat.pow_dvd_pow 256 (Nat.one_le_iff_ne_zero.mpr some)))).mpr aligned
    rw [none, Nat.pow_zero, Nat.div_one, Nat.mul_one, Nat.mul_comm (first / _)]
    omega
  · -- the pointer to the first entry is null, and the one behind the last is cleared
    have cleared : first / 256 ^ count = 0 := by
      have power : (256 : Nat) ^ 8 ≤ 256 ^ count :=
        Nat.pow_le_pow_right (by decide) (by omega)
      exact Nat.div_eq_of_lt (by omega)
    rw [cleared, Nat.zero_mul, Nat.sub_zero]
    by_cases long : 16 ≤ count
    · have power : (256 : Nat) ^ 8 ≤ 256 ^ (count - 8) :=
        Nat.pow_le_pow_right (by decide) (by omega)
      rw [Nat.div_eq_of_lt (show first + 16 * count < 256 ^ (count - 8) by omega), Nat.zero_mul]
      omega
    · have pages : 256 ^ (count - 8) = 256 * 256 ^ (count - 9) := by
        rw [← Nat.pow_succ']
        congr 1
        omega
      rw [pages, Nat.mul_comm, Nat.mul_assoc]
      omega

end Allocation

namespace GridCache

variable {cache : GridCache} {call : ArrayCall}

/-- Where the array that a call creates is placed, none if it creates none. -/
def creation (cache : GridCache) (call : ArrayCall) : Option Allocation :=
  if cache.mCache.lookup call.station = none ∧ call.createIfMissing = true then call.allocation
  else none

/-- The cache after the creation of an array. -/
def created (cache : GridCache) (station : Int64) (allocation : Allocation) : GridCache :=
  let heap := allocation.construct cache.heap cache.count
  { cache with
    heap := fill heap allocation.header (size heap allocation.header) 0
    mCache := cache.mCache.insert station allocation.header
    blocks := allocation.blocks cache.count ++ cache.blocks }

/-- A call finds an array, or finds none and is not to create one, or throws, or creates one. -/
theorem array_cases (cache : GridCache) (call : ArrayCall) :
    (∃ held, cache.mCache.lookup call.station = some held ∧ cache.creation call = none ∧
      cache.array call = .ok (some held, cache)) ∨
    (cache.mCache.lookup call.station = none ∧ cache.creation call = none ∧
      cache.array call = .ok (none, cache)) ∨
    (cache.creation call = none ∧ cache.array call = .error .badAlloc) ∨
    ∃ allocation, cache.mCache.lookup call.station = none ∧
      cache.creation call = some allocation ∧
      cache.array call =
        .ok (some allocation.header, cache.created call.station allocation) := by
  cases found : cache.mCache.lookup call.station with
  | some held => exact .inl ⟨held, rfl, by simp [creation, found], by simp [array, found]⟩
  | none =>
    cases wanted : call.createIfMissing with
    | false =>
      exact .inr (.inl ⟨rfl, by simp [creation, wanted], by simp [array, found, wanted]⟩)
    | true =>
      cases placed : call.allocation with
      | none =>
        exact .inr (.inr (.inl ⟨by simp [creation, placed],
          by simp [array, found, wanted, placed]⟩))
      | some allocation =>
        exact .inr (.inr (.inr ⟨allocation, rfl, by simp [creation, found, wanted, placed],
          by simp [array, found, wanted, placed, created]⟩))

/-- The allocator grants the array that the call creates. -/
def GrantedCall (cache : GridCache) (call : ArrayCall) : Prop :=
  ∀ allocation ∈ cache.creation call, allocation.Granted cache.count cache.blocks

/-- The array that the call creates lies at a multiple of 256 to the power of its size. -/
def AlignedCall (cache : GridCache) (call : ArrayCall) : Prop :=
  ∀ allocation ∈ cache.creation call, 256 ^ cache.count ∣ allocation.first cache.count

instance (cache : GridCache) (call : ArrayCall) : Decidable (cache.GrantedCall call) :=
  inferInstanceAs (Decidable (∀ _ ∈ _, _))

instance (cache : GridCache) (call : ArrayCall) : Decidable (cache.AlignedCall call) :=
  inferInstanceAs (Decidable (∀ _ ∈ _, _))

/-- An entry that points to no object, with no time to live and not locked. -/
def zeroEntry : CacheEntry := ⟨0, ⟨0⟩⟩

/-- A call that creates an array returns one that has a zero entry for each day. -/
def CreatesZeroed (cache : GridCache) (call : ArrayCall) : Prop :=
  cache.creation call ≠ none → ∃ array after, cache.array call = .ok (some array, after) ∧
    (read after.heap array).entries =
      List.replicate (cache.mDaysBack.toNat * cache.mDaysForward.toNat) zeroEntry

/-- What is known of an array in the memory: its blocks are allocated, its pointers are those
of its storage, and the storage is zero. -/
structure Row (cache : GridCache) (array : ArrayPtr) : Prop where
  /-- The vector object is allocated. -/
  header : ⟨array, headerSize⟩ ∈ cache.blocks
  /-- The storage is allocated. -/
  row : cache.count ≠ 0 → ⟨begin_ cache.heap array, entrySize * cache.count⟩ ∈ cache.blocks
  /-- Without entries there is no storage. -/
  empty : cache.count = 0 → begin_ cache.heap array = 0
  /-- It ends behind its storage. -/
  ends : end_ cache.heap array = begin_ cache.heap array + entrySize * cache.count
  /-- The storage is zero. -/
  zero : ∀ address, (Region.mk (begin_ cache.heap array) (entrySize * cache.count)).Has address →
    cache.heap address = 0

/-- Two arrays have no byte in common. -/
def ArraysApart (heap : Bytes) (left right : ArrayPtr) : Prop :=
  (Region.mk left headerSize).Apart ⟨right, headerSize⟩ ∧
    (Region.mk (begin_ heap left) (entrySize * size heap left)).Apart
      ⟨begin_ heap right, entrySize * size heap right⟩

/-- The arrays of different stations have no byte in common. -/
def StationsApart (cache : GridCache) : Prop :=
  ∀ left right leftArray rightArray, left ≠ right →
    cache.mCache.lookup left = some leftArray → cache.mCache.lookup right = some rightArray →
    ArraysApart cache.heap leftArray rightArray

/-- A cache with every array as it was created. -/
structure Intact (cache : GridCache) : Prop where
  /-- The number of days fits in a word. -/
  fits : cache.mDaysBack.toNat * cache.mDaysForward.toNat < 2 ^ 64
  /-- The arrays. -/
  rows : ∀ station array, cache.mCache.lookup station = some array → Row cache array
  /-- Different stations have different arrays. -/
  apart : StationsApart cache

/-- The number of entries is the product of the numbers of days. -/
theorem Intact.count_eq (intact : Intact cache) :
    cache.count = cache.mDaysBack.toNat * cache.mDaysForward.toNat := by
  rw [count, UInt64.toNat_mul, Nat.mod_eq_of_lt intact.fits]

/-- An array has the number of entries it was created with. -/
theorem Row.size_eq {array : ArrayPtr} (row : Row cache array) :
    size cache.heap array = cache.count := by
  rw [size, row.ends, Nat.add_sub_cancel_left]
  exact Nat.mul_div_cancel_left _ (by decide)

/-- A word of zero bytes is zero. -/
theorem load_of_zero {heap : Bytes} {address count : Nat}
    (zero : ∀ place, (Region.mk address count).Has place → heap place = 0) :
    load heap address count = 0 := by
  have digits : load heap address count = 0 % 256 ^ count := load_digits fun index inside => by
    rw [zero _ (has_mk.mpr ⟨Nat.le_add_right .., Nat.add_lt_add_left inside _⟩), Nat.zero_div]
    rfl
  rw [digits, Nat.zero_mod]

/-- A client reads zero entries. -/
theorem Row.read_eq {array : ArrayPtr} (row : Row cache array) :
    read cache.heap array =
      { first := begin_ cache.heap array, entries := List.replicate cache.count zeroEntry } := by
  rw [CacheEntryArray.read, row.size_eq, CacheEntryArray.mk.injEq]
  refine ⟨rfl, List.eq_replicate_iff.mpr ⟨by simp, fun found member => ?_⟩⟩
  obtain ⟨index, inside, rfl⟩ := List.mem_map.mp member
  rw [List.mem_range] at inside
  have data : load cache.heap (begin_ cache.heap array + entrySize * index) 8 = 0 := by
    refine load_of_zero fun place has => row.zero place ?_
    rw [has_mk, entrySize] at has ⊢
    omega
  have word : load cache.heap (begin_ cache.heap array + entrySize * index + 8) 8 = 0 := by
    refine load_of_zero fun place has => row.zero place ?_
    rw [has_mk, entrySize] at has ⊢
    omega
  rw [entry, data, word]
  rfl

/-! ### Creating an array -/

/-- What an array keeps when another one is created: its bytes. -/
theorem Row.of_agree {array : ArrayPtr} (row : Row cache array) {after : GridCache}
    (sameCount : after.count = cache.count) (more : cache.blocks ⊆ after.blocks)
    (same : ∀ block ∈ cache.blocks, ∀ address, block.Has address →
      after.heap address = cache.heap address) :
    Row after array ∧ begin_ after.heap array = begin_ cache.heap array := by
  have header (offset : Nat) (inside : offset + 8 ≤ headerSize) :
      load after.heap (array + offset) 8 = load cache.heap (array + offset) 8 := by
    refine load_congr fun place has => same _ row.header place ?_
    rw [has_mk] at has ⊢
    omega
  have starts : begin_ after.heap array = begin_ cache.heap array := header 0 (by decide)
  have stops : end_ after.heap array = end_ cache.heap array := header 8 (by decide)
  refine ⟨⟨more row.header, fun some => ?_, fun empty => ?_, ?_, fun address inside => ?_⟩,
    starts⟩
  · rw [sameCount] at some ⊢
    rw [starts]
    exact more (row.row some)
  · rw [starts]
    exact row.empty (sameCount ▸ empty)
  · rw [starts, stops, sameCount]
    exact row.ends
  · rw [starts, sameCount] at inside
    have some : cache.count ≠ 0 := by
      intro empty
      rw [has_mk, empty] at inside
      omega
    rw [same _ (row.row some) address inside]
    exact row.zero address inside

/-- Creating an array keeps the numbers of days. -/
@[simp]
theorem count_created (cache : GridCache) (station : Int64) (allocation : Allocation) :
    (cache.created station allocation).count = cache.count := rfl

variable (station : Int64) {allocation : Allocation}

/-- If `memset` clears zeros only, the memory is that of the constructed array. -/
theorem heap_created (granted : allocation.Granted cache.count cache.blocks)
    (aligned : 256 ^ cache.count ∣ allocation.first cache.count) :
    (cache.created station allocation).heap = allocation.construct cache.heap cache.count := by
  rw [created, Allocation.size_construct granted, Allocation.memset_of_dvd granted aligned]

/-- If `memset` clears zeros only, the new array is as it was constructed. -/
theorem row_created (granted : allocation.Granted cache.count cache.blocks)
    (aligned : 256 ^ cache.count ∣ allocation.first cache.count) :
    Row (cache.created station allocation) allocation.header := by
  have heap := heap_created station granted aligned
  have starts : begin_ (cache.created station allocation).heap allocation.header =
      allocation.first cache.count := by
    rw [heap, Allocation.begin_construct granted]
  refine ⟨List.mem_append_left _ List.mem_cons_self, fun some => ?_, fun empty => ?_, ?_,
    fun address inside => ?_⟩
  · rw [starts, count_created] at *
    rw [Allocation.first, if_neg some]
    exact List.mem_append_left _ (List.mem_cons_of_mem _ (by simp [some]))
  · rw [count_created] at empty
    rw [starts, Allocation.first, if_pos empty]
  · rw [starts, heap, Allocation.end_construct granted, count_created]
  · rw [starts, count_created] at inside
    rw [heap]
    exact Allocation.construct_row granted inside

/-- If `memset` clears zeros only, the arrays there were keep their bytes. -/
theorem agree_created (granted : allocation.Granted cache.count cache.blocks)
    (aligned : 256 ^ cache.count ∣ allocation.first cache.count) :
    ∀ block ∈ cache.blocks, ∀ address, block.Has address →
      (cache.created station allocation).heap address = cache.heap address := by
  intro block old address inside
  rw [heap_created station granted aligned]
  exact Allocation.construct_outside fun new member has =>
    (granted.fresh new member block old).not_has has inside

/-- Every array there was is read as before after another one is created. -/
theorem kept_created (intact : Intact cache)
    (granted : allocation.Granted cache.count cache.blocks)
    (aligned : 256 ^ cache.count ∣ allocation.first cache.count) {other : Int64}
    {array : ArrayPtr} (held : cache.mCache.lookup other = some array) :
    Row (cache.created station allocation) array ∧
      begin_ (cache.created station allocation).heap array = begin_ cache.heap array :=
  (intact.rows other array held).of_agree (count_created ..)
    (List.subset_append_right _ _) (agree_created station granted aligned)

/-- Storage that is a block of its own, or none, is apart from blocks. -/
theorem storage_apart {array : ArrayPtr} (row : Row cache array) {block : Region}
    (some : cache.count ≠ 0 → ∀ old ∈ cache.blocks, block.Apart old)
    (none : cache.count = 0 → block = ⟨0, 0⟩) :
    block.Apart ⟨begin_ cache.heap array, entrySize * size cache.heap array⟩ := by
  rw [row.size_eq]
  by_cases empty : cache.count = 0
  · rw [none empty]
    exact .inl (Nat.zero_le _)
  · exact some empty _ (row.row empty)

/-- A new array is apart from every array there was. -/
theorem apart_created (intact : Intact cache)
    (granted : allocation.Granted cache.count cache.blocks)
    (aligned : 256 ^ cache.count ∣ allocation.first cache.count) {other : Int64}
    {array : ArrayPtr} (held : cache.mCache.lookup other = some array) :
    ArraysApart (cache.created station allocation).heap allocation.header array := by
  have row := intact.rows other array held
  obtain ⟨kept, starts⟩ := kept_created station intact granted aligned held
  have new := row_created station granted aligned
  have newStarts : begin_ (cache.created station allocation).heap allocation.header =
      allocation.first cache.count := by
    rw [heap_created station granted aligned, Allocation.begin_construct granted]
  refine ⟨granted.fresh _ List.mem_cons_self _ row.header, ?_⟩
  rw [new.size_eq, kept.size_eq, newStarts, starts, count_created, ← row.size_eq]
  refine storage_apart row (fun some old member => ?_) fun empty => ?_
  · rw [row.size_eq, Allocation.first, if_neg some]
    exact granted.fresh _ (List.mem_cons_of_mem _ (by simp [some])) old member
  · rw [row.size_eq, Allocation.first, if_pos empty, empty]
    rfl

/-- Arrays stay apart when another one is created. -/
theorem ArraysApart.created {left right : ArrayPtr} (apart : ArraysApart cache.heap left right)
    (rowLeft : Row cache left) (rowRight : Row cache right) {after : GridCache}
    (sameCount : after.count = cache.count)
    (keptLeft : Row after left ∧ begin_ after.heap left = begin_ cache.heap left)
    (keptRight : Row after right ∧ begin_ after.heap right = begin_ cache.heap right) :
    ArraysApart after.heap left right := by
  refine ⟨apart.1, ?_⟩
  have storage := apart.2
  rw [rowLeft.size_eq, rowRight.size_eq] at storage
  rwa [keptLeft.1.size_eq, keptRight.1.size_eq, keptLeft.2, keptRight.2, sameCount]

/-- A call that clears zeros only keeps every array as it was created. -/
theorem step_intact (cache : GridCache) (call : ArrayCall) (intact : Intact cache)
    (granted : cache.GrantedCall call) (aligned : cache.AlignedCall call) :
    Intact (cache.step call) := by
  obtain ⟨held, -, -, found⟩ | ⟨-, -, missing⟩ | ⟨-, threw⟩ |
    ⟨allocation, absent, creates, made⟩ := array_cases cache call
  · rwa [step, found]
  · rwa [step, missing]
  · rwa [step, threw]
  · rw [step, made]
    have grantedHere := granted allocation creates
    have alignedHere := aligned allocation creates
    have lookup (station : Int64) (other : station ≠ call.station) :
        (cache.created call.station allocation).mCache.lookup station =
          cache.mCache.lookup station := AList.lookup_insert_ne other
    have own : (cache.created call.station allocation).mCache.lookup call.station =
        some allocation.header := AList.lookup_insert _
    have keeps {station : Int64} {array : ArrayPtr}
        (held : cache.mCache.lookup station = some array) :=
      kept_created call.station intact grantedHere alignedHere held
    refine ⟨intact.fits, fun station array held => ?_, fun left right leftArray rightArray differ
      leftHeld rightHeld => ?_⟩
    · by_cases new : station = call.station
      · rw [new, own] at held
        cases held
        exact row_created call.station grantedHere alignedHere
      · rw [lookup station new] at held
        exact (keeps held).1
    · by_cases newLeft : left = call.station
      · rw [newLeft, own] at leftHeld
        rw [lookup right (newLeft ▸ differ.symm)] at rightHeld
        cases leftHeld
        exact apart_created call.station intact grantedHere alignedHere rightHeld
      · rw [lookup left newLeft] at leftHeld
        by_cases newRight : right = call.station
        · rw [newRight, own] at rightHeld
          cases rightHeld
          have apart := apart_created call.station intact grantedHere alignedHere leftHeld
          exact ⟨apart.1.symm, apart.2.symm⟩
        · rw [lookup right newRight] at rightHeld
          exact (intact.apart left right _ _ differ leftHeld rightHeld).created
            (intact.rows _ _ leftHeld) (intact.rows _ _ rightHeld) rfl (keeps leftHeld)
            (keeps rightHeld)

/-- A call creates an array of zero entries exactly if `memset` clears zeros only. -/
theorem createsZeroed_iff (intact : Intact cache) (granted : cache.GrantedCall call) :
    cache.CreatesZeroed call ↔ cache.AlignedCall call := by
  obtain ⟨held, -, none, -⟩ | ⟨-, none, -⟩ | ⟨none, -⟩ | ⟨allocation, absent, creates, made⟩ :=
    array_cases cache call
  · simp [CreatesZeroed, AlignedCall, none]
  · simp [CreatesZeroed, AlignedCall, none]
  · simp [CreatesZeroed, AlignedCall, none]
  · have grantedHere := granted allocation creates
    constructor
    · intro zeroed other same
      rw [creates] at same
      cases same
      obtain ⟨array, after, returned, entries⟩ := zeroed (by simp [creates])
      rw [made] at returned
      cases returned
      -- an array of another size does not have these entries
      by_contra indivisible
      have some : cache.count ≠ 0 := by
        intro empty
        rw [empty] at indivisible
        exact indivisible (Nat.one_dvd _)
      have sizes := congrArg List.length entries
      rw [List.length_replicate, CacheEntryArray.read, List.length_map, List.length_range,
        ← intact.count_eq, created, Allocation.size_construct grantedHere,
        Allocation.size_memset grantedHere] at sizes
      exact Allocation.cleared_size_ne some (grantedHere.first_aligned some).2
        grantedHere.first_lt indivisible sizes
    · intro aligned _
      refine ⟨_, _, made, ?_⟩
      rw [(row_created call.station grantedHere (aligned allocation creates)).read_eq, count_created,
        intact.count_eq]

/-! ### Runs -/

/-- A call that may not create an array creates nothing, and returns what there is. -/
def CreatesNothing (cache : GridCache) (call : ArrayCall) : Prop :=
  call.createIfMissing = false →
    cache.array call = .ok (cache.mCache.lookup call.station, cache)

/-- A call that returns returns the array that its station has from then on. -/
def ReturnsOwn (cache : GridCache) (call : ArrayCall) : Prop :=
  ∀ result after, cache.array call = .ok (result, after) →
    result = after.mCache.lookup call.station

/-- A call leaves each array that there is to its station, and as it is. -/
def KeepsArrays (cache : GridCache) (call : ArrayCall) : Prop :=
  ∀ station array, cache.mCache.lookup station = some array →
    (cache.step call).mCache.lookup station = some array ∧
      read (cache.step call).heap array = read cache.heap array

/-- A call that may not create an array creates none. -/
theorem createsNothing (cache : GridCache) (call : ArrayCall) : cache.CreatesNothing call := by
  intro unwanted
  cases found : cache.mCache.lookup call.station with
  | none => simp [array, found, unwanted]
  | some held => simp [array, found]

/-- The array returned is the one that the station has. -/
theorem returnsOwn (cache : GridCache) (call : ArrayCall) : cache.ReturnsOwn call := by
  intro result after returned
  obtain ⟨held, found, -, outcome⟩ | ⟨absent, -, outcome⟩ | ⟨-, outcome⟩ |
    ⟨allocation, -, -, outcome⟩ := array_cases cache call
  · rw [outcome] at returned
    obtain ⟨rfl, rfl⟩ := Prod.mk.inj (Except.ok.inj returned)
    exact found.symm
  · rw [outcome] at returned
    obtain ⟨rfl, rfl⟩ := Prod.mk.inj (Except.ok.inj returned)
    exact absent.symm
  · rw [outcome] at returned
    cases returned
  · rw [outcome] at returned
    cases returned
    exact (AList.lookup_insert cache.mCache).symm

/-- A call that clears zeros only leaves the arrays alone. -/
theorem keepsArrays (intact : Intact cache) (granted : cache.GrantedCall call)
    (aligned : cache.AlignedCall call) : cache.KeepsArrays call := by
  intro station array held
  obtain ⟨_, -, -, found⟩ | ⟨-, -, missing⟩ | ⟨-, threw⟩ |
    ⟨allocation, absent, creates, made⟩ := array_cases cache call
  · rw [step, found]
    exact ⟨held, rfl⟩
  · rw [step, missing]
    exact ⟨held, rfl⟩
  · rw [step, threw]
    exact ⟨held, rfl⟩
  · have other : station ≠ call.station := by
      rintro rfl
      rw [absent] at held
      cases held
    obtain ⟨row, starts⟩ := kept_created call.station intact
      (granted allocation creates) (aligned allocation creates) held
    rw [step, made]
    refine ⟨(AList.lookup_insert_ne other).trans held, ?_⟩
    rw [row.read_eq, (intact.rows station array held).read_eq, starts, count_created]

/-- Arrays that every call leaves alone are the same at the end of a run. -/
theorem run_keepsArrays {calls : List ArrayCall}
    (keeps : Transition.Steps step KeepsArrays cache calls) {station : Int64} {array : ArrayPtr}
    (held : cache.mCache.lookup station = some array) :
    (Transition.run step cache calls).mCache.lookup station = some array ∧
      read (Transition.run step cache calls).heap array = read cache.heap array := by
  induction calls generalizing cache with
  | nil => exact ⟨held, rfl⟩
  | cons call calls ih =>
    obtain ⟨stays, same⟩ := keeps.1 station array held
    obtain ⟨last, lastSame⟩ := ih keeps.2 stays
    exact ⟨last, lastSame.trans same⟩

/-- Stable rows. An array that a call creates has a zero entry for each day; from then on the
station has that array, unchanged, and its calls return it; a call that may not create an array
creates nothing; and the arrays of different stations have no byte in common. -/
structure StableRows (start : GridCache) (calls : List ArrayCall) : Prop where
  /-- New arrays are zero. -/
  created : Transition.Steps step CreatesZeroed start calls
  /-- An array stays with its station and as it is. -/
  again : ∀ before later, before ++ later <+: calls → ∀ station array,
    (Transition.run step start before).mCache.lookup station = some array →
      (Transition.run step start (before ++ later)).mCache.lookup station = some array ∧
        read (Transition.run step start (before ++ later)).heap array =
          read (Transition.run step start before).heap array
  /-- The array of the station is returned. -/
  returned : Transition.Steps step ReturnsOwn start calls
  /-- Nothing is created unless asked for. -/
  unasked : Transition.Steps step CreatesNothing start calls
  /-- No byte is shared. -/
  apart : Transition.Along step StationsApart start calls

/-- A cache whose calls clear zeros only has stable rows. -/
theorem stableRows_of_aligned {calls : List ArrayCall} (intact : Intact cache)
    (granted : Transition.Steps step GrantedCall cache calls)
    (aligned : Transition.Steps step AlignedCall cache calls) : StableRows cache calls := by
  have both := granted.and aligned
  have keeps : ∀ cache call, Intact cache → cache.GrantedCall call ∧ cache.AlignedCall call →
      Intact (cache.step call) :=
    fun cache call intact both => step_intact cache call intact both.1 both.2
  have kept : Transition.Steps step KeepsArrays cache calls :=
    .of_invariant keeps (fun _ _ intact both => keepsArrays intact both.1 both.2) intact both
  refine
    { created := .of_invariant keeps
        (fun _ _ intact both => (createsZeroed_iff intact both.1).mpr both.2) intact both
      again := fun before later isPrefix station array held => ?_
      returned := Transition.steps_of_forall returnsOwn cache calls
      unasked := Transition.steps_of_forall createsNothing cache calls
      apart := (Transition.along_of_steps keeps intact both).mono fun _ intact => intact.apart }
  obtain ⟨rest, rfl⟩ := isPrefix
  rw [Transition.steps_append, Transition.steps_append] at kept
  rw [Transition.run_append]
  exact run_keepsArrays kept.1.2 held

/-- A new grid has no arrays. -/
theorem new_intact {numberOfDaysBack numberOfDaysForward : UInt64}
    (fits : numberOfDaysBack.toNat * numberOfDaysForward.toNat < 2 ^ 64)
    (numberOfStations : UInt64) (heap : Bytes) (blocks : List Region) :
    Intact (new numberOfDaysBack numberOfDaysForward numberOfStations heap blocks) :=
  ⟨fits, fun station array held => by simp [new] at held,
    fun left right _ _ _ held => by simp [new] at held⟩

/-- For all numbers of days, and all calls, the rows of a grid are stable exactly if each array
that is created lies at a multiple of 256 to the power of its number of entries. -/
theorem stableRows_iff {numberOfDaysBack numberOfDaysForward : UInt64}
    (fits : numberOfDaysBack.toNat * numberOfDaysForward.toNat < 2 ^ 64)
    (numberOfStations : UInt64) (heap : Bytes) (blocks : List Region) {calls : List ArrayCall}
    (granted : Transition.Steps step GrantedCall
      (new numberOfDaysBack numberOfDaysForward numberOfStations heap blocks) calls) :
    StableRows (new numberOfDaysBack numberOfDaysForward numberOfStations heap blocks) calls ↔
      Transition.Steps step AlignedCall
        (new numberOfDaysBack numberOfDaysForward numberOfStations heap blocks) calls := by
  have intact := new_intact fits numberOfStations heap blocks
  have agree (cache : GridCache) (call : ArrayCall) (intact : Intact cache)
      (granted : cache.GrantedCall call) : cache.CreatesZeroed call ↔ cache.AlignedCall call :=
    createsZeroed_iff intact granted
  refine ⟨fun stable => ?_, stableRows_of_aligned intact granted⟩
  exact (Transition.steps_congr_of_steps step_intact agree intact granted).mp stable.created

/-- A grid of one day in an empty memory. -/
def oneDay : GridCache := new 1 1 100 (fun _ => 0) []

/-- The calls for two stations, whose arrays are placed at multiples of 256. -/
def twoStations : List ArrayCall :=
  [⟨10003, true, some ⟨32, 256⟩⟩, ⟨10121, true, some ⟨64, 512⟩⟩, ⟨10003, false, none⟩]

/-- The rows of the two stations are stable. -/
theorem stableRows_iff_oneDay : StableRows oneDay twoStations :=
  (stableRows_iff (by decide) 100 (fun _ => 0) [] (by decide +kernel)).mpr (by decide +kernel)

/-- A grid of two days in an empty memory. -/
def twoDays : GridCache := new 1 2 100 (fun _ => 0) []

/-- A call for a station whose array is placed at address 4096. -/
def pageStation : List ArrayCall := [⟨10003, true, some ⟨32, 4096⟩⟩]

/-- The array of two entries at address 4096 does not have its two zero entries: `memset` has
cleared the lowest two bytes of the pointer to the first one. -/
theorem two_days_damaged :
    Transition.Steps step GrantedCall twoDays pageStation ∧ ¬StableRows twoDays pageStation := by
  have granted : Transition.Steps step GrantedCall twoDays pageStation := by decide +kernel
  refine ⟨granted, fun stable => ?_⟩
  have intact : Intact twoDays := new_intact (by decide) 100 _ _
  have aligned := (createsZeroed_iff intact granted.1).mp stable.created.1
  exact absurd aligned (by decide +kernel)

/-- A client reads 258 entries from that array. -/
example : size (Transition.run step twoDays pageStation).heap 32 = 258 := by decide +kernel

end GridCache

end ApiPack2
