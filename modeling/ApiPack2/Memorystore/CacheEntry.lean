import ApiPack2.Lib.Transition
import Mathlib.Algebra.Order.Ring.Nat
import Mathlib.Data.List.Count
import Mathlib.Data.List.Infix

/-!
# Cache entries

A `CacheEntry` points to a data object and has one word for two fields: the time to live in
the lower 48 bits and the number of locks in the upper 16. Locking and unlocking count up and
down in the upper field, modulo its size, so an entry with 2^16 locks reads as unlocked.
-/

namespace ApiPack2

/-- `CacheEntryMeta`: the word that its two fields share. -/
structure CacheEntryMeta where
  /-- The whole word. -/
  value : UInt64
  deriving DecidableEq

namespace CacheEntryMeta

/-- `ttl`, the lower 48 bits. -/
def ttl (cacheMeta : CacheEntryMeta) : UInt64 := cacheMeta.value &&& 0xFFFFFFFFFFFF

/-- `lockCount`, the upper 16 bits. -/
def lockCount (cacheMeta : CacheEntryMeta) : UInt64 := cacheMeta.value >>> 48

/-- Assign `lockCount`, which keeps the lower 16 bits of what it is assigned. -/
def setLockCount (cacheMeta : CacheEntryMeta) (count : UInt64) : CacheEntryMeta :=
  ⟨(cacheMeta.value &&& (0xFFFFFFFFFFFF : UInt64)) ||| ((count &&& (0xFFFF : UInt64)) <<< 48)⟩

/-- The time to live is the remainder of the word. -/
theorem toNat_ttl (cacheMeta : CacheEntryMeta) :
    cacheMeta.ttl.toNat = cacheMeta.value.toNat % 2 ^ 48 :=
  Nat.and_two_pow_sub_one_eq_mod _ 48

/-- The number of locks is the quotient of the word. -/
theorem toNat_lockCount (cacheMeta : CacheEntryMeta) :
    cacheMeta.lockCount.toNat = cacheMeta.value.toNat / 2 ^ 48 := by
  rw [lockCount, UInt64.toNat_shiftRight]
  exact Nat.shiftRight_eq_div_pow ..

/-- The word after an assignment, from its two parts. -/
theorem toNat_setLockCount (cacheMeta : CacheEntryMeta) (count : UInt64) :
    (cacheMeta.setLockCount count).value.toNat =
      count.toNat % 2 ^ 16 * 2 ^ 48 + cacheMeta.value.toNat % 2 ^ 48 := by
  have low : (cacheMeta.value &&& 0xFFFFFFFFFFFF).toNat = cacheMeta.value.toNat % 2 ^ 48 :=
    toNat_ttl cacheMeta
  have masked : (count &&& 0xFFFF).toNat = count.toNat % 2 ^ 16 :=
    Nat.and_two_pow_sub_one_eq_mod _ 16
  have small : count.toNat % 2 ^ 16 < 2 ^ 16 := Nat.mod_lt _ (by decide)
  have high : ((count &&& 0xFFFF) <<< 48).toNat = 2 ^ 48 * (count.toNat % 2 ^ 16) := by
    rw [UInt64.toNat_shiftLeft, masked, Nat.shiftLeft_eq]
    have width : (48 : UInt64).toNat % 64 = 48 := rfl
    rw [width, Nat.mul_comm, Nat.mod_eq_of_lt]
    omega
  have below : cacheMeta.value.toNat % 2 ^ 48 < 2 ^ 48 := Nat.mod_lt _ (by decide)
  rw [setLockCount, UInt64.toNat_or, low, high, Nat.or_comm,
    ← Nat.two_pow_add_eq_or_of_lt below, Nat.mul_comm]

/-- Assigning the number of locks keeps the time to live. -/
@[simp]
theorem ttl_setLockCount (cacheMeta : CacheEntryMeta) (count : UInt64) :
    (cacheMeta.setLockCount count).ttl = cacheMeta.ttl := by
  apply UInt64.toNat_inj.mp
  rw [toNat_ttl, toNat_ttl, toNat_setLockCount]
  omega

/-- The number of locks is assigned modulo the size of its field. -/
@[simp]
theorem lockCount_setLockCount (cacheMeta : CacheEntryMeta) (count : UInt64) :
    (cacheMeta.setLockCount count).lockCount.toNat = count.toNat % 2 ^ 16 := by
  rw [toNat_lockCount, toNat_setLockCount]
  omega

end CacheEntryMeta

/-- `CacheEntry`. -/
structure CacheEntry where
  /-- Address of the data object, zero for a null pointer. -/
  data : UInt64
  /-- The two fields. -/
  cacheMeta : CacheEntryMeta
  deriving DecidableEq

/-- The calls that lock and unlock an entry. -/
inductive LockCall where
  | lock
  | unlock
  deriving DecidableEq

namespace CacheEntry

/-- `CacheEntry::locked`. -/
def locked (entry : CacheEntry) : Bool := entry.cacheMeta.lockCount > 0

/-- `CacheEntry::lock`. -/
def lock (entry : CacheEntry) : CacheEntry :=
  { entry with cacheMeta := entry.cacheMeta.setLockCount (entry.cacheMeta.lockCount + 1) }

/-- `CacheEntry::unlock`. -/
def unlock (entry : CacheEntry) : CacheEntry :=
  { entry with cacheMeta := entry.cacheMeta.setLockCount (entry.cacheMeta.lockCount - 1) }

/-- One call. -/
def step (entry : CacheEntry) : LockCall → CacheEntry
  | .lock => entry.lock
  | .unlock => entry.unlock

/-- An entry is locked if its number of locks is not zero. -/
theorem locked_iff (entry : CacheEntry) :
    entry.locked = true ↔ entry.cacheMeta.lockCount.toNat ≠ 0 := by
  rw [locked, decide_eq_true_eq, gt_iff_lt, UInt64.lt_iff_toNat_lt, UInt64.toNat_zero]
  exact Nat.pos_iff_ne_zero

/-- A lock counts up modulo the size of the field. -/
theorem lockCount_lock (entry : CacheEntry) :
    entry.lock.cacheMeta.lockCount.toNat =
      (entry.cacheMeta.lockCount.toNat + 1) % 2 ^ 16 := by
  rw [lock, CacheEntryMeta.lockCount_setLockCount, UInt64.toNat_add, UInt64.toNat_one]
  omega

/-- An unlock counts down modulo the size of the field. -/
theorem lockCount_unlock (entry : CacheEntry) :
    (entry.unlock.cacheMeta.lockCount.toNat + 1) % 2 ^ 16 =
      entry.cacheMeta.lockCount.toNat % 2 ^ 16 := by
  rw [unlock, CacheEntryMeta.lockCount_setLockCount, UInt64.toNat_sub, UInt64.toNat_one]
  omega

/-- Calls keep the time to live. -/
theorem run_ttl (entry : CacheEntry) (calls : List LockCall) :
    (Transition.run step entry calls).cacheMeta.ttl = entry.cacheMeta.ttl := by
  have keeps (after : CacheEntry) (call : LockCall)
      (kept : after.cacheMeta.ttl = entry.cacheMeta.ttl) :
      (after.step call).cacheMeta.ttl = entry.cacheMeta.ttl := by
    cases call <;> simpa [step, lock, unlock] using kept
  exact Transition.run_invariant keeps rfl calls

/-- After any calls the number of locks is their balance, modulo the size of the field. -/
theorem run_lockCount (entry : CacheEntry) (calls : List LockCall) :
    ((Transition.run step entry calls).cacheMeta.lockCount.toNat + calls.count .unlock) % 2 ^ 16 =
      (entry.cacheMeta.lockCount.toNat + calls.count .lock) % 2 ^ 16 := by
  induction calls generalizing entry with
  | nil => rfl
  | cons call calls ih =>
    have later := ih (entry.step call)
    rw [Transition.run_cons]
    cases call with
    | lock =>
      have counted := lockCount_lock entry
      simp only [step, List.count_cons] at later ⊢
      simp only [reduceCtorEq, beq_iff_eq, ↓reduceIte] at later ⊢
      omega
    | unlock =>
      have counted := lockCount_unlock entry
      simp only [step, List.count_cons] at later ⊢
      simp only [reduceCtorEq, beq_iff_eq, ↓reduceIte] at later ⊢
      omega

/-- An entry is in use after the calls exactly if it was locked more often than unlocked, and
its time to live is as before. -/
structure TellsUse (entry : CacheEntry) (calls : List LockCall) : Prop where
  /-- Whether it is locked. -/
  locked : (Transition.run step entry calls).locked = true ↔
    calls.count .unlock < calls.count .lock
  /-- The time to live. -/
  ttl : (Transition.run step entry calls).cacheMeta.ttl = entry.cacheMeta.ttl

/-- An entry that starts unlocked is locked exactly if the locks that are left are no multiple
of 2^16. -/
theorem locked_run_iff {entry : CacheEntry} (unlocked : entry.locked = false)
    {calls : List LockCall} (balanced : calls.count .unlock ≤ calls.count .lock) :
    (Transition.run step entry calls).locked = true ↔
      ¬2 ^ 16 ∣ calls.count .lock - calls.count .unlock := by
  have free : entry.cacheMeta.lockCount.toNat = 0 := by
    by_contra some
    exact absurd ((locked_iff entry).mpr some) (by simp [unlocked])
  have counted := run_lockCount entry calls
  have below : (Transition.run step entry calls).cacheMeta.lockCount.toNat < 2 ^ 16 := by
    rw [CacheEntryMeta.toNat_lockCount]
    have word := (Transition.run step entry calls).cacheMeta.value.toNat_lt
    omega
  rw [locked_iff]
  omega

/-- An entry that starts unlocked, and is nowhere unlocked more often than it was locked before,
tells its use exactly if the locks that are left are no positive multiple of 2^16. -/
theorem tellsUse_iff {entry : CacheEntry} (unlocked : entry.locked = false)
    {calls : List LockCall}
    (nested : ∀ before, before <+: calls → before.count .unlock ≤ before.count .lock) :
    TellsUse entry calls ↔
      ¬(calls.count .unlock < calls.count .lock ∧
        2 ^ 16 ∣ calls.count .lock - calls.count .unlock) := by
  have balanced := nested calls (List.prefix_refl calls)
  have locked := locked_run_iff unlocked balanced
  constructor
  · rintro tells ⟨more, wrapped⟩
    exact locked.mp (tells.locked.mpr more) wrapped
  · intro fits
    refine ⟨locked.trans ?_, run_ttl entry calls⟩
    omega

/-- An entry with a time to live that is not locked. -/
def unused : CacheEntry := ⟨0, ⟨3600⟩⟩

/-- The entry tells its use after two locks and an unlock. -/
theorem tellsUse_iff_nested : TellsUse unused [.lock, .lock, .unlock] := by
  refine (tellsUse_iff (by decide) ?_).mpr (by decide)
  simp only [← List.mem_inits]
  decide

/-- With 2^16 locks and no unlock, the entry reads as unlocked. -/
theorem locked_out :
    (∀ before, before <+: List.replicate (2 ^ 16) LockCall.lock →
      before.count .unlock ≤ before.count .lock) ∧
    ¬TellsUse unused (List.replicate (2 ^ 16) .lock) := by
  have locks : (List.replicate (2 ^ 16) LockCall.lock).count .lock = 2 ^ 16 :=
    List.count_replicate_self
  have unlocks (before : List LockCall)
      (isPrefix : before <+: List.replicate (2 ^ 16) LockCall.lock) :
      before.count .unlock = 0 := by
    refine List.count_eq_zero.mpr fun unlock => ?_
    have listed := List.eq_of_mem_replicate (isPrefix.subset unlock)
    cases listed
  have whole := unlocks _ (List.prefix_refl _)
  refine ⟨fun before isPrefix => by rw [unlocks before isPrefix]; exact Nat.zero_le _,
    fun tells => ?_⟩
  have free : unused.locked = false := by decide
  have locked := (locked_run_iff free (by rw [whole]; exact Nat.zero_le _)).mp
    (tells.locked.mpr (by rw [locks, whole]; decide))
  rw [locks, whole, Nat.sub_zero] at locked
  exact locked (Nat.dvd_refl _)

end CacheEntry

end ApiPack2
