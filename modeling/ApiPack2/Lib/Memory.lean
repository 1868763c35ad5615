import Mathlib.Algebra.Order.Ring.Nat
import Mathlib.Data.Nat.Init

/-!
# A memory of bytes

A memory gives every address a byte. A number is stored little-endian, its lowest byte first,
and loaded from the bytes it was stored in; a fill sets a stretch of bytes. A region is a
stretch of addresses: what happens inside of it concerns no region apart from it.
-/

namespace Memory

/-- A stretch of addresses. -/
structure Region where
  /-- The first address. -/
  start : Nat
  /-- The number of addresses. -/
  length : Nat
  deriving DecidableEq

/-- An address of the region. -/
def Region.Has (region : Region) (address : Nat) : Prop :=
  region.start ≤ address ∧ address < region.start + region.length

instance (region : Region) (address : Nat) : Decidable (region.Has address) :=
  inferInstanceAs (Decidable (_ ∧ _))

/-- The addresses of a region given by its start and its length. -/
theorem has_mk {start length address : Nat} :
    (Region.mk start length).Has address ↔ start ≤ address ∧ address < start + length := Iff.rfl

/-- One region ends before the other one starts. -/
def Region.Apart (left right : Region) : Prop :=
  left.start + left.length ≤ right.start ∨ right.start + right.length ≤ left.start

instance (left right : Region) : Decidable (left.Apart right) :=
  inferInstanceAs (Decidable (_ ∨ _))

/-- A region that ends before another one starts is apart from it. -/
theorem apart_of_le {start length later size : Nat} (before : start + length ≤ later) :
    (Region.mk start length).Apart ⟨later, size⟩ := .inl before

/-- Being apart is symmetric. -/
theorem Region.Apart.symm {left right : Region} (apart : left.Apart right) : right.Apart left :=
  Or.symm apart

/-- Regions apart have no address in common. -/
theorem Region.Apart.not_has {left right : Region} (apart : left.Apart right) {address : Nat}
    (inside : left.Has address) : ¬right.Has address := by
  rintro ⟨first, last⟩
  obtain ⟨start, stop⟩ := inside
  rcases apart with before | after <;> omega

/-- Bytes by their addresses. -/
abbrev Bytes := Nat → UInt8

/-- The number stored little-endian in as many bytes as given. -/
def load (bytes : Bytes) (address : Nat) : Nat → Nat
  | 0 => 0
  | count + 1 => (bytes address).toNat + 256 * load bytes (address + 1) count

/-- Store a number little-endian in as many bytes as given. -/
def store (bytes : Bytes) (address count value : Nat) : Bytes := fun place =>
  if (Region.mk address count).Has place then UInt8.ofNat (value / 256 ^ (place - address))
  else bytes place

/-- Set as many bytes as given. -/
def fill (bytes : Bytes) (address count : Nat) (byte : UInt8) : Bytes := fun place =>
  if (Region.mk address count).Has place then byte else bytes place

variable {bytes left right : Bytes} {address count value : Nat}

/-- A load depends on the bytes of its region only. -/
theorem load_congr (same : ∀ place, (Region.mk address count).Has place → left place = right place) :
    load left address count = load right address count := by
  induction count generalizing address with
  | zero => rfl
  | succ count ih =>
    have first : left address = right address := same address ⟨Nat.le_refl _, by simp⟩
    have later : load left (address + 1) count = load right (address + 1) count :=
      ih fun place inside => same place (by rw [has_mk] at inside ⊢; omega)
    rw [load, load, first, later]

/-- A byte of the region of a store. -/
theorem store_inside (index : Nat) (inside : index < count) :
    store bytes address count value (address + index) = UInt8.ofNat (value / 256 ^ index) := by
  rw [store, if_pos ⟨Nat.le_add_right .., Nat.add_lt_add_left inside _⟩, Nat.add_sub_cancel_left]

/-- The bytes outside of the region of a store stay as they are. -/
theorem store_outside {place : Nat} (outside : ¬(Region.mk address count).Has place) :
    store bytes address count value place = bytes place := if_neg outside

/-- The bytes outside of the region of a fill stay as they are. -/
theorem fill_outside {byte : UInt8} {place : Nat} (outside : ¬(Region.mk address count).Has place) :
    fill bytes address count byte place = bytes place := if_neg outside

/-- A fill of bytes that have the value already changes nothing. -/
theorem fill_eq_self {byte : UInt8}
    (filled : ∀ place, (Region.mk address count).Has place → bytes place = byte) :
    fill bytes address count byte = bytes := by
  funext place
  rw [fill]
  split
  · rename_i inside
    exact (filled place inside).symm
  · rfl

/-- What bytes hold the digits of a number to base 256 is loaded as that number, as far as it
fits. -/
theorem load_digits (digits : ∀ index < count,
      bytes (address + index) = UInt8.ofNat (value / 256 ^ index)) :
    load bytes address count = value % 256 ^ count := by
  induction count generalizing address value with
  | zero => rw [load, Nat.pow_zero, Nat.mod_one]
  | succ count ih =>
    have first : (bytes address).toNat = value % 256 := by
      have lowest := digits 0 (Nat.succ_pos _)
      rw [Nat.add_zero, Nat.pow_zero, Nat.div_one] at lowest
      rw [lowest]
      exact UInt8.toNat_ofNat'
    have later : load bytes (address + 1) count = value / 256 % 256 ^ count := by
      refine ih fun index inside => ?_
      have next := digits (index + 1) (Nat.succ_lt_succ inside)
      rw [Nat.div_div_eq_div_mul, ← Nat.pow_succ', Nat.add_right_comm]
      exact next
    rw [load, first, later, Nat.pow_succ', Nat.mod_mul]

/-- A stored number is loaded as far as it fits. -/
theorem load_store : load (store bytes address count value) address count =
    value % 256 ^ count :=
  load_digits fun index inside => store_inside index inside

/-- A load apart from a store is not changed by it. -/
theorem load_store_apart {from_ size : Nat}
    (apart : (Region.mk from_ size).Apart ⟨address, count⟩) :
    load (store bytes address count value) from_ size = load bytes from_ size :=
  load_congr fun _ inside => store_outside (apart.not_has inside)

/-- The bytes of a number loaded are its digits to base 256. -/
theorem digit_of_load (index : Nat) (inside : index < count) :
    bytes (address + index) = UInt8.ofNat (load bytes address count / 256 ^ index) := by
  induction count generalizing address index with
  | zero => exact absurd inside (Nat.not_lt_zero _)
  | succ count ih =>
    have first := (bytes address).toNat_lt
    rw [load]
    cases index with
    | zero =>
      apply UInt8.toNat_inj.mp
      rw [Nat.add_zero, Nat.pow_zero, Nat.div_one, UInt8.toNat_ofNat']
      omega
    | succ index =>
      have later : bytes (address + 1 + index) =
          UInt8.ofNat (load bytes (address + 1) count / 256 ^ index) :=
        ih index (Nat.lt_of_succ_lt_succ inside)
      rw [Nat.add_right_comm] at later
      rw [Nat.pow_succ', ← Nat.div_div_eq_div_mul, Nat.add_mul_div_left _ _ (by decide),
        Nat.div_eq_of_lt first, Nat.zero_add]
      exact later

/-- Filling the first bytes with zeros clears as many digits to base 256 of a number stored
there, or behind the start of the fill. -/
theorem load_fill_zero (bytes : Bytes) (address filled offset count : Nat) :
    load (fill bytes address filled 0) (address + offset) count =
      load bytes (address + offset) count / 256 ^ (filled - offset) * 256 ^ (filled - offset) := by
  induction count generalizing offset with
  | zero => simp [load]
  | succ count ih =>
    have later := ih (offset + 1)
    have first := (bytes (address + offset)).toNat_lt
    rw [load, load, Nat.add_assoc, later]
    by_cases inside : offset < filled
    · have cleared : fill bytes address filled 0 (address + offset) = 0 :=
        if_pos ⟨Nat.le_add_right .., Nat.add_lt_add_left inside _⟩
      have exponent : filled - offset = filled - (offset + 1) + 1 := by omega
      rw [cleared, exponent, Nat.pow_succ', ← Nat.div_div_eq_div_mul,
        Nat.add_mul_div_left _ _ (by decide), Nat.div_eq_of_lt first, Nat.zero_add, UInt8.toNat_zero,
        Nat.zero_add, Nat.mul_left_comm]
    · have kept : fill bytes address filled 0 (address + offset) = bytes (address + offset) :=
        fill_outside fun has => inside (Nat.add_lt_add_iff_left.mp (has_mk.mp has).2)
      have none : filled - offset = 0 := by omega
      have noneLater : filled - (offset + 1) = 0 := by omega
      rw [kept, none, noneLater, Nat.pow_zero, Nat.div_one, Nat.mul_one, Nat.div_one, Nat.mul_one]

end Memory
