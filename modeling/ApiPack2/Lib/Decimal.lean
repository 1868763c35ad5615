import Mathlib.Data.List.Basic

/-!
# Decimal numbers in texts

The decimal text of a number is read back from the front of a character list by taking its
leading digits. What follows the number only has to start with a character that is no digit.
-/

namespace Decimal

/-- Decimal digits of a number, most significant first. -/
def digits (number : Nat) : List Char := Nat.toDigits 10 number

/-- The decimal text of a number lists its digits. -/
@[simp]
theorem toList_toString (number : Nat) : (toString number).toList = digits number := by
  simp [digits, Nat.toList_repr]

/-- Leading digits of a character list as a number, with what follows them; a list that
does not start with a digit is refused. -/
def readNat (text : List Char) : Option (Nat × List Char) :=
  match text.takeWhile Char.isDigit with
  | [] => none
  | read => some (Nat.ofDigitChars 10 read 0, text.dropWhile Char.isDigit)

/-- A number has at least one digit. -/
theorem digits_ne_nil (number : Nat) : digits number ≠ [] := Nat.toDigits_ne_nil

/-- Every character of a decimal text is a digit. -/
theorem isDigit_of_mem_digits {number : Nat} {char : Char} (member : char ∈ digits number) :
    char.isDigit = true := Nat.isDigit_of_mem_toDigits (by decide) (by decide) member

/-- A number in front of a text that does not continue it is read back. -/
theorem readNat_digits (number : Nat) (rest : List Char)
    (ends : ∀ char, rest.head? = some char → char.isDigit = false) :
    readNat (digits number ++ rest) = some (number, rest) := by
  have all : ∀ char ∈ digits number, char.isDigit = true := fun _ => isDigit_of_mem_digits
  have stopped : rest.takeWhile Char.isDigit = [] ∧ rest.dropWhile Char.isDigit = rest := by
    cases rest with
    | nil => simp
    | cons char rest => simp [ends char rfl]
  have taken : (digits number ++ rest).takeWhile Char.isDigit = digits number := by
    rw [List.takeWhile_append_of_pos all, stopped.1, List.append_nil]
  have dropped : (digits number ++ rest).dropWhile Char.isDigit = rest := by
    rw [List.dropWhile_append_of_pos all, stopped.2]
  rw [readNat, taken, dropped]
  split
  · rename_i empty
    exact absurd empty (digits_ne_nil number)
  · simp [digits]

/-- Numbers with one decimal text are the same. -/
theorem toString_injective : Function.Injective (toString : Nat → String) := by
  intro left right same
  have digitsSame : digits left = digits right := by
    rw [← toList_toString, ← toList_toString, same]
  have readLeft := readNat_digits left [] (by simp)
  have readRight := readNat_digits right [] (by simp)
  rw [digitsSame, readRight] at readLeft
  cases readLeft
  rfl

/-- Texts with different first characters differ. -/
theorem ne_of_head {left right : String} (heads : left.toList.head? ≠ right.toList.head?) :
    left ≠ right := fun same => heads (same ▸ rfl)

/-- The characters after a fixed text, refused when the list does not start with it. -/
def readText (expected text : List Char) : Option (List Char) :=
  if expected <+: text then some (text.drop expected.length) else none

/-- A fixed text in front is read back. -/
@[simp]
theorem readText_append (expected rest : List Char) :
    readText expected (expected ++ rest) = some rest := by
  simp [readText]

/-- A fixed text is not read in front of a text with another first character. -/
theorem readText_ne_head {first other : Char} (differ : first ≠ other)
    (expected text : List Char) : readText (first :: expected) (other :: text) = none := by
  simp [readText, differ]

end Decimal
