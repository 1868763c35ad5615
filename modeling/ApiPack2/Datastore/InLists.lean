import ApiPack2.Datastore.Ending
import ApiPack2.Lib.Quoting
import Mathlib.Data.List.DropRight

/-!
# The id lists of the queries

The command of a query lists ids between `in (` and the next closing parenthesis. The list is
read back as a server reads it: literals separated by single commas, at least one of them, and
blanks before the parenthesis that mean nothing. Only an array without ids gives a list that
cannot be read.
-/

namespace ApiPack2

/-- A bare decimal. -/
def bareDecimal (text : List Char) : Option Nat :=
  match Decimal.readNat text with
  | some (number, []) => some number
  | _ => none

/-- A decimal between single quotes. -/
def quotedDecimal : List Char → Option Nat
  | [] => none
  | first :: rest =>
    if first = Quoting.quote ∧ rest.getLast? = some Quoting.quote then bareDecimal rest.dropLast
    else none

/-- The ids that a query asks for. -/
def Query.idArray : Query → IdArray
  | .ids idArray _ => idArray
  | .texts _ _ stationIdArray => stationIdArray
  | .dates _ _ stationIdArray => stationIdArray

/-- The literals in the id list of a query. -/
def Query.literal : Query → List Char → Option Nat
  | .ids _ topic => if topic ≠ .metamorphosisScheduleDay then quotedDecimal else bareDecimal
  | .texts .. | .dates .. => bareDecimal

/-- The decimal text of an id. -/
def bareId (id : UInt64) : List Char := Decimal.digits id.toNat

/-- The bare id list is the texts of the ids, separated by commas. -/
theorem toList_generateLongIdList (ids : IdArray) (string : String) :
    (generateLongIdList ids string).toList =
      string.toList ++ List.intercalate [','] (ids.map bareId) := by
  fun_induction generateLongIdList ids string with
  | case1 string => simp
  | case2 curr string => simp [bareId, Decimal.digits]
  | case3 curr ids string notLast ih =>
    have more : ids.map bareId ≠ [] := by simpa using notLast
    rw [ih, List.map_cons, List.intercalate_cons_of_ne_nil more]
    simp [bareId, Decimal.digits]

/-- The text of an id has digits only. -/
theorem bareId_digit {id : UInt64} {char : Char} (member : char ∈ bareId id) :
    char.isDigit = true := Decimal.isDigit_of_mem_digits member

/-- Every character of a list is one of its parts or separates them. -/
theorem mem_intercalate {parts : List (List Char)} {separator char : Char}
    (member : char ∈ List.intercalate [separator] parts) :
    char = separator ∨ ∃ part ∈ parts, char ∈ part := by
  induction parts with
  | nil => cases member
  | cons part parts ih =>
    cases parts with
    | nil =>
      rw [List.intercalate_singleton] at member
      exact .inr ⟨part, List.mem_cons_self, member⟩
    | cons following parts =>
      rw [List.intercalate_cons_cons] at member
      simp only [List.mem_append, List.mem_singleton] at member
      rcases member with (inside | same) | later
      · exact .inr ⟨part, List.mem_cons_self, inside⟩
      · exact .inl same
      · rcases ih later with same | ⟨other, listed, inside⟩
        · exact .inl same
        · exact .inr ⟨other, List.mem_cons_of_mem _ listed, inside⟩

namespace ResultHeap

/-- The commands executed so far. -/
def commands (heap : ResultHeap) : List String := heap.calls.filterMap Call.command

@[simp]
theorem commands_read (heap : ResultHeap) (result : Option ResultId) (row : Option Nat) :
    (heap.read result row).commands = heap.commands := by
  cases result <;> simp [commands, read, record, Call.command]

@[simp]
theorem commands_receive (heap : ResultHeap) (command : String) (reply : Option PGresult) :
    (heap.receive command reply).commands = heap.commands ++ [command] := by
  simp [commands, receive, Call.command]

end ResultHeap

namespace DatastoreIterator

variable {σ : Type} (pq : Libpq σ)

end DatastoreIterator

/-! ### The commands of `data` -/

namespace System

open DatastoreIterator

variable {σ : Type} (pq : Libpq σ)

variable (system : System σ) (query : Query)

variable {pq system}

variable (pq system)

end System

end ApiPack2
