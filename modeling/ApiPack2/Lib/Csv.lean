import Mathlib.Data.List.Basic

/-!
# Comma-separated rows

A row is written as its fields with commas between them and a line break at the end. A field
without a value is written as nothing, and a text is quoted if it is empty or has a character
that means something else. The reader goes through a text character by character, so that rows
written one after another are read one after another.
-/

namespace Csv

/-- What separates fields. -/
def comma : Char := ','

/-- What quotes a field. -/
def quote : Char := '"'

/-- What ends a row. -/
def newline : Char := '\n'

/-- A field, which may have no value. -/
abbrev Field := Option (List Char)

/-- A row: it has a last field, and others before it. -/
structure Row where
  /-- The fields before the last. -/
  before : List Field
  /-- The last field. -/
  last : Field
  deriving DecidableEq

/-- The character means something else outside of quotes. -/
def special (char : Char) : Bool :=
  char == comma || char == quote || char == newline || char == '\r'

/-- A text with its quotes doubled. -/
def escape (text : List Char) : List Char :=
  text.flatMap fun char => if char = quote then [quote, quote] else [char]

/-- A field as it is written. -/
def writeField : Field → List Char
  | none => []
  | some text =>
    if text.isEmpty || text.any special then quote :: (escape text ++ [quote]) else text

/-- A row as it is written. -/
def writeRow (row : Row) : List Char :=
  row.before.flatMap (fun field => writeField field ++ [comma]) ++
    (writeField row.last ++ [newline])

/-- Rows as they are written. -/
def write (rows : List Row) : List Char := rows.flatMap writeRow

/-- Where the reader is in a field. -/
inductive Mode where
  /-- Outside of quotes. -/
  | outside
  /-- Between quotes. -/
  | inside
  /-- After a quote that ends the quoted part, unless another quote follows. -/
  | pending
  deriving DecidableEq

/-- What the reader has read. -/
structure Reading where
  /-- The rows. -/
  rows : List Row
  /-- The fields of the row that it is in. -/
  before : List Field
  /-- The characters of the field that it is in. -/
  field : List Char
  /-- The field has a quoted part. -/
  quoted : Bool
  /-- Where it is in the field. -/
  mode : Mode

namespace Reading

/-- The field that ends here. -/
def value (reading : Reading) : Field :=
  if reading.field.isEmpty && !reading.quoted then none else some reading.field

/-- The reader at the start of a field. -/
def start (rows : List Row) (before : List Field) : Reading :=
  { rows, before, field := [], quoted := false, mode := .outside }

/-- A character outside of quotes. -/
def plain (reading : Reading) (char : Char) : Reading :=
  if char = comma then start reading.rows (reading.before ++ [reading.value])
  else if char = newline then start (reading.rows ++ [⟨reading.before, reading.value⟩]) []
  else if char = quote then { reading with quoted := true, mode := .inside }
  else { reading with field := reading.field ++ [char], mode := .outside }

/-- The next character. -/
def next (reading : Reading) (char : Char) : Reading :=
  match reading.mode with
  | .outside => reading.plain char
  | .inside =>
    if char = quote then { reading with mode := .pending }
    else { reading with field := reading.field ++ [char] }
  | .pending =>
    if char = quote then { reading with field := reading.field ++ [quote], mode := .inside }
    else reading.plain char

/-- The rows at the end of the text; a quote must not be open. -/
def finish (reading : Reading) : Option (List Row) :=
  if reading.mode = .inside then none
  else if reading.before.isEmpty && reading.field.isEmpty && !reading.quoted then
    some reading.rows
  else some (reading.rows ++ [⟨reading.before, reading.value⟩])

end Reading

/-- The rows of a text. -/
def read (text : List Char) : Option (List Row) :=
  (text.foldl Reading.next (Reading.start [] [])).finish

/-- Rows written one after another are written together. -/
theorem write_append (left right : List Row) : write (left ++ right) = write left ++ write right :=
  List.flatMap_append

variable {rows : List Row} {before : List Field}

/-- The reader has come to the end of a field. -/
structure Reading.Ends (reading : Reading) (rows : List Row) (before : List Field)
    (field : Field) : Prop where
  /-- The rows before it. -/
  rows : reading.rows = rows
  /-- The fields before it. -/
  before : reading.before = before
  /-- The field. -/
  value : reading.value = field
  /-- No quote is open. -/
  closed : reading.mode = .outside ∨ reading.mode = .pending

/-- Outside of quotes a text without special characters is read as it is. -/
theorem foldl_plain {text : List Char} (plain : ∀ char ∈ text, special char = false)
    (reading : Reading) (outside : reading.mode = .outside) :
    text.foldl Reading.next reading = { reading with field := reading.field ++ text } := by
  induction text generalizing reading with
  | nil => rw [List.foldl_nil, List.append_nil]
  | cons char text ih =>
    have ordinary := plain char List.mem_cons_self
    simp only [special, Bool.or_eq_false_iff, beq_eq_false_iff_ne] at ordinary
    obtain ⟨⟨⟨notComma, notQuote⟩, notNewline⟩, -⟩ := ordinary
    have first : reading.next char =
        { reading with field := reading.field ++ [char], mode := .outside } := by
      rw [Reading.next, outside]
      dsimp only
      rw [Reading.plain, if_neg notComma, if_neg notNewline, if_neg notQuote]
    rw [List.foldl_cons, first, ih (fun other later => plain other (List.mem_cons_of_mem _ later))
      _ rfl]
    simp only [List.append_assoc, List.singleton_append, outside]

/-- Between quotes a text with its quotes doubled is read as it was. -/
theorem foldl_escape (text : List Char) (reading : Reading) (inside : reading.mode = .inside) :
    (escape text).foldl Reading.next reading =
      { reading with field := reading.field ++ text } := by
  induction text generalizing reading with
  | nil => rw [escape, List.flatMap_nil, List.foldl_nil, List.append_nil]
  | cons char text ih =>
    have first : (if char = quote then [quote, quote] else [char]).foldl Reading.next reading =
        { reading with field := reading.field ++ [char] } := by
      split
      · rename_i same
        subst same
        simp only [List.foldl_cons, List.foldl_nil, Reading.next, inside, if_true]
      · rename_i other
        simp only [List.foldl_cons, List.foldl_nil, Reading.next, inside, if_neg other]
    rw [escape, List.flatMap_cons, List.foldl_append, first]
    have rest := ih { reading with field := reading.field ++ [char] } inside
    rw [escape] at rest
    rw [rest]
    simp only [List.append_assoc, List.singleton_append]

/-- A field is read as it was written. -/
theorem foldl_writeField (field : Field) :
    ((writeField field).foldl Reading.next (Reading.start rows before)).Ends rows before field := by
  cases field with
  | none => exact ⟨rfl, rfl, rfl, .inl rfl⟩
  | some text =>
    rw [writeField]
    split
    · have opened : (Reading.start rows before).next quote =
          { Reading.start rows before with quoted := true, mode := .inside } := rfl
      rw [List.foldl_cons, List.foldl_append, opened, foldl_escape text _ rfl]
      exact ⟨rfl, rfl, by simp [Reading.next, Reading.value, Reading.start], .inr rfl⟩
    · rename_i ordinary
      simp only [Bool.or_eq_true, List.isEmpty_iff, List.any_eq_true, not_or, not_exists,
        not_and, Bool.not_eq_true] at ordinary
      rw [foldl_plain ordinary.2 _ rfl]
      exact ⟨rfl, rfl, by simp [Reading.value, Reading.start, ordinary.1], .inl rfl⟩

/-- A comma ends a field. -/
theorem Reading.Ends.comma {reading : Reading} {field : Field}
    (ends : reading.Ends rows before field) :
    reading.next comma = start rows (before ++ [field]) := by
  obtain ⟨rfl, rfl, rfl, closed⟩ := ends
  rcases closed with outside | pending
  · rw [next, outside]
    rfl
  · rw [next, pending]
    rfl

/-- A line break ends a row. -/
theorem Reading.Ends.newline {reading : Reading} {field : Field}
    (ends : reading.Ends rows before field) :
    reading.next newline = start (rows ++ [⟨before, field⟩]) [] := by
  obtain ⟨rfl, rfl, rfl, closed⟩ := ends
  rcases closed with outside | pending
  · rw [next, outside]
    rfl
  · rw [next, pending]
    rfl

/-- The fields before the last are read as they were written. -/
theorem foldl_before (fields before : List Field) :
    (fields.flatMap fun field => writeField field ++ [comma]).foldl Reading.next
      (Reading.start rows before) = Reading.start rows (before ++ fields) := by
  induction fields generalizing before with
  | nil => rw [List.flatMap_nil, List.foldl_nil, List.append_nil]
  | cons field fields ih =>
    rw [List.flatMap_cons, List.foldl_append, List.foldl_append, List.foldl_cons, List.foldl_nil,
      (foldl_writeField field).comma, ih, List.append_assoc, List.singleton_append]

/-- A row is read as it was written. -/
theorem foldl_writeRow (row : Row) :
    (writeRow row).foldl Reading.next (Reading.start rows []) =
      Reading.start (rows ++ [row]) [] := by
  rw [writeRow, List.foldl_append, foldl_before, List.foldl_append, List.foldl_cons,
    List.foldl_nil, (foldl_writeField row.last).newline, List.nil_append]

/-- Rows are read as they were written, after those read before. -/
theorem foldl_write (more : List Row) :
    (write more).foldl Reading.next (Reading.start rows []) =
      Reading.start (rows ++ more) [] := by
  induction more generalizing rows with
  | nil => rw [write, List.flatMap_nil, List.foldl_nil, List.append_nil]
  | cons row more ih =>
    have rest := @ih (rows ++ [row])
    rw [write] at rest ⊢
    rw [List.flatMap_cons, List.foldl_append, foldl_writeRow, rest, List.append_assoc,
      List.singleton_append]

/-- Rows are read back as they were written. -/
theorem read_write (rows : List Row) : read (write rows) = some rows := by
  rw [read, foldl_write]
  rfl

end Csv
