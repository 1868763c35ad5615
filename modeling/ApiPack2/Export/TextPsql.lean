import ApiPack2.Export.SampleData
import ApiPack2.Lib.Csv

/-!
# A server that reads its commands

The rows that a copy command selects, found from its text: the literals are the topic and the
ids, and if there are none the numbers are the ids of schedule days. Together with comma-separated
rows this is a psql that the scripts can rely on.
-/

namespace ApiPack2.Export.TextPsql

open Quoting

/-- The texts of the literals. -/
def literals (tokens : List Token) : List (List Char) :=
  tokens.filterMap fun token => match token with
    | .literal content => some content
    | _ => none

/-- The character does not belong to a number. -/
def separates (char : Char) : Bool := !(char.isDigit || char == '-')

/-- The texts of the numbers. -/
def numbers (text : List Char) : List (List Char) := (text.splitOnP separates).filter (· ≠ [])

/-- The rows that a command selects. -/
def select {ρ : Type} (columns : Columns ρ) (tables : Tables ρ) (command : String) : List ρ :=
  match literals (lex command.toList) with
  | topic :: ids => (tables .general).filter fun row =>
      decide ((columns.topic row).toList = topic) && decide ((columns.id row).toList ∈ ids)
  | [] => (tables .scheduleDay).filter fun row =>
      decide ((columns.scheduleDayId row).toList ∈ numbers command.toList)

/-! ### Literals -/

/-- Characters are no literals. -/
theorem literals_plain (text : List Char) (rest : List Token) :
    literals (text.map Token.char ++ rest) = literals rest := by
  induction text with
  | nil => rfl
  | cons char text ih => exact ih

/-- An id as it stands in a command. -/
def quoted (id : String) : String := "'" ++ id ++ "'"

theorem toList_quoted (id : String) : (quoted id).toList = quote :: (id.toList ++ [quote]) := by
  rw [quoted, String.toList_append, String.toList_append]
  rfl

/-- The literals of an IN list are its ids. -/
theorem literals_inList {ids : List String} (plain : ∀ id ∈ ids, quote ∉ id.toList) :
    literals (lexFrom .outside
      ((", ".intercalate (ids.map quoted)).toList ++ ")".toList)) = ids.map String.toList := by
  have closing : lexFrom .outside ")".toList = [.char ')'] := by decide
  have separator : quote ∉ ", ".toList := by decide
  rw [String.toList_intercalate, List.map_map]
  induction ids with
  | nil =>
    rw [List.map_nil, List.intercalate_nil, List.nil_append, closing]
    rfl
  | cons id ids ih =>
    have paired : doubled id.toList = true := doubled_of_plain (plain id List.mem_cons_self)
    have rest := ih fun other later => plain other (List.mem_cons_of_mem _ later)
    cases ids with
    | nil =>
      have ends : (")".toList).head? ≠ some quote := by decide
      rw [List.map_singleton, List.intercalate_singleton, Function.comp, toList_quoted]
      rw [List.cons_append, List.append_assoc, List.singleton_append, lexFrom_literal paired ends,
        closing]
      rfl
    | cons next ids =>
      have ends : ∀ text : List Char, (", ".toList ++ text).head? ≠ some quote := fun text => by
        change some ',' ≠ some quote
        decide
      rw [List.map_cons, List.map_cons, List.intercalate_cons_cons, Function.comp, toList_quoted]
      rw [List.map_cons, Function.comp] at rest
      simp only [List.cons_append, List.append_assoc, List.nil_append]
      rw [lexFrom_literal paired (ends _), lexFrom_plain separator]
      have skips := literals_plain ", ".toList
      rw [List.map_cons, ← rest, ← skips]
      rfl

/-- The literals of a command are its topic and its ids. -/
theorem literals_general {topic : Topic} {ids : List String}
    (general : topic ≠ .metamorphosisScheduleDay) (plain : ∀ id ∈ ids, quote ∉ id.toList) :
    literals (lex (sqlCommand topic ids).toList) =
      topic.toChar.toList :: ids.map String.toList := by
  have before : quote ∉ "SELECT *  FROM catapult.general where topic=".toList := by
    decide +kernel
  have between : quote ∉ " and id IN (".toList := by decide
  have allPaired : (exportTopics.all fun topic => doubled topic.toChar.toList) = true := by
    decide +kernel
  have paired := List.all_eq_true.mp allPaired topic (mem_exportTopics topic)
  have ends : ∀ text : List Char, (" and id IN (".toList ++ text).head? ≠ some quote :=
    fun text => by
      change some ' ' ≠ some quote
      decide
  have parts : (sqlCommand topic ids).toList =
      "SELECT *  FROM catapult.general where topic=".toList ++ quote ::
        (topic.toChar.toList ++ quote :: (" and id IN (".toList ++
          ((", ".intercalate (ids.map quoted)).toList ++ ")".toList))) := by
    rw [sqlCommand, if_neg general]
    simp [quote]
    rfl
  rw [parts, lex, lexFrom_plain before, literals_plain, lexFrom_literal paired (ends _),
    lexFrom_plain between]
  have skips := literals_plain " and id IN (".toList
  rw [← literals_inList plain, ← skips]
  rfl

/-! ### Numbers -/

/-- The numbers before a character that belongs to none and those after it. -/
theorem numbers_append {separator : Char} (apart : separates separator = true)
    (left right : List Char) :
    numbers (left ++ separator :: right) = numbers left ++ numbers right := by
  rw [numbers, List.splitOnP_append_cons left right apart, List.filter_append]
  rfl

/-- The numbers before a comma and those after it. -/
theorem numbers_comma (left right : List Char) :
    numbers (left ++ (", ".toList ++ right)) = numbers left ++ numbers right := by
  have comma : numbers (left ++ ',' :: ' ' :: right) = numbers left ++ numbers (' ' :: right) :=
    numbers_append rfl left (' ' :: right)
  have blank : numbers ([] ++ ' ' :: right) = numbers [] ++ numbers right :=
    numbers_append rfl [] right
  exact comma.trans (congrArg (numbers left ++ ·) blank)

/-- A number. -/
theorem numbers_of_digits {text : List Char} (digits : ∀ char ∈ text, separates char = false)
    (filled : text ≠ []) : numbers text = [text] := by
  rw [numbers, List.splitOnP_eq_singleton digits]
  simp [filled]

/-- The text of an integer has digits, and perhaps a sign. -/
theorem toString_digits (number : Int) :
    (toString number).toList ≠ [] ∧ ∀ char ∈ (toString number).toList, separates char = false := by
  have natural (value : Nat) : ∀ char ∈ Decimal.digits value, separates char = false :=
    fun char member => by
      rw [separates, Decimal.isDigit_of_mem_digits member]
      rfl
  cases number with
  | ofNat value =>
    have text : (toString (Int.ofNat value)).toList = Decimal.digits value :=
      Decimal.toList_toString value
    rw [text]
    exact ⟨Decimal.digits_ne_nil value, natural value⟩
  | negSucc value =>
    have text : (toString (Int.negSucc value)).toList = '-' :: Decimal.digits (value + 1) := by
      rw [← Decimal.toList_toString]
      exact String.toList_append ..
    rw [text]
    refine ⟨List.cons_ne_nil _ _, fun char member => ?_⟩
    rcases List.mem_cons.mp member with rfl | later
    · rfl
    · exact natural (value + 1) char later

/-- The numbers of an IN list are its ids. -/
theorem numbers_inList {ids : List String}
    (plain : ∀ id ∈ ids, ∃ number : Int, id = toString number) :
    numbers ((", ".intercalate ids).toList ++ ")".toList) = ids.map String.toList := by
  have own : ∀ id ∈ ids, numbers id.toList = [id.toList] := fun id member => by
    obtain ⟨number, rfl⟩ := plain id member
    exact numbers_of_digits (toString_digits number).2 (toString_digits number).1
  have last : ∀ text, numbers (text ++ ")".toList) = numbers text := fun text => by
    have ended : numbers (text ++ ')' :: []) = numbers text ++ [] := numbers_append rfl text []
    rw [List.append_nil] at ended
    exact ended
  rw [last, String.toList_intercalate]
  clear plain last
  induction ids with
  | nil => decide
  | cons id ids ih =>
    have first := own id List.mem_cons_self
    have rest := ih fun other later => own other (List.mem_cons_of_mem _ later)
    cases ids with
    | nil => simpa using first
    | cons next ids =>
      rw [List.map_cons, List.map_cons, List.intercalate_cons_cons, ← List.map_cons,
        List.append_assoc, numbers_comma, first, rest]
      rfl

/-- The numbers of a command are its ids. -/
theorem numbers_scheduleDay {ids : List String}
    (plain : ∀ id ∈ ids, ∃ number : Int, id = toString number) :
    numbers (sqlCommand .metamorphosisScheduleDay ids).toList = ids.map String.toList := by
  have before : numbers "SELECT  * FROM catapult.schedule_day where schedule_day_id IN ".toList =
      [] := by decide +kernel
  have parts : (sqlCommand .metamorphosisScheduleDay ids).toList =
      "SELECT  * FROM catapult.schedule_day where schedule_day_id IN ".toList ++ '(' ::
        ((", ".intercalate ids).toList ++ ")".toList) := by
    rw [sqlCommand, if_pos rfl]
    simp
  rw [parts, numbers_append rfl, before, numbers_inList plain, List.nil_append]

/-- An IN list of numbers has no quotes. -/
theorem quote_not_mem_inList {ids : List String}
    (plain : ∀ id ∈ ids, ∃ number : Int, id = toString number) :
    quote ∉ (", ".intercalate ids).toList := by
  have own : ∀ id ∈ ids, quote ∉ id.toList := fun id member inside => by
    obtain ⟨number, rfl⟩ := plain id member
    cases (toString_digits number).2 quote inside
  have separator : quote ∉ ", ".toList := by decide
  rw [String.toList_intercalate]
  clear plain
  induction ids with
  | nil => exact List.not_mem_nil
  | cons id ids ih =>
    have first := own id List.mem_cons_self
    have rest := ih fun other later => own other (List.mem_cons_of_mem _ later)
    cases ids with
    | nil => simpa using first
    | cons next ids =>
      rw [List.map_cons, List.map_cons, List.intercalate_cons_cons, ← List.map_cons,
        List.mem_append, List.mem_append]
      rintro ((inside | inside) | inside)
      · exact first inside
      · exact separator inside
      · exact rest inside

/-- A command for schedule days has no literals. -/
theorem literals_scheduleDay {ids : List String}
    (plain : ∀ id ∈ ids, ∃ number : Int, id = toString number) :
    literals (lex (sqlCommand .metamorphosisScheduleDay ids).toList) = [] := by
  have before : quote ∉
      "SELECT  * FROM catapult.schedule_day where schedule_day_id IN (".toList := by
    decide +kernel
  have parts : (sqlCommand .metamorphosisScheduleDay ids).toList =
      "SELECT  * FROM catapult.schedule_day where schedule_day_id IN (".toList ++
        ((", ".intercalate ids).toList ++ ")".toList) := by
    rw [sqlCommand, if_pos rfl]
    simp
  have closing : lexFrom .outside ")".toList = [.char ')'] := by decide
  rw [parts, lex, lexFrom_plain before, literals_plain,
    lexFrom_plain (quote_not_mem_inList plain), literals_plain, closing]
  rfl

/-! ### The server -/

/-- A command with plain ids selects the rows that have one of them. -/
theorem select_eq {ρ : Type} (columns : Columns ρ) (tables : Tables ρ) {topic : Topic}
    {idList : List String} (plain : ∀ id ∈ idList, Plain topic id) :
    select columns tables (sqlCommand topic idList) =
      (tables (tableOf topic)).filter (columns.has topic idList) := by
  have same (text : String) : text.toList ∈ idList.map String.toList ↔ text ∈ idList := by
    rw [List.mem_map]
    simp only [String.toList_inj, exists_eq_right]
  by_cases day : topic = .metamorphosisScheduleDay
  · subst day
    have numerals : ∀ id ∈ idList, ∃ number : Int, id = toString number := plain
    rw [select, literals_scheduleDay numerals]
    dsimp only
    rw [numbers_scheduleDay numerals, tableOf, if_pos rfl]
    refine List.filter_congr fun row _ => ?_
    rw [Columns.has, if_pos rfl]
    simp only [same]
  · have unquoted : ∀ id ∈ idList, quote ∉ id.toList := fun id member => by
      have stands := plain id member
      rw [Plain, if_neg day] at stands
      exact stands.1
    rw [select, literals_general day unquoted]
    dsimp only
    rw [tableOf, if_neg day]
    refine List.filter_congr fun row _ => ?_
    rw [Columns.has, if_neg day]
    simp only [same, String.toList_inj]

/-- The text of a column, counted from the first. -/
def column (index : Nat) (row : Csv.Row) : String :=
  String.ofList ((row.before[index]?.getD none).getD [])

/-- Rows with the topic and the id, or the id of a schedule day, in their first columns. -/
def columns : Columns Csv.Row := ⟨column 0, column 1, column 0⟩

/-- A psql that reads its commands, and writes and reads comma-separated rows. -/
def psql : Psql Csv.Row (List Csv.Field) where
  columns := columns
  key table row := row.before.take (if table = .general then 2 else 1)
  select := select columns
  selects tables topic idList _ plain := .of_eq (select_eq columns tables plain)
  write rows := String.ofList (Csv.write rows)
  read text := Csv.read text.toList
  write_append left right := by rw [Csv.write_append, String.ofList_append]
  read_write rows := by rw [String.toList_ofList, Csv.read_write]

end ApiPack2.Export.TextPsql
