import ApiPack2.Export.RecordsToFile
import ApiPack2.Lib.Glob
import ApiPack2.Lib.Quoting

/-!
# From one database to another

The script that the export writes makes the directory `sampleData` anew and runs the copy
statements, each of which writes a file there. The import script gathers the files of each topic
in one, found by a pattern of their names, and copies it into the table of the topic. The server,
and the way psql writes and reads rows, are given with what the scripts rely on.
-/

namespace ApiPack2.Export

/-- A table. -/
inductive TableName where
  /-- `catapult.general`. -/
  | general
  /-- `catapult.schedule_day`. -/
  | scheduleDay
  deriving DecidableEq, Repr

/-- The rows of the tables. -/
abbrev Tables (ρ : Type) := TableName → List ρ

/-- The table that the objects of a topic are in. -/
def tableOf (topic : Topic) : TableName :=
  if topic = .metamorphosisScheduleDay then .scheduleDay else .general

/-- The columns that the copy statements ask for. -/
structure Columns (ρ : Type) where
  /-- `topic`, of `catapult.general`. -/
  topic : ρ → String
  /-- `id`, of `catapult.general`. -/
  id : ρ → String
  /-- `schedule_day_id`, as a text. -/
  scheduleDayId : ρ → String

/-- Whether a row is that of an object of a topic with one of the ids. -/
def Columns.has {ρ : Type} (columns : Columns ρ) (topic : Topic) (ids : List String) (row : ρ) :
    Bool :=
  if topic = .metamorphosisScheduleDay then decide (columns.scheduleDayId row ∈ ids)
  else decide (columns.topic row = topic.toChar) && decide (columns.id row ∈ ids)

/-- An id that stands for itself in an IN list: those of schedule days are numbers, and the others
are quoted. -/
def Plain (topic : Topic) (id : String) : Prop :=
  if topic = .metamorphosisScheduleDay then ∃ number : Int, id = toString number
  else Quoting.quote ∉ id.toList ∧ '\n' ∉ id.toList

/-- psql with a server: the rows it selects, and how it writes and reads them as CSV. -/
structure Psql (ρ κ : Type) where
  /-- The columns of the rows. -/
  columns : Columns ρ
  /-- The primary keys of the tables. -/
  key : TableName → ρ → κ
  /-- The rows that a command selects, in the order the server returns them. -/
  select : Tables ρ → String → List ρ
  /-- A command with plain ids selects the rows that have one of them. -/
  selects : ∀ tables topic idList, idList ≠ [] → (∀ id ∈ idList, Plain topic id) →
    (select tables (sqlCommand topic idList)).Perm
      ((tables (tableOf topic)).filter (columns.has topic idList))
  /-- Rows as CSV. -/
  write : List ρ → String
  /-- The rows of a CSV text. -/
  read : String → Option (List ρ)
  /-- Rows are written one after another. -/
  write_append : ∀ left right, write (left ++ right) = write left ++ write right
  /-- Rows are read back as they were written. -/
  read_write : ∀ rows, read (write rows) = some rows

/-- A file. -/
structure File where
  /-- The path. -/
  path : String
  /-- The content. -/
  text : String
  deriving DecidableEq, Repr

/-- The files of `sampleData`. -/
abbrev Files := List File

namespace Files

/-- A file is written, in place of the one with its path. -/
def write (files : Files) (path text : String) : Files :=
  files.filter (·.path ≠ path) ++ [⟨path, text⟩]

/-- The content of a file. -/
def read (files : Files) (path : String) : Option String :=
  (files.find? (·.path = path)).map (·.text)

/-- A text is added to a file, which is created if there is none. -/
def append (files : Files) (path text : String) : Files :=
  files.write path ((files.read path).getD "" ++ text)

end Files

/-- The topics in the order in which they are exported. -/
def exportTopics : List Topic :=
  [.metamorphosisLinuep, .metamorphosisStation, .metamorphosisAffiliation, .metamorphosisMarket,
    .metamorphosisScheduleDay, .metamorphosisProgramTmsId, .metamorphosisImage,
    .metamorphosisProvider, .metamorphosisHeadend, .metamorphosisPerson,
    .metamorphosisRatingBody, .metamorphosisRatingValue, .metamorphosisAnimation,
    .metamorphosisAwardType, .metamorphosisAwardBody, .metamorphosisGenre,
    .metamorphosisProductionCompany, .metamorphosisAdvisory, .metamorphosisHoliday,
    .metamorphosisPlayoff, .metamorphosisTeam, .metamorphosisVenue, .metamorphosisUniversity,
    .metamorphosisWarning, .metamorphosisConference]

/-- Every topic is exported. -/
theorem mem_exportTopics (topic : Topic) : topic ∈ exportTopics := by cases topic <;> decide

/-- `export_data.sql`. -/
def exportSqlFile (order : SetOrder) (exportedIds : ExportedIds) : String :=
  exportTopics.foldl (fun exportSqlFile topic =>
    exportRecordsToFile order topic exportedIds exportSqlFile) ""

/-- The copy statements for a topic. -/
def topicStatements (order : SetOrder) (exportedIds : ExportedIds) (topic : Topic) :
    List CopyStatement :=
  statementsFrom topic 0 (chunkedList (order.list (exportedIds topic)) 512)

/-- The copy statements of `export_data.sql`. -/
def exportStatements (order : SetOrder) (exportedIds : ExportedIds) : List CopyStatement :=
  exportTopics.flatMap (topicStatements order exportedIds)

/-- The script consists of its copy statements. -/
theorem exportSqlFile_eq (order : SetOrder) (exportedIds : ExportedIds) :
    exportSqlFile order exportedIds =
      String.join ((exportStatements order exportedIds).map CopyStatement.text) := by
  have written : ∀ (topics : List Topic) (text : String), topics.foldl (fun exportSqlFile topic =>
      exportRecordsToFile order topic exportedIds exportSqlFile) text =
      text ++ String.join ((topics.flatMap (topicStatements order exportedIds)).map
        CopyStatement.text) := fun topics text => by
    induction topics generalizing text with
    | nil => simp
    | cons topic topics ih =>
      rw [List.foldl_cons, ih, exportRecordsToFile, foldl_written, List.flatMap_cons,
        List.map_append, String.join_append, ← String.append_assoc]
      rfl
  rw [exportSqlFile, written]
  rfl

variable {ρ κ : Type} (psql : Psql ρ κ)

/-- The topics in the order in which they are imported. -/
def importTopics : List Topic :=
  [.metamorphosisStation, .metamorphosisLinuep, .metamorphosisImage, .metamorphosisPerson,
    .metamorphosisProgramTmsId, .metamorphosisAffiliation, .metamorphosisMarket,
    .metamorphosisScheduleDay, .metamorphosisProvider, .metamorphosisHeadend,
    .metamorphosisRatingBody, .metamorphosisRatingValue, .metamorphosisAnimation,
    .metamorphosisAwardType, .metamorphosisAwardBody, .metamorphosisGenre,
    .metamorphosisProductionCompany, .metamorphosisAdvisory, .metamorphosisHoliday,
    .metamorphosisPlayoff, .metamorphosisTeam, .metamorphosisVenue, .metamorphosisWarning,
    .metamorphosisConference, .metamorphosisUniversity]

variable [DecidableEq κ]

end ApiPack2.Export
