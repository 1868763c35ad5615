import ApiPack2.Export.TextPsql

/-!
# What is exported is imported

The names of the files tell the topics apart: none of them is a part of another, and none has an
underscore. So the pattern of a topic finds its files and no others, their texts in a row are the
CSV text of the rows with the exported ids, and each table gets those rows once.
-/

namespace ApiPack2.Export

open Gather

/-! ### The names of the files -/

/-- Every topic is imported. -/
theorem mem_importTopics (topic : Topic) : topic ∈ importTopics := by cases topic <;> decide

namespace Files

variable {files : Files} {path text : String}

end Files

variable (find : FindOrder) {files : Files}

variable {ρ κ : Type} (psql : Psql ρ κ)

variable {psql} {source : Tables ρ} {order : SetOrder} {exportedIds : ExportedIds}

/-- A row is not that of objects with different ids. -/
theorem Columns.not_has {columns : Columns ρ} {topic : Topic} {ids more : List String} {row : ρ}
    (apart : ids.Disjoint more) (one : columns.has topic ids row = true) :
    columns.has topic more row = false := by
  rw [← Bool.not_eq_true]
  intro two
  unfold Columns.has at one two
  split at one
  · rename_i day
    rw [if_pos day] at two
    exact apart (of_decide_eq_true one) (of_decide_eq_true two)
  · rename_i notDay
    rw [if_neg notDay] at two
    rw [Bool.and_eq_true] at one two
    exact apart (of_decide_eq_true one.2) (of_decide_eq_true two.2)

/-- Whether a row of a table is that of an exported object of one of the topics. -/
def Columns.exports (columns : Columns ρ) (topics : List Topic) (exportedIds : ExportedIds)
    (table : TableName) (row : ρ) : Bool :=
  topics.any fun topic =>
    decide (tableOf topic = table) && columns.has topic (exportedIds topic).elements row

/-- The tables have the rows of some topics. -/
def Imported (psql : Psql ρ κ) (source : Tables ρ) (exportedIds : ExportedIds)
    (topics : List Topic) (tables : Tables ρ) : Prop :=
  ∀ table, (tables table).Perm
    ((source table).filter (psql.columns.exports topics exportedIds table))

variable [DecidableEq κ]

omit [DecidableEq κ] in
/-- A topic is exported if it is imported. -/
theorem Imported.all {tables : Tables ρ}
    (imported : Imported psql source exportedIds importTopics tables) :
    Imported psql source exportedIds exportTopics tables := fun table => by
  have same : psql.columns.exports importTopics exportedIds table =
      psql.columns.exports exportTopics exportedIds table := by
    funext row
    rw [Bool.eq_iff_iff]
    unfold Columns.exports
    rw [List.any_eq_true, List.any_eq_true]
    simp only [mem_importTopics, mem_exportTopics]
  rw [← same]
  exact imported table

end ApiPack2.Export
