import ApiPack2.Datastore.Commands
import ApiPack2.Lib.Chunks
import ApiPack2.Lib.Decimal
import ApiPack2.Lib.Gather
import Mathlib.Algebra.Order.Floor.Div

/-!
# The copy statements of the export

The export script keeps a set of ids for each topic. It lists the ids of a topic in an order of
its own, cuts the list into chunks and writes a copy statement for each chunk, with an output
file of its own. As no chunk is empty and every id is in one of them, so is every statement.
-/

namespace ApiPack2.Export

open Gather

/-- `exportedIds`, with the topics in place of their texts. -/
abbrev ExportedIds := Family Topic String

/-- The order in which `list` lists a set. -/
structure SetOrder where
  /-- The list. -/
  list : Distinct String → List String
  /-- It has the elements of the set, in some order. -/
  perm : ∀ set, (list set).Perm set.elements

namespace SetOrder

/-- The order in which the elements were added. -/
def added : SetOrder := ⟨Distinct.elements, fun _ => .rfl⟩

variable (order : SetOrder) (set : Distinct String)

theorem mem_list {id : String} : id ∈ order.list set ↔ id ∈ set := (order.perm set).mem_iff

theorem nodup_list : (order.list set).Nodup := (order.perm set).nodup_iff.mpr set.nodup

theorem length_list : (order.list set).length = set.elements.length := (order.perm set).length_eq

end SetOrder

/-- `chunkedList`. -/
def chunkedList {α : Type} (list : List α) (count : Int) : List (List α) :=
  let count := max 1 count
  (Chunks.range 0 list.length count).map fun i => Chunks.slice list i (i + count)

/-- `sqlCommand` for the ids of a chunk. -/
def sqlCommand (topic : Topic) (idList : List String) : String :=
  if topic = .metamorphosisScheduleDay then
    "SELECT  * FROM catapult.schedule_day" ++
      (" where schedule_day_id IN (" ++ ", ".intercalate (idList.map fun id => id) ++ ")")
  else
    "SELECT *  FROM catapult.general where topic='" ++ topic.toChar ++ "'" ++
      (" and id IN (" ++ ", ".intercalate (idList.map fun id => "'" ++ id ++ "'") ++ ")")

/-- The output file of a copy statement. -/
def outputFile (topic : Topic) (fileCount : Nat) : String :=
  "sampleData/export_data_" ++ topic.toChar ++ "_" ++ toString fileCount ++ ".dump"

/-- `exportRecordsToFile`: the text of the file afterwards. -/
def exportRecordsToFile (order : SetOrder) (topic : Topic) (ids : ExportedIds)
    (exportSqlFile : String) : String :=
  let chunkedIds := chunkedList (order.list (ids topic)) 512
  let written := chunkedIds.foldl (fun (exportSqlFile, fileCount) idList =>
    (exportSqlFile ++ "\\copy (" ++ sqlCommand topic idList ++
      (") To '" ++ outputFile topic fileCount ++ "' WITH CSV; \n"), fileCount + 1))
    (exportSqlFile, 0)
  written.1

/-! ### The chunks -/

/-- The chunks of a list: there are none for an empty list, none is empty, together they are
the list, and all but the last have the length asked for, but at least one element. -/
structure ChunksOf {α : Type} (list : List α) (count : Int) (chunks : List (List α)) : Prop where
  /-- An empty list has no chunks. -/
  none : list = [] → chunks = []
  /-- No chunk is empty. -/
  filled : ∀ chunk ∈ chunks, chunk ≠ []
  /-- The chunks in a row are the list. -/
  whole : chunks.flatten = list
  /-- Every chunk but the last has the length asked for. -/
  full : ∀ (index : Nat) (notLast : index + 1 < chunks.length),
    (chunks[index].length : Int) = max 1 count
  /-- The last chunk is no longer. -/
  short : ∀ chunk ∈ chunks, (chunk.length : Int) ≤ max 1 count

/-- The chunks are those of a positive size. -/
theorem chunkedList_eq {α : Type} (list : List α) (count : Int) :
    ∃ size : Nat, 0 < size ∧ (size : Int) = max 1 count ∧
      chunkedList list count = Chunks.cut size list := by
  have positive : 1 ≤ max 1 count := Int.le_max_left ..
  have same : ((max 1 count).toNat : Int) = max 1 count := Int.toNat_of_nonneg (by omega)
  refine ⟨(max 1 count).toNat, by omega, same, ?_⟩
  rw [Chunks.cut, same]
  rfl

/-- `chunkedList` cuts its list into chunks. -/
theorem chunkedList_chunks {α : Type} (list : List α) (count : Int) :
    ChunksOf list count (chunkedList list count) := by
  obtain ⟨size, positive, asked, chunks⟩ := chunkedList_eq list count
  rw [chunks]
  constructor
  · rintro rfl
    exact Chunks.cut_nil positive
  · intro chunk isChunk
    exact (Chunks.length_of_mem_cut positive isChunk).1
  · exact Chunks.flatten_cut positive list
  · intro index notLast
    rw [← asked, Chunks.length_getElem_cut positive list index notLast]
  · intro chunk isChunk
    have short := (Chunks.length_of_mem_cut positive isChunk).2
    omega

/-! ### The statements -/

/-- A copy statement. -/
structure CopyStatement where
  /-- The topic. -/
  topic : Topic
  /-- The ids in its IN list. -/
  idList : List String
  /-- The number of its output file. -/
  fileCount : Nat

namespace CopyStatement

/-- The output file. -/
def file (statement : CopyStatement) : String := outputFile statement.topic statement.fileCount

/-- The statement as it is written. -/
def text (statement : CopyStatement) : String :=
  "\\copy (" ++ sqlCommand statement.topic statement.idList ++
    (") To '" ++ statement.file ++ "' WITH CSV; \n")

end CopyStatement

/-- The copy statements for chunks of ids, with output files numbered from the given one on. -/
def statementsFrom (topic : Topic) (fileCount : Nat) (chunkedIds : List (List String)) :
    List CopyStatement :=
  (chunkedIds.zipIdx fileCount).map fun chunk => ⟨topic, chunk.1, chunk.2⟩

/-- The statements copy every id of the topic once, into files of their own. -/
structure CopiesOnce (topic : Topic) (ids : ExportedIds) (statements : List CopyStatement) :
    Prop where
  /-- There is one statement for every 512 ids, and one for the ids left over. -/
  count : statements.length = (ids topic).elements.length ⌈/⌉ 512
  /-- No two statements have one output file. -/
  files : (statements.map CopyStatement.file).Nodup
  /-- No IN list is empty. -/
  filled : ∀ statement ∈ statements, statement.idList ≠ []
  /-- The statements are for the topic. -/
  topics : ∀ statement ∈ statements, statement.topic = topic
  /-- Every id is in one IN list. -/
  once : ∀ id ∈ ids topic, statements.countP (id ∈ ·.idList) = 1
  /-- It is there once. -/
  single : ∀ statement ∈ statements, statement.idList.Nodup
  /-- Nothing else is in an IN list. -/
  only : ∀ statement ∈ statements, ∀ id ∈ statement.idList, id ∈ ids topic

/-- The loop over the chunks writes their statements. -/
theorem foldl_written (topic : Topic) (chunkedIds : List (List String)) (exportSqlFile : String)
    (fileCount : Nat) :
    (chunkedIds.foldl (fun (exportSqlFile, fileCount) idList =>
      (exportSqlFile ++ "\\copy (" ++ sqlCommand topic idList ++
        (") To '" ++ outputFile topic fileCount ++ "' WITH CSV; \n"), fileCount + 1))
      (exportSqlFile, fileCount)).1 =
      exportSqlFile ++
        String.join ((statementsFrom topic fileCount chunkedIds).map CopyStatement.text) := by
  induction chunkedIds generalizing exportSqlFile fileCount with
  | nil => simp [statementsFrom]
  | cons idList chunkedIds ih =>
    rw [List.foldl_cons, ih]
    simp only [statementsFrom, List.zipIdx_cons, List.map_cons, String.join_cons,
      CopyStatement.text, CopyStatement.file, String.append_assoc]

/-- The output files of a topic differ. -/
theorem outputFile_injective (topic : Topic) : Function.Injective (outputFile topic) := by
  intro left right same
  have numbers := String.append_left_inj _ |>.mp same
  exact Decimal.toString_injective (String.append_right_inj _ |>.mp numbers)

/-- The statements have the chunks as their IN lists. -/
theorem map_idList (topic : Topic) (fileCount : Nat) (chunkedIds : List (List String)) :
    (statementsFrom topic fileCount chunkedIds).map CopyStatement.idList = chunkedIds := by
  rw [statementsFrom, List.map_map]
  exact List.zipIdx_map_fst ..

/-- The statements have output files with numbers in a row. -/
theorem map_file (topic : Topic) (fileCount : Nat) (chunkedIds : List (List String)) :
    (statementsFrom topic fileCount chunkedIds).map CopyStatement.file =
      (List.range' fileCount chunkedIds.length).map (outputFile topic) := by
  rw [statementsFrom, List.map_map, ← List.zipIdx_map_snd fileCount chunkedIds, List.map_map]
  rfl

/-- The statements for the chunks of a set of ids copy each of them once. -/
theorem statementsFrom_copiesOnce (order : SetOrder) (topic : Topic) (ids : ExportedIds) :
    CopiesOnce topic ids (statementsFrom topic 0 (chunkedList (order.list (ids topic)) 512)) := by
  have chunks := chunkedList_chunks (order.list (ids topic)) 512
  have idLists := map_idList topic 0 (chunkedList (order.list (ids topic)) 512)
  have isChunk {statement : CopyStatement}
      (written : statement ∈
        statementsFrom topic 0 (chunkedList (order.list (ids topic)) 512)) :
      statement.idList ∈ chunkedList (order.list (ids topic)) 512 := by
    rw [← idLists]
    exact List.mem_map_of_mem written
  have nodup : (chunkedList (order.list (ids topic)) 512).flatten.Nodup := by
    rw [chunks.whole]
    exact order.nodup_list _
  constructor
  · have size : chunkedList (order.list (ids topic)) 512 =
        Chunks.cut (512 : Nat) (order.list (ids topic)) := rfl
    rw [statementsFrom, List.length_map, List.length_zipIdx, size, Chunks.length_cut,
      order.length_list, Nat.ceilDiv_eq_add_pred_div]
    rfl
  · rw [map_file]
    exact (List.nodup_range' ..).map (outputFile_injective topic)
  · intro statement written
    exact chunks.filled _ (isChunk written)
  · intro statement written
    obtain ⟨chunk, -, rfl⟩ := List.mem_map.mp written
    rfl
  · intro id member
    have listed : id ∈ (chunkedList (order.list (ids topic)) 512).flatten := by
      rw [chunks.whole]
      exact (order.mem_list _).mpr member
    have one := Chunks.countP_mem_eq_one nodup listed
    rw [← idLists, List.countP_map] at one
    exact one
  · intro statement written
    exact (List.nodup_flatten.mp nodup).1 _ (isChunk written)
  · intro statement written id listed
    have inside : id ∈ (chunkedList (order.list (ids topic)) 512).flatten :=
      List.mem_flatten_of_mem (isChunk written) listed
    rw [chunks.whole] at inside
    exact (order.mem_list _).mp inside

/-- `chunkedList` cuts every list into chunks, whatever the count, and `exportRecordsToFile`
writes copy statements that copy every id of a topic once. -/
theorem export_partitions {α : Type} (list : List α) (count : Int) (order : SetOrder)
    (topic : Topic) (ids : ExportedIds) (exportSqlFile : String) :
    ChunksOf list count (chunkedList list count) ∧
      ∃ statements, CopiesOnce topic ids statements ∧
        exportRecordsToFile order topic ids exportSqlFile =
          exportSqlFile ++ String.join (statements.map CopyStatement.text) := by
  constructor
  · exact chunkedList_chunks list count
  · have written := foldl_written topic (chunkedList (order.list (ids topic)) 512) exportSqlFile 0
    exact ⟨_, statementsFrom_copiesOnce order topic ids, written⟩

end ApiPack2.Export
