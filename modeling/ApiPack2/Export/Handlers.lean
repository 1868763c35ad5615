import ApiPack2.Export.Records

/-!
# The handlers of the export script

Each handler goes through rows of one kind and adds the ids that they refer to. The script
runs the handlers once, in a fixed order, each over the sets as they are when it starts. An
error ends the script. Of the lines that it prints only those are kept that can fail.
-/

namespace ApiPack2.Export

open Gather

/-- What ends the script. -/
inductive ScriptError where
  /-- An attribute of `None`. -/
  | attributeError
  /-- `len` of `None`, or a loop over it. -/
  | typeError
  /-- A variable that has not been assigned. -/
  | unboundLocalError
  /-- A division by zero. -/
  | zeroDivisionError
  /-- A command that the server does not accept. -/
  | programmingError
  deriving DecidableEq

/-- The object that an attribute is taken of. -/
def attributesOf {α : Type} : Option α → Except ScriptError α
  | some object => .ok object
  | none => .error .attributeError

@[simp]
theorem attributesOf_eq_ok {α : Type} {value : Option α} {object : α} :
    attributesOf value = .ok object ↔ value = some object := by
  cases value <;> simp [attributesOf]

/-- The list that `len` or a loop takes. -/
def listOf {α : Type} : Option (List α) → Except ScriptError (List α)
  | some list => .ok list
  | none => .error .typeError

@[simp]
theorem listOf_eq_ok {α : Type} {value : Option (List α)} {list : List α} :
    listOf value = .ok list ↔ value = some list := by
  cases value <;> simp [listOf]

/-- A variable that is read. -/
def valueOf {α : Type} : Option α → Except ScriptError α
  | some value => .ok value
  | none => .error .unboundLocalError

@[simp]
theorem valueOf_eq_ok {α : Type} {variable_ : Option α} {value : α} :
    valueOf variable_ = .ok value ↔ variable_ = some value := by
  cases variable_ <;> simp [valueOf]

/-- `if len(items) >0: for item in items: exportedIds[topic].add(str(item))`. -/
def addItems (exportedIds : ExportedIds) (topic : Topic) (items : Option (List String)) :
    Except ScriptError ExportedIds := do
  let items ← listOf items
  if items.length > 0 then return insertAll exportedIds topic items else return exportedIds

/-- A loop that is entered only if there are items is the loop. -/
theorem guarded_loop {β σ : Type} {items : List β} {loop : Except ScriptError σ} {start : σ}
    (empty : items = [] → loop = .ok start) :
    (if items.length > 0 then loop else return start) = loop := by
  by_cases none : items = []
  · rw [empty none]
    exact ite_self _
  · have some : items.length > 0 := List.length_pos_of_ne_nil none
    exact if_pos some

/-- Items are added if there is a list of them. -/
theorem addItems_eq_ok {exportedIds after : ExportedIds} {topic : Topic}
    {items : Option (List String)} :
    addItems exportedIds topic items = .ok after ↔
      ∃ list, items = some list ∧ insertAll exportedIds topic list = after := by
  have loop (list : List String) :
      (if list.length > 0 then return insertAll exportedIds topic list else return exportedIds :
        Except ScriptError ExportedIds) = .ok (insertAll exportedIds topic list) := by
    apply guarded_loop
    rintro rfl
    rfl
  unfold addItems
  simp only [bind_eq_ok, listOf_eq_ok, loop, Except.ok.injEq]

/-- The lines printed after every 1000 objects, which divide by their number. -/
def printProgress (count : Nat) : Except ScriptError Unit :=
  if count % 1000 = 0 then
    if count = 0 then .error .zeroDivisionError else .ok ()
  else .ok ()

/-- They do not fail once something has been counted. -/
theorem printProgress_succ (count : Nat) : printProgress (count + 1) = .ok () := by
  unfold printProgress
  split
  · exact if_neg (Nat.succ_ne_zero count)
  · rfl

variable (database : Database) (order : SetOrder)

/-- `handleFullCollection`. -/
def handleFullCollection (exportedIds : ExportedIds) (topic : Topic) : ExportedIds :=
  insertAll exportedIds topic (database.ids topic)

/-- A row of `handleTeams`. -/
def handleTeam (exportedIds : ExportedIds) (row : Row TeamData) :
    Except ScriptError ExportedIds := do
  let exportedIds := insert exportedIds .metamorphosisTeam row.id
  let object ← attributesOf row.thrift.object
  let brands ← listOf object.brands
  if brands.length > 0 then
    brands.foldlM (fun exportedIds brand =>
      if brand.images ≠ none then addItems exportedIds .metamorphosisImage brand.images
      else return exportedIds) exportedIds
  else return exportedIds

/-- `handleTeams`. -/
def handleTeams (exportedIds : ExportedIds) : Except ScriptError ExportedIds :=
  database.teams.foldlM handleTeam exportedIds

/-- A row of `handleConferences`. -/
def handleConference (exportedIds : ExportedIds) (row : Row SchoolData) :
    Except ScriptError ExportedIds :=
  let exportedIds := insert exportedIds .metamorphosisConference row.id
  match row.thrift.object with
  | none => .ok exportedIds
  | some object =>
    if object.images ≠ none then addItems exportedIds .metamorphosisImage object.images
    else .ok exportedIds

/-- `handleConferences`. -/
def handleConferences (exportedIds : ExportedIds) : Except ScriptError ExportedIds :=
  database.conferences.foldlM handleConference exportedIds

/-- A row of `handleUniversities`, which does not look for images that are missing. -/
def handleUniversity (exportedIds : ExportedIds) (row : Row SchoolData) :
    Except ScriptError ExportedIds :=
  let exportedIds := insert exportedIds .metamorphosisUniversity row.id
  match row.thrift.object with
  | none => .ok exportedIds
  | some object => addItems exportedIds .metamorphosisImage object.images

/-- `handleUniversities`. -/
def handleUniversities (exportedIds : ExportedIds) : Except ScriptError ExportedIds :=
  database.universities.foldlM handleUniversity exportedIds

/-- A row of `handleAffiliates`. -/
def handleAffiliate (exportedIds : ExportedIds) (row : Row AffiliationData) :
    Except ScriptError ExportedIds := do
  let exportedIds := insert exportedIds .metamorphosisAffiliation row.id
  let object ← attributesOf row.thrift.object
  match object.affiliationStationId with
  | none => return exportedIds
  | some affiliationStationId =>
    return insert exportedIds .metamorphosisStation affiliationStationId

/-- `handleAffiliates`. -/
def handleAffiliates (exportedIds : ExportedIds) : Except ScriptError ExportedIds :=
  database.affiliations.foldlM handleAffiliate exportedIds

/-- A row of `handleLineups`. -/
def handleLineup (exportedIds : ExportedIds) (row : Row LineupData) :
    Except ScriptError ExportedIds := do
  let object ← attributesOf row.thrift.object
  let exportedIds := insert exportedIds .metamorphosisLinuep object.id
  let channels ← listOf object.channels
  let exportedIds :=
    insertAll exportedIds .metamorphosisStation (channels.map ChannelMap.stationId)
  return insert exportedIds .metamorphosisHeadend object.headendId

/-- `handleLineups`; without lineups its command has an empty IN list. -/
def handleLineups (exportedIds : ExportedIds) (lineupIds : List String) :
    Except ScriptError ExportedIds :=
  if lineupIds = [] then .error .programmingError
  else (database.lineups.select lineupIds).foldlM handleLineup exportedIds

/-- The record of a row of `handleSchedules`. -/
def addScheduleDay (state : ExportedIds × Option Nat) (data : ScheduleDayData) :
    Except ScriptError (ExportedIds × Option Nat) := do
  let (exportedIds, missingScheduleDay) := state
  match data.object with
  | none =>
    let missingScheduleDay ← valueOf missingScheduleDay
    return (exportedIds, some (missingScheduleDay + 1))
  | some object =>
    let exportedIds ←
      addItems exportedIds .metamorphosisProgramTmsId (object.events.map (List.map Event.remoteId))
    return (insert exportedIds .metamorphosisScheduleDay object.id, missingScheduleDay)

/-- A row of `handleSchedules`. -/
def handleScheduleDay (state : ExportedIds × Option Nat) (row : ScheduleDayRow) :
    Except ScriptError (ExportedIds × Option Nat) := do
  let (exportedIds, missingScheduleDay) ← addScheduleDay state row.thrift
  printProgress (exportedIds .metamorphosisScheduleDay).elements.length
  return (exportedIds, missingScheduleDay)

/-- `handleSchedules`, on the given day. `missingScheduleDay` is set by the loop over the chunks
and printed after it. -/
def handleSchedules (exportedIds : ExportedIds) (currentDate daysBack daysForward : Int) :
    Except ScriptError ExportedIds := do
  let requestStartDate := currentDate - daysBack
  let requestEndDate := currentDate + daysForward
  let chunkedIds := chunkedList (order.list (exportedIds .metamorphosisStation)) 1000
  let (exportedIds, missingScheduleDay) ← chunkedIds.foldlM (fun (exportedIds, _) idList =>
    (database.scheduleDays.select requestStartDate requestEndDate idList).foldlM
      handleScheduleDay (exportedIds, some 0)) (exportedIds, none)
  let _ ← valueOf missingScheduleDay
  return exportedIds

/-- A credit of a program. -/
def handleCredit (exportedIds : ExportedIds) (credit : Credit) :
    Except ScriptError ExportedIds := do
  let person ← attributesOf credit.person
  return insert exportedIds .metamorphosisPerson person.personId

/-- The credits of a program. -/
def addCredits (exportedIds : ExportedIds) (credits : Option (List Credit)) :
    Except ScriptError ExportedIds := do
  let credits ← listOf credits
  if credits.length > 0 then credits.foldlM handleCredit exportedIds else return exportedIds

/-- A row of `handlePrograms`. -/
def handleProgram (state : ExportedIds × Nat) (row : Row ProgramTMSData) :
    Except ScriptError (ExportedIds × Nat) := do
  let (exportedIds, programCount) := state
  let object ← attributesOf row.thrift.object
  let exportedIds ← addItems exportedIds .metamorphosisImage object.images
  let exportedIds ← addItems exportedIds .metamorphosisProgramTmsId
    (object.relationships.map (List.map Relationship.id))
  let exportedIds ← addCredits exportedIds object.credits
  return (exportedIds, programCount + 1)

/-- `handlePrograms`. -/
def handlePrograms (exportedIds : ExportedIds) : Except ScriptError ExportedIds := do
  let chunkedIds := chunkedList (order.list (exportedIds .metamorphosisProgramTmsId)) 1000
  let (exportedIds, _) ← chunkedIds.foldlM (fun state idList => do
    let (exportedIds, programCount) ←
      (database.programs.select idList).foldlM handleProgram state
    printProgress programCount
    pure (exportedIds, programCount)) (exportedIds, 0)
  return exportedIds

/-- The variables of the loop of `handlePerson` over the chunks. -/
structure PersonLoop where
  /-- The sets. -/
  exportedIds : ExportedIds
  /-- `person`, with the row it was read from. -/
  person : Option PersonData
  /-- Number of persons counted. -/
  personCount : Nat

/-- The awards of a person, with the lines printed after them. -/
def addAwards (exportedIds : ExportedIds) (awards : Option (List Award)) (personCount : Nat) :
    Except ScriptError ExportedIds := do
  let awards ← listOf awards
  if awards.length > 0 then
    let exportedIds :=
      insertAll exportedIds .metamorphosisProgramTmsId (awards.map Award.program)
    printProgress personCount
    return exportedIds
  else return exportedIds

/-- A chunk of `handlePerson`. The loop over the rows has only the reading of the record in its
body: what follows is indented as far as the loop is, and so comes after it. -/
def handlePersonChunk (loop : PersonLoop) (rows : List (Row PersonData)) :
    Except ScriptError PersonLoop := do
  let person := rows.foldl (fun _ row => some row.thrift) loop.person
  let personCount := loop.personCount + 1
  -- `totalByteSize+=len(row[1])`
  let last ← valueOf person
  let object ← attributesOf last.object
  let exportedIds ← addItems loop.exportedIds .metamorphosisImage object.images
  let exportedIds ← addAwards exportedIds object.awards personCount
  return { exportedIds, person, personCount }

/-- `handlePerson`. -/
def handlePerson (exportedIds : ExportedIds) : Except ScriptError ExportedIds := do
  let chunkedIds := chunkedList (order.list (exportedIds .metamorphosisPerson)) 1000
  let loop ← chunkedIds.foldlM
    (fun loop idList => handlePersonChunk loop (database.persons.select idList))
    { exportedIds, person := none, personCount := 0 }
  return loop.exportedIds

/-- A row of `handleStations`. -/
def handleStation (exportedIds : ExportedIds) (row : Row StationData) :
    Except ScriptError ExportedIds := do
  let object ← attributesOf row.thrift.object
  addItems exportedIds .metamorphosisImage object.logos

/-- `handleStations`. -/
def handleStations (exportedIds : ExportedIds) : Except ScriptError ExportedIds :=
  let chunkedIds := chunkedList (order.list (exportedIds .metamorphosisStation)) 1000
  chunkedIds.foldlM (fun exportedIds idList =>
    (database.stations.select idList).foldlM handleStation exportedIds) exportedIds

/-- The topics that are exported as a whole. -/
def fullCollections : List Topic :=
  [.metamorphosisRatingBody, .metamorphosisRatingValue, .metamorphosisAnimation,
    .metamorphosisAwardType, .metamorphosisAwardBody, .metamorphosisMarket,
    .metamorphosisProvider, .metamorphosisGenre, .metamorphosisProductionCompany,
    .metamorphosisAdvisory, .metamorphosisHoliday, .metamorphosisPlayoff, .metamorphosisVenue,
    .metamorphosisWarning]

/-- The sequence of handlers of the script: the ids it exports. -/
def exportDataSet (lineupIds : List String) (currentDate daysPast daysForward : Int) :
    Except ScriptError ExportedIds := do
  let exportedIds := fullCollections.foldl (handleFullCollection database) fun _ => .empty
  let exportedIds ← handleAffiliates database exportedIds
  let exportedIds ← handleTeams database exportedIds
  let exportedIds ← handleUniversities database exportedIds
  let exportedIds ← handleConferences database exportedIds
  let exportedIds ← handleLineups database exportedIds lineupIds
  let exportedIds ← handleSchedules database order exportedIds currentDate daysPast daysForward
  let exportedIds ← handlePrograms database order exportedIds
  let exportedIds ← handlePerson database order exportedIds
  handleStations database order exportedIds

end ApiPack2.Export
