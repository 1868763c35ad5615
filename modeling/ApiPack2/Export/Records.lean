import ApiPack2.Export.RecordsToFile

/-!
# The records of the export

What the rows of the database decode to, with the attributes that the export script reads. An
attribute that Thrift has not read is `None`, and so is the object of a row without data. Ids
are the texts that `str` makes of them. For a list of ids the server returns the rows with
those ids, in an order of its own.
-/

namespace ApiPack2.Export

/-- A row, with what its bytes decode to. -/
structure Row (α : Type) where
  /-- The id. -/
  id : String
  /-- The record. -/
  thrift : α

/-- The rows of a topic. -/
structure Table (α : Type) where
  /-- The rows. -/
  rows : List (Row α)
  /-- The rows that the server returns for a list of ids, in the order of its cursor. -/
  select : List String → List (Row α)
  /-- They are the rows with these ids. -/
  selects : ∀ ids, (select ids).Perm (rows.filter (·.id ∈ ids))

namespace Table

variable {α : Type}

/-- A table whose rows are returned in their own order. -/
def inOrder (rows : List (Row α)) : Table α :=
  { rows, select := fun ids => rows.filter (·.id ∈ ids), selects := fun _ => .rfl }

theorem mem_select {table : Table α} {ids : List String} {row : Row α} :
    row ∈ table.select ids ↔ row ∈ table.rows ∧ row.id ∈ ids := by
  rw [(table.selects ids).mem_iff, List.mem_filter, decide_eq_true_eq]

end Table

/-- An award of a person. -/
structure Award where
  /-- The program. -/
  program : String

/-- The object of a `PersonData`. -/
structure PersonObject where
  /-- Ids of images. -/
  images : Option (List String)
  /-- Awards. -/
  awards : Option (List Award)

/-- `PersonData`. -/
structure PersonData where
  /-- The object. -/
  object : Option PersonObject

/-- A relationship of a program. -/
structure Relationship where
  /-- The other program. -/
  id : String

/-- The person of a credit. -/
structure CreditPerson where
  /-- The id. -/
  personId : String

/-- A credit of a program. -/
structure Credit where
  /-- The person. -/
  person : Option CreditPerson

/-- The object of a `ProgramTMSData`. -/
structure ProgramTMSObject where
  /-- Ids of images. -/
  images : Option (List String)
  /-- Relationships. -/
  relationships : Option (List Relationship)
  /-- Credits. -/
  credits : Option (List Credit)

/-- `ProgramTMSData`. -/
structure ProgramTMSData where
  /-- The object. -/
  object : Option ProgramTMSObject

/-- The object of a `StationData`. -/
structure StationObject where
  /-- Ids of images. -/
  logos : Option (List String)

/-- `StationData`. -/
structure StationData where
  /-- The object. -/
  object : Option StationObject

/-- An event of a schedule day. -/
structure Event where
  /-- The program. -/
  remoteId : String

/-- The object of a `ScheduleDayData`. -/
structure ScheduleDayObject where
  /-- The id. -/
  id : String
  /-- Events. -/
  events : Option (List Event)

/-- `ScheduleDayData`. -/
structure ScheduleDayData where
  /-- The object. -/
  object : Option ScheduleDayObject

/-- The object of an `AffiliationData`. -/
structure AffiliationObject where
  /-- The station. -/
  affiliationStationId : Option String

/-- `AffiliationData`. -/
structure AffiliationData where
  /-- The object. -/
  object : Option AffiliationObject

/-- A brand of a team. -/
structure Brand where
  /-- Ids of images. -/
  images : Option (List String)

/-- The object of a `TeamData`. -/
structure TeamObject where
  /-- Brands. -/
  brands : Option (List Brand)

/-- `TeamData`. -/
structure TeamData where
  /-- The object. -/
  object : Option TeamObject

/-- The object of a `ConferenceData` or a `UniversityData`. -/
structure SchoolObject where
  /-- Ids of images. -/
  images : Option (List String)

/-- `ConferenceData` and `UniversityData`. -/
structure SchoolData where
  /-- The object. -/
  object : Option SchoolObject

/-- A channel of a lineup. -/
structure ChannelMap where
  /-- The station. -/
  stationId : String

/-- The object of a `LineupData`. -/
structure LineupObject where
  /-- The id. -/
  id : String
  /-- Channels. -/
  channels : Option (List ChannelMap)
  /-- The headend. -/
  headendId : String

/-- `LineupData`. -/
structure LineupData where
  /-- The object. -/
  object : Option LineupObject

/-- A row of `catapult.schedule_day`, with what its bytes decode to. -/
structure ScheduleDayRow where
  /-- The station. -/
  station : String
  /-- The day, counted from some day on. -/
  day : Int
  /-- The record. -/
  thrift : ScheduleDayData

/-- `catapult.schedule_day`. -/
structure ScheduleDayTable where
  /-- The rows. -/
  rows : List ScheduleDayRow
  /-- The rows that the server returns for the days from the first to before the second and a
  list of stations, in the order of its cursor. -/
  select : Int → Int → List String → List ScheduleDayRow
  /-- They are the rows of these stations and days. -/
  selects : ∀ first last stations, (select first last stations).Perm
    (rows.filter fun row => first ≤ row.day ∧ row.day < last ∧ row.station ∈ stations)

namespace ScheduleDayTable

/-- A table whose rows are returned in their own order. -/
def inOrder (rows : List ScheduleDayRow) : ScheduleDayTable :=
  { rows
    select := fun first last stations =>
      rows.filter fun row => first ≤ row.day ∧ row.day < last ∧ row.station ∈ stations
    selects := fun _ _ _ => .rfl }

theorem mem_select {table : ScheduleDayTable} {first last : Int} {stations : List String}
    {row : ScheduleDayRow} :
    row ∈ table.select first last stations ↔
      row ∈ table.rows ∧ first ≤ row.day ∧ row.day < last ∧ row.station ∈ stations := by
  rw [(table.selects first last stations).mem_iff, List.mem_filter, decide_eq_true_eq]

end ScheduleDayTable

/-- The database. -/
structure Database where
  /-- The ids of the rows of each topic. -/
  ids : Topic → List String
  /-- Affiliations. -/
  affiliations : List (Row AffiliationData)
  /-- Teams. -/
  teams : List (Row TeamData)
  /-- Universities. -/
  universities : List (Row SchoolData)
  /-- Conferences. -/
  conferences : List (Row SchoolData)
  /-- Lineups. -/
  lineups : Table LineupData
  /-- Stations. -/
  stations : Table StationData
  /-- Persons. -/
  persons : Table PersonData
  /-- Programs. -/
  programs : Table ProgramTMSData
  /-- Schedule days. -/
  scheduleDays : ScheduleDayTable

namespace Database

/-- A database without rows. -/
def empty : Database :=
  { ids := fun _ => []
    affiliations := []
    teams := []
    universities := []
    conferences := []
    lineups := .inOrder []
    stations := .inOrder []
    persons := .inOrder []
    programs := .inOrder []
    scheduleDays := .inOrder [] }

end Database

end ApiPack2.Export
