import ApiPack2.Export.Persons

/-!
# What an export leaves out

The handlers run once, each over the ids that are exported when it starts. The programs of the
schedule days and the stations are gone through after the last of them was added, so what they
refer to is exported as well. A program that is exported because another program or an award
refers to it is not gone through.
-/

namespace ApiPack2.Export

open Gather

/-- The exported rows of a table refer to exported objects only. -/
def Table.Closed {α : Type} (table : Table α) (topic : Topic) (links : α → List (Topic × String))
    (exportedIds : ExportedIds) : Prop :=
  ∀ row ∈ table.rows, row.id ∈ exportedIds topic → Covers exportedIds (links row.thrift)

/-- No exported program, person or station refers to an object that is left out. -/
structure ClosedExport (database : Database) (exportedIds : ExportedIds) : Prop where
  /-- Programs. -/
  programs : database.programs.Closed .metamorphosisProgramTmsId ProgramTMSData.links exportedIds
  /-- Persons. -/
  persons : database.persons.Closed .metamorphosisPerson PersonData.links exportedIds
  /-- Stations. -/
  stations : database.stations.Closed .metamorphosisStation StationData.links exportedIds

/-- A program of an event of an exported station, within the days. -/
def Scheduled (database : Database) (exportedIds : ExportedIds) (first last : Int)
    (program : String) : Prop :=
  ∃ row ∈ database.scheduleDays.rows, first ≤ row.day ∧ row.day < last ∧
    row.station ∈ exportedIds .metamorphosisStation ∧
    (.metamorphosisProgramTmsId, program) ∈ row.thrift.links

/-- The programs of the events and the stations are exported with what they refer to. -/
structure ScheduleExport (database : Database) (exportedIds : ExportedIds) (first last : Int) :
    Prop where
  /-- The programs of the events are exported. -/
  scheduled : ∀ program, Scheduled database exportedIds first last program →
    program ∈ exportedIds .metamorphosisProgramTmsId
  /-- So is what they refer to. -/
  programs : ∀ row ∈ database.programs.rows, Scheduled database exportedIds first last row.id →
    Covers exportedIds row.thrift.links
  /-- So is what the exported stations refer to. -/
  stations : database.stations.Closed .metamorphosisStation StationData.links exportedIds

/-- Programs and persons are exported because of the events. -/
structure Origins (database : Database) (exportedIds : ExportedIds) (first last : Int) : Prop where
  /-- A program is one of an event, or one of these is related to it, or an exported person has an
  award for it. -/
  programs : ∀ program ∈ exportedIds .metamorphosisProgramTmsId,
    Scheduled database exportedIds first last program ∨
      (∃ row ∈ database.programs.rows, Scheduled database exportedIds first last row.id ∧
        (.metamorphosisProgramTmsId, program) ∈ row.thrift.links) ∨
      ∃ row ∈ database.persons.rows, row.id ∈ exportedIds .metamorphosisPerson ∧
        (.metamorphosisProgramTmsId, program) ∈ row.thrift.links
  /-- A person has a credit of a program of an event. -/
  persons : ∀ person ∈ exportedIds .metamorphosisPerson,
    ∃ row ∈ database.programs.rows, Scheduled database exportedIds first last row.id ∧
      (.metamorphosisPerson, person) ∈ row.thrift.links

/-! ### The run -/

/-- A run of the script, with the sets between its handlers. -/
structure ExportRun (database : Database) (order : SetOrder) (lineupIds : List String)
    (currentDate daysPast daysForward : Int) (exportedIds : ExportedIds) where
  /-- After `handleLineups`. -/
  requested : ExportedIds
  /-- After `handleSchedules`. -/
  scheduled : ExportedIds
  /-- After `handlePrograms`. -/
  programmed : ExportedIds
  /-- After `handlePerson`. -/
  visited : ExportedIds
  /-- The handlers up to `handleLineups`. -/
  requests : Adds (fun _ => .empty) requested (database.requests lineupIds)
  /-- `handleSchedules`. -/
  schedules : Adds requested scheduled (database.scheduleDays.added order (currentDate - daysPast)
    (currentDate + daysForward) (requested .metamorphosisStation))
  /-- `handlePrograms`. -/
  programs : Adds scheduled programmed (database.programs.links order
    (scheduled .metamorphosisProgramTmsId) ProgramTMSData.links)
  /-- `handlePerson`. -/
  persons : Adds programmed visited
    (visitedLinks none (returnedPersons database order programmed))
  /-- `handleStations`. -/
  stations : Adds visited exportedIds (database.stations.links order
    (visited .metamorphosisStation) StationData.links)

/-- The handlers add what their rows refer to, one handler after the other. -/
theorem exportDataSet_run {database : Database} {order : SetOrder} {lineupIds : List String}
    {currentDate daysPast daysForward : Int} {exportedIds : ExportedIds}
    (done : exportDataSet database order lineupIds currentDate daysPast daysForward =
      .ok exportedIds) :
    Nonempty (ExportRun database order lineupIds currentDate daysPast daysForward exportedIds) := by
  unfold exportDataSet at done
  simp only [bind_eq_ok] at done
  obtain ⟨affiliated, affiliates, teamed, teams, universitied, universities, conferenced,
    conferences, requested, lineups, scheduled, schedules, programmed, programs, visited, persons,
    stations⟩ := done
  have collections := adds_foldl (fun family topic =>
    adds_insertAll family topic (database.ids topic)) fullCollections fun _ => .empty
  have addsAffiliates := adds_foldlM id (fun _ _ _ turn => handleAffiliate_adds turn) affiliates
  have addsTeams := adds_foldlM id (fun _ _ _ turn => handleTeam_adds turn) teams
  have addsUniversities :=
    adds_foldlM id (fun _ _ _ turn => handleUniversity_adds turn) universities
  have addsConferences := adds_foldlM id (fun _ _ _ turn => handleConference_adds turn) conferences
  have requests : Adds (fun _ => .empty) requested (database.requests lineupIds) :=
    collections.trans (addsAffiliates.trans (addsTeams.trans (addsUniversities.trans
      (addsConferences.trans (handleLineups_adds lineups)))))
  exact ⟨{
    requested, scheduled, programmed, visited, requests
    schedules := handleSchedules_adds schedules
    programs := handlePrograms_adds programs
    persons := handlePerson_adds persons
    stations := handleStations_adds stations }⟩

namespace ExportRun

variable {database : Database} {order : SetOrder} {lineupIds : List String}
  {currentDate daysPast daysForward : Int} {exportedIds : ExportedIds}
  (run : ExportRun database order lineupIds currentDate daysPast daysForward exportedIds)

include run

/-- No station is exported after `handleLineups`. -/
theorem mem_stations {station : String} :
    station ∈ exportedIds .metamorphosisStation ↔
      station ∈ run.requested .metamorphosisStation := by
  rw [run.stations.unchanged (Table.links_within _ _ _ StationData.links_within) (by decide),
    run.persons.unchanged (visitedLinks_within _ _) (by decide),
    run.programs.unchanged (Table.links_within _ _ _ ProgramTMSData.links_within) (by decide),
    run.schedules.unchanged (ScheduleDayTable.added_within _ _ _ _ _) (by decide)]

/-- The programs that `handlePrograms` goes through are those of the events. -/
theorem mem_scheduled {program : String} :
    program ∈ run.scheduled .metamorphosisProgramTmsId ↔
      Scheduled database exportedIds (currentDate - daysPast) (currentDate + daysForward)
        program := by
  have none : program ∉ run.requested .metamorphosisProgramTmsId := by
    rw [run.requests.unchanged (database.requests_within lineupIds) (by decide)]
    exact Distinct.not_mem_empty program
  rw [run.schedules, or_iff_right none, ScheduleDayTable.mem_added]
  unfold Scheduled
  simp only [run.mem_stations, ScheduleDayData.mem_added]

/-- What `handlePrograms` adds is what a program of an event refers to. -/
theorem mem_programLinks {link : Topic × String} :
    link ∈ database.programs.links order (run.scheduled .metamorphosisProgramTmsId)
        ProgramTMSData.links ↔
      ∃ row ∈ database.programs.rows,
        Scheduled database exportedIds (currentDate - daysPast) (currentDate + daysForward) row.id ∧
          link ∈ row.thrift.links := by
  simp only [Table.mem_links, run.mem_scheduled]

/-- The programs of the events and the stations are exported with what they refer to. -/
theorem scheduleExport :
    ScheduleExport database exportedIds (currentDate - daysPast) (currentDate + daysForward) := by
  constructor
  · intro program isScheduled
    have beforePrograms := run.programs.kept (run.mem_scheduled.mpr isScheduled)
    exact run.stations.kept (run.persons.kept beforePrograms)
  · intro row isRow isScheduled
    have covers : Covers run.programmed row.thrift.links := by
      intro link linked
      exact run.programs.added (run.mem_programLinks.mpr ⟨row, isRow, isScheduled, linked⟩)
    exact (covers.kept run.persons).kept run.stations
  · intro row isRow exported link linked
    have before : row.id ∈ run.visited .metamorphosisStation := by
      rw [← run.stations.unchanged (Table.links_within _ _ _ StationData.links_within) (by decide)]
      exact exported
    exact run.stations.added (Table.mem_links.mpr ⟨row, isRow, before, linked⟩)

/-- No person is exported after `handlePrograms`. -/
theorem mem_persons {person : String} :
    person ∈ exportedIds .metamorphosisPerson ↔
      person ∈ run.programmed .metamorphosisPerson := by
  rw [run.stations.unchanged (Table.links_within _ _ _ StationData.links_within) (by decide),
    run.persons.unchanged (visitedLinks_within _ _) (by decide)]

/-- Programs and persons are exported because of the events. -/
theorem origins :
    Origins database exportedIds (currentDate - daysPast) (currentDate + daysForward) := by
  constructor
  · intro program exported
    rw [run.stations.unchanged (Table.links_within _ _ _ StationData.links_within) (by decide),
      run.persons, run.programs, run.mem_scheduled, run.mem_programLinks, or_assoc] at exported
    rcases exported with scheduled | related | awarded
    · exact .inl scheduled
    · exact .inr (.inl related)
    · obtain ⟨rows, isChunk, last, isLast, linked⟩ := mem_visitedLinks.mp awarded
      obtain ⟨isRow, member⟩ := mem_returnedPersons isChunk (List.mem_of_getLast? isLast)
      exact .inr (.inr ⟨last, isRow, run.mem_persons.mpr member, linked⟩)
  · intro person exported
    have requested : person ∉ run.requested .metamorphosisPerson := by
      rw [run.requests.unchanged (database.requests_within lineupIds) (by decide)]
      exact Distinct.not_mem_empty person
    rw [run.mem_persons, run.programs,
      run.schedules.unchanged (ScheduleDayTable.added_within _ _ _ _ _) (by decide),
      or_iff_right requested, run.mem_programLinks] at exported
    exact exported

end ExportRun

/-- What the script exports has the programs of the events and the stations with everything that
they refer to. -/
theorem exportDataSet_scheduleExport (database : Database) (order : SetOrder)
    (lineupIds : List String) (currentDate daysPast daysForward : Int) (exportedIds : ExportedIds)
    (done : exportDataSet database order lineupIds currentDate daysPast daysForward =
      .ok exportedIds) :
    ScheduleExport database exportedIds (currentDate - daysPast)
      (currentDate + daysForward) := by
  obtain ⟨run⟩ := exportDataSet_run done
  exact run.scheduleExport

/-- What the script exports it exports because of the events. -/
theorem exportDataSet_origins (database : Database) (order : SetOrder)
    (lineupIds : List String) (currentDate daysPast daysForward : Int) (exportedIds : ExportedIds)
    (done : exportDataSet database order lineupIds currentDate daysPast daysForward =
      .ok exportedIds) :
    Origins database exportedIds (currentDate - daysPast) (currentDate + daysForward) := by
  obtain ⟨run⟩ := exportDataSet_run done
  exact run.origins

/-- A lineup with a station, an event of it with a program, and a program that this one is related
to, which has an image. -/
def relatedPrograms : Database :=
  { Database.empty with
    lineups := .inOrder
      [⟨"L", ⟨some { id := "L", channels := some [⟨"S"⟩], headendId := "H" }⟩⟩]
    stations := .inOrder [⟨"S", ⟨some { logos := some ["logo"] }⟩⟩]
    scheduleDays := .inOrder [⟨"S", 0, ⟨some { id := "D", events := some [⟨"first"⟩] }⟩⟩]
    programs := .inOrder
      [⟨"first", ⟨some
          { images := some [], relationships := some [⟨"second"⟩], credits := some [] }⟩⟩,
        ⟨"second", ⟨some
          { images := some ["image"], relationships := some [], credits := some [] }⟩⟩] }

/-- Its second program is exported, but not the image. -/
theorem relatedPrograms_exported :
    ∃ exportedIds, exportDataSet relatedPrograms .added ["L"] 0 7 30 = .ok exportedIds ∧
      "second" ∈ exportedIds .metamorphosisProgramTmsId ∧
      "image" ∉ exportedIds .metamorphosisImage := by
  have ran : (exportDataSet relatedPrograms .added ["L"] 0 7 30).map (fun exportedIds =>
      decide ("second" ∈ exportedIds .metamorphosisProgramTmsId ∧
        "image" ∉ exportedIds .metamorphosisImage)) = .ok true := by decide +kernel
  cases result : exportDataSet relatedPrograms .added ["L"] 0 7 30 with
  | error threw =>
    rw [result] at ran
    cases ran
  | ok exportedIds =>
    rw [result] at ran
    exact ⟨exportedIds, rfl, of_decide_eq_true (Except.ok.inj ran)⟩

/-- The two programs of this export are not closed under references. -/
theorem relatedPrograms_not_closed :
    ∃ exportedIds, exportDataSet relatedPrograms .added ["L"] 0 7 30 = .ok exportedIds ∧
      ¬ ClosedExport relatedPrograms exportedIds := by
  obtain ⟨exportedIds, done, exported, missing⟩ := relatedPrograms_exported
  refine ⟨exportedIds, done, ?_⟩
  intro closed
  have isRow : relatedPrograms.programs.rows[1] ∈ relatedPrograms.programs.rows :=
    List.getElem_mem _
  have covered := closed.programs _ isRow exported (.metamorphosisImage, "image")
    List.mem_cons_self
  exact missing covered

/-- Its first program and its station are exported with what they refer to. -/
theorem relatedPrograms_scheduleExport :
    ∃ exportedIds, exportDataSet relatedPrograms .added ["L"] 0 7 30 = .ok exportedIds ∧
      ScheduleExport relatedPrograms exportedIds (0 - 7) (0 + 30) := by
  obtain ⟨exportedIds, done, -, -⟩ := relatedPrograms_exported
  exact ⟨exportedIds, done,
    exportDataSet_scheduleExport relatedPrograms .added ["L"] 0 7 30 exportedIds done⟩

/-- They are exported because of the event, the second by way of the first. -/
theorem relatedPrograms_origins :
    ∃ exportedIds, exportDataSet relatedPrograms .added ["L"] 0 7 30 = .ok exportedIds ∧
      Origins relatedPrograms exportedIds (0 - 7) (0 + 30) := by
  obtain ⟨exportedIds, done, -, -⟩ := relatedPrograms_exported
  exact ⟨exportedIds, done,
    exportDataSet_origins relatedPrograms .added ["L"] 0 7 30 exportedIds done⟩

end ApiPack2.Export
