import ApiPack2.Export.Handlers

/-!
# What the handlers add

A record refers to other objects by their ids. Each handler adds what the rows that it goes
through refer to, and nothing else.
-/

namespace ApiPack2.Export

open Gather

/-- References to objects of a topic. -/
def references (topic : Topic) (items : Option (List String)) : List (Topic × String) :=
  (items.getD []).map fun id => (topic, id)

theorem references_within (topic : Topic) (items : Option (List String)) :
    Within [topic] (references topic items) := by
  intro item listed
  obtain ⟨id, -, rfl⟩ := List.mem_map.mp listed
  exact List.mem_singleton_self topic

/-- What a person refers to: its images and the programs of its awards. -/
def PersonData.links (data : PersonData) : List (Topic × String) :=
  data.object.elim [] fun object =>
    references .metamorphosisImage object.images ++
      references .metamorphosisProgramTmsId (object.awards.map (List.map Award.program))

theorem PersonData.links_within (data : PersonData) :
    Within [.metamorphosisImage, .metamorphosisProgramTmsId] data.links := by
  apply Within.elim
  intro object
  exact (references_within .metamorphosisImage _).append
    (references_within .metamorphosisProgramTmsId _)

/-- What a credit refers to. -/
def Credit.links (credit : Credit) : List (Topic × String) :=
  credit.person.elim [] fun person => [(.metamorphosisPerson, person.personId)]

theorem Credit.links_within (credit : Credit) : Within [.metamorphosisPerson] credit.links := by
  apply Within.elim
  intro person
  exact references_within .metamorphosisPerson (some [person.personId])

/-- What a program refers to: its images, the programs it is related to and the persons of its
credits. -/
def ProgramTMSData.links (data : ProgramTMSData) : List (Topic × String) :=
  data.object.elim [] fun object =>
    references .metamorphosisImage object.images ++
      (references .metamorphosisProgramTmsId
          (object.relationships.map (List.map Relationship.id)) ++
        (object.credits.getD []).flatMap Credit.links)

theorem ProgramTMSData.links_within (data : ProgramTMSData) :
    Within [.metamorphosisImage, .metamorphosisProgramTmsId, .metamorphosisPerson] data.links := by
  apply Within.elim
  intro object
  have credits := Within.flatMap Credit.links_within (object.credits.getD [])
  exact (references_within .metamorphosisImage _).append
    ((references_within .metamorphosisProgramTmsId _).append credits)

/-- What a station refers to: its logos. -/
def StationData.links (data : StationData) : List (Topic × String) :=
  data.object.elim [] fun object => references .metamorphosisImage object.logos

theorem StationData.links_within (data : StationData) :
    Within [.metamorphosisImage] data.links := by
  apply Within.elim
  intro object
  exact references_within .metamorphosisImage object.logos

/-- What a schedule day refers to: the programs of its events. -/
def ScheduleDayData.links (data : ScheduleDayData) : List (Topic × String) :=
  data.object.elim [] fun object =>
    references .metamorphosisProgramTmsId (object.events.map (List.map Event.remoteId))

/-- What a schedule day adds: the programs of its events and its own id. -/
def ScheduleDayData.added (data : ScheduleDayData) : List (Topic × String) :=
  data.links ++ data.object.elim [] fun object => [(.metamorphosisScheduleDay, object.id)]

theorem ScheduleDayData.added_within (data : ScheduleDayData) :
    Within [.metamorphosisProgramTmsId, .metamorphosisScheduleDay] data.added := by
  have programs : Within [.metamorphosisProgramTmsId] data.links := by
    apply Within.elim
    intro object
    exact references_within .metamorphosisProgramTmsId _
  apply programs.append
  apply Within.elim
  intro object
  exact references_within .metamorphosisScheduleDay (some [object.id])

/-- The programs that it adds are those of its events. -/
theorem ScheduleDayData.mem_added {data : ScheduleDayData} {program : String} :
    (.metamorphosisProgramTmsId, program) ∈ data.added ↔
      (.metamorphosisProgramTmsId, program) ∈ data.links := by
  obtain ⟨_ | object⟩ := data
  · rfl
  · simp [ScheduleDayData.added]

/-- What an affiliation refers to: its station. -/
def AffiliationData.links (data : AffiliationData) : List (Topic × String) :=
  data.object.elim [] fun object =>
    references .metamorphosisStation (object.affiliationStationId.map fun id => [id])

theorem AffiliationData.links_within (data : AffiliationData) :
    Within [.metamorphosisStation] data.links := by
  apply Within.elim
  intro object
  exact references_within .metamorphosisStation _

/-- What a team refers to: the images of its brands. -/
def TeamData.links (data : TeamData) : List (Topic × String) :=
  data.object.elim [] fun object =>
    (object.brands.getD []).flatMap fun brand => references .metamorphosisImage brand.images

theorem TeamData.links_within (data : TeamData) : Within [.metamorphosisImage] data.links := by
  apply Within.elim
  intro object
  exact Within.flatMap (fun (brand : Brand) => references_within .metamorphosisImage brand.images) _

/-- What a conference or a university refers to: its images. -/
def SchoolData.links (data : SchoolData) : List (Topic × String) :=
  data.object.elim [] fun object => references .metamorphosisImage object.images

theorem SchoolData.links_within (data : SchoolData) : Within [.metamorphosisImage] data.links := by
  apply Within.elim
  intro object
  exact references_within .metamorphosisImage _

/-- What a row adds that adds itself and what it refers to. -/
def Row.added {α : Type} (topic : Topic) (links : α → List (Topic × String)) (row : Row α) :
    List (Topic × String) := [(topic, row.id)] ++ links row.thrift

theorem Row.added_within {α : Type} (topic : Topic) {topics : List Topic}
    {links : α → List (Topic × String)} (within : ∀ data, Within topics (links data))
    (row : Row α) : Within ([topic] ++ topics) (row.added topic links) := by
  apply Within.append
  · exact references_within topic (some [row.id])
  · exact within row.thrift

/-- What a lineup adds: its own id, the stations of its channels and its headend. -/
def LineupData.added (data : LineupData) : List (Topic × String) :=
  data.object.elim [] fun object =>
    [(.metamorphosisLinuep, object.id)] ++
      (references .metamorphosisStation (object.channels.map (List.map ChannelMap.stationId)) ++
        [(.metamorphosisHeadend, object.headendId)])

theorem LineupData.added_within (data : LineupData) :
    Within [.metamorphosisLinuep, .metamorphosisStation, .metamorphosisHeadend] data.added := by
  apply Within.elim
  intro object
  exact (references_within .metamorphosisLinuep (some [object.id])).append
    ((references_within .metamorphosisStation _).append
      (references_within .metamorphosisHeadend (some [object.headendId])))

/-! ### Rows -/

variable {exportedIds after : ExportedIds}

/-- A list of items adds references to them. -/
theorem addItems_adds {topic : Topic} {items : Option (List String)}
    (done : addItems exportedIds topic items = .ok after) :
    Adds exportedIds after (references topic items) := by
  obtain ⟨list, rfl, rfl⟩ := addItems_eq_ok.mp done
  exact adds_insertAll exportedIds topic list

/-- A list of items that may be missing adds references to them. -/
theorem addItems_of_ne_none_adds {topic : Topic} {items : Option (List String)}
    (done : (if items ≠ none then addItems exportedIds topic items else .ok exportedIds) =
      .ok after) :
    Adds exportedIds after (references topic items) := by
  cases items with
  | none =>
    cases done
    exact Adds.refl _
  | some items => exact addItems_adds done

/-- An affiliation adds itself and its station. -/
theorem handleAffiliate_adds {row : Row AffiliationData}
    (done : handleAffiliate exportedIds row = .ok after) :
    Adds exportedIds after (row.added .metamorphosisAffiliation AffiliationData.links) := by
  have self := adds_insert exportedIds .metamorphosisAffiliation row.id
  unfold handleAffiliate at done
  simp only [bind_eq_ok, attributesOf_eq_ok] at done
  obtain ⟨⟨affiliationStationId⟩, same, done⟩ := done
  have links : Adds (insert exportedIds .metamorphosisAffiliation row.id) after
      row.thrift.links := by
    unfold AffiliationData.links
    rw [same]
    cases affiliationStationId with
    | none =>
      cases done
      exact Adds.refl _
    | some affiliationStationId =>
      cases done
      exact adds_insert _ Topic.metamorphosisStation affiliationStationId
  exact self.trans links

/-- A team adds itself and the images of its brands. -/
theorem handleTeam_adds {row : Row TeamData} (done : handleTeam exportedIds row = .ok after) :
    Adds exportedIds after (row.added .metamorphosisTeam TeamData.links) := by
  have self := adds_insert exportedIds .metamorphosisTeam row.id
  unfold handleTeam at done
  simp only [bind_eq_ok, attributesOf_eq_ok, listOf_eq_ok] at done
  obtain ⟨⟨_⟩, same, brands, rfl, done⟩ := done
  rw [guarded_loop (by rintro rfl; rfl)] at done
  have links : Adds (insert exportedIds .metamorphosisTeam row.id) after row.thrift.links := by
    unfold TeamData.links
    rw [same]
    exact adds_foldlM id (fun _ _ _ turn => addItems_of_ne_none_adds turn) done
  exact self.trans links

/-- An object that may be missing adds what it adds when it is there. -/
theorem adds_of_object {β : Type} {object : Option β} {links : β → List (Topic × String)}
    {handle : β → Except ScriptError ExportedIds}
    (adds : ∀ present, handle present = .ok after → Adds exportedIds after (links present))
    (done : object.elim (.ok exportedIds) handle = .ok after) :
    Adds exportedIds after (object.elim [] links) := by
  cases object with
  | none =>
    cases done
    exact Adds.refl _
  | some present => exact adds present done

/-- A conference adds itself and its images. -/
theorem handleConference_adds {row : Row SchoolData}
    (done : handleConference exportedIds row = .ok after) :
    Adds exportedIds after (row.added .metamorphosisConference SchoolData.links) := by
  have self := adds_insert exportedIds .metamorphosisConference row.id
  have object : row.thrift.object.elim (.ok (insert exportedIds .metamorphosisConference row.id))
      (fun object =>
        if object.images ≠ none then
          addItems (insert exportedIds .metamorphosisConference row.id) .metamorphosisImage
            object.images
        else .ok (insert exportedIds .metamorphosisConference row.id)) = .ok after := by
    rw [← done]
    unfold handleConference
    cases row.thrift.object <;> rfl
  exact self.trans (adds_of_object (fun _ images => addItems_of_ne_none_adds images) object)

/-- A conference never fails. -/
theorem handleConference_returns (exportedIds : ExportedIds) (row : Row SchoolData) :
    ∃ after, handleConference exportedIds row = .ok after := by
  unfold handleConference
  cases row.thrift.object with
  | none => exact ⟨_, rfl⟩
  | some object =>
    dsimp only
    cases object.images with
    | none => exact ⟨_, rfl⟩
    | some images => exact ⟨_, addItems_eq_ok.mpr ⟨images, rfl, rfl⟩⟩

/-- A university adds itself and its images. -/
theorem handleUniversity_adds {row : Row SchoolData}
    (done : handleUniversity exportedIds row = .ok after) :
    Adds exportedIds after (row.added .metamorphosisUniversity SchoolData.links) := by
  have self := adds_insert exportedIds .metamorphosisUniversity row.id
  have object : row.thrift.object.elim (.ok (insert exportedIds .metamorphosisUniversity row.id))
      (fun object =>
        addItems (insert exportedIds .metamorphosisUniversity row.id) .metamorphosisImage
          object.images) = .ok after := by
    rw [← done]
    unfold handleUniversity
    cases row.thrift.object <;> rfl
  exact self.trans (adds_of_object (fun _ images => addItems_adds images) object)

/-- A university fails where its images are missing, which a conference does not. -/
theorem handleUniversity_returns_iff {row : Row SchoolData} :
    (∃ after, handleUniversity exportedIds row = .ok after) ↔
      ∀ object ∈ row.thrift.object, object.images ≠ none := by
  unfold handleUniversity
  cases row.thrift.object with
  | none => simp
  | some object =>
    cases images : object.images <;> simp [addItems_eq_ok, images]

/-- A lineup adds itself, its stations and its headend. -/
theorem handleLineup_adds {row : Row LineupData}
    (done : handleLineup exportedIds row = .ok after) :
    Adds exportedIds after row.thrift.added := by
  unfold handleLineup at done
  simp only [bind_eq_ok, attributesOf_eq_ok, listOf_eq_ok] at done
  obtain ⟨⟨id, _, headendId⟩, same, channels, rfl, done⟩ := done
  cases done
  unfold LineupData.added
  rw [same]
  have self := adds_insert exportedIds .metamorphosisLinuep id
  have stations := adds_insertAll (insert exportedIds .metamorphosisLinuep id)
    .metamorphosisStation (channels.map ChannelMap.stationId)
  exact self.trans (stations.trans (adds_insert _ Topic.metamorphosisHeadend headendId))

/-- A station adds its logos. -/
theorem handleStation_adds {row : Row StationData}
    (done : handleStation exportedIds row = .ok after) :
    Adds exportedIds after row.thrift.links := by
  unfold handleStation at done
  simp only [bind_eq_ok, attributesOf_eq_ok] at done
  obtain ⟨object, same, done⟩ := done
  unfold StationData.links
  rw [same]
  exact addItems_adds done

/-- A credit adds its person. -/
theorem handleCredit_adds {credit : Credit} (done : handleCredit exportedIds credit = .ok after) :
    Adds exportedIds after credit.links := by
  unfold handleCredit at done
  simp only [bind_eq_ok, attributesOf_eq_ok] at done
  obtain ⟨person, same, done⟩ := done
  cases done
  unfold Credit.links
  rw [same]
  exact adds_insert exportedIds .metamorphosisPerson person.personId

/-- Credits add their persons. -/
theorem addCredits_adds {credits : Option (List Credit)}
    (done : addCredits exportedIds credits = .ok after) :
    Adds exportedIds after ((credits.getD []).flatMap Credit.links) := by
  unfold addCredits at done
  simp only [bind_eq_ok, listOf_eq_ok] at done
  obtain ⟨list, rfl, done⟩ := done
  rw [guarded_loop (by rintro rfl; rfl)] at done
  exact adds_foldlM id (fun _ _ _ turn => handleCredit_adds turn) done

/-- A program adds what it refers to. -/
theorem handleProgram_adds {state next : ExportedIds × Nat} {row : Row ProgramTMSData}
    (done : handleProgram state row = .ok next) : Adds state.1 next.1 row.thrift.links := by
  unfold handleProgram at done
  simp only [bind_eq_ok, attributesOf_eq_ok] at done
  obtain ⟨object, same, images, first, relationships, second, credits, third, done⟩ := done
  cases done
  unfold ProgramTMSData.links
  rw [same]
  exact (addItems_adds first).trans ((addItems_adds second).trans (addCredits_adds third))

/-- A record of a schedule day adds its programs and itself. -/
theorem addScheduleDay_adds {state next : ExportedIds × Option Nat} {data : ScheduleDayData}
    (done : addScheduleDay state data = .ok next) : Adds state.1 next.1 data.added := by
  unfold addScheduleDay at done
  unfold ScheduleDayData.added ScheduleDayData.links
  cases same : data.object with
  | none =>
    simp only [same, bind_eq_ok] at done
    obtain ⟨missingScheduleDay, -, done⟩ := done
    cases done
    exact Adds.refl _
  | some object =>
    simp only [same, bind_eq_ok] at done
    obtain ⟨programs, events, done⟩ := done
    cases done
    have self := adds_insert programs .metamorphosisScheduleDay object.id
    exact (addItems_adds events).trans self

/-- The lines printed after a schedule day add nothing. -/
theorem handleScheduleDay_adds {state next : ExportedIds × Option Nat} {row : ScheduleDayRow}
    (done : handleScheduleDay state row = .ok next) : Adds state.1 next.1 row.thrift.added := by
  unfold handleScheduleDay at done
  simp only [bind_eq_ok] at done
  obtain ⟨added, record, printed, -, done⟩ := done
  cases done
  exact addScheduleDay_adds record

/-! ### Handlers -/

variable {order : SetOrder} {set : Distinct String} {count : Int} {link : Topic × String}

/-- Chunk by chunk an element of a set is in its list. -/
theorem mem_chunkedList {id : String} :
    (∃ idList ∈ chunkedList (order.list set) count, id ∈ idList) ↔ id ∈ set := by
  rw [← List.mem_flatten, (chunkedList_chunks (order.list set) count).whole]
  exact order.mem_list set

/-- What the rows refer to that are returned for the ids of a set, in chunks. -/
def Table.links {α : Type} (table : Table α) (order : SetOrder) (set : Distinct String)
    (links : α → List (Topic × String)) : List (Topic × String) :=
  (chunkedList (order.list set) 1000).flatMap fun idList =>
    (table.select idList).flatMap fun row => links row.thrift

/-- It is what the rows with these ids refer to. -/
theorem Table.mem_links {α : Type} {table : Table α} {links : α → List (Topic × String)} :
    link ∈ table.links order set links ↔
      ∃ row ∈ table.rows, row.id ∈ set ∧ link ∈ links row.thrift := by
  simp only [Table.links, List.mem_flatMap, mem_select]
  constructor
  · rintro ⟨idList, isChunk, row, ⟨isRow, listed⟩, linked⟩
    exact ⟨row, isRow, mem_chunkedList.mp ⟨idList, isChunk, listed⟩, linked⟩
  · rintro ⟨row, isRow, member, linked⟩
    obtain ⟨idList, isChunk, listed⟩ := mem_chunkedList.mpr member
    exact ⟨idList, isChunk, row, ⟨isRow, listed⟩, linked⟩

theorem Table.links_within {α : Type} (table : Table α) (order : SetOrder)
    (set : Distinct String) {topics : List Topic} {links : α → List (Topic × String)}
    (within : ∀ data, Within topics (links data)) :
    Within topics (table.links order set links) := by
  apply Within.flatMap
  intro idList
  exact Within.flatMap (fun (row : Row α) => within row.thrift) _

/-- What the schedule days add that are returned for the stations of a set, in chunks. -/
def ScheduleDayTable.added (table : ScheduleDayTable) (order : SetOrder) (first last : Int)
    (set : Distinct String) : List (Topic × String) :=
  (chunkedList (order.list set) 1000).flatMap fun idList =>
    (table.select first last idList).flatMap fun row => row.thrift.added

/-- It is what the schedule days of these stations add, within the days. -/
theorem ScheduleDayTable.mem_added {table : ScheduleDayTable} {first last : Int} :
    link ∈ table.added order first last set ↔
      ∃ row ∈ table.rows, first ≤ row.day ∧ row.day < last ∧ row.station ∈ set ∧
        link ∈ row.thrift.added := by
  simp only [ScheduleDayTable.added, List.mem_flatMap, mem_select]
  constructor
  · rintro ⟨idList, isChunk, row, ⟨isRow, started, ended, listed⟩, linked⟩
    exact ⟨row, isRow, started, ended, mem_chunkedList.mp ⟨idList, isChunk, listed⟩, linked⟩
  · rintro ⟨row, isRow, started, ended, member, linked⟩
    obtain ⟨idList, isChunk, listed⟩ := mem_chunkedList.mpr member
    exact ⟨idList, isChunk, row, ⟨isRow, started, ended, listed⟩, linked⟩

theorem ScheduleDayTable.added_within (table : ScheduleDayTable) (order : SetOrder)
    (first last : Int) (set : Distinct String) :
    Within [.metamorphosisProgramTmsId, .metamorphosisScheduleDay]
      (table.added order first last set) := by
  apply Within.flatMap
  intro idList
  exact Within.flatMap (fun (row : ScheduleDayRow) => row.thrift.added_within) _

variable {database : Database}

/-- What the handlers before `handleSchedules` add. -/
def Database.requests (database : Database) (lineupIds : List String) : List (Topic × String) :=
  (fullCollections.flatMap fun topic => (database.ids topic).map fun id => (topic, id)) ++
    (database.affiliations.flatMap (Row.added .metamorphosisAffiliation AffiliationData.links) ++
      (database.teams.flatMap (Row.added .metamorphosisTeam TeamData.links) ++
        (database.universities.flatMap (Row.added .metamorphosisUniversity SchoolData.links) ++
          (database.conferences.flatMap (Row.added .metamorphosisConference SchoolData.links) ++
            (database.lineups.select lineupIds).flatMap fun row => row.thrift.added))))

/-- Neither programs nor persons nor schedule days are among it. -/
theorem Database.requests_within (database : Database) (lineupIds : List String) :
    Within (fullCollections ++ [.metamorphosisAffiliation, .metamorphosisStation,
      .metamorphosisTeam, .metamorphosisImage, .metamorphosisUniversity, .metamorphosisImage,
      .metamorphosisConference, .metamorphosisImage, .metamorphosisLinuep, .metamorphosisStation,
      .metamorphosisHeadend]) (database.requests lineupIds) := by
  have collections : Within fullCollections
      (fullCollections.flatMap fun topic => (database.ids topic).map fun id => (topic, id)) := by
    intro item listed
    obtain ⟨topic, isFull, isItem⟩ := List.mem_flatMap.mp listed
    obtain ⟨id, -, rfl⟩ := List.mem_map.mp isItem
    exact isFull
  have affiliations := Within.flatMap
    (Row.added_within .metamorphosisAffiliation AffiliationData.links_within) database.affiliations
  have teams := Within.flatMap
    (Row.added_within .metamorphosisTeam TeamData.links_within) database.teams
  have universities := Within.flatMap
    (Row.added_within .metamorphosisUniversity SchoolData.links_within) database.universities
  have conferences := Within.flatMap
    (Row.added_within .metamorphosisConference SchoolData.links_within) database.conferences
  have lineups := Within.flatMap (fun (row : Row LineupData) => row.thrift.added_within)
    (database.lineups.select lineupIds)
  exact collections.append (affiliations.append (teams.append (universities.append
    (conferences.append lineups))))

/-- `handleLineups` adds what its lineups add. -/
theorem handleLineups_adds {lineupIds : List String}
    (done : handleLineups database exportedIds lineupIds = .ok after) :
    Adds exportedIds after
      ((database.lineups.select lineupIds).flatMap fun row => row.thrift.added) := by
  unfold handleLineups at done
  split at done
  · cases done
  · exact adds_foldlM id (fun _ _ _ turn => handleLineup_adds turn) done

/-- `handleSchedules` adds the schedule days of the stations and the programs of their events. -/
theorem handleSchedules_adds {currentDate daysBack daysForward : Int}
    (done : handleSchedules database order exportedIds currentDate daysBack daysForward =
      .ok after) :
    Adds exportedIds after (database.scheduleDays.added order (currentDate - daysBack)
      (currentDate + daysForward) (exportedIds .metamorphosisStation)) := by
  unfold handleSchedules at done
  simp only [bind_eq_ok] at done
  obtain ⟨⟨scheduled, missing⟩, loop, printed, -, done⟩ := done
  cases done
  apply adds_foldlM Prod.fst ?_ loop
  intro state idList next chunk
  have rows := adds_foldlM Prod.fst (fun _ _ _ turn => handleScheduleDay_adds turn) chunk
  exact rows

/-- `handlePrograms` adds what the programs refer to. -/
theorem handlePrograms_adds (done : handlePrograms database order exportedIds = .ok after) :
    Adds exportedIds after (database.programs.links order
      (exportedIds .metamorphosisProgramTmsId) ProgramTMSData.links) := by
  unfold handlePrograms at done
  simp only [bind_eq_ok] at done
  obtain ⟨⟨gathered, programCount⟩, loop, done⟩ := done
  cases done
  apply adds_foldlM Prod.fst ?_ loop
  intro state idList next chunk
  simp only [bind_eq_ok] at chunk
  obtain ⟨rows, turns, printed, -, done⟩ := chunk
  cases done
  exact adds_foldlM Prod.fst (fun _ _ _ turn => handleProgram_adds turn) turns

/-- `handleStations` adds the logos of the stations. -/
theorem handleStations_adds (done : handleStations database order exportedIds = .ok after) :
    Adds exportedIds after (database.stations.links order
      (exportedIds .metamorphosisStation) StationData.links) := by
  unfold handleStations at done
  apply adds_foldlM id ?_ done
  intro state idList next chunk
  exact adds_foldlM id (fun _ _ _ turn => handleStation_adds turn) chunk

end ApiPack2.Export
