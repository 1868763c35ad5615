import ApiPack2.Export.References

/-!
# The persons that are visited

`handlePerson` visits the last row of each chunk of ids, and the last row before once more for
a chunk without rows. What the other rows refer to is added only if the rows visited refer to
it as well or it was there before.
-/

namespace ApiPack2.Export

open Gather

/-- The person has an object with lists of images and awards. -/
def PersonData.Complete (data : PersonData) : Prop :=
  ∃ images awards, data.object = some { images := some images, awards := some awards }

/-! ### A chunk -/

/-- The variable `person` after a loop over rows has the record of the last one. -/
theorem foldl_person (rows : List (Row PersonData)) (person : Option PersonData) :
    rows.foldl (fun _ row => some row.thrift) person =
      (rows.getLast?.map Row.thrift).or person := by
  induction rows generalizing person with
  | nil => rfl
  | cons row rows ih =>
    rw [List.foldl_cons, ih, List.getLast?_cons]
    cases rows.getLast? <;> rfl

/-- The variables after a chunk that visits a complete person. -/
def visit (loop : PersonLoop) (images : List String) (awards : List Award) : PersonLoop :=
  { exportedIds := insertAll (insertAll loop.exportedIds .metamorphosisImage images)
      .metamorphosisProgramTmsId (awards.map Award.program)
    person := some ⟨some ⟨some images, some awards⟩⟩
    personCount := loop.personCount + 1 }

/-- The programs of the awards are added, also when there are none. -/
theorem addAwards_eq_ok {exportedIds after : ExportedIds} {awards : Option (List Award)}
    {count : Nat} :
    addAwards exportedIds awards (count + 1) = .ok after ↔
      ∃ list, awards = some list ∧
        insertAll exportedIds .metamorphosisProgramTmsId (list.map Award.program) = after := by
  have loop (list : List Award) :
      (if list.length > 0 then do
        printProgress (count + 1)
        return insertAll exportedIds .metamorphosisProgramTmsId (list.map Award.program)
      else return exportedIds) =
        .ok (insertAll exportedIds .metamorphosisProgramTmsId (list.map Award.program)) := by
    rw [printProgress_succ]
    apply guarded_loop
    rintro rfl
    rfl
  unfold addAwards
  simp only [bind_eq_ok, listOf_eq_ok, loop, Except.ok.injEq]

/-- A chunk visits one person, which has to be complete. -/
theorem handlePersonChunk_eq_ok {loop next : PersonLoop} {rows : List (Row PersonData)} :
    handlePersonChunk loop rows = .ok next ↔
      ∃ images awards,
        (rows.getLast?.map Row.thrift).or loop.person = some ⟨some ⟨some images, some awards⟩⟩ ∧
        visit loop images awards = next := by
  unfold handlePersonChunk
  simp only [foldl_person, bind_eq_ok, valueOf_eq_ok, attributesOf_eq_ok, addItems_eq_ok,
    addAwards_eq_ok]
  constructor
  · rintro ⟨⟨_⟩, person, ⟨_, _⟩, rfl, _, ⟨images, rfl, rfl⟩, _, ⟨awards, rfl, rfl⟩, done⟩
    refine ⟨images, awards, person, ?_⟩
    rw [person] at done
    exact Except.ok.inj done
  · rintro ⟨images, awards, person, rfl⟩
    refine ⟨_, person, _, rfl, _, ⟨images, rfl, rfl⟩, _, ⟨awards, rfl, rfl⟩, ?_⟩
    rw [person]
    rfl

/-! ### The chunks -/

/-- The persons that the chunks visit: what the variable `person` holds in each of them. -/
def visited (person : Option PersonData) :
    List (List (Row PersonData)) → List (Option PersonData)
  | [] => []
  | rows :: chunks =>
    let person := (rows.getLast?.map Row.thrift).or person
    person :: visited person chunks

/-- What the persons visited refer to. -/
def visitedLinks (person : Option PersonData) (chunks : List (List (Row PersonData))) :
    List (Topic × String) :=
  (visited person chunks).flatMap fun person => person.elim [] PersonData.links

theorem visitedLinks_within (person : Option PersonData)
    (chunks : List (List (Row PersonData))) :
    Within [.metamorphosisImage, .metamorphosisProgramTmsId] (visitedLinks person chunks) :=
  Within.flatMap (Within.elim PersonData.links_within) _

/-- A chunk adds what the person it visits refers to. -/
theorem adds_visit (loop : PersonLoop) (images : List String) (awards : List Award) :
    Adds loop.exportedIds (visit loop images awards).exportedIds
      (PersonData.links ⟨some ⟨some images, some awards⟩⟩) := by
  have first := adds_insertAll loop.exportedIds .metamorphosisImage images
  have second := adds_insertAll (insertAll loop.exportedIds .metamorphosisImage images)
    .metamorphosisProgramTmsId (awards.map Award.program)
  exact first.trans second

/-- The loop over the chunks visits complete persons only, and adds what they refer to. -/
theorem foldlM_visits {chunks : List (List (Row PersonData))} {loop result : PersonLoop}
    (done : chunks.foldlM handlePersonChunk loop = .ok result) :
    (∀ person ∈ visited loop.person chunks, ∃ data, person = some data ∧ data.Complete) ∧
      Adds loop.exportedIds result.exportedIds (visitedLinks loop.person chunks) := by
  induction chunks generalizing loop with
  | nil =>
    cases done
    constructor
    · intro person isVisited
      cases isVisited
    · exact Adds.refl _
  | cons rows chunks ih =>
    rw [List.foldlM_cons] at done
    obtain ⟨next, chunk, rest⟩ := bind_eq_ok.mp done
    obtain ⟨images, awards, person, rfl⟩ := handlePersonChunk_eq_ok.mp chunk
    obtain ⟨complete, adds⟩ := ih rest
    rw [visitedLinks, visited, person, List.flatMap_cons]
    constructor
    · intro other isVisited
      rcases List.mem_cons.mp isVisited with rfl | later
      · exact ⟨_, rfl, images, awards, rfl⟩
      · exact complete other later
    · exact (adds_visit loop images awards).trans adds

/-- The loop over the chunks does not fail where the persons visited are complete. -/
theorem foldlM_returns {chunks : List (List (Row PersonData))} {loop : PersonLoop}
    (complete : ∀ person ∈ visited loop.person chunks,
      ∃ data, person = some data ∧ data.Complete) :
    ∃ result, chunks.foldlM handlePersonChunk loop = .ok result := by
  induction chunks generalizing loop with
  | nil => exact ⟨loop, rfl⟩
  | cons rows chunks ih =>
    obtain ⟨first, later⟩ := List.forall_mem_cons.mp complete
    obtain ⟨⟨object⟩, person, images, awards, same⟩ := first
    subst same
    have chunk := handlePersonChunk_eq_ok.mpr ⟨images, awards, person, rfl⟩
    rw [person] at later
    obtain ⟨result, rest⟩ := @ih (visit loop images awards) later
    refine ⟨result, ?_⟩
    rw [List.foldlM_cons, chunk]
    exact rest

/-- No person is visited only by a first chunk without rows. -/
theorem none_mem_visited {person : Option PersonData} {chunks : List (List (Row PersonData))} :
    none ∈ visited person chunks ↔ person = none ∧ chunks.head? = some [] := by
  induction chunks generalizing person with
  | nil => simp [visited]
  | cons rows chunks ih =>
    rw [visited, List.mem_cons, ih, List.head?_cons]
    rcases List.eq_nil_or_concat rows with rfl | ⟨before, last, rfl⟩
    · cases person <;> simp
    · simp

/-- A person visited was there before or is that of the last row of a chunk. -/
theorem some_mem_visited {person : Option PersonData} {chunks : List (List (Row PersonData))}
    {data : PersonData} (isVisited : some data ∈ visited person chunks) :
    person = some data ∨ ∃ rows ∈ chunks, ∃ last ∈ rows.getLast?, last.thrift = data := by
  induction chunks generalizing person with
  | nil => cases isVisited
  | cons rows chunks ih =>
    rw [visited] at isVisited
    have here (now : (rows.getLast?.map Row.thrift).or person = some data) :
        person = some data ∨ ∃ other ∈ rows :: chunks, ∃ last ∈ other.getLast?,
          last.thrift = data := by
      cases isLast : rows.getLast? with
      | none =>
        rw [isLast] at now
        exact .inl now
      | some last =>
        rw [isLast] at now
        exact .inr ⟨rows, List.mem_cons_self, last, isLast, Option.some.inj now⟩
    rcases List.mem_cons.mp isVisited with same | later
    · exact here same.symm
    · rcases ih later with same | ⟨other, isChunk, last⟩
      · exact here same
      · exact .inr ⟨other, List.mem_cons_of_mem _ isChunk, last⟩

/-- The person of the last row of a chunk is visited. -/
theorem getLast?_mem_visited {person : Option PersonData} {chunks : List (List (Row PersonData))}
    {rows : List (Row PersonData)} (isChunk : rows ∈ chunks) {last : Row PersonData}
    (isLast : last ∈ rows.getLast?) : some last.thrift ∈ visited person chunks := by
  induction chunks generalizing person with
  | nil => cases isChunk
  | cons first chunks ih =>
    rw [visited]
    rcases List.mem_cons.mp isChunk with rfl | later
    · rw [Option.mem_def.mp isLast]
      exact List.mem_cons_self
    · exact List.mem_cons_of_mem _ (ih later)

/-! ### All persons -/

section

variable (database : Database) (order : SetOrder) (exportedIds : ExportedIds)

/-- The rows that the server returns to `handlePerson`, chunk by chunk. -/
def returnedPersons : List (List (Row PersonData)) :=
  (chunkedList (order.list (exportedIds .metamorphosisPerson)) 1000).map database.persons.select

/-- `handlePerson` visits every person: it does not fail, and it adds what the rows returned refer
to and nothing else. -/
def VisitsPersons : Prop :=
  ∃ after, handlePerson database order exportedIds = .ok after ∧
    Adds exportedIds after
      ((returnedPersons database order exportedIds).flatten.flatMap fun row => row.thrift.links)

/-- It is enough to visit the last row of each chunk. -/
structure LastRowsSuffice (chunks : List (List (Row PersonData))) : Prop where
  /-- The first chunk has rows. -/
  started : chunks.head? ≠ some []
  /-- The last row of each chunk is complete. -/
  complete : ∀ rows ∈ chunks, ∀ last ∈ rows.getLast?, last.thrift.Complete
  /-- What another row refers to is there already, or the last row of a chunk refers to it. -/
  covered : ∀ rows ∈ chunks, ∀ row ∈ rows, ∀ link ∈ row.thrift.links,
    link.2 ∈ exportedIds link.1 ∨
      ∃ others ∈ chunks, ∃ last ∈ others.getLast?, link ∈ last.thrift.links

variable {database order exportedIds}

/-- The rows returned are those of the exported persons. -/
theorem mem_returnedPersons {rows : List (Row PersonData)} {row : Row PersonData}
    (isChunk : rows ∈ returnedPersons database order exportedIds) (isRow : row ∈ rows) :
    row ∈ database.persons.rows ∧ row.id ∈ exportedIds .metamorphosisPerson := by
  obtain ⟨idList, isIdList, rfl⟩ := List.mem_map.mp isChunk
  obtain ⟨isPerson, listed⟩ := Table.mem_select.mp isRow
  exact ⟨isPerson, mem_chunkedList.mp ⟨idList, isIdList, listed⟩⟩

/-- `handlePerson` is its loop over the chunks. -/
theorem handlePerson_eq_ok {after : ExportedIds} :
    handlePerson database order exportedIds = .ok after ↔
      ∃ result, (returnedPersons database order exportedIds).foldlM handlePersonChunk
        ⟨exportedIds, none, 0⟩ = .ok result ∧ result.exportedIds = after := by
  unfold handlePerson returnedPersons
  rw [List.foldlM_map]
  simp only [bind_eq_ok]
  constructor
  · rintro ⟨result, loop, done⟩
    exact ⟨result, loop, Except.ok.inj done⟩
  · rintro ⟨result, loop, rfl⟩
    exact ⟨result, loop, rfl⟩

/-- `handlePerson` adds what the persons visited refer to. -/
theorem handlePerson_adds {after : ExportedIds}
    (done : handlePerson database order exportedIds = .ok after) :
    Adds exportedIds after (visitedLinks none (returnedPersons database order exportedIds)) := by
  obtain ⟨result, loop, rfl⟩ := handlePerson_eq_ok.mp done
  exact (foldlM_visits loop).2

/-- The persons visited are complete if the first chunk has rows and the last rows are complete. -/
theorem visited_complete_iff {chunks : List (List (Row PersonData))} :
    (∀ person ∈ visited none chunks, ∃ data, person = some data ∧ data.Complete) ↔
      chunks.head? ≠ some [] ∧ ∀ rows ∈ chunks, ∀ last ∈ rows.getLast?, last.thrift.Complete := by
  constructor
  · intro complete
    constructor
    · intro empty
      obtain ⟨data, same, -⟩ := complete none (none_mem_visited.mpr ⟨rfl, empty⟩)
      cases same
    · intro rows isChunk last isLast
      obtain ⟨data, same, full⟩ := complete _ (getLast?_mem_visited isChunk isLast)
      cases same
      exact full
  · rintro ⟨started, complete⟩ person isVisited
    cases person with
    | none => exact absurd (none_mem_visited.mp isVisited).2 started
    | some data =>
      rcases some_mem_visited isVisited with before | ⟨rows, isChunk, last, isLast, rfl⟩
      · cases before
      · exact ⟨_, rfl, complete rows isChunk last isLast⟩

/-- What the persons visited refer to is what the last rows of the chunks refer to. -/
theorem mem_visitedLinks {chunks : List (List (Row PersonData))} {link : Topic × String} :
    link ∈ visitedLinks none chunks ↔
      ∃ rows ∈ chunks, ∃ last ∈ rows.getLast?, link ∈ last.thrift.links := by
  rw [visitedLinks, List.mem_flatMap]
  constructor
  · rintro ⟨person, isVisited, linked⟩
    cases person with
    | none => cases linked
    | some data =>
      rcases some_mem_visited isVisited with before | ⟨rows, isChunk, last, isLast, rfl⟩
      · cases before
      · exact ⟨rows, isChunk, last, isLast, linked⟩
  · rintro ⟨rows, isChunk, last, isLast, linked⟩
    exact ⟨_, getLast?_mem_visited isChunk isLast, linked⟩

/-- A last row is a row. -/
theorem visitedLinks_subset {chunks : List (List (Row PersonData))} {link : Topic × String}
    (linked : link ∈ visitedLinks none chunks) :
    link ∈ chunks.flatten.flatMap fun row => row.thrift.links := by
  obtain ⟨rows, isChunk, last, isLast, linked⟩ := mem_visitedLinks.mp linked
  have isRow : last ∈ chunks.flatten :=
    List.mem_flatten_of_mem isChunk (List.mem_of_getLast? isLast)
  exact List.mem_flatMap_of_mem isRow linked

/-- Where every person is visited, it is enough to visit the last rows. -/
theorem VisitsPersons.lastRowsSuffice (visits : VisitsPersons database order exportedIds) :
    LastRowsSuffice exportedIds (returnedPersons database order exportedIds) := by
  obtain ⟨after, done, adds⟩ := visits
  obtain ⟨result, loop, rfl⟩ := handlePerson_eq_ok.mp done
  obtain ⟨complete, addsVisited⟩ := foldlM_visits loop
  obtain ⟨started, lasts⟩ := visited_complete_iff.mp complete
  constructor
  · exact started
  · exact lasts
  · intro rows isChunk row isRow link linked
    have isReturned := List.mem_flatten_of_mem isChunk isRow
    have there := adds.added (List.mem_flatMap.mpr ⟨row, isReturned, linked⟩)
    rcases (addsVisited link.1 link.2).mp there with before | visit
    · exact .inl before
    · exact .inr (mem_visitedLinks.mp visit)

/-- Where it is enough to visit the last rows, every person is visited. -/
theorem LastRowsSuffice.visitsPersons
    (lasts : LastRowsSuffice exportedIds (returnedPersons database order exportedIds)) :
    VisitsPersons database order exportedIds := by
  have complete := visited_complete_iff.mpr ⟨lasts.started, lasts.complete⟩
  obtain ⟨result, loop⟩ := @foldlM_returns _ ⟨exportedIds, none, 0⟩ complete
  have done := handlePerson_eq_ok.mpr ⟨result, loop, rfl⟩
  refine ⟨result.exportedIds, done, ?_⟩
  intro topic id
  rw [handlePerson_adds done topic id]
  constructor
  · rintro (before | visit)
    · exact .inl before
    · exact .inr (visitedLinks_subset visit)
  · rintro (before | listed)
    · exact .inl before
    · obtain ⟨row, isRow, linked⟩ := List.mem_flatMap.mp listed
      obtain ⟨rows, isChunk, inside⟩ := List.mem_flatten.mp isRow
      rcases lasts.covered rows isChunk row inside _ linked with before | last
      · exact .inl before
      · exact .inr (mem_visitedLinks.mpr last)

end

/-- `handlePerson` visits every person exactly where it is enough to visit the last row of each
chunk: the statements after the reading of a record stand outside the loop over the rows. -/
theorem visitsPersons_iff (database : Database) (order : SetOrder) (exportedIds : ExportedIds) :
    VisitsPersons database order exportedIds ↔
      LastRowsSuffice exportedIds (returnedPersons database order exportedIds) := by
  constructor
  · intro visits
    exact visits.lastRowsSuffice
  · intro lasts
    exact lasts.visitsPersons

/-- Two persons, of whom the first has an image. -/
def twoPersons : Database :=
  { Database.empty with
    persons := .inOrder
      [⟨"1", ⟨some { images := some ["7"], awards := some [] }⟩⟩,
        ⟨"2", ⟨some { images := some [], awards := some [] }⟩⟩] }

/-- Their ids. -/
def twoPersonIds : ExportedIds := insertAll (fun _ => .empty) .metamorphosisPerson ["1", "2"]

/-- Of two persons in a chunk the first is not visited, and a chunk without rows fails. -/
theorem first_person_not_visited :
    ¬ VisitsPersons twoPersons .added twoPersonIds ∧
      ¬ VisitsPersons .empty .added twoPersonIds := by
  constructor
  · rintro ⟨after, done, adds⟩
    have listed : (Topic.metamorphosisImage, "7") ∈
        (returnedPersons twoPersons .added twoPersonIds).flatten.flatMap
          fun row => row.thrift.links := by decide +kernel
    have missing : (handlePerson twoPersons .added twoPersonIds).map
        (fun after => decide ("7" ∈ after .metamorphosisImage)) = .ok false := by decide +kernel
    rw [done] at missing
    have absent := of_decide_eq_false (Except.ok.inj missing)
    exact absent (adds.added listed)
  · rintro ⟨after, done, -⟩
    have failed : (handlePerson .empty .added twoPersonIds).map (fun _ => ()) =
        .error .unboundLocalError := by decide +kernel
    rw [done] at failed
    cases failed

end ApiPack2.Export
