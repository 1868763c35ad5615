import ApiPack2.Handler.LogicHandler

/-!
# The processing loop

After the drain the executor calls `handleRequestLogic` for every entry that is not paused.
The body of that function is empty, so it stands here for any function of a record: with an
effect, to see which records it is called on, and pure, to see what becomes of its work. The
loop iterates over copies of the entries, so its work does not reach the map.
-/

namespace ApiPack2.LogicHandler

variable {κ : Type}

variable [DecidableEq κ]

/-- Every entry that is not paused holds what the logic makes of it, the paused ones are as
they were, and the keys are the same. -/
structure KeepsProgress (logic : LogicHandlerRequestStage κ → LogicHandlerRequestStage κ)
    (map : RequestMap κ) : Prop where
  /-- The entries hold the work of the logic. -/
  entries : ∀ ioHandler entry, map.lookup ioHandler = some entry →
    (processRequests logic map).2.lookup ioHandler =
      some (if entry.ioCode ≠ .paused then logic entry else entry)
  /-- The keys are the same. -/
  keys : ∀ ioHandler, ioHandler ∈ (processRequests logic map).2 ↔ ioHandler ∈ map

/-- The work of the logic is kept exactly if there is none: if the logic leaves every entry
it is called on as it is. -/
theorem keeps_progress_iff (logic : LogicHandlerRequestStage κ → LogicHandlerRequestStage κ)
    (map : RequestMap κ) :
    KeepsProgress logic map ↔
      ∀ ioHandler entry, map.lookup ioHandler = some entry → entry.ioCode ≠ .paused →
        logic entry = entry := by
  have unchanged : (processRequests logic map).2 = map := rfl
  constructor
  · intro keeps ioHandler entry found running
    have held := keeps.entries ioHandler entry found
    rw [unchanged, found, if_pos running] at held
    exact (Option.some_inj.mp held).symm
  · intro idle
    refine ⟨fun ioHandler entry found => ?_, fun _ => by rw [unchanged]⟩
    rw [unchanged, found]
    split
    · rename_i running
      rw [idle ioHandler entry found running]
    · rfl

/-- Logic that produces the next batch of lines. -/
def nextBatch (request : LogicHandlerRequestStage κ) : LogicHandlerRequestStage κ :=
  { request with stage := .continue_, currLine := request.currLine + request.batch }

/-- The batch produced for the one request in the map is lost. -/
theorem batch_lost :
    ¬∀ (logic : LogicHandlerRequestStage Nat → LogicHandlerRequestStage Nat)
      (map : RequestMap Nat), KeepsProgress logic map := by
  intro claim
  have held := (claim nextBatch (AList.singleton 1 (.new ⟨1⟩ 100000 100))).entries 1
    (.new ⟨1⟩ 100000 100) (by decide)
  exact absurd held (by decide)

end ApiPack2.LogicHandler
