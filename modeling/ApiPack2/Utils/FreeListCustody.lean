import ApiPack2.Lib.Linked
import ApiPack2.Utils.FreeList

/-!
# Where the nodes of the free list are

Every node is in one place: with a client, on the list, in the hand of one thread, or marked to
be added. Its references are those of the threads that have counted themselves among them, and
one for the list. A marked node without references is about to be added by one thread; as long
as there are references nobody stores its successor. So the successor that a thread has read
under a reference is still that of the head when the exchange succeeds.
-/

namespace ApiPack2

namespace FreeList

open Linked (Chain)
open Threads (total)

variable {ι ν : Type*} [DecidableEq ν]

/-- One if the proposition holds. -/
def count (holds : Prop) [Decidable holds] : Nat := if holds then 1 else 0

/-- The references of a node that a thread accounts for. -/
def Thread.refs (node : ν) : Thread ν → Nat
  | .loadingNext held | .taking held _ | .decrementing held _ | .pushing held _ _
  | .marking held _ _ => count (held = node)
  | .took held | .releasing held => 2 * count (held = node)
  | _ => 0

/-- Whether a thread has a node in its hand. -/
def Thread.keeps (node : ν) : Thread ν → Nat
  | .adding held | .pushing held _ _ | .marking held _ _ | .took held | .releasing held =>
    count (held = node)
  | _ => 0

/-- Whether a thread is about to add a marked node. -/
def Thread.adds (node : ν) : Thread ν → Nat
  | .loadingHead held _ | .storingNext held _ _ | .storingRefs held _ _ => count (held = node)
  | _ => 0

/-- What a thread knows of the nodes. -/
def Thread.Knows (nodes : ν → Node ν) : Thread ν → Prop
  | .storingRefs node head _ | .pushing node head _ => (nodes node).freeListNext = head
  | .taking head next => (nodes head).freeListNext = next
  | .broken => False
  | _ => True

/-- The accounts of one node: whether it is lent and listed, its references, the threads that have
it in their hands, the references that threads account for, and the threads about to add it. -/
structure Accounts (lent listed : Nat) (freeListRefs : UInt32) (keeps refs adds : Nat) : Prop where
  /-- It is in one place. -/
  place : lent + listed + keeps + freeListRefs.toNat / 2 ^ 31 = 1
  /-- The references are accounted for. -/
  refs : freeListRefs.toNat % 2 ^ 31 = listed + refs
  /-- A marked node without references is about to be added by one thread. -/
  adds : adds = if freeListRefs.toNat = 2 ^ 31 then 1 else 0

/-- The accounts of a node in a state. -/
def Balanced [Fintype ι] (list : List ν) (state : State ι ν) (node : ν) : Prop :=
  Accounts (count (state.shared.lent node = true)) (count (node ∈ list))
    (state.shared.nodes node).freeListRefs (total (Thread.keeps node) state.threads)
    (total (Thread.refs node) state.threads) (total (Thread.adds node) state.threads)

/-- What holds of a free list in use, with the nodes on it. -/
structure Sound [Fintype ι] (list : List ν) (state : State ι ν) : Prop where
  /-- The list is linked. -/
  chain : Chain (fun node => (state.shared.nodes node).freeListNext) list
  /-- It begins at the head. -/
  head : state.shared.freeListHead = list.head?
  /-- No node is on it twice. -/
  once : list.Nodup
  /-- The accounts of the nodes. -/
  balanced : ∀ node, Balanced list state node
  /-- What the threads know. -/
  knows : ∀ thread, (state.threads thread).Knows state.shared.nodes

theorem count_le_one (holds : Prop) [Decidable holds] : count holds ≤ 1 := by
  unfold count
  split <;> omega

@[simp]
theorem count_true {holds : Prop} [Decidable holds] (is : holds) : count holds = 1 := if_pos is

@[simp]
theorem count_false {holds : Prop} [Decidable holds] (not : ¬holds) : count holds = 0 :=
  if_neg not

/-- A thread accounts for two references of a node at most. -/
theorem refs_le_two (node : ν) (stands : Thread ν) : stands.refs node ≤ 2 := by
  have few : ∀ held : ν, count (held = node) ≤ 1 := fun held => count_le_one _
  unfold Thread.refs
  split <;> first
    | exact (few _).trans (by omega)
    | exact Nat.mul_le_mul_left 2 (few _)
    | exact Nat.zero_le _

namespace Accounts

variable {lent listed keeps refs adds : Nat} {freeListRefs : UInt32}

/-- A client gives the node to a thread. -/
theorem give (accounts : Accounts 1 listed freeListRefs keeps refs adds) :
    Accounts 0 listed freeListRefs (keeps + 1) refs adds := by
  obtain ⟨place, references, added⟩ := accounts
  exact ⟨by omega, references, added⟩

/-- `add` marks the node. -/
theorem mark (accounts : Accounts lent listed freeListRefs (keeps + 1) refs adds) :
    Accounts lent listed (freeListRefs + SHOULD_BE_ON_FREELIST) keeps refs
      (adds + count (freeListRefs = 0)) := by
  obtain ⟨place, references, added⟩ := accounts
  have sum : (freeListRefs + SHOULD_BE_ON_FREELIST).toNat =
      (freeListRefs.toNat + 2 ^ 31) % 2 ^ 32 := UInt32.toNat_add ..
  have small := freeListRefs.toNat_lt
  have zero : freeListRefs = 0 ↔ freeListRefs.toNat = 0 := UInt32.toNat_inj.symm
  rw [if_neg (by omega)] at added
  refine ⟨by rw [sum]; omega, by rw [sum]; omega, ?_⟩
  rw [added, sum, Nat.zero_add, count]
  refine if_congr ?_ rfl rfl
  rw [zero]
  omega

/-- The list's reference is stored. -/
theorem store (accounts : Accounts lent listed freeListRefs keeps refs (adds + 1)) :
    Accounts lent listed 1 (keeps + 1) (refs + 1) adds := by
  obtain ⟨place, references, added⟩ := accounts
  have one : (1 : UInt32).toNat = 1 := rfl
  have marked : freeListRefs.toNat = 2 ^ 31 := by
    by_contra other
    rw [if_neg other] at added
    omega
  rw [if_pos marked] at added
  refine ⟨by omega, by omega, ?_⟩
  rw [one, if_neg (by omega)]
  omega

/-- The node becomes the head. -/
theorem push (accounts : Accounts lent listed freeListRefs (keeps + 1) (refs + 1) adds) :
    Accounts lent 1 freeListRefs keeps refs adds := by
  obtain ⟨place, references, added⟩ := accounts
  exact ⟨by omega, by omega, added⟩

/-- A node that could not be pushed is marked again. -/
theorem remark (accounts : Accounts lent listed freeListRefs (keeps + 1) (refs + 1) adds) :
    Accounts lent listed (freeListRefs + (SHOULD_BE_ON_FREELIST - 1)) keeps refs
      (adds + count (freeListRefs = 1)) := by
  obtain ⟨place, references, added⟩ := accounts
  have sum : (freeListRefs + (SHOULD_BE_ON_FREELIST - 1)).toNat =
      (freeListRefs.toNat + (2 ^ 31 - 1)) % 2 ^ 32 := UInt32.toNat_add ..
  have small := freeListRefs.toNat_lt
  have one : freeListRefs = 1 ↔ freeListRefs.toNat = 1 := UInt32.toNat_inj.symm
  rw [if_neg (by omega)] at added
  refine ⟨by rw [sum]; omega, by rw [sum]; omega, ?_⟩
  rw [added, sum, Nat.zero_add, count]
  refine if_congr ?_ rfl rfl
  rw [one]
  omega

/-- A thread counts itself among the references. -/
theorem increment (accounts : Accounts lent listed freeListRefs keeps refs adds)
    (positive : freeListRefs.toNat % 2 ^ 31 ≠ 0) (few : listed + refs + 1 < 2 ^ 31) :
    Accounts lent listed (freeListRefs + 1) keeps (refs + 1) adds := by
  obtain ⟨place, references, added⟩ := accounts
  have sum : (freeListRefs + 1).toNat = (freeListRefs.toNat + 1) % 2 ^ 32 := UInt32.toNat_add ..
  have small := freeListRefs.toNat_lt
  rw [if_neg (by omega)] at added
  refine ⟨by rw [sum]; omega, by rw [sum]; omega, ?_⟩
  rw [added, sum, if_neg (by omega)]

/-- The node is taken off the list. -/
theorem take (accounts : Accounts lent 1 freeListRefs keeps (refs + 1) adds) :
    Accounts lent 0 freeListRefs (keeps + 1) (refs + 2) adds := by
  obtain ⟨place, references, added⟩ := accounts
  exact ⟨by omega, by omega, added⟩

/-- A thread gives back its reference and the list's, and has the node. -/
theorem release (accounts : Accounts lent listed freeListRefs (keeps + 1) (refs + 2) adds) :
    Accounts 1 listed (freeListRefs - 2) keeps refs adds := by
  obtain ⟨place, references, added⟩ := accounts
  have less : (freeListRefs - 2).toNat = (2 ^ 32 - 2 + freeListRefs.toNat) % 2 ^ 32 :=
    UInt32.toNat_sub ..
  have small := freeListRefs.toNat_lt
  rw [if_neg (by omega)] at added
  refine ⟨by rw [less]; omega, by rw [less]; omega, ?_⟩
  rw [added, less, if_neg (by omega)]

/-- A thread gives back its reference. -/
theorem decrement (accounts : Accounts lent listed freeListRefs keeps (refs + 1) adds) :
    Accounts lent listed (freeListRefs - 1) keeps refs
      (adds + count (freeListRefs = SHOULD_BE_ON_FREELIST + 1)) := by
  obtain ⟨place, references, added⟩ := accounts
  have less : (freeListRefs - 1).toNat = (2 ^ 32 - 1 + freeListRefs.toNat) % 2 ^ 32 :=
    UInt32.toNat_sub ..
  have small := freeListRefs.toNat_lt
  have last : freeListRefs = SHOULD_BE_ON_FREELIST + 1 ↔ freeListRefs.toNat = 2 ^ 31 + 1 :=
    UInt32.toNat_inj.symm
  rw [if_neg (by omega)] at added
  refine ⟨by rw [less]; omega, by rw [less]; omega, ?_⟩
  rw [added, less, Nat.zero_add, count]
  refine if_congr ?_ rfl rfl
  rw [last]
  omega

end Accounts

variable [Fintype ι] [DecidableEq ι] {list after : List ν} {state : State ι ν} {thread : ι}

/-- A step of one thread keeps the accounts of a node if they balance with that thread's part
replaced. -/
theorem balanced_step {node : ν} {shared : Shared ν} {next : Thread ν}
    (balanced : Balanced list state node)
    (moves : ∀ keeps refs adds, refs ≤ Fintype.card ι * 2 →
      Accounts (count (state.shared.lent node = true)) (count (node ∈ list))
        (state.shared.nodes node).freeListRefs (keeps + (state.threads thread).keeps node)
        (refs + (state.threads thread).refs node) (adds + (state.threads thread).adds node) →
      Accounts (count (shared.lent node = true)) (count (node ∈ after))
        (shared.nodes node).freeListRefs (keeps + next.keeps node) (refs + next.refs node)
        (adds + next.adds node)) :
    Balanced after { shared, threads := Function.update state.threads thread next } node := by
  have keeps := Threads.total_update (Thread.keeps node) state.threads thread next
  have refs := Threads.total_update (Thread.refs node) state.threads thread next
  have adds := Threads.total_update (Thread.adds node) state.threads thread next
  have own_keeps := Threads.le_total (Thread.keeps node) state.threads thread
  have own_refs := Threads.le_total (Thread.refs node) state.threads thread
  have own_adds := Threads.le_total (Thread.adds node) state.threads thread
  have bound := Threads.total_le_mul (refs_le_two node) state.threads
  unfold Balanced at balanced ⊢
  dsimp only
  have moved := moves
    (total (Thread.keeps node) state.threads - (state.threads thread).keeps node)
    (total (Thread.refs node) state.threads - (state.threads thread).refs node)
    (total (Thread.adds node) state.threads - (state.threads thread).adds node) (by omega)
  rw [Nat.sub_add_cancel own_keeps, Nat.sub_add_cancel own_refs, Nat.sub_add_cancel own_adds]
    at moved
  have result := moved balanced
  rwa [show total (Thread.keeps node) state.threads - (state.threads thread).keeps node +
      next.keeps node = total (Thread.keeps node) (Function.update state.threads thread next) by
        omega,
    show total (Thread.refs node) state.threads - (state.threads thread).refs node +
      next.refs node = total (Thread.refs node) (Function.update state.threads thread next) by
        omega,
    show total (Thread.adds node) state.threads - (state.threads thread).adds node +
      next.adds node = total (Thread.adds node) (Function.update state.threads thread next) by
        omega] at result

omit [DecidableEq ν] [Fintype ι] [DecidableEq ι] in
/-- What a thread knows stays true as long as no successor changes. -/
theorem Thread.Knows.congr {stands : Thread ν} {before nodes : ν → Node ν}
    (knows : stands.Knows before)
    (same : ∀ node, (nodes node).freeListNext = (before node).freeListNext) :
    stands.Knows nodes := by
  cases stands with
  | storingRefs node head caller | pushing node head caller => exact (same node).trans knows
  | taking head next => exact (same head).trans knows
  | broken => exact knows
  | _ => trivial

/-- While a thread is about to add a node, no other is, and nobody has a reference. -/
theorem Sound.alone (sound : Sound list state) {node : ν}
    (adds : (state.threads thread).adds node = 1) :
    node ∉ list ∧ ∀ other ≠ thread,
      (state.threads other).adds node = 0 ∧ (state.threads other).refs node = 0 := by
  obtain ⟨place, refs, added⟩ := sound.balanced node
  have own := Threads.le_total (Thread.adds node) state.threads thread
  have marked : (state.shared.nodes node).freeListRefs.toNat = 2 ^ 31 := by
    by_contra other
    rw [if_neg other] at added
    omega
  rw [if_pos marked] at added
  refine ⟨fun inside => ?_, fun other different => ?_⟩
  · rw [count_true inside] at refs
    omega
  · have both := Threads.add_le_total (Thread.adds node) state.threads different
    have held := Threads.le_total (Thread.refs node) state.threads other
    omega

/-- What the others know stays true when a thread stores the successor of a node it is about to
add. -/
theorem Sound.knows_next (sound : Sound list state) {node : ν}
    (adds : (state.threads thread).adds node = 1) (next : Option ν) {other : ι}
    (different : other ≠ thread) :
    (state.threads other).Knows (state.shared.withNext node next).nodes := by
  obtain ⟨added, held⟩ := (sound.alone adds).2 other different
  have elsewhere : ∀ place ≠ node, ((state.shared.withNext node next).nodes place).freeListNext =
      (state.shared.nodes place).freeListNext := fun place apart => by
    simp only [Shared.withNext, Function.update_of_ne apart]
  have knows := sound.knows other
  cases stands : state.threads other with
  | storingRefs place head caller =>
    rw [stands] at knows added
    have apart : place ≠ node := by
      rintro rfl
      rw [Thread.adds, count_true rfl] at added
      omega
    exact (elsewhere place apart).trans knows
  | pushing place head caller =>
    rw [stands] at knows held
    have apart : place ≠ node := by
      rintro rfl
      rw [Thread.refs, count_true rfl] at held
      omega
    exact (elsewhere place apart).trans knows
  | taking place next =>
    rw [stands] at knows held
    have apart : place ≠ node := by
      rintro rfl
      rw [Thread.refs, count_true rfl] at held
      omega
    exact (elsewhere place apart).trans knows
  | broken =>
    rw [stands] at knows
    exact knows
  | _ => trivial

/-- The thread has to do with one node only. -/
def Thread.At (node : ν) (stands : Thread ν) : Prop :=
  ∀ other ≠ node, stands.keeps other = 0 ∧ stands.refs other = 0 ∧ stands.adds other = 0

/-- The thread has nothing to do with any node, and nothing to know. -/
structure Thread.Free (stands : Thread ν) : Prop where
  /-- It has none in its hand. -/
  keeps : ∀ node, stands.keeps node = 0
  /-- It accounts for no reference. -/
  refs : ∀ node, stands.refs node = 0
  /-- It adds none. -/
  adds : ∀ node, stands.adds node = 0
  /-- It knows all it needs. -/
  knows : ∀ nodes, stands.Knows nodes

omit [Fintype ι] [DecidableEq ι] in
/-- A free thread has to do with none. -/
theorem Thread.Free.at {stands : Thread ν} (free : stands.Free) (node : ν) : stands.At node :=
  fun other _ => ⟨free.keeps other, free.refs other, free.adds other⟩

omit [Fintype ι] [DecidableEq ι] in
/-- The loop of `try_get` starts free. -/
theorem free_loop (head : Option ν) : (loop head).Free := by
  cases head <;> exact ⟨fun _ => rfl, fun _ => rfl, fun _ => rfl, fun _ => trivial⟩

omit [Fintype ι] [DecidableEq ι] in
/-- A thread that has added a node is free. -/
theorem free_resume (caller : Caller ν) : caller.resume.Free := by
  cases caller with
  | add => exact ⟨fun _ => rfl, fun _ => rfl, fun _ => rfl, fun _ => trivial⟩
  | try_get head => exact free_loop head

/-- A step that only reads, and after which the thread accounts for the same. -/
theorem Sound.reads (sound : Sound list state) {next : Thread ν}
    (keeps : ∀ node, next.keeps node = (state.threads thread).keeps node)
    (refs : ∀ node, next.refs node = (state.threads thread).refs node)
    (adds : ∀ node, next.adds node = (state.threads thread).adds node)
    (knows : next.Knows state.shared.nodes) :
    Sound list { state with threads := Function.update state.threads thread next } where
  chain := sound.chain
  head := sound.head
  once := sound.once
  balanced node := balanced_step (sound.balanced node) fun _ _ _ _ accounts => by
    rw [keeps, refs, adds]
    exact accounts
  knows other := by
    dsimp only
    by_cases own : other = thread
    · subst own
      rw [Function.update_self]
      exact knows
    · rw [Function.update_of_ne own]
      exact sound.knows other

/-- A step that changes the references of one node and leaves the list. -/
theorem Sound.counts (sound : Sound list state) {next : Thread ν} (node : ν) (refs : UInt32)
    (lent : ν → Bool) (elsewhere : ∀ other ≠ node, lent other = state.shared.lent other)
    (here : (state.threads thread).At node) (there : next.At node)
    (moves : ∀ keeps refs' adds, refs' ≤ Fintype.card ι * 2 →
      Accounts (count (state.shared.lent node = true)) (count (node ∈ list))
        (state.shared.nodes node).freeListRefs (keeps + (state.threads thread).keeps node)
        (refs' + (state.threads thread).refs node) (adds + (state.threads thread).adds node) →
      Accounts (count (lent node = true)) (count (node ∈ list)) refs (keeps + next.keeps node)
        (refs' + next.refs node) (adds + next.adds node))
    (knows : next.Knows state.shared.nodes) :
    Sound list
      { shared := { state.shared.withRefs node refs with lent := lent }
        threads := Function.update state.threads thread next } := by
  have successors : ∀ other, ((state.shared.withRefs node refs).nodes other).freeListNext =
      (state.shared.nodes other).freeListNext := fun other => by
    simp only [Shared.withRefs]
    by_cases here : other = node
    · subst here
      rw [Function.update_self]
    · rw [Function.update_of_ne here]
  refine ⟨sound.chain.congr fun other _ => successors other, sound.head, sound.once,
    fun other => ?_, fun other => ?_⟩
  · refine balanced_step (sound.balanced other) fun keeps refs' adds bound accounts => ?_
    by_cases same : other = node
    · subst same
      have moved := moves keeps refs' adds bound accounts
      simp only [Shared.withRefs, Function.update_self]
      exact moved
    · obtain ⟨keeps, refs, adds⟩ := here other same
      obtain ⟨keeps', refs', adds'⟩ := there other same
      simp only [Shared.withRefs, Function.update_of_ne same, elsewhere other same, keeps, refs,
        adds, keeps', refs', adds'] at accounts ⊢
      exact accounts
  · dsimp only
    by_cases own : other = thread
    · subst own
      rw [Function.update_self]
      exact knows.congr successors
    · rw [Function.update_of_ne own]
      exact (sound.knows other).congr successors

/-- `add` marks a node. -/
theorem adding_sound (sound : Sound list state) {node : ν}
    (stands : state.threads thread = .adding node) : Sound list (step state (thread, .run)) := by
  have here : (state.threads thread).At node := fun other apart => by
    rw [stands]
    simp [Thread.keeps, Thread.refs, Thread.adds, apart.symm]
  simp only [step, react, run, stands]
  refine sound.counts node _ state.shared.lent (fun _ _ => rfl) here (fun other apart => ?_)
    (fun keeps refs adds _ accounts => ?_) ?_
  · split <;> simp [Thread.keeps, Thread.refs, Thread.adds, apart.symm]
  · rw [stands] at accounts
    simp only [Thread.keeps, Thread.refs, Thread.adds, count_true, Nat.add_zero] at accounts
    have marked := accounts.mark
    split
    · rename_i zero
      simpa only [Thread.keeps, Thread.refs, Thread.adds, count_true, zero, Nat.add_zero]
        using marked
    · rename_i other
      simpa only [Thread.keeps, Thread.refs, Thread.adds, count_false other, Nat.add_zero]
        using marked
  · split <;> trivial

/-- A node that could not be pushed is marked again. -/
theorem marking_sound (sound : Sound list state) {node : ν} {head : Option ν} {caller : Caller ν}
    (stands : state.threads thread = .marking node head caller) :
    Sound list (step state (thread, .run)) := by
  have free := free_resume caller
  have here : (state.threads thread).At node := fun other apart => by
    rw [stands]
    simp [Thread.keeps, Thread.refs, Thread.adds, apart.symm]
  simp only [step, react, run, stands]
  refine sound.counts node _ state.shared.lent (fun _ _ => rfl) here (fun other apart => ?_)
    (fun keeps refs adds _ accounts => ?_) ?_
  · split
    · simp [Thread.keeps, Thread.refs, Thread.adds, apart.symm]
    · exact free.at node other apart
  · rw [stands] at accounts
    simp only [Thread.keeps, Thread.refs, Thread.adds, count_true, Nat.add_zero] at accounts
    have marked := accounts.remark
    split
    · rename_i one
      simpa only [Thread.keeps, Thread.refs, Thread.adds, count_true, one, Nat.add_zero]
        using marked
    · rename_i other
      simpa only [free.keeps, free.refs, free.adds, count_false other, Nat.add_zero] using marked
  · split
    · trivial
    · exact free.knows _

/-- A thread whose exchange has failed gives back its reference. -/
theorem decrementing_sound (sound : Sound list state) {prevHead : ν} {head : Option ν}
    (stands : state.threads thread = .decrementing prevHead head) :
    Sound list (step state (thread, .run)) := by
  have free := free_loop head
  have here : (state.threads thread).At prevHead := fun other apart => by
    rw [stands]
    simp [Thread.keeps, Thread.refs, Thread.adds, apart.symm]
  simp only [step, react, run, stands]
  refine sound.counts prevHead _ state.shared.lent (fun _ _ => rfl) here (fun other apart => ?_)
    (fun keeps refs adds _ accounts => ?_) ?_
  · split
    · simp [Thread.keeps, Thread.refs, Thread.adds, apart.symm]
    · exact free.at prevHead other apart
  · rw [stands] at accounts
    simp only [Thread.keeps, Thread.refs, Thread.adds, count_true, Nat.add_zero] at accounts
    have given := accounts.decrement
    split
    · rename_i last
      simpa only [Thread.keeps, Thread.refs, Thread.adds, count_true, last, Nat.add_zero]
        using given
    · rename_i other
      simpa only [free.keeps, free.refs, free.adds, count_false other, Nat.add_zero] using given
  · split
    · trivial
    · exact free.knows _

/-- The list's reference is stored in a node that is about to be pushed. -/
theorem storingRefs_sound (sound : Sound list state) {node : ν} {head : Option ν}
    {caller : Caller ν} (stands : state.threads thread = .storingRefs node head caller) :
    Sound list (step state (thread, .run)) := by
  have here : (state.threads thread).At node := fun other apart => by
    rw [stands]
    simp [Thread.keeps, Thread.refs, Thread.adds, apart.symm]
  simp only [step, react, run, stands]
  refine sound.counts node _ state.shared.lent (fun _ _ => rfl) here (fun other apart => ?_)
    (fun keeps refs adds _ accounts => ?_) ?_
  · simp [Thread.keeps, Thread.refs, Thread.adds, apart.symm]
  · rw [stands] at accounts
    simp only [Thread.keeps, Thread.refs, Thread.adds, count_true, Nat.add_zero] at accounts ⊢
    exact accounts.store
  · have knows := sound.knows thread
    rw [stands] at knows
    exact knows

omit [DecidableEq ν] [Fintype ι] [DecidableEq ι] in
/-- The mask leaves the references without the mark. -/
theorem refs_mask {refs : UInt32} (referenced : refs &&& REFS_MASK ≠ 0) :
    refs.toNat % 2 ^ 31 ≠ 0 := by
  intro none
  refine referenced (UInt32.toNat_inj.mp ?_)
  rw [UInt32.toNat_and, show REFS_MASK.toNat = 2 ^ 31 - 1 from rfl,
    Nat.and_two_pow_sub_one_eq_mod, none]
  rfl

omit [DecidableEq ν] [Fintype ι] [DecidableEq ι] in
/-- References without the mark are below it. -/
theorem refs_unmarked {refs : UInt32} (unmarked : refs.toNat / 2 ^ 31 = 0) :
    refs &&& SHOULD_BE_ON_FREELIST = 0 := by
  have small : refs.toNat < 2 ^ 31 := by omega
  have bits : refs.toNat &&& 2 ^ 31 = 0 := Nat.eq_of_testBit_eq fun bit => by
    rw [Nat.testBit_and, Nat.testBit_two_pow, Nat.zero_testBit]
    by_cases mark : 31 = bit
    · rw [← mark, Nat.testBit_lt_two_pow small, Bool.false_and]
    · rw [decide_eq_false mark, Bool.and_false]
  refine UInt32.toNat_inj.mp ?_
  rw [UInt32.toNat_and, show SHOULD_BE_ON_FREELIST.toNat = 2 ^ 31 from rfl, bits]
  rfl

/-- A thread counts itself among the references of a node that has some. -/
theorem incrementing_sound (few : Fintype.card ι * 2 + 2 < 2 ^ 31) (sound : Sound list state)
    {head : ν} {refs : UInt32} (stands : state.threads thread = .incrementing head refs) :
    Sound list (step state (thread, .run)) := by
  have here : (state.threads thread).At head := fun other apart => by
    rw [stands]
    exact ⟨rfl, rfl, rfl⟩
  have idle : Sound list { state with
      threads := Function.update state.threads thread .getting } := by
    refine sound.reads (fun node => ?_) (fun node => ?_) (fun node => ?_) trivial <;>
      rw [stands] <;> rfl
  simp only [step, react, run, stands]
  split
  · exact idle
  · rename_i referenced
    split
    · rename_i same
      refine sound.counts head _ state.shared.lent (fun _ _ => rfl) here (fun other apart => ?_)
        (fun keeps refs' adds bound accounts => ?_) trivial
      · simp [Thread.keeps, Thread.refs, Thread.adds, apart.symm]
      · rw [stands, same] at accounts
        simp only [Thread.keeps, Thread.refs, Thread.adds, count_true, Nat.add_zero] at accounts ⊢
        have listed := count_le_one (head ∈ list)
        exact accounts.increment (refs_mask referenced) (by omega)
    · exact idle

/-- A thread with a node gives back its reference and the list's. -/
theorem releasing_sound (sound : Sound list state) {head : ν}
    (stands : state.threads thread = .releasing head) :
    Sound list (step state (thread, .run)) := by
  have here : (state.threads thread).At head := fun other apart => by
    rw [stands]
    simp [Thread.keeps, Thread.refs, Thread.adds, apart.symm]
  simp only [step, react, run, stands]
  refine sound.counts head _ _ (fun other apart => Function.update_of_ne apart ..) here
    (fun other apart => ⟨rfl, rfl, rfl⟩) (fun keeps refs adds _ accounts => ?_) trivial
  rw [stands] at accounts
  simp only [Thread.keeps, Thread.refs, Thread.adds, count_true, Nat.add_zero, Nat.mul_one,
    Function.update_self] at accounts ⊢
  exact accounts.release

/-- A thread stores the successor of a node it is about to add. -/
theorem storingNext_sound (sound : Sound list state) {node : ν} {head : Option ν}
    {caller : Caller ν} (stands : state.threads thread = .storingNext node head caller) :
    Sound list (step state (thread, .run)) := by
  have adds : (state.threads thread).adds node = 1 := by
    rw [stands]
    exact count_true rfl
  obtain ⟨absent, _⟩ := sound.alone adds
  have successors : (fun other => ((state.shared.withNext node head).nodes other).freeListNext) =
      Function.update (fun other => (state.shared.nodes other).freeListNext) node head := by
    funext other
    simp only [Shared.withNext]
    by_cases same : other = node
    · subst same
      rw [Function.update_self, Function.update_self]
    · rw [Function.update_of_ne same, Function.update_of_ne same]
  have refs : ∀ other, ((state.shared.withNext node head).nodes other).freeListRefs =
      (state.shared.nodes other).freeListRefs := fun other => by
    simp only [Shared.withNext]
    by_cases same : other = node
    · subst same
      rw [Function.update_self]
    · rw [Function.update_of_ne same]
  simp only [step, react, run, stands]
  refine ⟨?_, sound.head, sound.once, fun other => ?_, fun other => ?_⟩
  · dsimp only
    rw [successors]
    exact sound.chain.update absent head
  · refine balanced_step (sound.balanced other) fun keeps refs' adds _ accounts => ?_
    rw [stands] at accounts
    rw [refs]
    exact accounts
  · dsimp only
    by_cases own : other = thread
    · subst own
      rw [Function.update_self]
      exact (congrFun successors node).trans (Function.update_self ..)
    · rw [Function.update_of_ne own]
      exact sound.knows_next adds head own

/-- A thread exchanges the head for its node, or finds that it has changed. -/
theorem pushing_sound (sound : Sound list state) {node : ν} {head : Option ν} {caller : Caller ν}
    (stands : state.threads thread = .pushing node head caller) :
    ∃ after, Sound after (step state (thread, .run)) := by
  have free := free_resume caller
  have knows := sound.knows thread
  rw [stands] at knows
  simp only [step, react, run, stands]
  split
  · rename_i same
    have absent : node ∉ list := fun inside => by
      have place := (sound.balanced node).place
      have own := Threads.le_total (Thread.keeps node) state.threads thread
      rw [stands, Thread.keeps, count_true rfl] at own
      rw [count_true inside] at place
      omega
    have links : (state.shared.nodes node).freeListNext = list.head? :=
      knows.trans (same.symm.trans sound.head)
    refine ⟨node :: list, sound.chain.push links, rfl,
      List.nodup_cons.mpr ⟨absent, sound.once⟩, fun other => ?_, fun other => ?_⟩
    · refine balanced_step (sound.balanced other) fun keeps refs adds _ accounts => ?_
      rw [stands] at accounts
      rw [free.keeps, free.refs, free.adds]
      by_cases here : other = node
      · subst here
        simp only [Thread.keeps, Thread.refs, Thread.adds, count_true, Nat.add_zero,
          List.mem_cons_self] at accounts ⊢
        exact accounts.push
      · have inside : other ∈ node :: list ↔ other ∈ list := by simp [here]
        have apart : ¬node = other := fun same => here same.symm
        simp only [Thread.keeps, Thread.refs, Thread.adds, count_false apart, inside] at accounts ⊢
        exact accounts
    · dsimp only
      by_cases own : other = thread
      · subst own
        rw [Function.update_self]
        exact free.knows _
      · rw [Function.update_of_ne own]
        exact sound.knows other
  · refine ⟨list, sound.reads (fun other => ?_) (fun other => ?_) (fun other => ?_) trivial⟩ <;>
      rw [stands] <;> rfl

/-- A thread exchanges the head for the successor it has read, or finds that it has changed. -/
theorem taking_sound (sound : Sound list state) {head : ν} {next : Option ν}
    (stands : state.threads thread = .taking head next) :
    ∃ after, Sound after (step state (thread, .run)) := by
  have knows := sound.knows thread
  rw [stands] at knows
  simp only [step, react, run, stands]
  split
  · rename_i same
    obtain ⟨rest, split⟩ : ∃ rest, list = head :: rest := by
      have first := sound.head.symm.trans same
      cases list with
      | nil => cases first
      | cons node rest => exact ⟨rest, by rw [Option.some.inj first]⟩
    subst split
    obtain ⟨absent, once⟩ := List.nodup_cons.mp sound.once
    have links : next = rest.head? := knows.symm.trans sound.chain.1
    refine ⟨rest, sound.chain.2, links, once, fun other => ?_, fun other => ?_⟩
    · refine balanced_step (sound.balanced other) fun keeps refs adds _ accounts => ?_
      rw [stands] at accounts
      by_cases here : other = head
      · subst here
        simp only [Thread.keeps, Thread.refs, Thread.adds, count_true, Nat.add_zero,
          List.mem_cons_self, count_false absent, Nat.mul_one] at accounts ⊢
        exact accounts.take
      · have inside : other ∈ head :: rest ↔ other ∈ rest := by simp [here]
        have apart : ¬head = other := fun same => here same.symm
        simp only [Thread.keeps, Thread.refs, Thread.adds, count_false apart, inside,
          Nat.mul_zero] at accounts ⊢
        exact accounts
    · dsimp only
      by_cases own : other = thread
      · subst own
        rw [Function.update_self]
        trivial
      · rw [Function.update_of_ne own]
        exact sound.knows other
  · refine ⟨list, sound.reads (fun other => ?_) (fun other => ?_) (fun other => ?_) trivial⟩ <;>
      rw [stands] <;> rfl

/-- The assertion holds: a node that was taken is not marked. -/
theorem took_sound (sound : Sound list state) {head : ν}
    (stands : state.threads thread = .took head) : Sound list (step state (thread, .run)) := by
  have place := (sound.balanced head).place
  have own := Threads.le_total (Thread.keeps head) state.threads thread
  rw [stands, Thread.keeps, count_true rfl] at own
  have unmarked := refs_unmarked
    (show (state.shared.nodes head).freeListRefs.toNat / 2 ^ 31 = 0 by omega)
  simp only [step, react, run, stands, if_pos unmarked]
  refine sound.reads (fun node => ?_) (fun node => ?_) (fun node => ?_) trivial <;>
    rw [stands] <;> rfl

/-- Every atomic operation keeps the list sound. -/
theorem run_sound (few : Fintype.card ι * 2 + 2 < 2 ^ 31) (sound : Sound list state)
    (thread : ι) : ∃ after, Sound after (step state (thread, .run)) := by
  cases stands : state.threads thread with
  | outside got =>
    refine ⟨list, ?_⟩
    simp only [step, react, run, stands]
    refine sound.reads (fun node => ?_) (fun node => ?_) (fun node => ?_) trivial <;> rw [stands]
  | adding node => exact ⟨list, adding_sound sound stands⟩
  | loadingHead node caller =>
    refine ⟨list, ?_⟩
    simp only [step, react, run, stands]
    refine sound.reads (fun node => ?_) (fun node => ?_) (fun node => ?_) trivial <;>
      rw [stands] <;> rfl
  | storingNext node head caller => exact ⟨list, storingNext_sound sound stands⟩
  | storingRefs node head caller => exact ⟨list, storingRefs_sound sound stands⟩
  | pushing node head caller => exact pushing_sound sound stands
  | marking node head caller => exact ⟨list, marking_sound sound stands⟩
  | getting =>
    obtain ⟨keeps, refs, adds, knows⟩ := free_loop state.shared.freeListHead
    refine ⟨list, ?_⟩
    simp only [step, react, run, stands]
    refine sound.reads (fun node => ?_) (fun node => ?_) (fun node => ?_) (knows _) <;> rw [stands]
    · exact keeps node
    · exact refs node
    · exact adds node
  | loadingRefs head =>
    refine ⟨list, ?_⟩
    simp only [step, react, run, stands]
    refine sound.reads (fun node => ?_) (fun node => ?_) (fun node => ?_) trivial <;>
      rw [stands] <;> rfl
  | incrementing head refs => exact ⟨list, incrementing_sound few sound stands⟩
  | loadingNext head =>
    refine ⟨list, ?_⟩
    simp only [step, react, run, stands]
    refine sound.reads (fun node => ?_) (fun node => ?_) (fun node => ?_) rfl <;>
      rw [stands] <;> rfl
  | taking head next => exact taking_sound sound stands
  | took head => exact ⟨list, took_sound sound stands⟩
  | releasing head => exact ⟨list, releasing_sound sound stands⟩
  | decrementing prevHead head => exact ⟨list, decrementing_sound sound stands⟩
  | broken =>
    have knows := sound.knows thread
    rw [stands] at knows
    exact knows.elim

/-- A call keeps the list sound. -/
theorem call_sound (sound : Sound list state) (thread : ι) (operation : Operation ν) :
    Sound list (step state (thread, .call operation)) := by
  have stays : Sound list
      { state with threads := Function.update state.threads thread (state.threads thread) } := by
    rw [Function.update_eq_self]
    exact sound
  cases stands : state.threads thread with
  | outside got =>
    rw [stands] at stays
    cases operation with
    | add node =>
      simp only [step, react, stands]
      split
      · rename_i lent
        refine ⟨sound.chain, sound.head, sound.once, fun other => ?_, fun other => ?_⟩
        · refine balanced_step (sound.balanced other) fun keeps refs adds _ accounts => ?_
          rw [stands] at accounts
          by_cases here : other = node
          · subst here
            simp only [Thread.keeps, Thread.refs, Thread.adds, count_true, Nat.add_zero, lent,
              Function.update_self, Bool.false_eq_true, count_false, not_false_eq_true]
              at accounts ⊢
            exact accounts.give
          · have apart : ¬node = other := fun same => here same.symm
            simp only [Thread.keeps, Thread.refs, Thread.adds, count_false apart,
              Function.update_of_ne here] at accounts ⊢
            exact accounts
        · dsimp only
          by_cases own : other = thread
          · subst own
            rw [Function.update_self]
            trivial
          · rw [Function.update_of_ne own]
            exact sound.knows other
      · exact stays
    | try_get =>
      simp only [step, react, stands]
      refine sound.reads (fun node => ?_) (fun node => ?_) (fun node => ?_) trivial <;>
        rw [stands] <;> rfl
  | _ =>
    rw [stands] at stays
    simp only [step, react, stands]
    exact stays

/-- Every step keeps the list sound, with the nodes that are on it then. -/
theorem step_sound (few : Fintype.card ι * 2 + 2 < 2 ^ 31) (state : State ι ν)
    (action : Action ι ν) (sound : ∃ list, Sound list state) :
    ∃ list, Sound list (step state action) := by
  obtain ⟨list, sound⟩ := sound
  obtain ⟨thread, event⟩ := action
  cases event with
  | call operation => exact ⟨list, call_sound sound thread operation⟩
  | run => exact run_sound few sound thread

omit [DecidableEq ι] in
/-- A free list is constructed sound, with no node on it. -/
theorem sound_initial : Sound [] (initial : State ι ν) where
  chain := trivial
  head := rfl
  once := List.nodup_nil
  balanced node := by
    have keeps : total (Thread.keeps node) (initial : State ι ν).threads = 0 :=
      Threads.total_eq_zero fun _ => rfl
    have refs : total (Thread.refs node) (initial : State ι ν).threads = 0 :=
      Threads.total_eq_zero fun _ => rfl
    have adds : total (Thread.adds node) (initial : State ι ν).threads = 0 :=
      Threads.total_eq_zero fun _ => rfl
    have lent : (initial : State ι ν).shared.lent node = true := rfl
    have zero : ((initial : State ι ν).shared.nodes node).freeListRefs.toNat = 0 := rfl
    unfold Balanced
    rw [keeps, refs, adds, count_false List.not_mem_nil, count_true lent]
    exact ⟨by rw [zero]; rfl, by rw [zero]; rfl, by rw [zero]; rfl⟩
  knows _ := trivial

/-- In every interleaving of fewer than 2^30 - 1 threads, every node is in one place, its references
are accounted for, and the list is linked from the head. -/
theorem sound_run (few : Fintype.card ι * 2 + 2 < 2 ^ 31) (actions : List (Action ι ν)) :
    ∃ list, Sound list (Transition.run step initial actions) :=
  Transition.run_invariant (step_sound few) ⟨[], sound_initial⟩ actions

/-- In every interleaving, a node that a `try_get` is about to return is with no client, in no other
thread's hand and not on the list; and the assertion of `try_get` never fails. -/
theorem handed_out_once (few : Fintype.card ι * 2 + 2 < 2 ^ 31) (actions : List (Action ι ν))
    (thread : ι) :
    let state := Transition.run step initial actions
    state.threads thread ≠ .broken ∧
      ∀ node, state.threads thread = .releasing node →
        state.shared.lent node = false ∧ state.shared.freeListHead ≠ some node ∧
          ∀ other ≠ thread, (state.threads other).keeps node = 0 := by
  intro state
  obtain ⟨list, sound⟩ : ∃ list, Sound list state := sound_run few actions
  refine ⟨fun broken => ?_, fun node stands => ?_⟩
  · have knows := sound.knows thread
    rw [broken] at knows
    exact knows
  · have place := (sound.balanced node).place
    have own : (state.threads thread).keeps node = 1 := by
      rw [stands]
      exact count_true rfl
    have held := Threads.le_total (Thread.keeps node) state.threads thread
    refine ⟨?_, fun head => ?_, fun other different => ?_⟩
    · by_contra lent
      rw [count_true (Bool.not_eq_false _ ▸ lent)] at place
      omega
    · have inside : node ∈ list := List.mem_of_mem_head? (sound.head.symm.trans head)
      rw [count_true inside] at place
      omega
    · have both := Threads.add_le_total (Thread.keeps node) state.threads different
      omega

/-- Two threads take nodes from a list of one. -/
theorem handed_out_once_race :
    let state := Transition.run step (initial : State (Fin 2) (Fin 2))
      ([(0, .call (.add 0))] ++ List.replicate 5 (0, .run) ++
        [(0, .call .try_get), (1, .call .try_get)] ++
        (List.replicate 6 [(0, .run), (1, .run)]).flatten)
    state.threads 0 ≠ .broken ∧
      ∀ node, state.threads 0 = .releasing node →
        state.shared.lent node = false ∧ state.shared.freeListHead ≠ some node ∧
          ∀ other ≠ 0, (state.threads other).keeps node = 0 :=
  handed_out_once (by decide) _ 0

/-- No thread is in an operation. -/
def State.AtRest (state : State ι ν) : Prop := ∀ thread, ∃ got, state.threads thread = .outside got

omit [DecidableEq ι] in
/-- At rest the nodes on the list are those that were given back and not handed out again, each
with the list's reference only. -/
theorem Sound.at_rest (sound : Sound list state) (rest : state.AtRest) (node : ν) :
    (node ∈ list ↔ state.shared.lent node = false) ∧
      (node ∈ list → (state.shared.nodes node).freeListRefs = 1) := by
  obtain ⟨place, refs, adds⟩ := sound.balanced node
  have none : ∀ weight : Thread ν → Nat, (∀ got, weight (.outside got) = 0) →
      total weight state.threads = 0 := fun weight zero => Threads.total_eq_zero fun thread => by
    obtain ⟨got, outside⟩ := rest thread
    rw [outside]
    exact zero got
  rw [none (Thread.keeps node) fun _ => rfl] at place
  rw [none (Thread.refs node) fun _ => rfl] at refs
  rw [none (Thread.adds node) fun _ => rfl] at adds
  have unmarked : (state.shared.nodes node).freeListRefs.toNat ≠ 2 ^ 31 := fun marked => by
    rw [if_pos marked] at adds
    omega
  by_cases inside : node ∈ list
  · rw [count_true inside] at place refs
    have lent : state.shared.lent node = false := by
      by_contra lent
      rw [count_true (Bool.not_eq_false _ ▸ lent)] at place
      omega
    refine ⟨iff_of_true inside lent, fun _ => UInt32.toNat_inj.mp ?_⟩
    have one : (1 : UInt32).toNat = 1 := rfl
    omega
  · rw [count_false inside] at place refs
    have lent : state.shared.lent node = true := by
      by_contra kept
      rw [count_false kept] at place
      omega
    exact ⟨iff_of_false inside (by simp [lent]), fun absurd => (inside absurd).elim⟩

/-- In every interleaving, once no thread is in an operation, the nodes linked from the head are
those that were given back and not handed out again: no node is lost, and none is listed twice. -/
theorem none_lost {actions : List (Action ι ν)} (few : Fintype.card ι * 2 + 2 < 2 ^ 31)
    (rest : (Transition.run step initial actions).AtRest) :
    let shared := (Transition.run step initial actions).shared
    ∃ list, Chain (fun node => (shared.nodes node).freeListNext) list ∧
      shared.freeListHead = list.head? ∧ list.Nodup ∧
        ∀ node, node ∈ list ↔ shared.lent node = false := by
  intro shared
  obtain ⟨list, sound⟩ := sound_run few actions
  exact ⟨list, sound.chain, sound.head, sound.once, fun node => (sound.at_rest rest node).1⟩

omit [DecidableEq ν] [Fintype ι] [DecidableEq ι] in
/-- One thread gives back two nodes, and another takes one of them. -/
def givesTwo (giver taker : ι) (one two : ν) : List (Action ι ν) :=
  [(giver, .call (.add one))] ++ List.replicate 5 (giver, .run) ++ [(giver, .call (.add two))] ++
    List.replicate 5 (giver, .run) ++ [(taker, .call .try_get)] ++
      List.replicate 7 (taker, .run)

/-- Afterwards no thread is in an operation. -/
theorem atRest_givesTwo :
    (Transition.run step (initial : State (Fin 2) (Fin 2)) (givesTwo 0 1 0 1)).AtRest := by
  refine Fin.forall_fin_two.mpr ⟨⟨none, ?_⟩, ⟨some 1, ?_⟩⟩
  · decide +kernel
  · decide +kernel

/-- Of two nodes given back one is taken. -/
theorem none_lost_two :
    let shared :=
      (Transition.run step (initial : State (Fin 2) (Fin 2)) (givesTwo 0 1 0 1)).shared
    ∃ list, Chain (fun node => (shared.nodes node).freeListNext) list ∧
      shared.freeListHead = list.head? ∧ list.Nodup ∧
        ∀ node, node ∈ list ↔ shared.lent node = false :=
  none_lost (by decide) atRest_givesTwo

/-- Atomic operations of one thread, one after another. -/
def runs (shared : Shared ν) (stands : Thread ν) : Nat → Shared ν × Thread ν
  | 0 => (shared, stands)
  | steps + 1 => runs (run shared stands).1 (run shared stands).2 steps

omit [Fintype ι] in
/-- A thread that runs alone. -/
theorem run_alone (state : State ι ν) (thread : ι) (steps : Nat) :
    Transition.run step state (List.replicate steps (thread, .run)) =
      { shared := (runs state.shared (state.threads thread) steps).1
        threads := Function.update state.threads thread
          (runs state.shared (state.threads thread) steps).2 } := by
  induction steps generalizing state with
  | zero => simp only [List.replicate_zero, Transition.run_nil, runs, Function.update_eq_self]
  | succ steps ih =>
    rw [List.replicate_succ, Transition.run_cons, ih]
    simp only [step, react, runs, Function.update_self, Function.update_idem]

/-- From an empty list `try_get` returns nothing. -/
theorem runs_empty {shared : Shared ν} (empty : shared.freeListHead = none) :
    runs shared .getting 7 = (shared, .outside none) := by
  simp only [runs, run, empty, loop]

/-- From a head that no thread references `try_get` returns it, and its successor is the head
afterwards. -/
theorem runs_head {shared : Shared ν} {head : ν} (first : shared.freeListHead = some head)
    (refs : (shared.nodes head).freeListRefs = 1) :
    (runs shared .getting 7).2 = .outside (some head) ∧
      (runs shared .getting 7).1.freeListHead = (shared.nodes head).freeListNext ∧
      (runs shared .getting 7).1.lent = Function.update shared.lent head true := by
  have referenced : (1 : UInt32) &&& REFS_MASK ≠ 0 := by decide
  have unmarked : (2 : UInt32) &&& SHOULD_BE_ON_FREELIST = 0 := by decide
  simp [runs, run, first, loop, refs, Shared.withRefs, referenced, unmarked]

/-- In every interleaving, a `try_get` that is called when no thread is in an operation, and that
no other thread disturbs, returns the head and leaves its successor as the head; it returns
nothing only if every node is with a client. -/
theorem try_get_alone {actions : List (Action ι ν)} (few : Fintype.card ι * 2 + 2 < 2 ^ 31)
    (rest : (Transition.run step initial actions).AtRest) (thread : ι) :
    let before := Transition.run step initial actions
    let after := Transition.run step before
      ((thread, .call .try_get) :: List.replicate 7 (thread, .run))
    after.threads thread = .outside before.shared.freeListHead ∧
      (before.shared.freeListHead = none → ∀ node, before.shared.lent node = true) ∧
      ∀ head, before.shared.freeListHead = some head →
        before.shared.lent head = false ∧
          after.shared.lent = Function.update before.shared.lent head true ∧
          after.shared.freeListHead = (before.shared.nodes head).freeListNext := by
  intro before after
  obtain ⟨list, sound⟩ : ∃ list, Sound list before := sound_run few actions
  obtain ⟨got, outside⟩ := rest thread
  have called : step before (thread, .call .try_get) =
      { before with threads := Function.update before.threads thread .getting } := by
    simp only [step, before, outside, react]
  have alone : after =
      { shared := (runs before.shared .getting 7).1
        threads := Function.update before.threads thread (runs before.shared .getting 7).2 } := by
    simp only [after, Transition.run_cons, called, run_alone, Function.update_self,
      Function.update_idem]
  rw [alone]
  dsimp only
  rw [Function.update_self]
  cases first : before.shared.freeListHead with
  | none =>
    rw [runs_empty first]
    have empty : list = [] := List.head?_eq_none_iff.mp (sound.head.symm.trans first)
    refine ⟨rfl, fun _ node => ?_, fun head other => by cases other⟩
    have listed := (sound.at_rest rest node).1
    rw [empty, iff_false_left List.not_mem_nil] at listed
    exact Bool.eq_true_of_not_eq_false listed
  | some head =>
    have inside : head ∈ list := List.mem_of_mem_head? (sound.head.symm.trans first)
    obtain ⟨returns, next, lent⟩ := runs_head first ((sound.at_rest rest head).2 inside)
    refine ⟨returns, (fun other => by cases other), fun other same => ?_⟩
    obtain rfl := Option.some.inj same
    exact ⟨(sound.at_rest rest head).1.mp inside, lent, next⟩

/-- Of the two nodes one is left. -/
theorem try_get_alone_one :
    let before := Transition.run step (initial : State (Fin 2) (Fin 2)) (givesTwo 0 1 0 1)
    let after := Transition.run step before ((0, .call .try_get) :: List.replicate 7 (0, .run))
    after.threads 0 = .outside before.shared.freeListHead ∧
      (before.shared.freeListHead = none → ∀ node, before.shared.lent node = true) ∧
      ∀ head, before.shared.freeListHead = some head →
        before.shared.lent head = false ∧
          after.shared.lent = Function.update before.shared.lent head true ∧
          after.shared.freeListHead = (before.shared.nodes head).freeListNext :=
  try_get_alone (by decide) atRest_givesTwo 0

end FreeList

end ApiPack2
