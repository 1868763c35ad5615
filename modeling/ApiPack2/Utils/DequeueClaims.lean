import ApiPack2.Utils.ConcurrentQueue

/-!
# The claims of the dequeues

In every interleaving that is shorter than half the circle of indices no dequeue claims an
index that was not enqueued, each index is claimed by one thread, the claimant finds the
element there, and the n-th claim on a producer delivers the n-th element its thread
enqueued. No assertion of the queue fails on the way.
-/

namespace ApiPack2

namespace ConcurrentQueue

open Tickets (Verdict losses wins Covered)
open Threads (total)

/-- Half of the circle of indices. -/
def halfCircle : Nat := 2 ^ 63

/-- Indices on the first half of the circle are ordered as numbers. -/
theorem circular_less_than_eq {a b : UInt64} (left : a.toNat < halfCircle)
    (right : b.toNat < halfCircle) : circular_less_than a b = decide (a.toNat < b.toNat) := by
  unfold circular_less_than halfCircle at *
  have middle : ((1 : UInt64) <<< 63).toNat = 2 ^ 63 := by decide
  rw [decide_eq_decide, gt_iff_lt, UInt64.lt_iff_toNat_lt, middle, UInt64.toNat_sub]
  omega

/-- The next number on the first half of the circle. -/
theorem toNat_add_one {word : UInt64} (small : word.toNat < halfCircle) :
    (word + 1).toNat = word.toNat + 1 := by
  unfold halfCircle at small
  rw [UInt64.toNat_add]
  have one : (1 : UInt64).toNat = 1 := rfl
  omega

/-- An entry of a history that has grown by one. -/
theorem getElem?_grown {β : Type*} (history : List β) (last entry : β) (number : Nat) :
    (history ++ [last])[number]? = some entry ↔
      history[number]? = some entry ∨ number = history.length ∧ last = entry := by
  rcases Nat.lt_trichotomy number history.length with before | equal | after
  · rw [List.getElem?_append_left before]
    simp [Nat.ne_of_lt before]
  · subst equal
    simp
  · rw [List.getElem?_append_right (Nat.le_of_lt after), List.getElem?_eq_none (Nat.le_of_lt after)]
    have beyond : number - history.length ≠ 0 := by omega
    simp [Nat.ne_of_gt after, beyond]

/-- An entry of a history in which one was replaced. -/
theorem getElem?_replaced {β : Type*} {history : List β} {place : Nat}
    (inside : place < history.length) (replacement entry : β) (number : Nat) :
    (history.set place replacement)[number]? = some entry ↔
      number ≠ place ∧ history[number]? = some entry ∨
        number = place ∧ replacement = entry := by
  by_cases same : number = place
  · subst same
    simp [List.getElem?_set_self inside]
  · rw [List.getElem?_set_ne fun equal => same equal.symm]
    simp [same]

/-- Entries other than the one replaced and its replacement stay where they are. -/
theorem getElem?_replaced_other {β : Type*} {history : List β} {place : Nat}
    {own replacement entry : β} (here : history[place]? = some own) (other : entry ≠ own)
    (new : entry ≠ replacement) (number : Nat) :
    (history.set place replacement)[number]? = some entry ↔ history[number]? = some entry := by
  rw [getElem?_replaced (List.getElem?_eq_some_iff.mp here).1]
  constructor
  · rintro (⟨_, kept⟩ | ⟨_, same⟩)
    · exact kept
    · exact absurd same.symm new
  · intro kept
    refine .inl ⟨fun same => other ?_, kept⟩
    rw [same, here] at kept
    exact (Option.some.inj kept).symm

variable {ι α : Type*}

/-- The element was moved out. -/
def Claim.isDelivered : Claim ι α → Bool
  | .delivered _ => true
  | .held _ => false

/-- The element with the number was moved out. -/
def Producer.isDelivered (producer : Producer ι α) (number : Nat) : Bool :=
  producer.claims[number]?.any Claim.isDelivered

/-- What a cell holds: an element enqueued and not yet delivered, or the next one, constructed
but not yet published. -/
def Producer.content (producer : Producer ι α) (publishing : Option α) (number : Nat) :
    Option α :=
  if producer.isDelivered number then none
  else if number = producer.enqueued.length then publishing
  else producer.enqueued[number]?

/-- What holds of a producer: its counters are those of its history, its tickets are covered by
the elements enqueued, and its cells hold what is not delivered. -/
structure Producer.Sound (producer : Producer ι α) (publishing : Option α) : Prop where
  /-- The tail counts the elements enqueued. -/
  tail : producer.tailIndex.toNat = producer.enqueued.length
  /-- The head counts the claims. -/
  head : producer.headIndex.toNat = producer.claims.length
  /-- The optimistic count counts the tickets. -/
  count : producer.dequeueOptimisticCount.toNat = producer.tickets.length
  /-- The overcommit counts the tickets that are known to have lost. -/
  overcommit : producer.dequeueOvercommit.toNat = losses producer.tickets
  /-- Each win is covered by the elements enqueued. -/
  covered : Covered producer.enqueued.length producer.tickets
  /-- The claims deliver the elements in the order they were enqueued. -/
  delivered : ∀ (number : Nat) (element : α),
    producer.claims[number]? = some (Claim.delivered element) →
      producer.enqueued[number]? = some element
  /-- The cells hold what is not delivered. -/
  cells : ∀ index : UInt64, producer.cells index = producer.content publishing index.toNat

/-- The lengths of the histories of a producer. -/
structure Producer.Within (producer : Producer ι α) (bound : Nat) : Prop where
  /-- The elements enqueued. -/
  enqueued : producer.enqueued.length ≤ bound
  /-- The tickets. -/
  tickets : producer.tickets.length ≤ bound
  /-- The claims. -/
  claims : producer.claims.length ≤ bound

/-- A claim delivers nothing yet. -/
theorem isDelivered_claim (producer : Producer ι α) (headIndex : UInt64) (thread : ι)
    (number : Nat) :
    Producer.isDelivered { producer with
      headIndex := headIndex, claims := producer.claims ++ [.held thread] } number =
        producer.isDelivered number := by
  unfold Producer.isDelivered
  rcases Nat.lt_trichotomy number producer.claims.length with before | last | after
  · rw [List.getElem?_append_left before]
  · subst last
    simp [Claim.isDelivered]
  · have beyond : (producer.claims ++ [Claim.held thread]).length ≤ number := by
      rw [List.length_append]
      exact after
    rw [List.getElem?_eq_none beyond, List.getElem?_eq_none (Nat.le_of_lt after)]

/-- A delivery is that of its number. -/
theorem isDelivered_deliver (producer : Producer ι α) (cells : UInt64 → Option α) {number : Nat}
    (inside : number < producer.claims.length) (element : α) (other : Nat) :
    Producer.isDelivered { producer with
      cells := cells, claims := producer.claims.set number (.delivered element) } other =
        (decide (other = number) || producer.isDelivered other) := by
  unfold Producer.isDelivered
  by_cases same : other = number
  · subst same
    simp [List.getElem?_set_self inside, Claim.isDelivered]
  · rw [List.getElem?_set_ne fun equal => same equal.symm]
    simp [same]

/-- A new producer is sound. -/
theorem sound_empty : (Producer.empty : Producer ι α).Sound none := by
  refine ⟨rfl, rfl, rfl, rfl, Tickets.covered_nil _, ?_, ?_⟩
  · intro number element delivered
    simp [Producer.empty] at delivered
  · intro index
    simp [Producer.empty, Producer.content, Producer.isDelivered]

namespace Producer.Sound

variable {producer : Producer ι α} {publishing : Option α}

/-- A ticket is drawn. -/
theorem draw (sound : producer.Sound publishing) (small : producer.tickets.length < halfCircle)
    (thread : ι) :
    Producer.Sound { producer with
      dequeueOptimisticCount := producer.dequeueOptimisticCount + 1
      tickets := producer.tickets ++ [.drawn thread] } publishing where
  tail := sound.tail
  head := sound.head
  count := by
    rw [toNat_add_one (by rw [sound.count]; exact small), sound.count, List.length_append]
    rfl
  overcommit := by rw [sound.overcommit, Tickets.losses_draw]
  covered := sound.covered.draw thread
  delivered := sound.delivered
  cells := sound.cells

/-- A ticket before the tail, once the tickets known to have lost are subtracted, wins. -/
theorem win (sound : producer.Sound publishing) {number : Nat} {thread : ι}
    (undecided : producer.tickets[number]? = some (.drawn thread))
    (within : number < producer.enqueued.length + losses (producer.tickets.take number)) :
    Producer.Sound { producer with tickets := producer.tickets.set number .won } publishing where
  tail := sound.tail
  head := sound.head
  count := by rw [sound.count, List.length_set]
  overcommit := by rw [sound.overcommit, Tickets.losses_win undecided]
  covered := sound.covered.win undecided within
  delivered := sound.delivered
  cells := sound.cells

/-- A ticket that has failed is counted. -/
theorem lose (sound : producer.Sound publishing) (small : producer.tickets.length < halfCircle)
    {number : Nat} {thread : ι} (undecided : producer.tickets[number]? = some (.drawn thread)) :
    Producer.Sound { producer with
      dequeueOvercommit := producer.dequeueOvercommit + 1
      tickets := producer.tickets.set number .lost } publishing where
  tail := sound.tail
  head := sound.head
  count := by rw [sound.count, List.length_set]
  overcommit := by
    have few := Tickets.wins_add_losses_le producer.tickets
    rw [toNat_add_one (by rw [sound.overcommit]; omega), sound.overcommit,
      Tickets.losses_lose undecided]
  covered := sound.covered.lose undecided
  delivered := sound.delivered
  cells := sound.cells

/-- The next index is claimed. -/
theorem claim (sound : producer.Sound publishing) (small : producer.claims.length < halfCircle)
    (thread : ι) :
    Producer.Sound { producer with
      headIndex := producer.headIndex + 1
      claims := producer.claims ++ [.held thread] } publishing where
  tail := sound.tail
  head := by
    rw [toNat_add_one (by rw [sound.head]; exact small), sound.head, List.length_append]
    rfl
  count := sound.count
  overcommit := sound.overcommit
  covered := sound.covered
  delivered := by
    intro number element delivered
    rcases Nat.lt_or_ge number producer.claims.length with before | after
    · rw [List.getElem?_append_left before] at delivered
      exact sound.delivered number element delivered
    · rw [List.getElem?_append_right after] at delivered
      obtain ⟨_, held⟩ := List.getElem?_eq_some_iff.mp delivered
      simp at held
  cells := by
    intro index
    rw [sound.cells index, Producer.content, Producer.content, isDelivered_claim]

/-- What was delivered was enqueued. -/
theorem lt_of_isDelivered (sound : producer.Sound publishing) {number : Nat}
    (delivered : producer.isDelivered number = true) : number < producer.enqueued.length := by
  unfold Producer.isDelivered at delivered
  cases claimed : producer.claims[number]? with
  | none => simp [claimed] at delivered
  | some claim =>
    cases claim with
    | held owner => simp [claimed, Claim.isDelivered] at delivered
    | delivered element =>
      exact (List.getElem?_eq_some_iff.mp (sound.delivered number element claimed)).1

/-- An index that is held and was enqueued has its element. -/
theorem cells_held (sound : producer.Sound publishing) {index : UInt64} {thread : ι}
    (held : producer.claims[index.toNat]? = some (.held thread))
    (inside : index.toNat < producer.enqueued.length) :
    producer.cells index = producer.enqueued[index.toNat]? := by
  have here : producer.isDelivered index.toNat = false := by
    simp [Producer.isDelivered, held, Claim.isDelivered]
  rw [sound.cells index, Producer.content, here, if_neg Bool.false_ne_true,
    if_neg (Nat.ne_of_lt inside)]

/-- The element of a claim is moved out. -/
theorem deliver (sound : producer.Sound publishing) {index : UInt64} {thread : ι} {element : α}
    (held : producer.claims[index.toNat]? = some (.held thread))
    (inside : index.toNat < producer.enqueued.length)
    (found : producer.cells index = some element) :
    Producer.Sound { producer with
      cells := Function.update producer.cells index none
      claims := producer.claims.set index.toNat (.delivered element) } publishing where
  tail := sound.tail
  head := by rw [sound.head, List.length_set]
  count := sound.count
  overcommit := sound.overcommit
  covered := sound.covered
  delivered := by
    intro number other delivered
    by_cases same : number = index.toNat
    · subst same
      rw [List.getElem?_set_self (List.getElem?_eq_some_iff.mp held).1] at delivered
      cases delivered
      rw [← sound.cells_held held inside, found]
    · rw [List.getElem?_set_ne fun equal => same equal.symm] at delivered
      exact sound.delivered number other delivered
  cells := by
    intro other
    have kept := sound.cells other
    unfold Producer.content at kept ⊢
    rw [isDelivered_deliver _ _ (List.getElem?_eq_some_iff.mp held).1]
    by_cases same : other = index
    · subst same
      rw [decide_eq_true rfl, Bool.true_or, if_pos rfl]
      exact Function.update_self ..
    · have apart : other.toNat ≠ index.toNat := fun equal => same (UInt64.toNat_inj.mp equal)
      rw [decide_eq_false apart, Bool.false_or]
      exact (Function.update_of_ne same ..).trans kept

/-- The cell of the next index is free. -/
theorem cells_tail (sound : producer.Sound none) : producer.cells producer.tailIndex = none := by
  rw [sound.cells, Producer.content, sound.tail]
  simp

/-- The next element is constructed. -/
theorem construct (sound : producer.Sound none) (element : α) :
    Producer.Sound { producer with
      cells := Function.update producer.cells producer.tailIndex (some element) }
      (some element) where
  tail := sound.tail
  head := sound.head
  count := sound.count
  overcommit := sound.overcommit
  covered := sound.covered
  delivered := sound.delivered
  cells := by
    intro index
    have free : producer.isDelivered producer.enqueued.length = false := by
      by_contra delivered
      have inside := sound.lt_of_isDelivered (Bool.eq_true_of_not_eq_false delivered)
      omega
    have kept := sound.cells index
    unfold Producer.content at kept ⊢
    by_cases same : index = producer.tailIndex
    · subst same
      rw [sound.tail, if_pos rfl]
      have delivers : ¬Producer.isDelivered { producer with
          cells := Function.update producer.cells producer.tailIndex (some element) }
          producer.enqueued.length = true := fun delivered =>
        Bool.false_ne_true (free.symm.trans delivered)
      rw [if_neg delivers]
      exact Function.update_self ..
    · have apart : index.toNat ≠ producer.enqueued.length := by
        rw [← sound.tail]
        exact fun equal => same (UInt64.toNat_inj.mp equal)
      rw [if_neg apart] at kept ⊢
      exact (Function.update_of_ne same ..).trans kept

/-- The tail moves past the element constructed. -/
theorem publish {element : α} (sound : producer.Sound (some element))
    (small : producer.enqueued.length < halfCircle) :
    Producer.Sound { producer with
      tailIndex := 1 + producer.tailIndex
      enqueued := producer.enqueued ++ [element] } none where
  tail := by
    rw [UInt64.add_comm, toNat_add_one (by rw [sound.tail]; exact small), sound.tail,
      List.length_append]
    rfl
  head := sound.head
  count := sound.count
  overcommit := sound.overcommit
  covered := sound.covered.mono (by simp)
  delivered := by
    intro number other delivered
    have before := sound.delivered number other delivered
    rw [List.getElem?_append_left (List.getElem?_eq_some_iff.mp before).1]
    exact before
  cells := by
    intro index
    have kept := sound.cells index
    unfold Producer.content at kept ⊢
    rw [kept]
    refine ite_congr rfl (fun _ => rfl) fun _ => ?_
    rw [List.length_append, List.length_singleton]
    rcases Nat.lt_trichotomy index.toNat producer.enqueued.length with before | last | after
    · rw [if_neg (Nat.ne_of_lt before), if_neg (by omega), List.getElem?_append_left before]
    · rw [if_pos last, if_neg (by omega), last, List.getElem?_append_right (Nat.le_refl _),
        Nat.sub_self]
      rfl
    · have beyond : (producer.enqueued ++ [element])[index.toNat]? = none := by
        rw [List.getElem?_eq_none]
        rw [List.length_append]
        exact after
      rw [if_neg (Nat.ne_of_gt after), List.getElem?_eq_none (Nat.le_of_lt after), beyond,
        ite_self]

end Producer.Sound

/-- The element a thread has constructed and not yet published. -/
def Thread.publishes : Thread ι α → Option α
  | .publishing element _ => some element
  | _ => none

/-- The ticket a thread has drawn and not decided, by its producer and number. -/
def Thread.ticket : Thread ι α → Option (ι × Nat)
  | .counted attempt _ myDequeueCount | .overcommitting attempt myDequeueCount =>
    some (attempt.producer, myDequeueCount.toNat)
  | _ => none

/-- The index a thread has claimed and not emptied, by its producer and number. -/
def Thread.holding : Thread ι α → Option (ι × Nat)
  | .claimed attempt index => some (attempt.producer, index.toNat)
  | _ => none

/-- What a thread knows of the producer it is at. -/
def Thread.Sound (thread : ι) (producer : Producer ι α) : Thread ι α → Prop
  | .checking _ currentTailIndex | .allocating _ currentTailIndex
  | .constructing _ currentTailIndex | .publishing _ currentTailIndex =>
    currentTailIndex = producer.tailIndex
  | .scanning _ _ nonEmptyCount best bestSize | .sizing _ _ _ nonEmptyCount best bestSize =>
    (nonEmptyCount > 0 ∨ bestSize > 0) → best.isSome
  | .overcommitLoaded _ _ overcommit | .counting _ overcommit =>
    overcommit.toNat ≤ losses producer.tickets
  | .counted _ overcommit myDequeueCount =>
    producer.tickets[myDequeueCount.toNat]? = some (.drawn thread) ∧
      overcommit.toNat ≤ losses (producer.tickets.take myDequeueCount.toNat)
  | .overcommitting _ myDequeueCount =>
    producer.tickets[myDequeueCount.toNat]? = some (.drawn thread)
  | .claimed _ index => producer.claims[index.toNat]? = some (.held thread)
  | .broken => False
  | _ => True

/-- What a step of a thread leaves of a producer as the other threads know it. -/
structure Producer.Keeps (thread owner : ι) (before after : Producer ι α) : Prop where
  /-- Only its owner moves the tail. -/
  tail : owner ≠ thread → after.tailIndex = before.tailIndex
  /-- Losses stay losses. -/
  losses : losses before.tickets ≤ losses after.tickets
  /-- Also among the first tickets. -/
  known : ∀ first ≤ before.tickets.length,
    Tickets.losses (before.tickets.take first) ≤ Tickets.losses (after.tickets.take first)
  /-- The others' tickets stay undecided. -/
  drawn : ∀ (number : Nat) (other : ι), other ≠ thread →
    (after.tickets[number]? = some (.drawn other) ↔ before.tickets[number]? = some (.drawn other))
  /-- The others' indices stay theirs. -/
  held : ∀ (number : Nat) (other : ι), other ≠ thread →
    (after.claims[number]? = some (.held other) ↔ before.claims[number]? = some (.held other))

/-- A step that leaves the producer as it is. -/
theorem Producer.Keeps.refl (thread owner : ι) (producer : Producer ι α) :
    Producer.Keeps thread owner producer producer :=
  ⟨fun _ => rfl, Nat.le_refl _, fun _ _ => Nat.le_refl _, fun _ _ _ => Iff.rfl,
    fun _ _ _ => Iff.rfl⟩

/-- What another thread knows of a producer stays true. -/
theorem Thread.Sound.keeps {thread owner other : ι} {before after : Producer ι α}
    {stands : Thread ι α} (sound : stands.Sound other before) (different : other ≠ thread)
    (keeps : Producer.Keeps thread owner before after)
    (owns : stands.target other = owner) : stands.Sound other after := by
  cases stands with
  | checking | allocating | constructing | publishing =>
    have moved : owner ≠ thread := fun equal => different (owns.trans equal)
    exact Eq.trans sound (keeps.tail moved).symm
  | overcommitLoaded | counting => exact Nat.le_trans sound keeps.losses
  | counted attempt overcommit myDequeueCount =>
    obtain ⟨drawn, known⟩ := sound
    have inside := (List.getElem?_eq_some_iff.mp drawn).1
    exact ⟨(keeps.drawn _ _ different).mpr drawn,
      Nat.le_trans known (keeps.known _ (Nat.le_of_lt inside))⟩
  | overcommitting attempt myDequeueCount => exact (keeps.drawn _ _ different).mpr sound
  | claimed attempt index => exact (keeps.held _ _ different).mpr sound
  | _ => exact sound

variable [DecidableEq ι]

/-- Whether a thread has won a ticket of a producer and not yet claimed an index. -/
def Thread.claims (owner : ι) : Thread ι α → Nat
  | .claiming attempt => if attempt.producer = owner then 1 else 0
  | _ => 0

/-- What a step of a thread needs of the producer it is at. -/
structure Ready (thread owner : ι) (before : Producer ι α) (stands : Thread ι α)
    (publishing : Option α) (bound : Nat) : Prop where
  /-- The producer is sound. -/
  sound : before.Sound (if owner = thread then stands.publishes else publishing)
  /-- The thread knows what it needs. -/
  knows : stands.Sound thread before
  /-- The tickets of the thread. -/
  tickets : ∀ number : Nat, before.tickets[number]? = some (.drawn thread) →
    stands.ticket = some (owner, number)
  /-- The index of the thread. -/
  held : ∀ number : Nat, before.claims[number]? = some (.held thread) →
    stands.holding = some (owner, number)
  /-- Who claims has won. -/
  enough : before.claims.length + stands.claims owner ≤ wins before.tickets
  /-- The histories are shorter than half the circle. -/
  within : before.Within bound
  /-- The bound on their lengths. -/
  small : bound < halfCircle

/-- What a step of a thread does to the producer it is at. -/
structure Reaction (thread owner : ι) (before after : Producer ι α) (stands next : Thread ι α)
    (publishing : Option α) (bound : Nat) : Prop where
  /-- The producer stays sound. -/
  sound : after.Sound (if owner = thread then next.publishes else publishing)
  /-- The other threads notice nothing that they rely on. -/
  keeps : Producer.Keeps thread owner before after
  /-- The thread knows what it needs next. -/
  knows : ∀ producer, (next.target thread = owner → producer = after) →
    next.Sound thread producer
  /-- The tickets of the thread. -/
  tickets : ∀ number : Nat, after.tickets[number]? = some (.drawn thread) →
    next.ticket = some (owner, number)
  /-- The index of the thread. -/
  held : ∀ number : Nat, after.claims[number]? = some (.held thread) →
    next.holding = some (owner, number)
  /-- Wins are claimed one by one. -/
  claims : after.claims.length + next.claims owner + wins before.tickets =
    before.claims.length + stands.claims owner + wins after.tickets
  /-- On other producers nothing is won or claimed. -/
  elsewhere : ∀ other ≠ owner, next.claims other = stands.claims other
  /-- Only on its own producer does the thread publish. -/
  silent : owner ≠ thread → next.publishes = stands.publishes
  /-- The histories grow by one at most. -/
  within : after.Within (bound + 1)

/-- The thread has neither a ticket nor an index, and is about to publish nothing. -/
structure Thread.Quiet (stands : Thread ι α) : Prop where
  /-- No element. -/
  publishes : stands.publishes = none
  /-- No ticket. -/
  ticket : stands.ticket = none
  /-- No index. -/
  holding : stands.holding = none
  /-- No win. -/
  claims : ∀ owner, stands.claims owner = 0

omit [DecidableEq ι] in
/-- A bound is one on longer histories. -/
theorem Producer.Within.succ {producer : Producer ι α} {bound : Nat}
    (within : producer.Within bound) : producer.Within (bound + 1) :=
  ⟨Nat.le_succ_of_le within.enqueued, Nat.le_succ_of_le within.tickets,
    Nat.le_succ_of_le within.claims⟩

variable {thread owner : ι} {before : Producer ι α} {stands next : Thread ι α}
  {publishing : Option α} {bound : Nat}

/-- A step that only reads. -/
theorem Reaction.reads (ready : Ready thread owner before stands publishing bound)
    (publishes : next.publishes = stands.publishes) (ticket : next.ticket = stands.ticket)
    (holding : next.holding = stands.holding)
    (claims : ∀ owner, next.claims owner = stands.claims owner)
    (knows : ∀ producer, (next.target thread = owner → producer = before) →
      next.Sound thread producer) :
    Reaction thread owner before before stands next publishing bound where
  sound := by
    rw [publishes]
    exact ready.sound
  keeps := .refl thread owner before
  knows := knows
  tickets := by
    rw [ticket]
    exact ready.tickets
  held := by
    rw [holding]
    exact ready.held
  claims := by rw [claims]
  elsewhere := fun other _ => claims other
  silent := fun _ => publishes
  within := ready.within.succ

/-- A step from one quiet place to another that only reads. -/
theorem Reaction.quiet (ready : Ready thread owner before stands publishing bound)
    (quiet : stands.Quiet) (stays : next.Quiet)
    (knows : ∀ producer, (next.target thread = owner → producer = before) →
      next.Sound thread producer) :
    Reaction thread owner before before stands next publishing bound :=
  .reads ready (stays.publishes.trans quiet.publishes.symm) (stays.ticket.trans quiet.ticket.symm)
    (stays.holding.trans quiet.holding.symm)
    (fun owner => (stays.claims owner).trans (quiet.claims owner).symm) knows

/-- Where the loop over the other producers leads. -/
theorem others_cases (best : ι) (ptrs : List ι) :
    (others best ptrs : Thread ι α) = .outside (.dequeued none) ∨
      ∃ attempt, (others best ptrs : Thread ι α) = .attempting attempt := by
  induction ptrs with
  | nil => exact .inl rfl
  | cons ptr rest ih =>
    unfold others
    split
    · exact .inr ⟨_, rfl⟩
    · exact ih

/-- Where a failed attempt leads. -/
theorem failed_cases (attempt : Attempt ι) :
    (attempt.failed : Thread ι α) = .outside (.dequeued none) ∨
      (∃ best, (attempt.failed : Thread ι α) = .reloading best) ∨
      ∃ next, (attempt.failed : Thread ι α) = .attempting next := by
  unfold Attempt.failed
  split
  · exact .inr (.inl ⟨_, rfl⟩)
  · rcases others_cases (α := α) attempt.best _ with ends | ⟨next, tries⟩
    · exact .inl ends
    · exact .inr (.inr ⟨next, tries⟩)

omit [DecidableEq ι] in
/-- Where the scan leads, if it remembers a best producer once it has seen one that is not
empty. -/
theorem scan_cases (ptrs : List ι) {nonEmptyCount : Nat} {best : Option ι} {bestSize : UInt64}
    (remembers : (nonEmptyCount > 0 ∨ bestSize > 0) → best.isSome) :
    (scan ptrs nonEmptyCount best bestSize : Thread ι α) = .outside (.dequeued none) ∨
      (∃ attempt, (scan ptrs nonEmptyCount best bestSize : Thread ι α) = .attempting attempt) ∨
      ∃ ptr rest, (scan ptrs nonEmptyCount best bestSize : Thread ι α) =
        .scanning ptr rest nonEmptyCount best bestSize := by
  have tries : (tryBest nonEmptyCount best : Thread ι α) = .outside (.dequeued none) ∨
      ∃ attempt, (tryBest nonEmptyCount best : Thread ι α) = .attempting attempt := by
    unfold tryBest
    split
    · rename_i seen
      obtain ⟨ptr, known⟩ := Option.isSome_iff_exists.mp (remembers (.inl seen))
      subst known
      exact .inr ⟨_, rfl⟩
    · exact .inl rfl
  cases ptrs with
  | nil => exact tries.imp id .inl
  | cons ptr rest =>
    by_cases few : nonEmptyCount < 3
    · rw [scan, if_pos few]
      exact .inr (.inr ⟨ptr, rest, rfl⟩)
    · rw [scan, if_neg few]
      exact tries.imp id .inl

/-- A step that only reads and goes on with the scan. -/
theorem Reaction.scans (ready : Ready thread owner before stands publishing bound)
    (quiet : stands.Quiet) (ptrs : List ι) {nonEmptyCount : Nat} {best : Option ι}
    {bestSize : UInt64} (remembers : (nonEmptyCount > 0 ∨ bestSize > 0) → best.isSome) :
    Reaction thread owner before before stands (scan ptrs nonEmptyCount best bestSize) publishing
      bound := by
  rcases scan_cases (α := α) ptrs remembers with ends | ⟨attempt, tries⟩ | ⟨ptr, rest, scans⟩
  · rw [ends]
    exact .quiet ready quiet ⟨rfl, rfl, rfl, fun _ => rfl⟩ fun _ _ => trivial
  · rw [tries]
    exact .quiet ready quiet ⟨rfl, rfl, rfl, fun _ => rfl⟩ fun _ _ => trivial
  · rw [scans]
    exact .quiet ready quiet ⟨rfl, rfl, rfl, fun _ => rfl⟩ fun _ _ => remembers

/-- Where a failed attempt leads is a quiet place, and the thread need know nothing there. -/
theorem failed_quiet (attempt : Attempt ι) :
    (attempt.failed : Thread ι α).Quiet ∧
      ∀ (thread : ι) (producer : Producer ι α), (attempt.failed : Thread ι α).Sound thread
        producer := by
  rcases failed_cases (α := α) attempt with ends | ⟨best, reloads⟩ | ⟨next, tries⟩
  · rw [ends]
    exact ⟨⟨rfl, rfl, rfl, fun _ => rfl⟩, fun _ _ => trivial⟩
  · rw [reloads]
    exact ⟨⟨rfl, rfl, rfl, fun _ => rfl⟩, fun _ _ => trivial⟩
  · rw [tries]
    exact ⟨⟨rfl, rfl, rfl, fun _ => rfl⟩, fun _ _ => trivial⟩

/-- The increment of the optimistic count draws a ticket, and the count is no less than the
overcommit that was read. -/
theorem counting_reaction (attempt : Attempt ι) (overcommit : UInt64) (list : List ι)
    (ready : Ready thread attempt.producer before (.counting attempt overcommit) publishing
      bound) :
    Reaction thread attempt.producer before
      (run thread list before (.counting attempt overcommit)).1 (.counting attempt overcommit)
      (run thread list before (.counting attempt overcommit)).2 publishing bound := by
  have sound := ready.sound
  have known : overcommit.toNat ≤ losses before.tickets := ready.knows
  have few := Tickets.wins_add_losses_le before.tickets
  have tickets := ready.within.tickets
  have small := ready.small
  have ordered : overcommit ≤ before.dequeueOptimisticCount := by
    rw [UInt64.le_iff_toNat_le, sound.count]
    omega
  simp only [run, if_pos ordered]
  exact {
    sound := sound.draw (by omega) thread
    keeps := {
      tail := fun _ => rfl
      losses := by rw [Tickets.losses_draw]
      known := fun first inside => by rw [Tickets.losses_take_draw first inside]
      drawn := fun number other different => by
        rw [getElem?_grown]
        refine ⟨fun either => either.resolve_right fun last => ?_, .inl⟩
        exact different (Verdict.drawn.inj last.2).symm
      held := fun _ _ _ => Iff.rfl }
    knows := fun producer same => by
      rw [same rfl]
      refine ⟨(getElem?_grown _ _ _ _).mpr (.inr ⟨sound.count, rfl⟩), ?_⟩
      rw [sound.count, List.take_left]
      exact known
    tickets := fun number drawn => by
      rcases (getElem?_grown _ _ _ _).mp drawn with earlier | last
      · cases ready.tickets number earlier
      · rw [Thread.ticket, sound.count, last.1]
    held := fun number held => by cases ready.held number held
    claims := by
      rw [Tickets.wins_draw]
      rfl
    elsewhere := fun _ _ => rfl
    silent := fun _ => rfl
    within := {
      enqueued := Nat.le_succ_of_le ready.within.enqueued
      tickets := by
        rw [List.length_append]
        exact Nat.succ_le_succ tickets
      claims := Nat.le_succ_of_le ready.within.claims } }

/-- The ticket is compared with the tail: it wins if it lies before it once the tickets known to
have failed are subtracted. -/
theorem counted_reaction (attempt : Attempt ι) (overcommit myDequeueCount : UInt64)
    (list : List ι)
    (ready : Ready thread attempt.producer before (.counted attempt overcommit myDequeueCount)
      publishing bound) :
    Reaction thread attempt.producer before
      (run thread list before (.counted attempt overcommit myDequeueCount)).1
      (.counted attempt overcommit myDequeueCount)
      (run thread list before (.counted attempt overcommit myDequeueCount)).2 publishing
      bound := by
  have sound := ready.sound
  obtain ⟨drawn, known⟩ := ready.knows
  have inside := (List.getElem?_eq_some_iff.mp drawn).1
  have few := Tickets.wins_add_losses_le (before.tickets.take myDequeueCount.toNat)
  have shorter : (before.tickets.take myDequeueCount.toNat).length ≤ myDequeueCount.toNat :=
    List.length_take_le _ _
  have tickets := ready.within.tickets
  have enqueued := ready.within.enqueued
  have small := ready.small
  have difference : (myDequeueCount - overcommit).toNat =
      myDequeueCount.toNat - overcommit.toNat := by
    refine UInt64.toNat_sub_of_le _ _ ?_
    rw [UInt64.le_iff_toNat_le]
    omega
  have compared : circular_less_than (myDequeueCount - overcommit) before.tailIndex =
      decide (myDequeueCount.toNat - overcommit.toNat < before.enqueued.length) := by
    have left : (myDequeueCount - overcommit).toNat < halfCircle := by omega
    have right : before.tailIndex.toNat < halfCircle := by
      rw [sound.tail]
      omega
    rw [circular_less_than_eq left right, difference, sound.tail]
  simp only [run, compared, decide_eq_true_eq]
  split
  · rename_i before_tail
    exact {
      sound := sound.win drawn (by omega)
      keeps := {
        tail := fun _ => rfl
        losses := by rw [Tickets.losses_win drawn]
        known := fun first _ => Tickets.losses_take_le_set drawn .won first
        drawn := fun number other different =>
          getElem?_replaced_other drawn (fun same => different (Verdict.drawn.inj same))
            (by simp) number
        held := fun _ _ _ => Iff.rfl }
      knows := fun _ _ => trivial
      tickets := fun number undecided => by
        rcases (getElem?_replaced inside _ _ _).mp undecided with ⟨other, kept⟩ | ⟨_, none⟩
        · cases ready.tickets number kept
          exact absurd rfl other
        · cases none
      held := fun number held => by cases ready.held number held
      claims := by
        rw [Tickets.wins_win drawn]
        simp only [Thread.claims, if_pos]
        omega
      elsewhere := fun other different => by simp [Thread.claims, different.symm]
      silent := fun _ => rfl
      within := {
        enqueued := Nat.le_succ_of_le enqueued
        tickets := by
          rw [List.length_set]
          exact Nat.le_succ_of_le tickets
        claims := Nat.le_succ_of_le ready.within.claims } }
  · exact .reads ready rfl rfl rfl (fun _ => rfl) fun producer same => by
      rw [same rfl]
      exact drawn

/-- The increment of the overcommit counts a ticket as lost. -/
theorem overcommitting_reaction (attempt : Attempt ι) (myDequeueCount : UInt64) (list : List ι)
    (ready : Ready thread attempt.producer before (.overcommitting attempt myDequeueCount)
      publishing bound) :
    Reaction thread attempt.producer before
      (run thread list before (.overcommitting attempt myDequeueCount)).1
      (.overcommitting attempt myDequeueCount)
      (run thread list before (.overcommitting attempt myDequeueCount)).2 publishing bound := by
  have sound := ready.sound
  have drawn : before.tickets[myDequeueCount.toNat]? = some (.drawn thread) := ready.knows
  have inside := (List.getElem?_eq_some_iff.mp drawn).1
  have tickets := ready.within.tickets
  have small := ready.small
  obtain ⟨quiet, knows⟩ := failed_quiet (α := α) attempt
  exact {
    sound := by
      rw [show (run thread list before (.overcommitting attempt myDequeueCount)).2.publishes =
        none from quiet.publishes]
      exact sound.lose (by omega) drawn
    keeps := {
      tail := fun _ => rfl
      losses := by
        simp only [run, Tickets.losses_lose drawn]
        omega
      known := fun first _ => Tickets.losses_take_le_set drawn .lost first
      drawn := fun number other different =>
        getElem?_replaced_other drawn (fun same => different (Verdict.drawn.inj same))
          (by simp) number
      held := fun _ _ _ => Iff.rfl }
    knows := fun producer _ => knows thread producer
    tickets := fun number undecided => by
      rcases (getElem?_replaced inside _ _ _).mp undecided with ⟨other, kept⟩ | ⟨_, none⟩
      · cases ready.tickets number kept
        exact absurd rfl other
      · cases none
    held := fun number held => by cases ready.held number held
    claims := by
      rw [show (run thread list before (.overcommitting attempt myDequeueCount)).2.claims
        attempt.producer = 0 from quiet.claims attempt.producer]
      simp only [run, Tickets.wins_lose drawn, Thread.claims]
    elsewhere := fun other _ => quiet.claims other
    silent := fun _ => quiet.publishes
    within := {
      enqueued := Nat.le_succ_of_le ready.within.enqueued
      tickets := by
        simp only [run, List.length_set]
        exact Nat.le_succ_of_le tickets
      claims := Nat.le_succ_of_le ready.within.claims } }

/-- The increment of the head claims an index. -/
theorem claiming_reaction (attempt : Attempt ι) (list : List ι)
    (ready : Ready thread attempt.producer before (.claiming attempt) publishing bound) :
    Reaction thread attempt.producer before (run thread list before (.claiming attempt)).1
      (.claiming attempt) (run thread list before (.claiming attempt)).2 publishing bound := by
  have sound := ready.sound
  have claims := ready.within.claims
  have small := ready.small
  exact {
    sound := sound.claim (by omega) thread
    keeps := {
      tail := fun _ => rfl
      losses := Nat.le_refl _
      known := fun _ _ => Nat.le_refl _
      drawn := fun _ _ _ => Iff.rfl
      held := fun number other different => by
        simp only [run]
        rw [getElem?_grown]
        refine ⟨fun either => either.resolve_right fun last => ?_, .inl⟩
        exact different (Claim.held.inj last.2).symm }
    knows := fun producer same => by
      rw [same rfl]
      exact (getElem?_grown _ _ _ _).mpr (.inr ⟨sound.head, rfl⟩)
    tickets := fun number undecided => by cases ready.tickets number undecided
    held := fun number held => by
      rcases (getElem?_grown _ _ _ _).mp held with earlier | last
      · cases ready.held number earlier
      · simp only [run, Thread.holding, sound.head, last.1]
    claims := by simp [run, Thread.claims]
    elsewhere := fun other different => by simp [run, Thread.claims, different.symm]
    silent := fun _ => rfl
    within := {
      enqueued := Nat.le_succ_of_le ready.within.enqueued
      tickets := Nat.le_succ_of_le ready.within.tickets
      claims := by
        simp only [run, List.length_append, List.length_singleton]
        exact Nat.succ_le_succ claims } }

/-- The index claimed was enqueued, and its element is moved out. -/
theorem claimed_reaction (attempt : Attempt ι) (index : UInt64) (list : List ι)
    (ready : Ready thread attempt.producer before (.claimed attempt index) publishing bound) :
    Reaction thread attempt.producer before (run thread list before (.claimed attempt index)).1
      (.claimed attempt index) (run thread list before (.claimed attempt index)).2 publishing
      bound := by
  have sound := ready.sound
  have held : before.claims[index.toNat]? = some (.held thread) := ready.knows
  have claimed := (List.getElem?_eq_some_iff.mp held).1
  have wins := sound.covered.wins_le
  have enough := ready.enough
  have inside : index.toNat < before.enqueued.length := by omega
  have found := sound.cells_held held inside
  rw [List.getElem?_eq_getElem inside] at found
  simp only [run, found]
  exact {
    sound := sound.deliver held inside found
    keeps := {
      tail := fun _ => rfl
      losses := Nat.le_refl _
      known := fun _ _ => Nat.le_refl _
      drawn := fun _ _ _ => Iff.rfl
      held := fun number other different =>
        getElem?_replaced_other held (fun same => different (Claim.held.inj same))
          (by simp) number }
    knows := fun _ _ => trivial
    tickets := fun number undecided => by cases ready.tickets number undecided
    held := fun number still => by
      rcases (getElem?_replaced claimed _ _ _).mp still with ⟨other, kept⟩ | ⟨_, none⟩
      · cases ready.held number kept
        exact absurd rfl other
      · cases none
    claims := by simp [Thread.claims]
    elsewhere := fun _ _ => rfl
    silent := fun _ => rfl
    within := {
      enqueued := Nat.le_succ_of_le ready.within.enqueued
      tickets := Nat.le_succ_of_le ready.within.tickets
      claims := by
        rw [List.length_set]
        exact Nat.le_succ_of_le ready.within.claims } }

/-- The cell of the next index is free, and the element is constructed there. -/
theorem constructing_reaction (element : α) (currentTailIndex : UInt64) (list : List ι)
    (ready : Ready thread thread before (.constructing element currentTailIndex) publishing
      bound) :
    Reaction thread thread before
      (run thread list before (.constructing element currentTailIndex)).1
      (.constructing element currentTailIndex)
      (run thread list before (.constructing element currentTailIndex)).2 publishing bound := by
  have sound := ready.sound
  rw [if_pos rfl] at sound
  have current : currentTailIndex = before.tailIndex := ready.knows
  subst current
  simp only [run, sound.cells_tail]
  exact {
    sound := by
      rw [if_pos rfl]
      exact sound.construct element
    keeps := {
      tail := fun different => absurd rfl different
      losses := Nat.le_refl _
      known := fun _ _ => Nat.le_refl _
      drawn := fun _ _ _ => Iff.rfl
      held := fun _ _ _ => Iff.rfl }
    knows := fun producer same => by
      rw [same rfl]
      rfl
    tickets := fun number undecided => by cases ready.tickets number undecided
    held := fun number held => by cases ready.held number held
    claims := rfl
    elsewhere := fun _ _ => rfl
    silent := fun different => absurd rfl different
    within := {
      enqueued := Nat.le_succ_of_le ready.within.enqueued
      tickets := Nat.le_succ_of_le ready.within.tickets
      claims := Nat.le_succ_of_le ready.within.claims } }

/-- The tail is stored, and the element is enqueued. -/
theorem publishing_reaction (element : α) (currentTailIndex : UInt64) (list : List ι)
    (ready : Ready thread thread before (.publishing element currentTailIndex) publishing
      bound) :
    Reaction thread thread before
      (run thread list before (.publishing element currentTailIndex)).1
      (.publishing element currentTailIndex)
      (run thread list before (.publishing element currentTailIndex)).2 publishing bound := by
  have sound := ready.sound
  rw [if_pos rfl] at sound
  have current : currentTailIndex = before.tailIndex := ready.knows
  subst current
  have enqueued := ready.within.enqueued
  have small := ready.small
  exact {
    sound := by
      rw [if_pos rfl]
      exact sound.publish (by omega)
    keeps := {
      tail := fun different => absurd rfl different
      losses := Nat.le_refl _
      known := fun _ _ => Nat.le_refl _
      drawn := fun _ _ _ => Iff.rfl
      held := fun _ _ _ => Iff.rfl }
    knows := fun _ _ => trivial
    tickets := fun number undecided => by cases ready.tickets number undecided
    held := fun number held => by cases ready.held number held
    claims := rfl
    elsewhere := fun _ _ => rfl
    silent := fun different => absurd rfl different
    within := {
      enqueued := by
        simp only [run, List.length_append, List.length_singleton]
        exact Nat.succ_le_succ enqueued
      tickets := Nat.le_succ_of_le ready.within.tickets
      claims := Nat.le_succ_of_le ready.within.claims } }

/-- Every atomic operation reacts as it should. -/
theorem run_reaction (list : List ι)
    (ready : Ready thread (stands.target thread) before stands publishing bound) :
    Reaction thread (stands.target thread) before (run thread list before stands).1 stands
      (run thread list before stands).2 publishing bound := by
  cases stands with
  | outside result =>
    exact .quiet ready ⟨rfl, rfl, rfl, fun _ => rfl⟩ ⟨rfl, rfl, rfl, fun _ => rfl⟩
      fun _ _ => trivial
  | enqueuing element =>
    simp only [run]
    split
    · exact .quiet ready ⟨rfl, rfl, rfl, fun _ => rfl⟩ ⟨rfl, rfl, rfl, fun _ => rfl⟩
        fun producer same => congrArg Producer.tailIndex (same rfl).symm
    · exact .quiet ready ⟨rfl, rfl, rfl, fun _ => rfl⟩ ⟨rfl, rfl, rfl, fun _ => rfl⟩
        fun producer same => congrArg Producer.tailIndex (same rfl).symm
  | checking element currentTailIndex =>
    have current : currentTailIndex = before.tailIndex := ready.knows
    have sound := ready.sound
    have wins := sound.covered.wins_le
    have enough := ready.enough
    have enqueued := ready.within.enqueued
    have small := ready.small
    -- the assertion: the head is not past the tail
    have behind : circular_less_than currentTailIndex before.headIndex = false := by
      rw [current, circular_less_than_eq (by rw [sound.tail]; omega) (by rw [sound.head]; omega),
        sound.tail, sound.head]
      exact decide_eq_false (by omega)
    simp only [run, behind, Bool.false_eq_true, if_false]
    split
    · exact .quiet ready ⟨rfl, rfl, rfl, fun _ => rfl⟩ ⟨rfl, rfl, rfl, fun _ => rfl⟩
        fun _ _ => trivial
    · exact .quiet ready ⟨rfl, rfl, rfl, fun _ => rfl⟩ ⟨rfl, rfl, rfl, fun _ => rfl⟩
        fun producer same => (same rfl) ▸ current
  | allocating element currentTailIndex =>
    exact .quiet ready ⟨rfl, rfl, rfl, fun _ => rfl⟩ ⟨rfl, rfl, rfl, fun _ => rfl⟩
      fun producer same => (same rfl) ▸ ready.knows
  | constructing element currentTailIndex =>
    exact constructing_reaction element currentTailIndex list ready
  | publishing element currentTailIndex =>
    exact publishing_reaction element currentTailIndex list ready
  | dequeuing =>
    exact .scans ready ⟨rfl, rfl, rfl, fun _ => rfl⟩ list
      fun seen => by rcases seen with seen | seen <;> exact absurd seen (by decide)
  | scanning ptr rest nonEmptyCount best bestSize =>
    exact .quiet ready ⟨rfl, rfl, rfl, fun _ => rfl⟩ ⟨rfl, rfl, rfl, fun _ => rfl⟩
      fun _ _ => ready.knows
  | sizing ptr tail rest nonEmptyCount best bestSize =>
    simp only [run]
    split
    · rename_i positive
      split
      · exact .scans ready ⟨rfl, rfl, rfl, fun _ => rfl⟩ rest fun _ => rfl
      · rename_i smaller
        have seen : bestSize > 0 := UInt64.lt_of_lt_of_le positive (UInt64.not_lt.mp smaller)
        exact .scans ready ⟨rfl, rfl, rfl, fun _ => rfl⟩ rest fun _ => ready.knows (.inr seen)
    · exact .scans ready ⟨rfl, rfl, rfl, fun _ => rfl⟩ rest ready.knows
  | reloading best =>
    rcases others_cases (α := α) best list with ends | ⟨attempt, tries⟩
    · simp only [run, ends]
      exact .quiet ready ⟨rfl, rfl, rfl, fun _ => rfl⟩ ⟨rfl, rfl, rfl, fun _ => rfl⟩
        fun _ _ => trivial
    · simp only [run, tries]
      exact .quiet ready ⟨rfl, rfl, rfl, fun _ => rfl⟩ ⟨rfl, rfl, rfl, fun _ => rfl⟩
        fun _ _ => trivial
  | attempting attempt =>
    exact .quiet ready ⟨rfl, rfl, rfl, fun _ => rfl⟩ ⟨rfl, rfl, rfl, fun _ => rfl⟩
      fun _ _ => trivial
  | tailLoaded attempt tail =>
    refine .quiet ready ⟨rfl, rfl, rfl, fun _ => rfl⟩ ⟨rfl, rfl, rfl, fun _ => rfl⟩
      fun producer same => ?_
    rw [same rfl]
    exact Nat.le_of_eq ready.sound.overcommit
  | overcommitLoaded attempt tail overcommit =>
    simp only [run]
    split
    · exact .quiet ready ⟨rfl, rfl, rfl, fun _ => rfl⟩ ⟨rfl, rfl, rfl, fun _ => rfl⟩
        fun producer same => (same rfl) ▸ ready.knows
    · obtain ⟨quiet, knows⟩ := failed_quiet (α := α) attempt
      exact .quiet ready ⟨rfl, rfl, rfl, fun _ => rfl⟩ quiet fun producer _ => knows thread producer
  | counting attempt overcommit => exact counting_reaction attempt overcommit list ready
  | counted attempt overcommit myDequeueCount =>
    exact counted_reaction attempt overcommit myDequeueCount list ready
  | claiming attempt => exact claiming_reaction attempt list ready
  | overcommitting attempt myDequeueCount =>
    exact overcommitting_reaction attempt myDequeueCount list ready
  | claimed attempt index => exact claimed_reaction attempt index list ready
  | broken => exact ready.knows.elim

/-- Every event reacts as it should. -/
theorem react_reaction (list : List ι) (event : Event α)
    (ready : Ready thread (stands.target thread) before stands publishing bound) :
    Reaction thread (stands.target thread) before (react thread list before stands event).1
      stands (react thread list before stands event).2 publishing bound := by
  have stays : Reaction thread (stands.target thread) before before stands stands publishing
      bound := .reads ready rfl rfl rfl (fun _ => rfl) fun producer same => by
        rw [same rfl]
        exact ready.knows
  cases event with
  | call operation =>
    cases stands with
    | outside result =>
      cases operation <;>
        exact .quiet ready ⟨rfl, rfl, rfl, fun _ => rfl⟩ ⟨rfl, rfl, rfl, fun _ => rfl⟩
          fun _ _ => trivial
    | _ => exact stays
  | run => exact run_reaction list ready
  | exhausted =>
    cases stands with
    | allocating element currentTailIndex =>
      exact .quiet ready ⟨rfl, rfl, rfl, fun _ => rfl⟩ ⟨rfl, rfl, rfl, fun _ => rfl⟩
        fun _ _ => trivial
    | _ => exact stays

omit [DecidableEq ι] in
/-- A thread that has a ticket is at its producer. -/
theorem target_of_ticket {number : Nat} (ticket : stands.ticket = some (owner, number)) :
    stands.target thread = owner := by
  cases stands with
  | counted | overcommitting => exact (Prod.mk.inj (Option.some.inj ticket)).1
  | _ => cases ticket

omit [DecidableEq ι] in
/-- A thread that holds an index is at its producer. -/
theorem target_of_holding {number : Nat} (holding : stands.holding = some (owner, number)) :
    stands.target thread = owner := by
  cases stands with
  | claimed => exact (Prod.mk.inj (Option.some.inj holding)).1
  | _ => cases holding

variable [Fintype ι]

/-- What holds of a queue in use, with the bound on the histories of its producers. -/
structure Sound (bound : Nat) (state : State ι α) : Prop where
  /-- The producers. -/
  producers : ∀ owner, (state.producers owner).Sound (state.threads owner).publishes
  /-- What the threads know. -/
  threads : ∀ thread, (state.threads thread).Sound thread
    (state.producers ((state.threads thread).target thread))
  /-- An undecided ticket is in the hands of its owner. -/
  tickets : ∀ owner (number : Nat) thread,
    (state.producers owner).tickets[number]? = some (.drawn thread) →
      (state.threads thread).ticket = some (owner, number)
  /-- An index that is held is in the hands of its owner. -/
  held : ∀ owner (number : Nat) thread,
    (state.producers owner).claims[number]? = some (.held thread) →
      (state.threads thread).holding = some (owner, number)
  /-- Each win has claimed an index or is about to. -/
  claims : ∀ owner, (state.producers owner).claims.length +
    total (Thread.claims owner) state.threads = wins (state.producers owner).tickets
  /-- The histories. -/
  within : ∀ owner, (state.producers owner).Within bound

/-- A bound is one on longer histories. -/
theorem Sound.succ {state : State ι α} (sound : Sound bound state) : Sound (bound + 1) state :=
  { sound with within := fun owner => (sound.within owner).succ }

/-- A queue is constructed sound. -/
theorem sound_initial : Sound 0 (initial : State ι α) where
  producers _ := sound_empty
  threads _ := trivial
  tickets owner number thread drawn := by simp [initial, Producer.empty] at drawn
  held owner number thread held := by simp [initial, Producer.empty] at held
  claims owner := by
    have none : total (Thread.claims owner) (initial : State ι α).threads = 0 :=
      Threads.total_eq_zero fun _ => rfl
    rw [none]
    rfl
  within _ := ⟨Nat.le_refl 0, Nat.le_refl 0, Nat.le_refl 0⟩

/-- The producer a thread is at is ready for its step. -/
theorem Sound.ready {state : State ι α} (sound : Sound bound state) (small : bound < halfCircle)
    (thread : ι) :
    Ready thread ((state.threads thread).target thread)
      (state.producers ((state.threads thread).target thread)) (state.threads thread)
      (state.threads ((state.threads thread).target thread)).publishes bound where
  sound := by
    split
    · rename_i own
      rw [own]
      exact sound.producers thread
    · exact sound.producers _
  knows := sound.threads thread
  tickets number drawn := sound.tickets _ number thread drawn
  held number held := sound.held _ number thread held
  enough := by
    have claims := sound.claims ((state.threads thread).target thread)
    have own := Threads.le_total (Thread.claims ((state.threads thread).target thread))
      state.threads thread
    omega
  within := sound.within _
  small := small

/-- A reaction of one thread keeps the queue sound. -/
theorem Sound.reacts {state : State ι α} (sound : Sound bound state) {thread owner : ι}
    {after : Producer ι α} {next : Thread ι α} (list : List ι)
    (at_owner : (state.threads thread).target thread = owner)
    (reaction : Reaction thread owner (state.producers owner) after (state.threads thread) next
      (state.threads owner).publishes bound) :
    Sound (bound + 1)
      { producerListTail := list
        producers := Function.update state.producers owner after
        threads := Function.update state.threads thread next } where
  producers other := by
    dsimp only
    by_cases here : other = owner
    · subst here
      have kept := reaction.sound
      rw [Function.update_self]
      by_cases own : other = thread
      · rw [if_pos own] at kept
        rw [own, Function.update_self]
        exact kept
      · rw [if_neg own] at kept
        rw [Function.update_of_ne own]
        exact kept
    · rw [Function.update_of_ne here]
      by_cases own : other = thread
      · subst own
        rw [Function.update_self, reaction.silent fun equal => here equal.symm]
        exact sound.producers other
      · rw [Function.update_of_ne own]
        exact sound.producers other
  threads other := by
    dsimp only
    by_cases own : other = thread
    · subst own
      rw [Function.update_self]
      exact reaction.knows _ fun same => by rw [same, Function.update_self]
    · rw [Function.update_of_ne own]
      by_cases here : (state.threads other).target other = owner
      · rw [here, Function.update_self]
        have before := sound.threads other
        rw [here] at before
        exact before.keeps own reaction.keeps here
      · rw [Function.update_of_ne here]
        exact sound.threads other
  tickets other number drawer drawn := by
    dsimp only at drawn ⊢
    by_cases own : drawer = thread
    · subst own
      rw [Function.update_self]
      by_cases here : other = owner
      · subst here
        rw [Function.update_self] at drawn
        exact reaction.tickets number drawn
      · rw [Function.update_of_ne here] at drawn
        have ticket := sound.tickets other number drawer drawn
        exact absurd ((target_of_ticket ticket).symm.trans at_owner) here
    · rw [Function.update_of_ne own]
      by_cases here : other = owner
      · subst here
        rw [Function.update_self] at drawn
        exact sound.tickets other number drawer ((reaction.keeps.drawn number drawer own).mp drawn)
      · rw [Function.update_of_ne here] at drawn
        exact sound.tickets other number drawer drawn
  held other number holder held := by
    dsimp only at held ⊢
    by_cases own : holder = thread
    · subst own
      rw [Function.update_self]
      by_cases here : other = owner
      · subst here
        rw [Function.update_self] at held
        exact reaction.held number held
      · rw [Function.update_of_ne here] at held
        have holding := sound.held other number holder held
        exact absurd ((target_of_holding holding).symm.trans at_owner) here
    · rw [Function.update_of_ne own]
      by_cases here : other = owner
      · subst here
        rw [Function.update_self] at held
        exact sound.held other number holder ((reaction.keeps.held number holder own).mp held)
      · rw [Function.update_of_ne here] at held
        exact sound.held other number holder held
  claims other := by
    have before := sound.claims other
    have counted := Threads.total_update (Thread.claims other) state.threads thread next
    dsimp only
    by_cases here : other = owner
    · subst here
      have claims := reaction.claims
      rw [Function.update_self]
      omega
    · have elsewhere := reaction.elsewhere other here
      rw [Function.update_of_ne here]
      omega
  within other := by
    dsimp only
    by_cases here : other = owner
    · subst here
      rw [Function.update_self]
      exact reaction.within
    · rw [Function.update_of_ne here]
      exact (sound.within other).succ

/-- Every step keeps the queue sound. -/
theorem step_sound (state : State ι α) (action : Action ι α) (sound : Sound bound state)
    (small : bound < halfCircle) : Sound (bound + 1) (step state action) :=
  sound.reacts _ rfl
    (react_reaction state.producerListTail action.2 (sound.ready small action.1))

/-- A run shorter than half the circle keeps the queue sound. -/
theorem sound_run {state : State ι α} {actions : List (Action ι α)} (sound : Sound bound state)
    (short : bound + actions.length ≤ halfCircle) :
    Sound (bound + actions.length) (Transition.run step state actions) := by
  induction actions generalizing bound state with
  | nil => exact sound
  | cons action actions ih =>
    rw [List.length_cons] at short ⊢
    have kept := step_sound state action sound (by omega)
    have rest := ih kept (by omega)
    rw [Transition.run_cons]
    rwa [show bound + 1 + actions.length = bound + (actions.length + 1) by omega] at rest

/-- Every queue in use is sound. -/
theorem sound_of_run {actions : List (Action ι α)} (short : actions.length ≤ halfCircle) :
    Sound actions.length (Transition.run step initial actions) := by
  have sound : Sound (0 + actions.length) (Transition.run step initial actions) :=
    sound_run sound_initial (by omega)
  rwa [Nat.zero_add] at sound

/-- The dequeues from a producer deliver its elements in the order they were enqueued, each
once. -/
structure Producer.InOrder (producer : Producer ι α) : Prop where
  /-- No index is claimed before its element is enqueued. -/
  claimed : producer.claims.length ≤ producer.enqueued.length
  /-- The element delivered for an index is the one enqueued there. -/
  delivered : ∀ (number : Nat) (element : α),
    producer.claims[number]? = some (Claim.delivered element) →
      producer.enqueued[number]? = some element

/-- Every producer of a sound queue is dequeued in order. -/
theorem Sound.inOrder {state : State ι α} (sound : Sound bound state) (owner : ι) :
    (state.producers owner).InOrder := by
  have covered := (sound.producers owner).covered.wins_le
  have claims := sound.claims owner
  exact ⟨by omega, (sound.producers owner).delivered⟩

/-- No thread of a sound queue breaks. -/
theorem Sound.alive {state : State ι α} (sound : Sound bound state) (thread : ι) :
    state.threads thread ≠ .broken := by
  intro broken
  have known := sound.threads thread
  rw [broken] at known
  exact known

end ConcurrentQueue

end ApiPack2
