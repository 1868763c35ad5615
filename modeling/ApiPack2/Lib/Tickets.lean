import Mathlib.Data.List.Induction

/-!
# Optimistic tickets

A fixed stock is shared out without a lock: who wants a piece draws the next ticket and
decides alone whether it wins, from the number of the ticket, the losses that were known when
it was drawn, and the stock. Tickets that lose are counted, so that those drawn later may reach
beyond their number. Decisions come in any order and are made from losses that may be out of
date; the wins never exceed the stock.
-/

namespace Tickets

/-- What has become of a ticket. -/
inductive Verdict (ι : Type*)
  /-- Its owner has drawn it and not yet decided. -/
  | drawn (owner : ι)
  /-- It has won. -/
  | won
  /-- It has lost, and is counted as lost. -/
  | lost
  deriving DecidableEq, Repr

variable {ι : Type*}

/-- The ticket has won. -/
def Verdict.isWon : Verdict ι → Bool
  | .won => true
  | _ => false

/-- The ticket has lost. -/
def Verdict.isLost : Verdict ι → Bool
  | .lost => true
  | _ => false

/-- The tickets that have won. -/
def wins (tickets : List (Verdict ι)) : Nat := tickets.countP Verdict.isWon

/-- The tickets that have lost. -/
def losses (tickets : List (Verdict ι)) : Nat := tickets.countP Verdict.isLost

/-- Each ticket that won has a number within the stock, once the losses before it are added. -/
def Covered (stock : Nat) (tickets : List (Verdict ι)) : Prop :=
  ∀ number, tickets[number]? = some .won → number < stock + losses (tickets.take number)

variable {tickets : List (Verdict ι)} {stock number : Nat} {owner : ι}

@[simp]
theorem wins_nil : wins ([] : List (Verdict ι)) = 0 := rfl

@[simp]
theorem losses_nil : losses ([] : List (Verdict ι)) = 0 := rfl

/-- A ticket that is drawn is neither won nor lost. -/
@[simp]
theorem wins_draw (tickets : List (Verdict ι)) (owner : ι) :
    wins (tickets ++ [Verdict.drawn owner]) = wins tickets := by
  simp [wins, Verdict.isWon]

@[simp]
theorem losses_draw (tickets : List (Verdict ι)) (owner : ι) :
    losses (tickets ++ [Verdict.drawn owner]) = losses tickets := by
  simp [losses, Verdict.isLost]

/-- No ticket both wins and loses. -/
theorem wins_add_losses_le (tickets : List (Verdict ι)) :
    wins tickets + losses tickets ≤ tickets.length := by
  induction tickets with
  | nil => exact Nat.le_refl 0
  | cons verdict tickets ih =>
    unfold wins losses at *
    rw [List.countP_cons, List.countP_cons, List.length_cons]
    cases verdict <;> simp only [Verdict.isWon, Verdict.isLost, reduceIte, Bool.false_eq_true] <;>
      omega

/-- Tickets that are all decided are wins and losses. -/
theorem wins_add_losses_eq
    (decided : ∀ (number : Nat) (owner : ι), tickets[number]? ≠ some (Verdict.drawn owner)) :
    wins tickets + losses tickets = tickets.length := by
  induction tickets with
  | nil => rfl
  | cons verdict tickets ih =>
    have rest := ih fun number owner => decided (number + 1) owner
    unfold wins losses at *
    rw [List.countP_cons, List.countP_cons, List.length_cons]
    cases verdict with
    | drawn owner => exact absurd rfl (decided 0 owner)
    | won =>
      simp only [Verdict.isWon, Verdict.isLost, reduceIte, Bool.false_eq_true]
      omega
    | lost =>
      simp only [Verdict.isWon, Verdict.isLost, reduceIte, Bool.false_eq_true]
      omega

/-- The verdict on a drawn ticket is one more of its kind. -/
theorem wins_win (undecided : tickets[number]? = some (.drawn owner)) :
    wins (tickets.set number .won) = wins tickets + 1 := by
  obtain ⟨inside, drawn⟩ := List.getElem?_eq_some_iff.mp undecided
  rw [wins, List.countP_set inside, drawn]
  simp [Verdict.isWon, wins]

theorem losses_win (undecided : tickets[number]? = some (.drawn owner)) :
    losses (tickets.set number .won) = losses tickets := by
  obtain ⟨inside, drawn⟩ := List.getElem?_eq_some_iff.mp undecided
  rw [losses, List.countP_set inside, drawn]
  simp [Verdict.isLost, losses]

theorem wins_lose (undecided : tickets[number]? = some (.drawn owner)) :
    wins (tickets.set number .lost) = wins tickets := by
  obtain ⟨inside, drawn⟩ := List.getElem?_eq_some_iff.mp undecided
  rw [wins, List.countP_set inside, drawn]
  simp [Verdict.isWon, wins]

theorem losses_lose (undecided : tickets[number]? = some (.drawn owner)) :
    losses (tickets.set number .lost) = losses tickets + 1 := by
  obtain ⟨inside, drawn⟩ := List.getElem?_eq_some_iff.mp undecided
  rw [losses, List.countP_set inside, drawn]
  simp [Verdict.isLost, losses]

/-- A verdict never lowers the losses among the first tickets. -/
theorem losses_take_le_set (undecided : tickets[number]? = some (.drawn owner))
    (verdict : Verdict ι) (first : Nat) :
    losses (tickets.take first) ≤ losses ((tickets.set number verdict).take first) := by
  rw [List.take_set]
  by_cases within : number < (tickets.take first).length
  · have drawn : (tickets.take first)[number] = .drawn owner := by
      rw [List.getElem_take]
      exact (List.getElem?_eq_some_iff.mp undecided).2
    unfold losses
    rw [List.countP_set within, drawn]
    simp [Verdict.isLost]
  · exact Nat.le_of_eq (by rw [List.set_eq_of_length_le (Nat.le_of_not_lt within)])

/-- The losses among the first tickets are the same after another is drawn. -/
theorem losses_take_draw (first : Nat) (inside : first ≤ tickets.length) :
    losses ((tickets ++ [Verdict.drawn owner]).take first) = losses (tickets.take first) := by
  rw [List.take_append_of_le_length inside]

/-- No ticket is won or lost before the first. -/
theorem covered_nil (stock : Nat) : Covered stock ([] : List (Verdict ι)) := by
  intro number won
  simp at won

/-- The wins never exceed the stock. -/
theorem Covered.wins_le (covered : Covered stock tickets) : wins tickets ≤ stock := by
  -- the last win is the one whose number bounds them all
  induction tickets using List.reverseRecOn with
  | nil => exact Nat.zero_le _
  | append_singleton tickets verdict ih =>
    have before : Covered stock tickets := by
      intro number won
      have inside := (List.getElem?_eq_some_iff.mp won).1
      have bound := covered number (by rw [List.getElem?_append_left inside]; exact won)
      rwa [List.take_append_of_le_length (Nat.le_of_lt inside)] at bound
    have counted : wins (tickets ++ [verdict]) = wins tickets + wins [verdict] :=
      List.countP_append
    cases verdict with
    | won =>
      have last := covered tickets.length (by simp)
      rw [List.take_left] at last
      have parts := wins_add_losses_le tickets
      have one : wins [Verdict.won (ι := ι)] = 1 := rfl
      omega
    | drawn owner =>
      rw [wins_draw]
      exact ih before
    | lost =>
      have none : wins [Verdict.lost (ι := ι)] = 0 := rfl
      have bound := ih before
      omega

/-- A larger stock covers the same tickets. -/
theorem Covered.mono (covered : Covered stock tickets) {larger : Nat} (more : stock ≤ larger) :
    Covered larger tickets := by
  intro number won
  have bound := covered number won
  omega

/-- A ticket that is drawn leaves the others covered. -/
theorem Covered.draw (covered : Covered stock tickets) (owner : ι) :
    Covered stock (tickets ++ [Verdict.drawn owner]) := by
  intro number won
  by_cases inside : number < tickets.length
  · rw [List.getElem?_append_left inside] at won
    rw [losses_take_draw _ (Nat.le_of_lt inside)]
    exact covered number won
  · rw [List.getElem?_append_right (Nat.le_of_not_lt inside)] at won
    obtain ⟨_, drawn⟩ := List.getElem?_eq_some_iff.mp won
    simp at drawn

/-- A drawn ticket whose number is within the stock and the losses before it may win. -/
theorem Covered.win (covered : Covered stock tickets)
    (undecided : tickets[number]? = some (.drawn owner))
    (within : number < stock + losses (tickets.take number)) :
    Covered stock (tickets.set number .won) := by
  intro other won
  have more := losses_take_le_set undecided .won other
  by_cases same : other = number
  · subst same
    omega
  · rw [List.getElem?_set_ne fun equal => same equal.symm] at won
    have bound := covered other won
    omega

/-- A drawn ticket may lose. -/
theorem Covered.lose (covered : Covered stock tickets)
    (undecided : tickets[number]? = some (.drawn owner)) :
    Covered stock (tickets.set number .lost) := by
  intro other won
  have more := losses_take_le_set undecided .lost other
  by_cases same : other = number
  · subst same
    have inside := (List.getElem?_eq_some_iff.mp undecided).1
    rw [List.getElem?_set_self inside] at won
    simp at won
  · rw [List.getElem?_set_ne fun equal => same equal.symm] at won
    have bound := covered other won
    omega

end Tickets
