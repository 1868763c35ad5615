import Mathlib.Data.List.Nodup
import Mathlib.Logic.Function.Basic

/-!
# Gathering elements in sets

A set keeps its elements in the order in which they were added, each once. A family has a set
for each index. What a loop adds to a family is a list of elements with their indices; loops
one after the other, and loops whose bodies may fail, add the lists of their parts.
-/

namespace Gather

/-- A set. -/
structure Distinct (α : Type) where
  /-- The elements, in the order in which they were added. -/
  elements : List α
  /-- No element is there twice. -/
  nodup : elements.Nodup

namespace Distinct

variable {α : Type}

instance : Membership α (Distinct α) := ⟨fun set a => a ∈ set.elements⟩

instance [DecidableEq α] (a : α) (set : Distinct α) : Decidable (a ∈ set) :=
  inferInstanceAs (Decidable (a ∈ set.elements))

/-- The set with no elements. -/
def empty : Distinct α := ⟨[], List.nodup_nil⟩

theorem mem_iff {a : α} {set : Distinct α} : a ∈ set ↔ a ∈ set.elements := Iff.rfl

@[simp]
theorem not_mem_empty (a : α) : a ∉ (empty : Distinct α) := List.not_mem_nil

variable [DecidableEq α]

/-- The set with one more element, unless it is there. -/
def add (set : Distinct α) (a : α) : Distinct α :=
  if absent : a ∈ set.elements then set
  else ⟨set.elements.concat a, List.Nodup.concat absent set.nodup⟩

/-- The elements after one was added. -/
theorem mem_add {a other : α} {set : Distinct α} : other ∈ set.add a ↔ other ∈ set ∨ other = a := by
  unfold add
  split
  · rename_i present
    constructor
    · exact .inl
    · rintro (member | rfl)
      · exact member
      · exact present
  · simp [mem_iff]

end Distinct

/-- A set for each index. -/
abbrev Family (ι α : Type) := ι → Distinct α

variable {ι α : Type}

/-- The elements afterwards are those before and the given ones. -/
def Adds (before after : Family ι α) (items : List (ι × α)) : Prop :=
  ∀ index a, a ∈ after index ↔ a ∈ before index ∨ (index, a) ∈ items

variable {before middle after : Family ι α} {first second : List (ι × α)}

/-- Nothing is added by doing nothing. -/
theorem Adds.refl (family : Family ι α) : Adds family family [] := by
  intro index a
  simp

/-- What is added one after the other is added. -/
theorem Adds.trans (left : Adds before middle first) (right : Adds middle after second) :
    Adds before after (first ++ second) := by
  intro index a
  rw [right index a, left index a, List.mem_append, or_assoc]

/-- Elements stay. -/
theorem Adds.kept (adds : Adds before after first) {index : ι} {a : α}
    (member : a ∈ before index) : a ∈ after index := (adds index a).mpr (.inl member)

/-- Elements added are there. -/
theorem Adds.added (adds : Adds before after first) {index : ι} {a : α}
    (listed : (index, a) ∈ first) : a ∈ after index := (adds index a).mpr (.inr listed)

/-- The indices of a list of elements are among the given ones. -/
def Within (indices : List ι) (items : List (ι × α)) : Prop := ∀ item ∈ items, item.1 ∈ indices

theorem Within.append {indices more : List ι} (left : Within indices first)
    (right : Within more second) : Within (indices ++ more) (first ++ second) := by
  intro item listed
  rw [List.mem_append]
  rcases List.mem_append.mp listed with isFirst | isSecond
  · exact .inl (left item isFirst)
  · exact .inr (right item isSecond)

theorem Within.flatMap {β : Type} {indices : List ι} {items : β → List (ι × α)}
    (within : ∀ b, Within indices (items b)) (list : List β) :
    Within indices (list.flatMap items) := by
  intro item listed
  obtain ⟨b, -, isItem⟩ := List.mem_flatMap.mp listed
  exact within b item isItem

theorem Within.elim {β : Type} {indices : List ι} {items : β → List (ι × α)}
    (within : ∀ b, Within indices (items b)) (value : Option β) :
    Within indices (value.elim [] items) := by
  cases value with
  | none =>
    intro item listed
    cases listed
  | some b => exact within b

/-- A set whose index is not among them stays as it is. -/
theorem Adds.unchanged (adds : Adds before after first) {indices : List ι}
    (within : Within indices first) {index : ι} (other : index ∉ indices) {a : α} :
    a ∈ after index ↔ a ∈ before index := by
  rw [adds index a]
  constructor
  · rintro (member | listed)
    · exact member
    · exact absurd (within _ listed) other
  · exact .inl

/-- A family has all the given elements. -/
def Covers (family : Family ι α) (items : List (ι × α)) : Prop :=
  ∀ item ∈ items, item.2 ∈ family item.1

/-- A family has what was added to it. -/
theorem Adds.covers (adds : Adds before after first) : Covers after first := by
  intro item listed
  exact adds.added listed

/-- What a family had before it has afterwards. -/
theorem Covers.kept (covers : Covers before second) (adds : Adds before after first) :
    Covers after second := by
  intro item listed
  exact adds.kept (covers item listed)

/-- A computation in sequence returns if both its parts do. -/
theorem bind_eq_ok {ε β γ : Type} {part : Except ε β} {rest : β → Except ε γ} {result : γ} :
    part >>= rest = .ok result ↔ ∃ value, part = .ok value ∧ rest value = .ok result := by
  cases part with
  | error threw =>
    constructor
    · intro failed
      cases failed
    · rintro ⟨value, same, -⟩
      cases same
  | ok value =>
    constructor
    · intro done
      exact ⟨value, rfl, done⟩
    · rintro ⟨other, same, done⟩
      cases same
      exact done

/-- A loop adds what the turns of its body add. -/
theorem adds_foldl {β : Type} {body : Family ι α → β → Family ι α} {items : β → List (ι × α)}
    (adds : ∀ family item, Adds family (body family item) (items item)) (list : List β)
    (start : Family ι α) : Adds start (list.foldl body start) (list.flatMap items) := by
  induction list generalizing start with
  | nil => exact Adds.refl start
  | cons item list ih => exact (adds start item).trans (ih _)

/-- A loop whose body may fail adds to a family in its state what the turns of its body add. -/
theorem adds_foldlM {ε σ β : Type} (view : σ → Family ι α) {body : σ → β → Except ε σ}
    {items : β → List (ι × α)}
    (adds : ∀ state item next, body state item = .ok next →
      Adds (view state) (view next) (items item))
    {list : List β} {start result : σ} (done : list.foldlM body start = .ok result) :
    Adds (view start) (view result) (list.flatMap items) := by
  induction list generalizing start with
  | nil =>
    cases done
    exact Adds.refl _
  | cons item list ih =>
    rw [List.foldlM_cons] at done
    obtain ⟨next, turn, rest⟩ := bind_eq_ok.mp done
    rw [List.flatMap_cons]
    exact (adds _ _ _ turn).trans (ih rest)

variable [DecidableEq ι] [DecidableEq α]

/-- Add an element to the set of an index. -/
def insert (family : Family ι α) (index : ι) (a : α) : Family ι α :=
  Function.update family index ((family index).add a)

/-- Add elements to the set of an index, one after the other. -/
def insertAll (family : Family ι α) (index : ι) (items : List α) : Family ι α :=
  items.foldl (fun family a => insert family index a) family

/-- One element is added. -/
theorem adds_insert (family : Family ι α) (index : ι) (a : α) :
    Adds family (insert family index a) [(index, a)] := by
  intro other b
  unfold insert
  by_cases same : other = index
  · subst same
    rw [Function.update_self, Distinct.mem_add]
    simp
  · rw [Function.update_of_ne same]
    simp [same]

/-- A loop adds its elements. -/
theorem adds_insertAll (family : Family ι α) (index : ι) (items : List α) :
    Adds family (insertAll family index items) (items.map fun a => (index, a)) := by
  rw [List.map_eq_flatMap]
  exact adds_foldl (fun family a => adds_insert family index a) items family

end Gather
