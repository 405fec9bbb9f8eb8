/-!
# Numbered tables

A table numbers its entries from one, in the order in which they are inserted.
Entries are changed in place and never removed, so a number that was once given
out stays valid and is never given out again.
-/

namespace Multiplex

/-- Entries that are numbered from one. -/
structure Table (α : Type) where
  items : Array α := #[]
  deriving DecidableEq

namespace Table

variable {α : Type}

/-- How many entries there are, which is also the largest number given out. -/
def size (table : Table α) : Nat := table.items.size

/-- The entry with a number. -/
def get? (table : Table α) : Nat → Option α
  | 0 => none
  | number + 1 => table.items[number]?

/-- Adds an entry; its number is the new size. -/
def insert (table : Table α) (entry : α) : Table α := ⟨table.items.push entry⟩

/-- Changes the entry with a number, if there is one. -/
def modify (table : Table α) (number : Nat) (change : α → α) : Table α :=
  match number with
  | 0 => table
  | number + 1 => ⟨table.items.modify number change⟩

/-! ## What a look-up finds -/

@[simp] theorem size_insert (table : Table α) (entry : α) :
    (table.insert entry).size = table.size + 1 := by
  simp [size, insert]

@[simp] theorem size_modify (table : Table α) (number : Nat) (change : α → α) :
    (table.modify number change).size = table.size := by
  cases number <;> simp [size, modify]

@[simp] theorem get?_empty (number : Nat) : ({} : Table α).get? number = none := by
  cases number <;> simp [get?]

theorem get?_eq_none_iff {table : Table α} {number : Nat} :
    table.get? number = none ↔ number = 0 ∨ table.size < number := by
  cases number with
  | zero => simp [get?]
  | succ number =>
      simp only [get?, size, Array.getElem?_eq_none_iff]
      omega

@[simp] theorem get?_insert_self (table : Table α) (entry : α) :
    (table.insert entry).get? (table.size + 1) = some entry := by
  simp [get?, insert, size]

theorem get?_insert_of_ne {table : Table α} {entry : α} {number : Nat}
    (hne : number ≠ table.size + 1) : (table.insert entry).get? number = table.get? number := by
  cases number with
  | zero => rfl
  | succ number =>
      simp only [get?, insert, size] at hne ⊢
      rw [Array.getElem?_push, if_neg (by omega)]

@[simp] theorem get?_modify_self (table : Table α) (number : Nat) (change : α → α) :
    (table.modify number change).get? number = (table.get? number).map change := by
  cases number with
  | zero => rfl
  | succ number => simp [get?, modify, Array.getElem?_modify]

theorem get?_modify_of_ne {table : Table α} {number other : Nat} {change : α → α}
    (hne : other ≠ number) : (table.modify number change).get? other = table.get? other := by
  cases number with
  | zero => rfl
  | succ number =>
      cases other with
      | zero => rfl
      | succ other =>
          simp only [get?, modify, Array.getElem?_modify]
          rw [if_neg (by omega)]

theorem get?_modify (table : Table α) (number other : Nat) (change : α → α) :
    (table.modify number change).get? other =
      if other = number then (table.get? other).map change else table.get? other := by
  split
  case isTrue heq =>
    subst heq
    exact get?_modify_self table other change
  case isFalse hne => exact get?_modify_of_ne hne

theorem get?_insert (table : Table α) (entry : α) (number : Nat) :
    (table.insert entry).get? number =
      if number = table.size + 1 then some entry else table.get? number := by
  split
  case isTrue heq =>
    subst heq
    exact get?_insert_self table entry
  case isFalse hne => exact get?_insert_of_ne hne

/-- The number behind the last one is not given out yet. -/
@[simp] theorem get?_size_succ (table : Table α) : table.get? (table.size + 1) = none := by
  rw [get?_eq_none_iff]
  omega

theorem ext_get? {first second : Table α} (hsize : first.size = second.size)
    (hget : ∀ number, first.get? number = second.get? number) : first = second := by
  obtain ⟨items⟩ := first
  obtain ⟨others⟩ := second
  congr 1
  refine Array.ext_getElem? fun index => ?_
  simpa [get?] using hget (index + 1)

theorem modify_eq_self {table : Table α} {number : Nat} {change : α → α}
    (hchange : ∀ entry, table.get? number = some entry → change entry = entry) :
    table.modify number change = table := by
  refine ext_get? (size_modify table number change) fun other => ?_
  rw [get?_modify]
  split
  case isTrue heq =>
    subst heq
    cases hentry : table.get? other with
    | none => rfl
    | some entry => simp [hchange entry hentry]
  case isFalse => rfl

theorem modify_modify (table : Table α) (number : Nat) (first second : α → α) :
    (table.modify number first).modify number second =
      table.modify number fun entry => second (first entry) := by
  refine ext_get? (by simp) fun other => ?_
  simp only [get?_modify]
  split
  · cases table.get? other <;> rfl
  · rfl

end Table

end Multiplex
