import Mathlib

/-! A first-in first-out queue of fixed capacity.

This is the behaviour of a lock-free array queue seen one operation at a time:
`push` appends at the back unless the queue holds `cap` items, in which case
the item is handed back, and `pop` takes the front. The capacity bound is a
field, so a queue over capacity cannot be built.

A loop that pops until the queue is empty, and whose body never pushes to that
queue, visits the items front to back; such loops are written as a fold over
`items` (`pop_eq_some` is the step that justifies it).
-/

set_option autoImplicit false

namespace Muta

structure BoundedQueue (α : Type) where
  cap : Nat
  items : List α
  bounded : items.length ≤ cap

namespace BoundedQueue

variable {α : Type}

def new (cap : Nat) : BoundedQueue α := ⟨cap, [], Nat.zero_le _⟩

def len (queue : BoundedQueue α) : Nat := queue.items.length

def clear (queue : BoundedQueue α) : BoundedQueue α := ⟨queue.cap, [], Nat.zero_le _⟩

/-- Append at the back; a full queue returns the item. -/
def push (queue : BoundedQueue α) (item : α) : Except α (BoundedQueue α) :=
  if room : queue.items.length < queue.cap then
    .ok ⟨queue.cap, queue.items ++ [item], by rw [List.length_append, List.length_singleton]; omega⟩
  else
    .error item

def pop (queue : BoundedQueue α) : Option (α × BoundedQueue α) :=
  match queue with
  | ⟨cap, item :: rest, bounded⟩ =>
    some (item, ⟨cap, rest, by rw [List.length_cons] at bounded; omega⟩)
  | ⟨_, [], _⟩ => none

@[ext] theorem ext {queue other : BoundedQueue α} (cap : queue.cap = other.cap)
    (items : queue.items = other.items) : queue = other := by
  cases queue; cases other; cases cap; cases items; rfl

@[simp] theorem new_items (cap : Nat) : (new cap : BoundedQueue α).items = [] := rfl

@[simp] theorem clear_items (queue : BoundedQueue α) : queue.clear.items = [] := rfl

@[simp] theorem clear_cap (queue : BoundedQueue α) : queue.clear.cap = queue.cap := rfl

theorem push_of_lt {queue : BoundedQueue α} (room : queue.items.length < queue.cap) (item : α) :
    ∃ pushed, queue.push item = .ok pushed ∧ pushed.items = queue.items ++ [item] ∧
      pushed.cap = queue.cap := by
  simp only [push, dif_pos room]
  exact ⟨_, rfl, rfl, rfl⟩

theorem pop_eq_some {queue rest : BoundedQueue α} {item : α} :
    queue.pop = some (item, rest) ↔ queue.items = item :: rest.items ∧ rest.cap = queue.cap := by
  obtain ⟨cap, items, bounded⟩ := queue
  cases items with
  | nil => simp [pop]
  | cons first others =>
    obtain ⟨rest_cap, rest_items, rest_bounded⟩ := rest
    simp only [pop, Option.some.injEq, Prod.mk.injEq, mk.injEq, List.cons.injEq]
    constructor
    · rintro ⟨rfl, rfl, rfl⟩
      exact ⟨⟨rfl, rfl⟩, rfl⟩
    · rintro ⟨⟨rfl, rfl⟩, rfl⟩
      exact ⟨rfl, rfl, rfl⟩

end BoundedQueue

end Muta
