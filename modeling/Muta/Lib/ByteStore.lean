import Mathlib

/-! Typed maps laid over one byte store.

A key-value store keeps byte strings under byte-string keys, in columns. A typed
map is laid over it by a `Layout`: the column it uses and how its keys and values
are written. Several layouts may share a column. A write through one of them keeps
what another holds wherever the column and key written are none of that other's
(`Holds.set_apart`), and a layout whose key encoding is injective reads back what
was last written through it (`Holds.set_same`). A batch is a left fold of single
writes, and the two rules carry over to it (`Holds.set_all`, `Holds.set_all_apart`).
-/

set_option autoImplicit false

namespace Muta.ByteStore

open Function

abbrev Store (Column : Type) := Column → List UInt8 → Option (List UInt8)

variable {Column K V : Type} [DecidableEq Column]

def Store.empty : Store Column := fun _ _ => none

/-- Store `value` under `key` in `column`, or delete the key for `none`. -/
def Store.set (store : Store Column) (column : Column) (key : List UInt8) (value : Option (List UInt8)) :
    Store Column :=
  update store column (update (store column) key value)

def Store.setAll (store : Store Column) (column : Column) (writes : List (List UInt8 × Option (List UInt8))) :
    Store Column :=
  writes.foldl (fun store write => store.set column write.1 write.2) store

@[simp] theorem Store.set_all_nil (store : Store Column) (column : Column) : store.setAll column [] = store := rfl

@[simp] theorem Store.set_all_cons (store : Store Column) (column : Column) (write : List UInt8 × Option (List UInt8))
    (rest : List (List UInt8 × Option (List UInt8))) :
    store.setAll column (write :: rest) = (store.set column write.1 write.2).setAll column rest := rfl

@[simp] theorem Store.set_same (store : Store Column) (column : Column) (key : List UInt8) (value : Option (List UInt8)) :
    store.set column key value column key = value := by
  simp [Store.set]

theorem Store.set_apart (store : Store Column) {column other : Column} {key other_key : List UInt8}
    (value : Option (List UInt8)) (apart : (column, key) ≠ (other, other_key)) :
    store.set column key value other other_key = store other other_key := by
  by_cases same_column : other = column
  · subst same_column
    have different_key : other_key ≠ key := fun same => apart (by rw [same])
    simp [Store.set, update_of_ne different_key]
  · simp [Store.set, update_of_ne same_column]

def assign [DecidableEq K] (map : K → Option V) (entries : List (K × Option V)) : K → Option V :=
  entries.foldl (fun map entry => update map entry.1 entry.2) map

@[simp] theorem assign_nil [DecidableEq K] (map : K → Option V) : assign map [] = map := rfl

@[simp] theorem assign_cons [DecidableEq K] (map : K → Option V) (entry : K × Option V)
    (rest : List (K × Option V)) : assign map (entry :: rest) = assign (update map entry.1 entry.2) rest := rfl

structure Layout (Column K V : Type) where
  column : Column
  key : K → List UInt8
  value : V → List UInt8

namespace Layout

def write (layout : Layout Column K V) (entry : K × Option V) : List UInt8 × Option (List UInt8) :=
  (layout.key entry.1, entry.2.map layout.value)

def Holds (layout : Layout Column K V) (keys : Set K) (map : K → Option V) (store : Store Column) : Prop :=
  ∀ k ∈ keys, store layout.column (layout.key k) = (map k).map layout.value

variable {layout : Layout Column K V} {keys : Set K} {map : K → Option V} {store : Store Column}

omit [DecidableEq Column] in
theorem holds_empty (layout : Layout Column K V) (keys : Set K) : layout.Holds keys (fun _ => none) Store.empty :=
  fun _ _ => rfl

omit [DecidableEq Column] in
theorem Holds.congr (holds : layout.Holds keys map store) {other : K → Option V}
    (same : ∀ k ∈ keys, map k = other k) : layout.Holds keys other store := by
  intro k member
  rw [← same k member]
  exact holds k member

theorem Holds.set_apart (holds : layout.Holds keys map store) {column : Column} {key : List UInt8}
    (value : Option (List UInt8)) (apart : ∀ k ∈ keys, (column, key) ≠ (layout.column, layout.key k)) :
    layout.Holds keys map (store.set column key value) := by
  intro k member
  rw [Store.set_apart store value (apart k member)]
  exact holds k member

theorem Holds.set_same [DecidableEq K] (holds : layout.Holds keys map store) (injective : Injective layout.key)
    (entry : K × Option V) :
    layout.Holds keys (update map entry.1 entry.2)
      (store.set layout.column (layout.key entry.1) (entry.2.map layout.value)) := by
  intro k member
  by_cases same : k = entry.1
  · subst same
    simp
  · have different_key : layout.key k ≠ layout.key entry.1 := fun equal => same (injective equal)
    rw [Store.set_apart store _ (fun equal => different_key (congrArg Prod.snd equal).symm), update_of_ne same]
    exact holds k member

theorem Holds.set_all_apart (holds : layout.Holds keys map store) {column : Column}
    (writes : List (List UInt8 × Option (List UInt8)))
    (apart : ∀ write ∈ writes, ∀ k ∈ keys, (column, write.1) ≠ (layout.column, layout.key k)) :
    layout.Holds keys map (store.setAll column writes) := by
  -- the batch is written one entry at a time, each apart from the layout
  induction writes generalizing store with
  | nil => exact holds
  | cons write rest ih =>
    rw [Store.set_all_cons]
    exact ih (holds.set_apart write.2 (apart write List.mem_cons_self))
      (fun later member => apart later (List.mem_cons_of_mem write member))

theorem Holds.setAll [DecidableEq K] (holds : layout.Holds keys map store) (injective : Injective layout.key)
    (entries : List (K × Option V)) :
    layout.Holds keys (assign map entries) (store.setAll layout.column (entries.map layout.write)) := by
  induction entries generalizing map store with
  | nil => exact holds
  | cons entry rest ih =>
    rw [List.map_cons, Store.set_all_cons, assign_cons]
    exact ih (holds.set_same injective entry)

end Layout

omit [DecidableEq Column] in
theorem apart_of_column_ne {layout : Layout Column K V} {column : Column} (other : column ≠ layout.column)
    (key : List UInt8) (k : K) : (column, key) ≠ (layout.column, layout.key k) :=
  fun same => other (congrArg Prod.fst same)

end Muta.ByteStore
