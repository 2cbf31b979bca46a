import Mathlib

/-! An insertion-ordered finite map.

The entries are kept in the order their keys were first inserted, and no key is
there twice, which the structure carries. Inserting a key that is there replaces
its value in place; inserting a new key puts it last; removing a key drops its
entry and keeps the order of the others. Each operation is described by what it
does to the keys (`keys_insert`, `keys_remove`) and to `get` (`get_insert`,
`get_remove`).
-/

set_option autoImplicit false

namespace Muta

structure OrderedMap (κ V : Type) where
  entries : List (κ × V)
  nodup : (entries.map Prod.fst).Nodup

namespace OrderedMap

variable {κ V : Type} [DecidableEq κ]

def empty : OrderedMap κ V := ⟨[], List.nodup_nil⟩

def keys (map : OrderedMap κ V) : List κ := map.entries.map Prod.fst

def get (map : OrderedMap κ V) (key : κ) : Option V :=
  (map.entries.find? fun entry => entry.1 = key).map Prod.snd

def replace (entries : List (κ × V)) (key : κ) (value : V) : List (κ × V) :=
  entries.map fun entry => if entry.1 = key then (key, value) else entry

theorem keys_replace (entries : List (κ × V)) (key : κ) (value : V) :
    (replace entries key value).map Prod.fst = entries.map Prod.fst := by
  unfold replace
  rw [List.map_map]
  apply List.map_congr_left
  intro entry _
  by_cases same : entry.1 = key <;> simp [same]

def insert (map : OrderedMap κ V) (key : κ) (value : V) : OrderedMap κ V :=
  if present : key ∈ map.keys then
    ⟨replace map.entries key value, by rw [keys_replace]; exact map.nodup⟩
  else
    ⟨map.entries ++ [(key, value)], by
      rw [List.map_append, List.map_singleton, ← List.concat_eq_append]
      exact List.Nodup.concat present map.nodup⟩

def remove (map : OrderedMap κ V) (key : κ) : OrderedMap κ V :=
  ⟨map.entries.filter fun entry => entry.1 ≠ key,
    map.nodup.sublist ((List.filter_sublist).map Prod.fst)⟩

omit [DecidableEq κ] in
theorem keys_nodup (map : OrderedMap κ V) : map.keys.Nodup := map.nodup

omit [DecidableEq κ] in
@[simp] theorem keys_empty : (empty : OrderedMap κ V).keys = [] := rfl

theorem keys_insert (map : OrderedMap κ V) (key : κ) (value : V) :
    (map.insert key value).keys = if key ∈ map.keys then map.keys else map.keys ++ [key] := by
  unfold insert
  split
  case isTrue present => simp only [keys, keys_replace]
  case isFalse absent => simp [keys]

theorem keys_remove (map : OrderedMap κ V) (key : κ) :
    (map.remove key).keys = map.keys.erase key := by
  simp only [keys, remove]
  rw [map.nodup.erase_eq_filter, List.filter_map]
  congr 1
  apply List.filter_congr
  intro entry _
  by_cases same : entry.1 = key <;> simp [same]

@[simp] theorem get_empty (key : κ) : (empty : OrderedMap κ V).get key = none := rfl

theorem get_of_mem {map : OrderedMap κ V} {key : κ} {value : V} (member : (key, value) ∈ map.entries) :
    map.get key = some value := by
  obtain ⟨entries, nodup⟩ := map
  simp only [get]
  induction entries with
  | nil => cases member
  | cons entry rest ih =>
    obtain ⟨absent, rest_nodup⟩ := List.nodup_cons.mp nodup
    rcases List.mem_cons.mp member with rfl | later
    · simp
    · -- the head has another key, since the key is among the later ones
      have other : entry.1 ≠ key := fun same =>
        absent (same ▸ List.mem_map.mpr ⟨(key, value), later, rfl⟩)
      simp [other, ih rest_nodup later]

theorem get_eq_none {map : OrderedMap κ V} {key : κ} : map.get key = none ↔ key ∉ map.keys := by
  simp only [get, keys, Option.map_eq_none_iff, List.find?_eq_none, decide_eq_true_eq, List.mem_map,
    not_exists, not_and]

theorem mem_keys_iff {map : OrderedMap κ V} {key : κ} :
    key ∈ map.keys ↔ ∃ value, map.get key = some value := by
  constructor
  · intro present
    obtain ⟨⟨same, value⟩, member, rfl⟩ := List.mem_map.mp present
    exact ⟨value, get_of_mem member⟩
  · rintro ⟨value, found⟩
    by_contra absent
    rw [← get_eq_none] at absent
    rw [absent] at found
    cases found

theorem get_insert (map : OrderedMap κ V) (key : κ) (value : V) (other : κ) :
    (map.insert key value).get other = if other = key then some value else map.get other := by
  by_cases same : other = key
  · -- the inserted entry is there, replaced or added
    subst same
    rw [if_pos rfl]
    apply get_of_mem
    unfold insert
    split
    case isTrue present =>
      obtain ⟨⟨found, old⟩, member, rfl⟩ := List.mem_map.mp present
      exact List.mem_map.mpr ⟨(found, old), member, by simp⟩
    case isFalse => simp
  · rw [if_neg same]
    -- another key keeps its entry, or stays absent
    cases found : map.get other with
    | some old =>
      have member : (other, old) ∈ map.entries := by
        obtain ⟨⟨same_key, old'⟩, member, rfl⟩ := List.mem_map.mp (mem_keys_iff.mpr ⟨old, found⟩)
        rw [get_of_mem member] at found
        cases found
        exact member
      apply get_of_mem
      unfold insert
      split
      · exact List.mem_map.mpr ⟨(other, old), member, by simp [same]⟩
      · exact List.mem_append_left _ member
    | none =>
      rw [get_eq_none, keys_insert] at *
      split
      · exact found
      · simpa [same] using found

theorem get_remove (map : OrderedMap κ V) (key other : κ) :
    (map.remove key).get other = if other = key then none else map.get other := by
  by_cases same : other = key
  · subst same
    rw [if_pos rfl, get_eq_none, keys_remove]
    exact map.nodup.not_mem_erase
  · rw [if_neg same]
    cases found : map.get other with
    | some old =>
      obtain ⟨⟨same_key, old'⟩, member, rfl⟩ := List.mem_map.mp (mem_keys_iff.mpr ⟨old, found⟩)
      rw [get_of_mem member] at found
      cases found
      exact get_of_mem (List.mem_filter.mpr ⟨member, by simpa using same⟩)
    | none =>
      rw [get_eq_none, keys_remove] at *
      exact fun erased => found (List.mem_of_mem_erase erased)

theorem mem_keys_insert {map : OrderedMap κ V} {key : κ} {value : V} {other : κ} :
    other ∈ (map.insert key value).keys ↔ other = key ∨ other ∈ map.keys := by
  rw [keys_insert]
  split
  case isTrue present =>
    constructor
    · exact Or.inr
    · rintro (rfl | member)
      · exact present
      · exact member
  case isFalse => simp [or_comm]

theorem mem_keys_remove {map : OrderedMap κ V} {key other : κ} :
    other ∈ (map.remove key).keys ↔ other ≠ key ∧ other ∈ map.keys := by
  rw [keys_remove, map.keys_nodup.mem_erase_iff]

theorem remove_of_not_mem {map : OrderedMap κ V} {key : κ} (absent : key ∉ map.keys) :
    map.remove key = map := by
  obtain ⟨entries, nodup⟩ := map
  simp only [remove, mk.injEq]
  apply List.filter_eq_self.mpr
  intro entry member
  have other : entry.1 ≠ key := fun same => absent (same ▸ List.mem_map_of_mem member)
  simpa using other

omit [DecidableEq κ] in
theorem length_keys_le {map : OrderedMap κ V} {pool : List κ} (drawn : map.keys ⊆ pool) :
    map.keys.length ≤ pool.length :=
  (List.Nodup.subperm map.keys_nodup drawn).length_le

end OrderedMap

end Muta
