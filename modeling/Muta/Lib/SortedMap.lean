import Mathlib

/-! A finite map kept sorted by its keys, as a B-tree map is.

The entries are in strictly increasing key order, which the structure carries,
so iterating the map gives its keys in order, each once. Inserting a key that is
there replaces its value; a new key goes where the order puts it. Rebuilding a
map by inserting its own entries, in order, into an empty map gives the map back
(`foldl_insert_entries`): that is what a decoder does that reads a map as the
list of its entries.
-/

set_option autoImplicit false

namespace Muta

@[ext]
structure SortedMap (κ V : Type) [LinearOrder κ] where
  entries : List (κ × V)
  sorted : (entries.map Prod.fst).Pairwise (· < ·)

namespace SortedMap

variable {κ V : Type} [LinearOrder κ]

def lookup (entries : List (κ × V)) (key : κ) : Option V :=
  (entries.find? fun entry => entry.1 = key).map Prod.snd

/-- `key` given `value` in a list sorted by its keys: in place of the entry of
`key`, or before the first greater key. -/
def insertEntry (key : κ) (value : V) : List (κ × V) → List (κ × V)
  | [] => [(key, value)]
  | entry :: rest =>
    if key < entry.1 then (key, value) :: entry :: rest
    else if key = entry.1 then (key, value) :: rest
    else entry :: insertEntry key value rest

def empty : SortedMap κ V := ⟨[], List.Pairwise.nil⟩

def keys (map : SortedMap κ V) : List κ := map.entries.map Prod.fst

def get (map : SortedMap κ V) (key : κ) : Option V := lookup map.entries key

theorem mem_keys_insertEntry {key other : κ} {value : V} {entries : List (κ × V)} :
    other ∈ (insertEntry key value entries).map Prod.fst ↔ other = key ∨ other ∈ entries.map Prod.fst := by
  induction entries with
  | nil => simp [insertEntry]
  | cons entry rest ih =>
    simp only [insertEntry]
    split_ifs with before same
    · simp
    · subst same
      simp
    · simp only [List.map_cons, List.mem_cons, ih]
      tauto

theorem sorted_insertEntry (key : κ) (value : V) {entries : List (κ × V)}
    (sorted : (entries.map Prod.fst).Pairwise (· < ·)) :
    ((insertEntry key value entries).map Prod.fst).Pairwise (· < ·) := by
  induction entries with
  | nil => simp [insertEntry]
  | cons entry rest ih =>
    rw [List.map_cons, List.pairwise_cons] at sorted
    obtain ⟨first_least, rest_sorted⟩ := sorted
    simp only [insertEntry]
    split_ifs with before same
    · -- the new key is below the first, hence below all
      refine List.pairwise_cons.mpr ⟨fun other member => ?_, List.pairwise_cons.mpr ⟨first_least, rest_sorted⟩⟩
      rcases List.mem_cons.mp member with rfl | later
      · exact before
      · exact before.trans (first_least other later)
    · subst same
      simpa using List.pairwise_cons.mpr ⟨first_least, rest_sorted⟩
    · -- the first key stays first: it is below the new key and the rest
      have above : entry.1 < key := lt_of_le_of_ne (not_lt.mp before) (Ne.symm same)
      refine List.pairwise_cons.mpr ⟨fun other member => ?_, ih rest_sorted⟩
      rcases mem_keys_insertEntry.mp member with rfl | old
      · exact above
      · exact first_least other old

@[simp] theorem lookup_nil (key : κ) : lookup ([] : List (κ × V)) key = none := rfl

@[simp] theorem lookup_cons (entry : κ × V) (rest : List (κ × V)) (key : κ) :
    lookup (entry :: rest) key = if entry.1 = key then some entry.2 else lookup rest key := by
  by_cases same : entry.1 = key <;> simp [lookup, same]

theorem lookup_insertEntry (key other : κ) (value : V) (entries : List (κ × V)) :
    lookup (insertEntry key value entries) other = if other = key then some value else lookup entries other := by
  induction entries with
  | nil =>
    by_cases asked : other = key
    · simp [insertEntry, asked]
    · simp [insertEntry, asked, Ne.symm asked]
  | cons entry rest ih =>
    by_cases before : key < entry.1
    · -- the new entry goes in front
      rw [insertEntry, if_pos before, lookup_cons]
      by_cases asked : other = key
      · simp [asked]
      · simp [asked, Ne.symm asked]
    by_cases replaced : key = entry.1
    · -- the new entry takes the place of the old one
      rw [insertEntry, if_neg before, if_pos replaced, lookup_cons, lookup_cons, ← replaced]
      by_cases asked : other = key
      · simp [asked]
      · simp [asked, Ne.symm asked]
    · rw [insertEntry, if_neg before, if_neg replaced, lookup_cons, ih, lookup_cons]
      by_cases first : entry.1 = other
      · -- the entry kept in front is not the new key's
        have apart : other ≠ key := fun same => replaced (first.trans same).symm
        simp [first, apart]
      · simp [first]

theorem insertEntry_of_lt {key : κ} (value : V) {entries : List (κ × V)}
    (above : ∀ other ∈ entries.map Prod.fst, other < key) :
    insertEntry key value entries = entries ++ [(key, value)] := by
  induction entries with
  | nil => rfl
  | cons entry rest ih =>
    have below : entry.1 < key := above entry.1 List.mem_cons_self
    simp only [insertEntry, not_lt.mpr below.le, if_false, ne_of_gt below, List.cons_append]
    rw [ih fun other member => above other (List.mem_cons_of_mem _ member)]

def insert (map : SortedMap κ V) (key : κ) (value : V) : SortedMap κ V :=
  ⟨insertEntry key value map.entries, sorted_insertEntry key value map.sorted⟩

@[simp] theorem get_empty (key : κ) : (empty : SortedMap κ V).get key = none := rfl

@[simp] theorem get_insert (map : SortedMap κ V) (key other : κ) (value : V) :
    (map.insert key value).get other = if other = key then some value else map.get other :=
  lookup_insertEntry key other value map.entries

theorem mem_keys_insert {map : SortedMap κ V} {key other : κ} {value : V} :
    other ∈ (map.insert key value).keys ↔ other = key ∨ other ∈ map.keys :=
  mem_keys_insertEntry

theorem keys_nodup (map : SortedMap κ V) : map.keys.Nodup :=
  map.sorted.imp ne_of_lt

theorem foldl_insert_of_lt (acc : SortedMap κ V) {rest : List (κ × V)}
    (sorted : (rest.map Prod.fst).Pairwise (· < ·))
    (above : ∀ low ∈ acc.keys, ∀ high ∈ rest.map Prod.fst, low < high) :
    (rest.foldl (fun map entry => map.insert entry.1 entry.2) acc).entries = acc.entries ++ rest := by
  induction rest generalizing acc with
  | nil => simp
  | cons entry tail ih =>
    rw [List.map_cons, List.pairwise_cons] at sorted
    obtain ⟨first_least, tail_sorted⟩ := sorted
    have last : (acc.insert entry.1 entry.2).entries = acc.entries ++ [entry] :=
      insertEntry_of_lt entry.2 fun low member => above low member entry.1 List.mem_cons_self
    rw [List.foldl_cons, ih (acc.insert entry.1 entry.2) tail_sorted, last, List.append_assoc,
      List.singleton_append]
    -- the keys of the grown map are the old ones and the first entry's, all below the tail
    intro low member high later
    have grown : low ∈ acc.keys ++ [entry.1] := by
      simpa [keys, last] using member
    rcases List.mem_append.mp grown with old | single
    · exact above low old high (List.mem_cons_of_mem _ later)
    · rw [List.mem_singleton.mp single]
      exact first_least high later

theorem foldl_insert_entries (map : SortedMap κ V) :
    map.entries.foldl (fun map entry => map.insert entry.1 entry.2) empty = map := by
  ext1
  rw [foldl_insert_of_lt empty map.sorted (by simp [keys, empty])]
  rfl

end SortedMap

end Muta
