import Muta.Protocol.Types
import Muta.Lib.BucketMap
import Muta.Lib.Trace

/-! The concurrent map of `core/mempool/src/map.rs`.

Sixteen buckets, picked by the high four bits of a hash's first byte. A bucket's
`insert` does not replace: a hash already present makes it hand the new value
back and change nothing. Everything else is the bucket map of the library.

Seen through `BucketMap.toFinmap` the map is one finite map from hashes to
values, whichever buckets its hashes fall in: every call on it is a call on
that finite map, and every answer it gives is the finite map's.
-/

set_option autoImplicit false

namespace Muta.Mempool

def getIndex (hash : Hash) : Fin 16 :=
  let first := hash.bytes.get ⟨0, by rw [hash.length_eq]; decide⟩
  ⟨(first >>> 4).toNat, by
    rw [UInt8.toNat_shiftRight]
    have := first.toNat_lt
    have four : (4 : UInt8).toNat % 8 = 4 := rfl
    rw [four, Nat.shiftRight_eq_div_pow]
    omega⟩

/-- `Map<V>`: the buckets of `HashMap<Hash, V>`. -/
abbrev Map (V : Type) := BucketMap Hash V 16 getIndex

namespace Map

variable {V : Type}

/-- `Map::new`; the capacity only sizes the allocation. -/
def new (_cache_size : Nat) : Map V := BucketMap.empty

/-- `Map::insert` through `Bucket::insert`: a present hash returns the new value
and leaves the bucket alone; otherwise the hash is inserted and, as
`HashMap::insert` of an absent key, nothing is returned. -/
def insert (map : Map V) (tx_hash : Hash) (value : V) : Option V × Map V :=
  if BucketMap.mem map tx_hash then (some value, map)
  else (none, BucketMap.insert map tx_hash value)

def containsKey (map : Map V) (tx_hash : Hash) : Bool := BucketMap.mem map tx_hash

def get (map : Map V) (tx_hash : Hash) : Option V := BucketMap.find map tx_hash

def deletes (map : Map V) (tx_hashes : List Hash) : Map V := BucketMap.eraseAll map tx_hashes

def remove (map : Map V) (tx_hash : Hash) : Map V := BucketMap.erase map tx_hash

def len (map : Map V) : Nat := BucketMap.size map

def clear (_map : Map V) : Map V := BucketMap.empty

/-! ### The map as its entries -/

theorem insert_of_contains {map : Map V} {tx_hash : Hash} (present : map.containsKey tx_hash = true)
    (value : V) : map.insert tx_hash value = (some value, map) := by
  simp only [insert]
  rw [if_pos (by simpa [containsKey] using present)]

theorem insert_of_not_contains {map : Map V} {tx_hash : Hash}
    (absent : map.containsKey tx_hash = false) (value : V) :
    map.insert tx_hash value = (none, BucketMap.insert map tx_hash value) := by
  simp only [insert]
  rw [if_neg (by simpa [containsKey] using absent)]

theorem get_insert_self {map : Map V} {tx_hash : Hash} (absent : map.containsKey tx_hash = false)
    (value : V) : (map.insert tx_hash value).2.get tx_hash = some value := by
  rw [insert_of_not_contains absent, get, BucketMap.find_insert, if_pos rfl]

theorem get_eq_dlookup (map : Map V) (tx_hash : Hash) :
    map.get tx_hash = map.entries.dlookup tx_hash :=
  BucketMap.find_eq_dlookup map tx_hash

theorem contains_key_iff (map : Map V) (tx_hash : Hash) :
    map.containsKey tx_hash = true ↔ tx_hash ∈ map.entries.keys :=
  BucketMap.mem_iff map tx_hash

theorem len_eq_length (map : Map V) : map.len = map.entries.length :=
  BucketMap.size_eq_length map

@[simp] theorem entries_remove (map : Map V) (tx_hash : Hash) :
    (map.remove tx_hash).entries = map.entries.filter (fun entry => entry.1 ≠ tx_hash) :=
  BucketMap.entries_erase map tx_hash

@[simp] theorem entries_deletes (map : Map V) (tx_hashes : List Hash) :
    (map.deletes tx_hashes).entries = map.entries.filter (fun entry => entry.1 ∉ tx_hashes) :=
  BucketMap.entries_eraseAll map tx_hashes

@[simp] theorem contains_key_new (cache_size : Nat) (tx_hash : Hash) :
    (new cache_size : Map V).containsKey tx_hash = false := by
  simp [containsKey, new, BucketMap.mem, BucketMap.empty, AList.notMem_empty]

@[simp] theorem entries_new (cache_size : Nat) : (new cache_size : Map V).entries = [] :=
  BucketMap.entries_empty

@[simp] theorem get_new (cache_size : Nat) (tx_hash : Hash) :
    (new cache_size : Map V).get tx_hash = none := by
  rw [get_eq_dlookup, entries_new]
  rfl

/-! ### The answers of the map are those of its finite map -/

theorem mem_toFinmap (map : Map V) (tx_hash : Hash) :
    tx_hash ∈ BucketMap.toFinmap map ↔ map.containsKey tx_hash = true :=
  BucketMap.mem_toFinmap map tx_hash

theorem contains_key_eq (map : Map V) (tx_hash : Hash) :
    map.containsKey tx_hash = decide (tx_hash ∈ BucketMap.toFinmap map) := by
  rw [Bool.eq_iff_iff, decide_eq_true_iff, mem_toFinmap]

theorem get_eq_lookup (map : Map V) (tx_hash : Hash) :
    map.get tx_hash = (BucketMap.toFinmap map).lookup tx_hash :=
  (BucketMap.lookup_toFinmap map tx_hash).symm

theorem insert_fst (map : Map V) (tx_hash : Hash) (value : V) :
    (map.insert tx_hash value).1 = if tx_hash ∈ BucketMap.toFinmap map then some value else none := by
  by_cases present : map.containsKey tx_hash = true
  · rw [insert_of_contains present, if_pos ((mem_toFinmap map tx_hash).mpr present)]
  · rw [Bool.not_eq_true] at present
    rw [insert_of_not_contains present, if_neg (by rw [mem_toFinmap, present]; decide)]

theorem len_eq_card (map : Map V) : map.len = (BucketMap.toFinmap map).keys.card :=
  (BucketMap.card_keys_toFinmap map).symm

end Map

/-! ### The map refines one finite map -/

inductive MapCall (V : Type) where
  | insert (tx_hash : Hash) (value : V)
  | remove (tx_hash : Hash)
  | deletes (tx_hashes : List Hash)
  | clear

namespace MapCall

variable {V : Type}

def step : MapCall V → Map V → Map V
  | .insert tx_hash value, map => (map.insert tx_hash value).2
  | .remove tx_hash, map => map.remove tx_hash
  | .deletes tx_hashes, map => map.deletes tx_hashes
  | .clear, map => map.clear

/-- The same calls on one finite map: an insertion adds a hash it does not
have yet, and the deletions erase exactly the hashes listed. -/
def abstract : MapCall V → Finmap (fun _ : Hash => V) → Finmap (fun _ : Hash => V)
  | .insert tx_hash value, model => if tx_hash ∈ model then model else model.insert tx_hash value
  | .remove tx_hash, model => model.erase tx_hash
  | .deletes tx_hashes, model => tx_hashes.foldl (fun model k => model.erase k) model
  | .clear, _ => ∅

def run (cache_size : Nat) (calls : List (MapCall V)) : Map V :=
  Trace.run step calls (Map.new cache_size)

def models (calls : List (MapCall V)) : Finmap (fun _ : Hash => V) :=
  Trace.run abstract calls ∅

theorem step_refines (call : MapCall V) (map : Map V) :
    BucketMap.toFinmap (call.step map) = call.abstract (BucketMap.toFinmap map) := by
  cases call with
  | insert tx_hash value =>
    by_cases present : map.containsKey tx_hash = true
    · rw [step, Map.insert_of_contains present, abstract,
        if_pos ((Map.mem_toFinmap map tx_hash).mpr present)]
    · rw [Bool.not_eq_true] at present
      rw [step, Map.insert_of_not_contains present, abstract,
        if_neg (by rw [Map.mem_toFinmap, present]; decide), BucketMap.toFinmap_insert]
  | remove tx_hash => exact BucketMap.toFinmap_erase map tx_hash
  | deletes tx_hashes => exact BucketMap.toFinmap_eraseAll map tx_hashes
  | clear => exact BucketMap.toFinmap_empty

theorem refines_run (cache_size : Nat) (calls : List (MapCall V)) :
    BucketMap.toFinmap (run cache_size calls) = models calls :=
  Trace.run_simulation step abstract (fun _ => True)
    (fun map model => BucketMap.toFinmap map = model)
    (fun call map _ _ same => same ▸ step_refines call map) calls (fun _ _ => trivial)
    (Map.new cache_size) ∅ BucketMap.toFinmap_empty

/-- After any calls, the map answers as the finite map the same calls build:
`insert` of a present hash hands the value back and changes nothing, of an
absent one adds it and returns nothing; `contains_key` and `get` read it;
`deletes` removes exactly the listed hashes, whatever their buckets; `len` is
its number of hashes. -/
theorem map_refines_finmap (cache_size : Nat) (calls : List (MapCall V)) :
    BucketMap.toFinmap (run cache_size calls) = models calls ∧
    (∀ tx_hash value,
      ((run cache_size calls).insert tx_hash value).1 =
          (if tx_hash ∈ models calls then some value else none) ∧
        BucketMap.toFinmap ((run cache_size calls).insert tx_hash value).2 =
          (if tx_hash ∈ models calls then models calls else (models calls).insert tx_hash value)) ∧
    (∀ tx_hash, (run cache_size calls).containsKey tx_hash = decide (tx_hash ∈ models calls)) ∧
    (∀ tx_hash, (run cache_size calls).get tx_hash = (models calls).lookup tx_hash) ∧
    (∀ tx_hashes key, (BucketMap.toFinmap ((run cache_size calls).deletes tx_hashes)).lookup key =
      if key ∈ tx_hashes then none else (models calls).lookup key) ∧
    (run cache_size calls).len = (models calls).keys.card := by
  have same := refines_run cache_size calls
  refine ⟨same, fun tx_hash value => ⟨?_, ?_⟩, fun tx_hash => ?_, fun tx_hash => ?_,
    fun tx_hashes key => ?_, ?_⟩
  · rw [Map.insert_fst, same]
  · rw [← same]
    exact step_refines (.insert tx_hash value) _
  · rw [Map.contains_key_eq, same]
  · rw [Map.get_eq_lookup, same]
  · rw [← same, ← BucketMap.lookup_foldl_erase_finmap]
    exact congrArg (Finmap.lookup key) (step_refines (.deletes tx_hashes) _)
  · rw [Map.len_eq_card, same]

end MapCall

end Muta.Mempool
