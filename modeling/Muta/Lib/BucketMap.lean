import Mathlib

/-! A finite map kept in `n` buckets.

Each key lives in the bucket its `index` names, which is a field, so lookups
only ever search one bucket. Seen as a whole the buckets form one association
list, `entries`, with no key twice; every operation is described by what it
does to `entries`, up to the order of the buckets: insertion of a new key adds
one entry, erasure filters the entries, and the size is their number. Up to
that order the entries are one `Finmap`, and each operation is the `Finmap`
operation of the same name.
-/

set_option autoImplicit false

namespace Muta

structure BucketMap (κ V : Type) [DecidableEq κ] (n : Nat) (index : κ → Fin n) where
  buckets : Fin n → AList (fun _ : κ => V)
  indexed : ∀ i k, k ∈ buckets i → index k = i

namespace BucketMap

variable {κ V : Type} [DecidableEq κ] {n : Nat} {index : κ → Fin n}

def empty : BucketMap κ V n index :=
  ⟨fun _ => ∅, fun _ k absent => absurd absent (AList.notMem_empty k)⟩

def find (m : BucketMap κ V n index) (k : κ) : Option V :=
  (m.buckets (index k)).lookup k

def mem (m : BucketMap κ V n index) (k : κ) : Bool :=
  decide (k ∈ m.buckets (index k))

def insert (m : BucketMap κ V n index) (k : κ) (v : V) : BucketMap κ V n index where
  buckets := Function.update m.buckets (index k) ((m.buckets (index k)).insert k v)
  indexed i key member := by
    by_cases same : i = index k
    · subst same
      rw [Function.update_self, AList.mem_insert] at member
      rcases member with rfl | old
      · rfl
      · exact m.indexed _ _ old
    · rw [Function.update_of_ne same] at member
      exact m.indexed i key member

def erase (m : BucketMap κ V n index) (k : κ) : BucketMap κ V n index where
  buckets := Function.update m.buckets (index k) ((m.buckets (index k)).erase k)
  indexed i key member := by
    by_cases same : i = index k
    · subst same
      rw [Function.update_self, AList.mem_erase] at member
      exact m.indexed _ _ member.2
    · rw [Function.update_of_ne same] at member
      exact m.indexed i key member

def eraseAll (m : BucketMap κ V n index) (ks : List κ) : BucketMap κ V n index where
  buckets i := (ks.filter (index · = i)).foldl (fun bucket k => bucket.erase k) (m.buckets i)
  indexed i key member := by
    have kept : ∀ (keys : List κ) (bucket : AList (fun _ : κ => V)),
        key ∈ keys.foldl (fun bucket k => bucket.erase k) bucket → key ∈ bucket := by
      intro keys
      induction keys with
      | nil => exact fun _ member => member
      | cons k rest ih => exact fun bucket member => (AList.mem_erase.mp (ih _ member)).2
    exact m.indexed i key (kept _ _ member)

def size (m : BucketMap κ V n index) : Nat :=
  ((List.finRange n).map fun i => (m.buckets i).entries.length).sum

def entries (m : BucketMap κ V n index) : List (Σ _ : κ, V) :=
  (List.finRange n).flatMap fun i => (m.buckets i).entries

/-! ### The entries as one association list -/

theorem index_of_mem_entries (m : BucketMap κ V n index) {i : Fin n} {entry : Σ _ : κ, V}
    (member : entry ∈ (m.buckets i).entries) : index entry.1 = i :=
  m.indexed i entry.1 (List.mem_keys_of_mem member)

theorem mem_entries (m : BucketMap κ V n index) {entry : Σ _ : κ, V} :
    entry ∈ m.entries ↔ entry ∈ (m.buckets (index entry.1)).entries := by
  simp only [entries, List.mem_flatMap, List.mem_finRange, true_and]
  constructor
  · rintro ⟨i, member⟩
    rwa [m.index_of_mem_entries member]
  · exact fun member => ⟨_, member⟩

theorem nodupKeys_entries (m : BucketMap κ V n index) : m.entries.NodupKeys := by
  rw [entries, List.flatMap, List.nodupKeys_flatten]
  refine ⟨?_, ?_⟩
  · simp only [List.mem_map, List.mem_finRange, true_and]
    rintro _ ⟨i, rfl⟩
    exact (m.buckets i).nodupKeys
  · -- Two buckets share no key, since a key's bucket is its index.
    rw [List.map_map, List.pairwise_map]
    refine (List.nodup_finRange n).pairwise_of_forall_ne fun i _ j _ different => ?_
    intro key in_i in_j
    exact different ((m.indexed i key in_i).symm.trans (m.indexed j key in_j))

theorem find_eq_dlookup (m : BucketMap κ V n index) (k : κ) : m.find k = m.entries.dlookup k := by
  apply Option.ext
  intro v
  show v ∈ m.find k ↔ v ∈ m.entries.dlookup k
  rw [List.mem_dlookup_iff m.nodupKeys_entries, mem_entries]
  exact AList.mem_lookup_iff

theorem mem_iff (m : BucketMap κ V n index) (k : κ) : m.mem k = true ↔ k ∈ m.entries.keys := by
  rw [mem, decide_eq_true_iff, AList.mem_keys, AList.keys, List.mem_keys, List.mem_keys]
  exact exists_congr fun v => (mem_entries m).symm

theorem size_eq_length (m : BucketMap κ V n index) : m.size = m.entries.length := by
  rw [size, entries, List.length_flatMap]

@[simp] theorem entries_empty : (empty : BucketMap κ V n index).entries = [] := by
  simp [entries, empty, AList.empty_entries]

/-! ### What the operations do to the entries -/

theorem find_insert (m : BucketMap κ V n index) (k : κ) (v : V) (key : κ) :
    (m.insert k v).find key = if key = k then some v else m.find key := by
  by_cases same : key = k
  · subst same
    simp [find, insert, AList.lookup_insert]
  · rw [if_neg same]
    simp only [find, insert]
    -- Only the bucket of `k` changes; in it, `key` is another key.
    by_cases bucket : index key = index k
    · rw [bucket, Function.update_self, AList.lookup_insert_ne same]
    · rw [Function.update_of_ne bucket]

private theorem flatMap_update_cons {β : Type} (g : Fin n → List β) (i : Fin n) (x : β) :
    ∀ buckets : List (Fin n), buckets.Nodup → i ∈ buckets →
      (buckets.flatMap (Function.update g i (x :: g i))).Perm (x :: buckets.flatMap g)
  | [], _, absent => absurd absent List.not_mem_nil
  | j :: rest, nodup, member => by
    rw [List.nodup_cons] at nodup
    rw [List.flatMap_cons, List.flatMap_cons]
    by_cases same : j = i
    · -- The updated bucket comes first; the rest does not contain it again.
      subst same
      have untouched : rest.flatMap (Function.update g j (x :: g j)) = rest.flatMap g :=
        List.flatMap_congr fun other other_mem =>
          Function.update_of_ne (fun equal => nodup.1 (by rw [← equal]; exact other_mem)) _ _
      rw [Function.update_self, untouched]
      rfl
    · have later : i ∈ rest := (List.mem_cons.mp member).resolve_left (Ne.symm same)
      rw [Function.update_of_ne same]
      exact ((flatMap_update_cons g i x rest nodup.2 later).append_left (g j)).trans List.perm_middle

theorem entries_insert_of_not_mem {m : BucketMap κ V n index} {k : κ} (absent : m.mem k = false)
    (v : V) : (m.insert k v).entries.Perm (⟨k, v⟩ :: m.entries) := by
  have fresh : k ∉ m.buckets (index k) := by simpa [mem] using absent
  have bucket : ((m.buckets (index k)).insert k v).entries = ⟨k, v⟩ :: (m.buckets (index k)).entries :=
    AList.entries_insert_of_notMem fresh
  have update : (fun i => ((m.insert k v).buckets i).entries) =
      Function.update (fun i => (m.buckets i).entries) (index k)
        (⟨k, v⟩ :: (m.buckets (index k)).entries) := by
    funext i
    by_cases same : i = index k
    · subst same
      simp only [insert, Function.update_self]
      exact bucket
    · simp [insert, Function.update_of_ne same]
  rw [entries, update]
  exact flatMap_update_cons _ _ _ _ (List.nodup_finRange n) (List.mem_finRange _)

theorem kerase_eq_filter {l : List (Σ _ : κ, V)} (nodup : l.NodupKeys) (k : κ) :
    l.kerase k = l.filter (fun entry => entry.1 ≠ k) := by
  induction l with
  | nil => rfl
  | cons entry rest ih =>
    rw [List.nodupKeys_cons] at nodup
    by_cases same : k = entry.1
    · have dropped : ¬ (decide (entry.1 ≠ k)) = true := by simp [same]
      rw [List.kerase_cons_eq same]
      simp only [List.filter_cons, dropped, Bool.false_eq_true, ↓reduceIte]
      -- No other entry has the key.
      symm
      rw [List.filter_eq_self]
      intro other member
      have differs : other.1 ≠ k := by
        intro equal
        apply nodup.1
        rw [← same, ← equal]
        exact List.mem_keys_of_mem member
      simpa using differs
    · have kept : decide (entry.1 ≠ k) = true := decide_eq_true (Ne.symm same)
      rw [List.kerase_cons_ne same, ih nodup.2]
      simp only [List.filter_cons, kept, ↓reduceIte]

theorem entries_of_filter {m other : BucketMap κ V n index} (keep : κ → Bool)
    (filtered : ∀ i, (other.buckets i).entries = (m.buckets i).entries.filter (keep ·.1)) :
    other.entries = m.entries.filter (keep ·.1) := by
  rw [entries, entries, List.filter_flatMap]
  exact List.flatMap_congr fun i _ => filtered i

theorem entries_erase (m : BucketMap κ V n index) (k : κ) :
    (m.erase k).entries = m.entries.filter (fun entry => entry.1 ≠ k) := by
  refine entries_of_filter (fun key => key ≠ k) fun i => ?_
  by_cases same : i = index k
  · subst same
    simp only [erase, Function.update_self]
    exact kerase_eq_filter (m.buckets _).nodupKeys k
  · -- The key is not in another bucket, so nothing is filtered there.
    simp only [erase, Function.update_of_ne same]
    refine (List.filter_eq_self.mpr fun entry member => ?_).symm
    have : entry.1 ≠ k := fun equal => same (equal ▸ m.index_of_mem_entries member).symm
    simpa using this

private theorem foldl_erase_entries (bucket : AList (fun _ : κ => V)) :
    ∀ keys : List κ, (keys.foldl (fun bucket k => bucket.erase k) bucket).entries =
      bucket.entries.filter (fun entry => entry.1 ∉ keys)
  | [] => by simp
  | k :: rest => by
    rw [List.foldl_cons, foldl_erase_entries _ rest]
    change (List.kerase k bucket.entries).filter _ = _
    rw [kerase_eq_filter bucket.nodupKeys, List.filter_filter]
    congr 1
    funext entry
    simp [Bool.and_comm]

theorem entries_eraseAll (m : BucketMap κ V n index) (ks : List κ) :
    (m.eraseAll ks).entries = m.entries.filter (fun entry => entry.1 ∉ ks) := by
  refine entries_of_filter (fun key => key ∉ ks) fun i => ?_
  simp only [eraseAll]
  rw [foldl_erase_entries]
  -- A key of bucket `i` is in `ks` exactly when it is among the keys of index `i`.
  refine List.filter_congr fun entry member => ?_
  have home := m.index_of_mem_entries member
  simp [home]

theorem find_erase (m : BucketMap κ V n index) (k key : κ) :
    (m.erase k).find key = if key = k then none else m.find key := by
  by_cases same : key = k
  · subst same
    simp [find, erase, AList.lookup_erase]
  · rw [if_neg same]
    simp only [find, erase]
    -- Only the bucket of `k` changes, and in it `key` is another key.
    by_cases bucket : index key = index k
    · rw [bucket, Function.update_self, AList.lookup_erase_ne same]
    · rw [Function.update_of_ne bucket]

private theorem lookup_foldl_erase (key : κ) :
    ∀ (keys : List κ) (bucket : AList (fun _ : κ => V)),
      (keys.foldl (fun bucket k => bucket.erase k) bucket).lookup key =
        if key ∈ keys then none else bucket.lookup key
  | [], bucket => by simp
  | k :: rest, bucket => by
    rw [List.foldl_cons, lookup_foldl_erase key rest]
    by_cases later : key ∈ rest
    · simp [later]
    · by_cases same : key = k
      · subst same
        simp [later, AList.lookup_erase]
      · simp [later, same, AList.lookup_erase_ne same]

theorem find_eraseAll (m : BucketMap κ V n index) (ks : List κ) (key : κ) :
    (m.eraseAll ks).find key = if key ∈ ks then none else m.find key := by
  simp only [find, eraseAll]
  rw [lookup_foldl_erase]
  -- `key` is among the keys of its own bucket exactly when it is in `ks`.
  simp

/-! ### The map as one finite map -/

def toFinmap (m : BucketMap κ V n index) : Finmap (fun _ : κ => V) :=
  AList.toFinmap ⟨m.entries, m.nodupKeys_entries⟩

theorem lookup_toFinmap (m : BucketMap κ V n index) (k : κ) : m.toFinmap.lookup k = m.find k := by
  rw [toFinmap, Finmap.lookup_toFinmap, find_eq_dlookup]
  rfl

theorem mem_toFinmap (m : BucketMap κ V n index) (k : κ) : k ∈ m.toFinmap ↔ m.mem k = true := by
  rw [toFinmap, Finmap.mem_toFinmap, mem_iff]
  rfl

theorem card_keys_toFinmap (m : BucketMap κ V n index) : m.toFinmap.keys.card = m.size := by
  rw [size_eq_length, Finset.card_def, toFinmap, Finmap.keys_val, Multiset.coe_card]
  simp [AList.keys, List.keys]

theorem toFinmap_insert (m : BucketMap κ V n index) (k : κ) (v : V) :
    (m.insert k v).toFinmap = m.toFinmap.insert k v := by
  refine Finmap.ext_lookup fun key => ?_
  rw [lookup_toFinmap, find_insert]
  by_cases same : key = k
  · subst same
    rw [if_pos rfl, Finmap.lookup_insert]
  · rw [if_neg same, Finmap.lookup_insert_of_ne _ same, lookup_toFinmap]

theorem toFinmap_erase (m : BucketMap κ V n index) (k : κ) :
    (m.erase k).toFinmap = m.toFinmap.erase k := by
  refine Finmap.ext_lookup fun key => ?_
  rw [lookup_toFinmap, find_erase]
  by_cases same : key = k
  · subst same
    rw [if_pos rfl, Finmap.lookup_erase]
  · rw [if_neg same, Finmap.lookup_erase_ne same, lookup_toFinmap]

theorem toFinmap_erase_insert {m : BucketMap κ V n index} {k : κ} (absent : m.mem k = false)
    (v : V) : ((m.insert k v).erase k).toFinmap = m.toFinmap := by
  refine Finmap.ext_lookup fun key => ?_
  rw [lookup_toFinmap, find_erase, find_insert, lookup_toFinmap]
  by_cases same : key = k
  · subst same
    rw [if_pos rfl, ← lookup_toFinmap, eq_comm, Finmap.lookup_eq_none, mem_toFinmap, absent]
    decide
  · rw [if_neg same, if_neg same]

theorem lookup_foldl_erase_finmap (key : κ) :
    ∀ (keys : List κ) (M : Finmap (fun _ : κ => V)),
      (keys.foldl (fun M k => M.erase k) M).lookup key = if key ∈ keys then none else M.lookup key
  | [], M => by simp
  | k :: rest, M => by
    rw [List.foldl_cons, lookup_foldl_erase_finmap key rest]
    by_cases later : key ∈ rest
    · simp [later]
    · by_cases same : key = k
      · subst same
        simp [later, Finmap.lookup_erase]
      · simp [later, same, Finmap.lookup_erase_ne same]

theorem toFinmap_eraseAll (m : BucketMap κ V n index) (ks : List κ) :
    (m.eraseAll ks).toFinmap = ks.foldl (fun M k => M.erase k) m.toFinmap := by
  refine Finmap.ext_lookup fun key => ?_
  rw [lookup_toFinmap, find_eraseAll, lookup_foldl_erase_finmap, lookup_toFinmap]

@[simp] theorem toFinmap_empty : (empty : BucketMap κ V n index).toFinmap = ∅ := by
  refine Finmap.ext_lookup fun key => ?_
  rw [lookup_toFinmap, Finmap.lookup_empty]
  rfl

end BucketMap

end Muta
