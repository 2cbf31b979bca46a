import Muta.Mempool.TxCache
import Muta.Lib.Trace

/-! The representation invariant of `TxCache` over whole sequential runs.

Between two operations the candidate queue is empty, and the map holds exactly
the entries of the incumbent queue, each under its transaction's hash, with no
hash twice and no entry marked removed. Insertions are admitted by
`check_reach_limit(pool_size)` and `check_exist`, so the queue never holds more
than `pool_size` entries while both queues have room for `4 * pool_size`: no
push fails, a rebuild keeps exactly the entries it should, in their order.
-/

set_option autoImplicit false

namespace Muta.Mempool

open TxCache

def SharedTx.entry (shared_tx : SharedTx) : Σ _ : Hash, SharedTx := ⟨shared_tx.tx.tx_hash, shared_tx⟩

structure CacheInvariant (pool_size : Nat) (cache : TxCache) : Prop where
  candidate_empty : cache.candidate.items = []
  map_entries : cache.map.entries.Perm (cache.incumbent.items.map SharedTx.entry)
  hashes_nodup : (cache.incumbent.items.map (·.tx.tx_hash)).Nodup
  ids_nodup : (cache.incumbent.items.map (·.id)).Nodup
  not_removed : ∀ s ∈ cache.incumbent.items, cache.isRemoved s = false
  allocated : ∀ s ∈ cache.incumbent.items, s.id < cache.next_id
  unallocated : ∀ id, cache.next_id ≤ id → cache.removed id = false
  within : cache.incumbent.items.length ≤ pool_size
  incumbent_cap : cache.incumbent.cap = pool_size * 2 * 2
  candidate_cap : cache.candidate.cap = pool_size * 2 * 2

/-! ### Entries of a queue without repeated hashes -/

section Entries

variable {queue : List SharedTx}

theorem keys_map_entry (queue : List SharedTx) :
    (queue.map SharedTx.entry).keys = queue.map (·.tx.tx_hash) := by
  simp [List.keys, SharedTx.entry]

theorem hash_mem_filter_iff (nodup : (queue.map (·.tx.tx_hash)).Nodup) {shared_tx : SharedTx}
    (member : shared_tx ∈ queue) (keep : SharedTx → Bool) :
    shared_tx.tx.tx_hash ∈ (queue.filter keep).map (·.tx.tx_hash) ↔ keep shared_tx = true := by
  constructor
  · rw [List.mem_map]
    rintro ⟨other, kept, same⟩
    rw [List.mem_filter] at kept
    rw [← List.inj_on_of_nodup_map nodup kept.1 member same]
    exact kept.2
  · intro passes
    exact List.mem_map_of_mem (List.mem_filter.mpr ⟨member, passes⟩)

end Entries

theorem CacheInvariant.get_iff {pool_size : Nat} {cache : TxCache} (inv : CacheInvariant pool_size cache)
    (tx_hash : Hash) (shared_tx : SharedTx) :
    cache.map.get tx_hash = some shared_tx ↔
      shared_tx ∈ cache.incumbent.items ∧ shared_tx.tx.tx_hash = tx_hash := by
  have nodup : (cache.incumbent.items.map SharedTx.entry).NodupKeys := by
    rw [List.NodupKeys, keys_map_entry]; exact inv.hashes_nodup
  rw [Map.get_eq_dlookup, List.perm_dlookup tx_hash cache.map.nodupKeys_entries inv.map_entries,
    ← Option.mem_def, List.mem_dlookup_iff nodup, List.mem_map]
  constructor
  · rintro ⟨queued, member, same⟩
    simp only [SharedTx.entry, Sigma.mk.injEq] at same
    obtain ⟨hash, value⟩ := same
    subst value
    exact ⟨member, hash⟩
  · rintro ⟨member, rfl⟩
    exact ⟨shared_tx, member, rfl⟩

theorem CacheInvariant.contain_iff {pool_size : Nat} {cache : TxCache}
    (inv : CacheInvariant pool_size cache) (tx_hash : Hash) :
    cache.contain tx_hash = true ↔ tx_hash ∈ cache.incumbent.items.map (·.tx.tx_hash) := by
  rw [contain, Map.contains_key_iff, ← keys_map_entry]
  exact (inv.map_entries.map Sigma.fst).mem_iff

theorem CacheInvariant.len_eq {pool_size : Nat} {cache : TxCache} (inv : CacheInvariant pool_size cache) :
    cache.len = cache.incumbent.items.length := by
  rw [len, Map.len_eq_length, inv.map_entries.length_eq, List.length_map]

theorem cache_invariant_new (pool_size : Nat) : CacheInvariant pool_size (TxCache.new (pool_size * 2)) where
  candidate_empty := rfl
  map_entries := by simp [TxCache.new, incumbent]
  hashes_nodup := by simp [TxCache.new, incumbent]
  ids_nodup := by simp [TxCache.new, incumbent]
  not_removed := by simp [TxCache.new, incumbent]
  allocated := by simp [TxCache.new, incumbent]
  unallocated := fun _ _ => rfl
  within := by simp [TxCache.new, incumbent]
  incumbent_cap := rfl
  candidate_cap := rfl

/-! ### One step of each operation -/

theorem CacheInvariant.insertWrapped {pool_size : Nat} {cache : TxCache}
    (inv : CacheInvariant pool_size cache) {signed_tx : SignedTransaction}
    (limit : cache.len < pool_size) (fresh : cache.contain signed_tx.tx_hash = false)
    (proposed : Bool) :
    ∃ after, (insertWrapped proposed signed_tx).run cache = .ok () after ∧
      after.incumbent.items = cache.incumbent.items ++ [⟨cache.next_id, signed_tx, proposed⟩] ∧
      CacheInvariant pool_size after := by
  have length := inv.len_eq
  have room : cache.incumbent.items.length < cache.incumbent.cap := by
    rw [inv.incumbent_cap]; omega
  obtain ⟨queue, pushed, items, cap⟩ :=
    BoundedQueue.push_of_lt room (⟨cache.next_id, signed_tx, proposed⟩ : SharedTx)
  have absent : cache.map.containsKey signed_tx.tx_hash = false := fresh
  -- The hash and the id are new to the queue.
  have new_hash : signed_tx.tx_hash ∉ cache.incumbent.items.map (·.tx.tx_hash) := by
    rw [← inv.contain_iff]; simp [fresh]
  have new_id : cache.next_id ∉ cache.incumbent.items.map (·.id) := by
    simp only [List.mem_map, not_exists, not_and]
    exact fun other member same => absurd (inv.allocated other member) (by omega)
  refine ⟨(({ cache with next_id := cache.next_id + 1 } : TxCache).setMap
    (BucketMap.insert cache.map signed_tx.tx_hash ⟨cache.next_id, signed_tx, proposed⟩)).setIncumbent queue,
    ?_, by simp [items], ?_⟩
  · rw [insert_wrapped_run, insert_run]
    simp only [absent, Bool.false_eq_true, ↓reduceIte, incumbent_with_next_id, pushed]
  constructor
  · simpa using inv.candidate_empty
  · simp only [map_set_incumbent, map_set_map, incumbent_set_incumbent, items, List.map_append,
      List.map_cons, List.map_nil]
    exact (BucketMap.entries_insert_of_not_mem absent _).trans
      ((inv.map_entries.cons _).trans (List.perm_append_singleton _ _).symm)
  · rw [incumbent_set_incumbent, items, List.map_append, List.nodup_append_comm]
    exact List.nodup_cons.mpr ⟨new_hash, inv.hashes_nodup⟩
  · rw [incumbent_set_incumbent, items, List.map_append, List.nodup_append_comm]
    exact List.nodup_cons.mpr ⟨new_id, inv.ids_nodup⟩
  · simp only [incumbent_set_incumbent, items, List.mem_append, List.mem_singleton]
    rintro other (member | rfl)
    · simpa [isRemoved] using inv.not_removed other member
    · simpa [isRemoved] using inv.unallocated cache.next_id le_rfl
  · simp only [incumbent_set_incumbent, items, List.mem_append, List.mem_singleton, next_id_set_incumbent]
    rintro other (member | rfl)
    · exact Nat.lt_succ_of_lt (inv.allocated other member)
    · exact Nat.lt_succ_self _
  · intro id later
    simpa using inv.unallocated id (by simp at later; omega)
  · simp [items]; omega
  · simp [cap, inv.incumbent_cap]
  · simpa using inv.candidate_cap

/-- The common part of `flush` and `package`: rebuilding the queue of a cache whose
map holds the entries passing `pre`, exactly the ones not marked removed. -/
theorem CacheInvariant.rebuild {pool_size : Nat} {cache staged after : TxCache}
    (inv : CacheInvariant pool_size cache) (pre : SharedTx → Bool) (current_height timeout : UInt64)
    (queue : staged.incumbent = cache.incumbent) (candidate : staged.candidate = cache.candidate)
    (marks : ∀ s ∈ cache.incumbent.items, staged.isRemoved s = !pre s)
    (unallocated : ∀ id, staged.next_id ≤ id → staged.removed id = false)
    (next_id : staged.next_id = cache.next_id)
    (entries : staged.map.entries.Perm ((cache.incumbent.items.filter pre).map SharedTx.entry))
    (rebuilt : Rebuilt staged after (staged.kept current_height timeout))
    (map : after.map = staged.map.deletes (staged.timedOut current_height timeout)) :
    after.incumbent.items =
      cache.incumbent.items.filter (fun s => pre s && !s.isTimeout current_height timeout) ∧
    CacheInvariant pool_size after := by
  have kept_eq : staged.kept current_height timeout =
      cache.incumbent.items.filter (fun s => pre s && !s.isTimeout current_height timeout) := by
    rw [kept, queue]
    exact List.filter_congr fun s member => by rw [marks s member, Bool.not_not]
  have timed_eq : staged.timedOut current_height timeout =
      (cache.incumbent.items.filter (fun s => pre s && s.isTimeout current_height timeout)).map
        (·.tx.tx_hash) := by
    rw [timedOut, queue]
    congr 1
    exact List.filter_congr fun s member => by rw [marks s member, Bool.not_not]
  have items : after.incumbent.items =
      cache.incumbent.items.filter (fun s => pre s && !s.isTimeout current_height timeout) := by
    rw [rebuilt.incumbent_items, kept_eq]
  have sublist : (cache.incumbent.items.filter
      fun s => pre s && !s.isTimeout current_height timeout).Sublist cache.incumbent.items :=
    List.filter_sublist
  refine ⟨items, ?_⟩
  constructor
  · exact rebuilt.candidate_items
  · -- The timed-out hashes leave the map with their entries, and only they.
    rw [map, Map.entries_deletes, items, timed_eq]
    refine ((entries.filter _).trans ?_)
    rw [List.filter_map, List.filter_filter]
    refine List.Perm.of_eq (congrArg _ ?_)
    refine List.filter_congr fun s member => ?_
    simp only [Function.comp, SharedTx.entry]
    have late := hash_mem_filter_iff inv.hashes_nodup member
      (fun s => pre s && s.isTimeout current_height timeout)
    by_cases passes : pre s = true
    · by_cases expired : s.isTimeout current_height timeout = true
      · simp_all
      · simp_all
    · simp [passes]
  · rw [items]; exact inv.hashes_nodup.sublist (sublist.map _)
  · rw [items]; exact inv.ids_nodup.sublist (sublist.map _)
  · rw [items]
    intro s member
    rw [List.mem_filter, Bool.and_eq_true] at member
    have mark := marks s member.1
    simp only [isRemoved, rebuilt.removed] at mark ⊢
    rw [mark, member.2.1]; rfl
  · rw [items, rebuilt.next_id, next_id]
    exact fun s member => inv.allocated s (List.mem_of_mem_filter member)
  · intro id later
    rw [rebuilt.removed]
    exact unallocated id (rebuilt.next_id ▸ later)
  · rw [items]; exact (List.length_filter_le _ _).trans inv.within
  · rw [rebuilt.incumbent_cap, candidate, inv.candidate_cap]
  · rw [rebuilt.candidate_cap, queue, inv.incumbent_cap]

theorem CacheInvariant.package {pool_size : Nat} {cache : TxCache} (inv : CacheInvariant pool_size cache)
    (cycles_limit tx_num_limit current_height timeout : UInt64) :
    (cache.package cycles_limit tx_num_limit current_height timeout).2.incumbent.items =
      cache.incumbent.items.filter (fun s => !s.isTimeout current_height timeout) ∧
    CacheInvariant pool_size (cache.package cycles_limit tx_num_limit current_height timeout).2 := by
  have room : cache.incumbent.items.length ≤ cache.candidate.cap := by
    rw [inv.candidate_cap]; have := inv.within; omega
  obtain ⟨rebuilt, map⟩ := package_spec cycles_limit tx_num_limit current_height timeout
    inv.candidate_empty room
  have rebuild := inv.rebuild (fun _ => true) current_height timeout rfl rfl
    (fun s member => by simpa using inv.not_removed s member) inv.unallocated rfl
    (by simpa using inv.map_entries) rebuilt map
  simpa using rebuild

-- A queued wrapper is marked by the first loop of `flush` exactly when its hash is
-- flushed: the map holds it under its own hash only, and no other queued wrapper has its id.
theorem CacheInvariant.marked_iff {pool_size : Nat} {cache : TxCache} (inv : CacheInvariant pool_size cache)
    (tx_hashes : List Hash) {s : SharedTx} (member : s ∈ cache.incumbent.items) :
    (tx_hashes.any fun tx_hash => (cache.map.get tx_hash).any (·.id == s.id)) =
      decide (s.tx.tx_hash ∈ tx_hashes) := by
  apply Bool.eq_iff_iff.mpr
  simp only [List.any_eq_true, decide_eq_true_eq]
  constructor
  · rintro ⟨tx_hash, flushed, found⟩
    obtain ⟨other, got, same_id⟩ := (Option.any_eq_true _ _).mp found
    obtain ⟨queued, hash⟩ := (inv.get_iff tx_hash other).mp got
    have same : other = s := List.inj_on_of_nodup_map inv.ids_nodup queued member (by simpa using same_id)
    rw [← same, hash]; exact flushed
  · intro flushed
    refine ⟨s.tx.tx_hash, flushed, (Option.any_eq_true _ _).mpr ⟨s, ?_, by simp⟩⟩
    exact (inv.get_iff _ s).mpr ⟨member, rfl⟩

theorem CacheInvariant.unallocated_unmarked {pool_size : Nat} {cache : TxCache}
    (inv : CacheInvariant pool_size cache) (tx_hashes : List Hash) {id : Nat} (later : cache.next_id ≤ id) :
    (tx_hashes.any fun tx_hash => (cache.map.get tx_hash).any (·.id == id)) = false := by
  simp only [List.any_eq_false, Bool.not_eq_true]
  intro tx_hash _
  cases found : cache.map.get tx_hash with
  | none => rfl
  | some other =>
    have queued := ((inv.get_iff tx_hash other).mp found).1
    have := inv.allocated other queued
    simp only [Option.any_some, beq_eq_false_iff_ne]
    omega

theorem CacheInvariant.flush {pool_size : Nat} {cache : TxCache} (inv : CacheInvariant pool_size cache)
    (tx_hashes : List Hash) (current_height timeout : UInt64) :
    (cache.flush tx_hashes current_height timeout).incumbent.items =
      cache.incumbent.items.filter
        (fun s => decide (s.tx.tx_hash ∉ tx_hashes) && !s.isTimeout current_height timeout) ∧
    CacheInvariant pool_size (cache.flush tx_hashes current_height timeout) := by
  have marked := foldl_mark_removed tx_hashes cache
  let staged := (tx_hashes.foldl markRemoved cache).setMap
    ((tx_hashes.foldl markRemoved cache).map.deletes tx_hashes)
  have room : staged.incumbent.items.length ≤ staged.candidate.cap := by
    simp only [staged, incumbent_set_map, candidate_set_map, marked]
    show cache.incumbent.items.length ≤ cache.candidate.cap
    rw [inv.candidate_cap]; have := inv.within; omega
  obtain ⟨rebuilt, map⟩ := flush_incumbent_queue_spec current_height timeout
    (show staged.candidate.items = [] by simpa [staged, marked] using inv.candidate_empty) room
  refine inv.rebuild (fun s => decide (s.tx.tx_hash ∉ tx_hashes)) current_height timeout
    (by simp [staged, marked]) (by simp [staged, marked]) ?_ ?_ (by simp [staged, marked]) ?_ rebuilt map
  · intro s member
    simp only [staged, isRemoved, removed_set_map, marked]
    have := inv.not_removed s member
    simp only [isRemoved] at this
    rw [this, inv.marked_iff tx_hashes member]
    simp
  · intro id later
    simp only [staged, removed_set_map, next_id_set_map, marked] at later ⊢
    rw [inv.unallocated id later, inv.unallocated_unmarked tx_hashes later]; rfl
  · simp only [staged, map_set_map, marked, Map.entries_deletes]
    refine (inv.map_entries.filter _).trans (List.Perm.of_eq ?_)
    rw [List.filter_map]
    rfl

/-! ### Runs -/

inductive CacheCall where
  | insertNewTx (signed_tx : SignedTransaction)
  | insertProposeTx (signed_tx : SignedTransaction)
  | flush (tx_hashes : List Hash) (current_height timeout : UInt64)
  | package (cycles_limit tx_num_limit current_height timeout : UInt64)

/-- An insertion behind the admission checks of `HashMemPool::insert_tx`; a refused
one leaves the cache alone. -/
def checkedInsert (pool_size : Nat) (cache : TxCache) (tx_hash : Hash) (insertion : TxCacheM Unit) :
    TxCache :=
  match cache.checkReachLimit pool_size, cache.checkExist tx_hash with
  | .ok (), .ok () => Trace.after (insertion.run cache)
  | _, _ => cache

def CacheCall.step (pool_size : Nat) : CacheCall → TxCache → TxCache
  | .insertNewTx signed_tx, cache =>
    checkedInsert pool_size cache signed_tx.tx_hash (TxCache.insertNewTx signed_tx)
  | .insertProposeTx signed_tx, cache =>
    checkedInsert pool_size cache signed_tx.tx_hash (TxCache.insertProposeTx signed_tx)
  | .flush tx_hashes current_height timeout, cache => cache.flush tx_hashes current_height timeout
  | .package cycles_limit tx_num_limit current_height timeout, cache =>
    (cache.package cycles_limit tx_num_limit current_height timeout).2

theorem CacheInvariant.checkedInsert {pool_size : Nat} {cache : TxCache} (inv : CacheInvariant pool_size cache)
    (proposed : Bool) (signed_tx : SignedTransaction) :
    let after := checkedInsert pool_size cache signed_tx.tx_hash (TxCache.insertWrapped proposed signed_tx)
    CacheInvariant pool_size after ∧
      (after.incumbent.items = cache.incumbent.items ∨
        after.incumbent.items = cache.incumbent.items ++ [⟨cache.next_id, signed_tx, proposed⟩]) := by
  cases limit : cache.checkReachLimit pool_size with
  | error _ => simpa [Mempool.checkedInsert, limit] using inv
  | ok _ =>
    cases fresh : cache.checkExist signed_tx.tx_hash with
    | error _ => simpa [Mempool.checkedInsert, limit, fresh] using inv
    | ok _ =>
      obtain ⟨after, run, items, kept⟩ := inv.insertWrapped (check_reach_limit_ok.mp limit)
        (check_exist_ok.mp fresh) proposed
      simp only [Mempool.checkedInsert, limit, fresh, run, Trace.after_ok]
      exact ⟨kept, .inr items⟩

theorem CacheCall.step_invariant {pool_size : Nat} (call : CacheCall) (cache : TxCache)
    (inv : CacheInvariant pool_size cache) : CacheInvariant pool_size (call.step pool_size cache) := by
  cases call with
  | insertNewTx signed_tx => exact (inv.checkedInsert false signed_tx).1
  | insertProposeTx signed_tx => exact (inv.checkedInsert true signed_tx).1
  | flush tx_hashes current_height timeout => exact (inv.flush tx_hashes current_height timeout).2
  | package cycles_limit tx_num_limit current_height timeout =>
    exact (inv.package cycles_limit tx_num_limit current_height timeout).2

def CacheCall.inserted : CacheCall → List SignedTransaction
  | .insertNewTx signed_tx => [signed_tx]
  | .insertProposeTx signed_tx => [signed_tx]
  | .flush .. => []
  | .package .. => []

theorem tx_cache_representation (pool_size : Nat) (cache : TxCache)
    (reached : Trace.Reachable (CacheCall.step pool_size) (fun _ => True)
      (TxCache.new (pool_size * 2)) cache) :
    cache.candidate.items = [] ∧
    (∀ tx_hash shared_tx, cache.map.get tx_hash = some shared_tx ↔
      shared_tx ∈ cache.incumbent.items ∧ shared_tx.tx.tx_hash = tx_hash) ∧
    (cache.incumbent.items.map (·.tx.tx_hash)).Nodup ∧
    (∀ shared_tx ∈ cache.incumbent.items, cache.isRemoved shared_tx = false) ∧
    cache.len = cache.queueLen ∧ cache.queueLen ≤ pool_size ∧
    (∀ signed_tx proposed, cache.checkReachLimit pool_size = .ok () →
      cache.checkExist signed_tx.tx_hash = .ok () →
      ∃ after, (TxCache.insertWrapped proposed signed_tx).run cache = .ok () after ∧
        after.incumbent.items = cache.incumbent.items ++ [⟨cache.next_id, signed_tx, proposed⟩]) ∧
    (∀ tx_hashes current_height timeout,
      (cache.flush tx_hashes current_height timeout).incumbent.items =
        cache.incumbent.items.filter
          (fun s => decide (s.tx.tx_hash ∉ tx_hashes) && !s.isTimeout current_height timeout)) ∧
    (∀ cycles_limit tx_num_limit current_height timeout,
      (cache.package cycles_limit tx_num_limit current_height timeout).2.incumbent.items =
        cache.incumbent.items.filter (fun s => !s.isTimeout current_height timeout)) := by
  have inv : CacheInvariant pool_size cache :=
    reached.invariant (fun call state _ => call.step_invariant state) (cache_invariant_new pool_size)
  refine ⟨inv.candidate_empty, inv.get_iff, inv.hashes_nodup, inv.not_removed, ?_, ?_, ?_, ?_, ?_⟩
  · rw [inv.len_eq]; rfl
  · exact inv.within
  · intro signed_tx proposed limit fresh
    obtain ⟨after, run, items, _⟩ :=
      inv.insertWrapped (check_reach_limit_ok.mp limit) (check_exist_ok.mp fresh) proposed
    exact ⟨after, run, items⟩
  · exact fun tx_hashes current_height timeout => (inv.flush tx_hashes current_height timeout).1
  · exact fun cycles_limit tx_num_limit current_height timeout =>
      (inv.package cycles_limit tx_num_limit current_height timeout).1

def sampleTx : SignedTransaction :=
  let zero : Hash := ⟨List.replicate 32 0, Hash.zeros_length⟩
  ⟨⟨zero, zero, 10, 1, 100, ⟨"asset", "transfer", ""⟩⟩, zero, [], []⟩

theorem tx_cache_representation_after_insert :
    (CacheCall.step 1 (.insertNewTx sampleTx) (TxCache.new (1 * 2))).len =
      (CacheCall.step 1 (.insertNewTx sampleTx) (TxCache.new (1 * 2))).queueLen ∧
    (CacheCall.step 1 (.insertNewTx sampleTx) (TxCache.new (1 * 2))).queueLen ≤ 1 := by
  obtain ⟨_, _, _, _, same, within, _⟩ := tx_cache_representation 1 _
    ((Trace.Reachable.refl _ _ _).step (.insertNewTx sampleTx) trivial)
  exact ⟨same, within⟩

end Muta.Mempool
