import Muta.Mempool.Map
import Muta.Lib.BoundedQueue

/-! The transaction cache of `core/mempool/src/tx_cache.rs`.

Transactions sit in two array queues, one of them the incumbent that takes new
insertions and is packaged, and in the map that answers lookups by hash. A
queue entry and a map value are the same `Arc<TxWrapper>`: the transaction and
its `proposed` mark are fixed at allocation, and the `removed` mark is shared
and set through the map. The model gives every allocation an id, keeps the
fixed part in `SharedTx` and the `removed` marks by id in the cache.

The methods are run one at a time. Then `concurrent_count` is zero whenever a
role switch looks at it, so the wait loop of `process_omission_txs` runs its
body once and the counter is left out. The pop loops of `package` and
`flush_incumbent_queue` never push to the queue they pop, so each is a fold
over that queue's items front to back (`BoundedQueue.pop_eq_some`).
-/

set_option autoImplicit false

namespace Muta.Mempool

/-- `MemPoolError`, without `InsertCandidate`, which no function constructs. -/
inductive MemPoolError where
  | ExceedSizeLimit (tx_hash : Hash) (max_tx_size size : UInt64)
  | ExceedCyclesLimit (tx_hash : Hash) (cycles_limit_config cycles_limit_tx : UInt64)
  | Insert (tx_hash : Hash)
  | ReachLimit (pool_size : Nat)
  | Dup (tx_hash : Hash)
  | EnsureBreak (require response : Nat)
  | MisMatch (require response : Nat)
  | CheckSig (tx_hash : Hash)
  | CheckHash (expect actual : Hash)
  | CommittedTx (tx_hash : Hash)
  | WrongChain (tx_hash : Hash)
  | Timeout (tx_hash : Hash) (timeout : UInt64)
  | InvalidTimeout (tx_hash : Hash)
  deriving DecidableEq, Repr

/-- One `Arc<TxWrapper>`: the allocation `id`, the transaction and the
`proposed` mark. -/
structure SharedTx where
  id : Nat
  tx : SignedTransaction
  proposed : Bool
  deriving DecidableEq, Repr

def SharedTx.isTimeout (shared_tx : SharedTx) (current_height timeout : UInt64) : Bool :=
  shared_tx.tx.raw.timeout ≤ current_height || shared_tx.tx.raw.timeout > timeout

theorem SharedTx.is_timeout_of_le {shared_tx : SharedTx} {current_height timeout : UInt64}
    (within : shared_tx.tx.raw.timeout ≤ timeout) :
    shared_tx.isTimeout current_height timeout = decide (shared_tx.tx.raw.timeout ≤ current_height) := by
  simp [isTimeout, UInt64.not_lt.mpr within]

inductive Stage where
  | OrderTxs
  | ProposeTxs
  | Finished
  deriving DecidableEq, Repr

/-- `Stage::next`, which panics after `Finished`; it takes the proof that it is
not called there. -/
def Stage.next : (stage : Stage) → stage ≠ .Finished → Stage
  | .OrderTxs, _ => .ProposeTxs
  | .ProposeTxs, _ => .Finished
  | .Finished, not_finished => absurd rfl not_finished

structure MixedTxHashes where
  order_tx_hashes : List Hash
  propose_tx_hashes : List Hash
  deriving DecidableEq, Repr

structure TxCache where
  queue_0 : BoundedQueue SharedTx
  queue_1 : BoundedQueue SharedTx
  map : Map SharedTx
  is_zero : Bool
  /-- The `removed` mark of each allocated wrapper, by id. -/
  removed : Nat → Bool
  /-- The id of the next allocation. -/
  next_id : Nat

abbrev TxCacheM := EStateM MemPoolError TxCache

namespace TxCache

def new (pool_size : Nat) : TxCache where
  queue_0 := BoundedQueue.new (pool_size * 2)
  queue_1 := BoundedQueue.new (pool_size * 2)
  map := Map.new (pool_size * 2)
  is_zero := true
  removed := fun _ => false
  next_id := 0

def len (cache : TxCache) : Nat := cache.map.len

def isRemoved (cache : TxCache) (shared_tx : SharedTx) : Bool := cache.removed shared_tx.id

def setRemoved (cache : TxCache) (shared_tx : SharedTx) : TxCache :=
  { cache with removed := Function.update cache.removed shared_tx.id true }

/-! ### Queue roles: `get_queue_role` and `switch_queue_role` -/

def incumbent (cache : TxCache) : BoundedQueue SharedTx :=
  if cache.is_zero then cache.queue_0 else cache.queue_1

def candidate (cache : TxCache) : BoundedQueue SharedTx :=
  if cache.is_zero then cache.queue_1 else cache.queue_0

def setIncumbent (cache : TxCache) (queue : BoundedQueue SharedTx) : TxCache :=
  if cache.is_zero then { cache with queue_0 := queue } else { cache with queue_1 := queue }

def setCandidate (cache : TxCache) (queue : BoundedQueue SharedTx) : TxCache :=
  if cache.is_zero then { cache with queue_1 := queue } else { cache with queue_0 := queue }

def switchQueueRole (cache : TxCache) : TxCache := { cache with is_zero := !cache.is_zero }

def setMap (cache : TxCache) (map : Map SharedTx) : TxCache := { cache with map }

def queueLen (cache : TxCache) : Nat := cache.incumbent.len

/-! ### Lookups and admission checks -/

def contain (cache : TxCache) (tx_hash : Hash) : Bool := cache.map.containsKey tx_hash

def get (cache : TxCache) (tx_hash : Hash) : Option SignedTransaction :=
  (cache.map.get tx_hash).map (·.tx)

def showUnknown (cache : TxCache) (tx_hashes : List Hash) : List Hash :=
  tx_hashes.filter fun tx_hash => !cache.contain tx_hash

def checkExist (cache : TxCache) (tx_hash : Hash) : Except MemPoolError Unit :=
  if cache.contain tx_hash then .error (.Dup tx_hash) else .ok ()

def checkReachLimit (cache : TxCache) (pool_size : Nat) : Except MemPoolError Unit :=
  if cache.len ≥ pool_size then .error (.ReachLimit pool_size) else .ok ()

/-! ### Insertion -/

/-- `TxCache::insert`: the map first, which refuses a present hash, then the
incumbent queue, which undoes the map insertion when it is full. -/
def insert (tx_hash : Hash) (shared_tx : SharedTx) : TxCacheM Unit := do
  let cache ← MonadState.get
  let (previous, map) := cache.map.insert tx_hash shared_tx
  if previous.isSome then
    throw (.Dup tx_hash)
  set (cache.setMap map)
  let cache ← MonadState.get
  match cache.incumbent.push shared_tx with
  | .ok queue => set (cache.setIncumbent queue)
  | .error _ =>
    set (cache.setMap (cache.map.remove tx_hash))
    throw (.Insert tx_hash)

/-- A fresh `Arc::new(TxWrapper)` of the transaction, inserted under its hash;
`TxWrapper::new` and `TxWrapper::propose` differ only in `proposed`. -/
def insertWrapped (proposed : Bool) (signed_tx : SignedTransaction) : TxCacheM Unit := do
  let cache ← MonadState.get
  let shared_tx : SharedTx := ⟨cache.next_id, signed_tx, proposed⟩
  set { cache with next_id := cache.next_id + 1 }
  insert signed_tx.tx_hash shared_tx

def insertNewTx (signed_tx : SignedTransaction) : TxCacheM Unit := insertWrapped false signed_tx

def insertProposeTx (signed_tx : SignedTransaction) : TxCacheM Unit :=
  insertWrapped true signed_tx

/-! ### Moving entries between the queues -/

def omissionEntry (cache : TxCache) (shared_tx : SharedTx) : TxCache :=
  match cache.incumbent.push shared_tx with
  | .ok queue => cache.setIncumbent queue
  | .error _ => cache.setMap (cache.map.remove shared_tx.tx.tx_hash)

/-- `process_omission_txs`, after a switch: what is left in the candidate (the old
incumbent) moves to the incumbent. -/
def processOmissionTxs (cache : TxCache) : TxCache :=
  cache.candidate.items.foldl omissionEntry (cache.setCandidate cache.candidate.clear)

def keepEntry (cache : TxCache) (shared_tx : SharedTx) : TxCache :=
  match cache.candidate.push shared_tx with
  | .ok queue => cache.setCandidate queue
  | .error _ => cache.setMap (cache.map.remove shared_tx.tx.tx_hash)

def flushEntry (current_height timeout : UInt64) (acc : TxCache × List Hash)
    (shared_tx : SharedTx) : TxCache × List Hash :=
  if acc.1.isRemoved shared_tx then acc
  else if shared_tx.isTimeout current_height timeout then
    (acc.1, acc.2 ++ [shared_tx.tx.tx_hash])
  else (acc.1.keepEntry shared_tx, acc.2)

def flushIncumbentQueue (cache : TxCache) (current_height timeout : UInt64) : TxCache :=
  let popped := cache.incumbent.items.foldl (flushEntry current_height timeout)
    (cache.setIncumbent cache.incumbent.clear, [])
  let cache := popped.1.switchQueueRole.processOmissionTxs
  cache.setMap (cache.map.deletes popped.2)

def markRemoved (cache : TxCache) (tx_hash : Hash) : TxCache :=
  match cache.map.get tx_hash with
  | some shared_tx => cache.setRemoved shared_tx
  | none => cache

/-- `flush`: mark the wrappers of the hashes removed, delete the hashes from the
map, then rebuild the incumbent queue. -/
def flush (cache : TxCache) (tx_hashes : List Hash) (current_height timeout : UInt64) : TxCache :=
  let marked := tx_hashes.foldl markRemoved cache
  flushIncumbentQueue (marked.setMap (marked.map.deletes tx_hashes)) current_height timeout

/-! ### Packaging -/

structure PackageAcc where
  cache : TxCache
  order_tx_hashes : List Hash
  propose_tx_hashes : List Hash
  timeout_tx_hashes : List Hash
  tx_count : UInt64
  stage : Stage

/-- Where a kept entry's hash goes: counted into the current stage, the stage
moving on when the count passes `tx_num_limit`. Finished entries, and proposed
ones while packing propose hashes, are not counted. -/
def packageCount (tx_num_limit : UInt64) (acc : PackageAcc) (shared_tx : SharedTx) : PackageAcc :=
  if skip : acc.stage = .Finished ∨ (acc.stage = .ProposeTxs ∧ shared_tx.proposed = true) then acc
  else
    let counted := acc.tx_count + 1
    let (stage, tx_count) :=
      if counted > tx_num_limit then (acc.stage.next fun finished => skip (.inl finished), 1)
      else (acc.stage, counted)
    match stage with
    | .OrderTxs =>
      { acc with
        stage := stage
        tx_count := tx_count
        order_tx_hashes := acc.order_tx_hashes ++ [shared_tx.tx.tx_hash] }
    | .ProposeTxs =>
      { acc with
        stage := stage
        tx_count := tx_count
        propose_tx_hashes := acc.propose_tx_hashes ++ [shared_tx.tx.tx_hash] }
    | .Finished => { acc with stage := stage, tx_count := tx_count }

def packageEntry (tx_num_limit current_height timeout : UInt64) (acc : PackageAcc)
    (shared_tx : SharedTx) : PackageAcc :=
  if acc.cache.isRemoved shared_tx then acc
  else if shared_tx.isTimeout current_height timeout then
    { acc with timeout_tx_hashes := acc.timeout_tx_hashes ++ [shared_tx.tx.tx_hash] }
  else packageCount tx_num_limit { acc with cache := acc.cache.keepEntry shared_tx } shared_tx

def package (cache : TxCache) (_cycles_limit tx_num_limit current_height timeout : UInt64) :
    MixedTxHashes × TxCache :=
  let popped := cache.incumbent.items.foldl (packageEntry tx_num_limit current_height timeout)
    ⟨cache.setIncumbent cache.incumbent.clear, [], [], [], 0, .OrderTxs⟩
  let cache := popped.cache.switchQueueRole.processOmissionTxs
  (⟨popped.order_tx_hashes, popped.propose_tx_hashes⟩,
    cache.setMap (cache.map.deletes popped.timeout_tx_hashes))

/-! ### The queue roles as fields

The role accessors commute with every other update; these lemmas say so once,
so that no proof below unfolds a role. -/

section Roles

variable (cache : TxCache) (queue other : BoundedQueue SharedTx)

@[simp] theorem incumbent_set_incumbent : (cache.setIncumbent queue).incumbent = queue := by
  unfold setIncumbent incumbent; split <;> simp_all

@[simp] theorem candidate_set_incumbent : (cache.setIncumbent queue).candidate = cache.candidate := by
  unfold setIncumbent candidate; split <;> simp_all

@[simp] theorem incumbent_set_candidate : (cache.setCandidate queue).incumbent = cache.incumbent := by
  unfold setCandidate incumbent; split <;> simp_all

@[simp] theorem candidate_set_candidate : (cache.setCandidate queue).candidate = queue := by
  unfold setCandidate candidate; split <;> simp_all

@[simp] theorem map_set_incumbent : (cache.setIncumbent queue).map = cache.map := by
  unfold setIncumbent; split <;> rfl

@[simp] theorem map_set_candidate : (cache.setCandidate queue).map = cache.map := by
  unfold setCandidate; split <;> rfl

@[simp] theorem removed_set_incumbent : (cache.setIncumbent queue).removed = cache.removed := by
  unfold setIncumbent; split <;> rfl

@[simp] theorem removed_set_candidate : (cache.setCandidate queue).removed = cache.removed := by
  unfold setCandidate; split <;> rfl

@[simp] theorem is_removed_set_candidate :
    (cache.setCandidate queue).isRemoved = cache.isRemoved := by
  funext shared_tx; simp [isRemoved]

@[simp] theorem is_removed_set_incumbent :
    (cache.setIncumbent queue).isRemoved = cache.isRemoved := by
  funext shared_tx; simp [isRemoved]

@[simp] theorem next_id_set_incumbent : (cache.setIncumbent queue).next_id = cache.next_id := by
  unfold setIncumbent; split <;> rfl

@[simp] theorem next_id_set_candidate : (cache.setCandidate queue).next_id = cache.next_id := by
  unfold setCandidate; split <;> rfl

@[simp] theorem set_candidate_set_candidate :
    (cache.setCandidate queue).setCandidate other = cache.setCandidate other := by
  unfold setCandidate; split <;> simp_all

@[simp] theorem incumbent_switch_queue_role : cache.switchQueueRole.incumbent = cache.candidate := by
  unfold switchQueueRole incumbent candidate; cases cache.is_zero <;> rfl

@[simp] theorem candidate_switch_queue_role : cache.switchQueueRole.candidate = cache.incumbent := by
  unfold switchQueueRole incumbent candidate; cases cache.is_zero <;> rfl

@[simp] theorem map_switch_queue_role : cache.switchQueueRole.map = cache.map := rfl

@[simp] theorem removed_switch_queue_role : cache.switchQueueRole.removed = cache.removed := rfl

@[simp] theorem next_id_switch_queue_role : cache.switchQueueRole.next_id = cache.next_id := rfl

@[simp] theorem incumbent_set_map (map : Map SharedTx) :
    (cache.setMap map).incumbent = cache.incumbent := rfl

@[simp] theorem candidate_set_map (map : Map SharedTx) :
    (cache.setMap map).candidate = cache.candidate := rfl

@[simp] theorem map_set_map (map : Map SharedTx) : (cache.setMap map).map = map := rfl

@[simp] theorem removed_set_map (map : Map SharedTx) : (cache.setMap map).removed = cache.removed := rfl

@[simp] theorem next_id_set_map (map : Map SharedTx) : (cache.setMap map).next_id = cache.next_id := rfl

@[simp] theorem incumbent_with_next_id (next_id : Nat) :
    ({ cache with next_id } : TxCache).incumbent = cache.incumbent := rfl

@[simp] theorem candidate_with_next_id (next_id : Nat) :
    ({ cache with next_id } : TxCache).candidate = cache.candidate := rfl

@[simp] theorem incumbent_with_removed (removed : Nat → Bool) :
    ({ cache with removed } : TxCache).incumbent = cache.incumbent := rfl

@[simp] theorem candidate_with_removed (removed : Nat → Bool) :
    ({ cache with removed } : TxCache).candidate = cache.candidate := rfl

@[simp] theorem incumbent_set_removed (shared_tx : SharedTx) :
    (cache.setRemoved shared_tx).incumbent = cache.incumbent := rfl

@[simp] theorem candidate_set_removed (shared_tx : SharedTx) :
    (cache.setRemoved shared_tx).candidate = cache.candidate := rfl

@[simp] theorem map_set_removed (shared_tx : SharedTx) :
    (cache.setRemoved shared_tx).map = cache.map := rfl

@[simp] theorem next_id_set_removed (shared_tx : SharedTx) :
    (cache.setRemoved shared_tx).next_id = cache.next_id := rfl

theorem set_candidate_candidate : cache.setCandidate cache.candidate = cache := by
  obtain ⟨queue_0, queue_1, map, is_zero, removed, next_id⟩ := cache
  cases is_zero <;> rfl

end Roles

/-! ### What each method does -/

theorem check_reach_limit_ok {cache : TxCache} {pool_size : Nat} :
    cache.checkReachLimit pool_size = .ok () ↔ cache.len < pool_size := by
  unfold checkReachLimit
  split_ifs with full
  · simp only [false_iff]; omega
  · simp only [true_iff]; omega

theorem check_exist_ok {cache : TxCache} {tx_hash : Hash} :
    cache.checkExist tx_hash = .ok () ↔ cache.contain tx_hash = false := by
  unfold checkExist
  split_ifs with present <;> simp [present]

/-- The whole effect of `insert`: a present hash is refused with nothing changed;
a new one enters the map and the incumbent queue, or leaves the map again when
the queue is full. -/
theorem insert_run (tx_hash : Hash) (shared_tx : SharedTx) (cache : TxCache) :
    (insert tx_hash shared_tx).run cache =
      if cache.map.containsKey tx_hash then .error (.Dup tx_hash) cache
      else match cache.incumbent.push shared_tx with
        | .ok queue =>
          .ok () ((cache.setMap (BucketMap.insert cache.map tx_hash shared_tx)).setIncumbent queue)
        | .error _ =>
          .error (.Insert tx_hash)
            (cache.setMap (Map.remove (BucketMap.insert cache.map tx_hash shared_tx) tx_hash)) := by
  cases present : cache.map.containsKey tx_hash
  · simp only [insert, Map.insert_of_not_contains present, EStateM.run_bind, EStateM.run_get,
      Option.isSome_none, Bool.false_eq_true, ↓reduceIte, EStateM.run_set, incumbent_set_map,
      map_set_map]
    split <;> rfl
  · simp [insert, Map.insert_of_contains present, EStateM.run_bind, EStateM.run_get]

theorem insert_wrapped_run (proposed : Bool) (signed_tx : SignedTransaction) (cache : TxCache) :
    (insertWrapped proposed signed_tx).run cache =
      (insert signed_tx.tx_hash ⟨cache.next_id, signed_tx, proposed⟩).run
        { cache with next_id := cache.next_id + 1 } := rfl

/-- Two caches hold the same transactions: one finite map of hashes to wrappers, and
the same queues in the same roles. -/
structure SameContents (cache other : TxCache) : Prop where
  map : BucketMap.toFinmap cache.map = BucketMap.toFinmap other.map
  incumbent : cache.incumbent = other.incumbent
  candidate : cache.candidate = other.candidate

theorem insert_wrapped_error {proposed : Bool} {signed_tx : SignedTransaction}
    {cache after : TxCache} {failure : MemPoolError}
    (fails : (insertWrapped proposed signed_tx).run cache = .error failure after) :
    after.SameContents cache := by
  rw [insert_wrapped_run, insert_run] at fails
  split_ifs at fails with present
  · cases fails
    exact ⟨rfl, by simp, by simp⟩
  · split at fails
    · cases fails
    · -- The queue was full: the map insertion is undone.
      cases fails
      refine ⟨?_, by simp, by simp⟩
      exact BucketMap.toFinmap_erase_insert (Bool.eq_false_iff.mpr present) _

theorem insert_wrapped_ok {proposed : Bool} {signed_tx : SignedTransaction}
    {cache after : TxCache}
    (returns : (insertWrapped proposed signed_tx).run cache = .ok () after) :
    after.map.containsKey signed_tx.tx_hash = true := by
  rw [insert_wrapped_run, insert_run] at returns
  split_ifs at returns with present
  split at returns
  · cases returns
    rw [map_set_incumbent, map_set_map, ← Map.mem_toFinmap, BucketMap.toFinmap_insert]
    exact Finmap.mem_insert.mpr (.inl rfl)
  · cases returns

theorem insert_wrapped_of_room {proposed : Bool} {signed_tx : SignedTransaction} {cache : TxCache}
    (absent : cache.map.containsKey signed_tx.tx_hash = false)
    (room : cache.incumbent.items.length < cache.incumbent.cap) :
    ∃ after, (insertWrapped proposed signed_tx).run cache = .ok () after := by
  obtain ⟨queue, pushed, -, -⟩ := BoundedQueue.push_of_lt room ⟨cache.next_id, signed_tx, proposed⟩
  rw [insert_wrapped_run, insert_run]
  simp only [absent, incumbent_with_next_id, pushed]
  exact ⟨_, rfl⟩

theorem keep_entry_of_room {cache : TxCache} (room : cache.candidate.items.length < cache.candidate.cap)
    (shared_tx : SharedTx) :
    ∃ queue : BoundedQueue SharedTx, queue.cap = cache.candidate.cap ∧
      queue.items = cache.candidate.items ++ [shared_tx] ∧
      cache.keepEntry shared_tx = cache.setCandidate queue := by
  obtain ⟨queue, pushed, items, cap⟩ := BoundedQueue.push_of_lt room shared_tx
  refine ⟨queue, cap, items, ?_⟩
  simp only [keepEntry, pushed]

theorem process_omission_txs_of_empty {cache : TxCache} (empty : cache.candidate.items = []) :
    cache.processOmissionTxs = cache := by
  have cleared : cache.candidate.clear = cache.candidate := BoundedQueue.ext rfl (by simp [empty])
  simp only [processOmissionTxs, empty, List.foldl_nil, cleared, set_candidate_candidate]

theorem flush_entries_fold (current_height timeout : UInt64) :
    ∀ (items : List SharedTx) (cache : TxCache) (timeouts : List Hash),
      cache.candidate.items.length + items.length ≤ cache.candidate.cap →
      ∃ queue : BoundedQueue SharedTx, queue.cap = cache.candidate.cap ∧
        queue.items = cache.candidate.items ++
          items.filter (fun s => !cache.isRemoved s && !s.isTimeout current_height timeout) ∧
        items.foldl (flushEntry current_height timeout) (cache, timeouts) =
          (cache.setCandidate queue, timeouts ++ (items.filter
            (fun s => !cache.isRemoved s && s.isTimeout current_height timeout)).map (·.tx.tx_hash))
  | [], cache, timeouts, _ => ⟨cache.candidate, rfl, by simp, by simp [set_candidate_candidate]⟩
  | shared_tx :: rest, cache, timeouts, room => by
    rw [List.length_cons] at room
    by_cases removed : cache.isRemoved shared_tx = true
    · -- A removed entry is dropped.
      obtain ⟨queue, cap, items, fold⟩ := flush_entries_fold current_height timeout rest cache timeouts
        (by omega)
      refine ⟨queue, cap, by simp [items, removed], ?_⟩
      simp [flushEntry, removed, fold]
    · by_cases timedOut : shared_tx.isTimeout current_height timeout = true
      · obtain ⟨queue, cap, items, fold⟩ := flush_entries_fold current_height timeout rest cache
          (timeouts ++ [shared_tx.tx.tx_hash]) (by omega)
        refine ⟨queue, cap, by simp [items, removed, timedOut], ?_⟩
        simp [flushEntry, removed, timedOut, fold]
      · -- A kept entry goes to the candidate queue, which has room for it.
        obtain ⟨pushed, pushed_cap, pushed_items, keep⟩ :=
          keep_entry_of_room (show cache.candidate.items.length < cache.candidate.cap by omega) shared_tx
        obtain ⟨queue, cap, items, fold⟩ := flush_entries_fold current_height timeout rest
          (cache.setCandidate pushed) timeouts (by simp [pushed_cap, pushed_items]; omega)
        refine ⟨queue, by simp [cap, pushed_cap], ?_, ?_⟩
        · simp [items, pushed_items, removed, timedOut]
        · simp only [List.foldl_cons, flushEntry, removed, timedOut, Bool.false_eq_true,
            ↓reduceIte, keep]
          simpa [removed, timedOut] using fold

theorem package_count_cache (tx_num_limit : UInt64) (acc : PackageAcc) (shared_tx : SharedTx) :
    (packageCount tx_num_limit acc shared_tx).cache = acc.cache ∧
    (packageCount tx_num_limit acc shared_tx).timeout_tx_hashes = acc.timeout_tx_hashes := by
  unfold packageCount
  split
  · exact ⟨rfl, rfl⟩
  · dsimp only
    split <;> (split <;> exact ⟨rfl, rfl⟩)

/-- The pop loop of `package` with room for every kept entry, as the loop of
`flush_incumbent_queue`: counting the hashes into stages does not change which
entries are kept. -/
theorem package_entries_fold (tx_num_limit current_height timeout : UInt64) :
    ∀ (items : List SharedTx) (acc : PackageAcc),
      acc.cache.candidate.items.length + items.length ≤ acc.cache.candidate.cap →
      ∃ queue : BoundedQueue SharedTx, queue.cap = acc.cache.candidate.cap ∧
        queue.items = acc.cache.candidate.items ++
          items.filter (fun s => !acc.cache.isRemoved s && !s.isTimeout current_height timeout) ∧
        (items.foldl (packageEntry tx_num_limit current_height timeout) acc).cache =
          acc.cache.setCandidate queue ∧
        (items.foldl (packageEntry tx_num_limit current_height timeout) acc).timeout_tx_hashes =
          acc.timeout_tx_hashes ++ (items.filter
            (fun s => !acc.cache.isRemoved s && s.isTimeout current_height timeout)).map (·.tx.tx_hash)
  | [], acc, _ => ⟨acc.cache.candidate, rfl, by simp, by simp [set_candidate_candidate], by simp⟩
  | shared_tx :: rest, acc, room => by
    rw [List.length_cons] at room
    by_cases removed : acc.cache.isRemoved shared_tx = true
    · obtain ⟨queue, cap, items, fold, timeouts⟩ :=
        package_entries_fold tx_num_limit current_height timeout rest acc (by omega)
      refine ⟨queue, cap, by simp [items, removed], ?_, ?_⟩
      · simp [packageEntry, removed, fold]
      · simp [packageEntry, removed, timeouts]
    · by_cases timedOut : shared_tx.isTimeout current_height timeout = true
      · obtain ⟨queue, cap, items, fold, timeouts⟩ :=
          package_entries_fold tx_num_limit current_height timeout rest
            { acc with timeout_tx_hashes := acc.timeout_tx_hashes ++ [shared_tx.tx.tx_hash] } (by simpa using (by omega : _))
        refine ⟨queue, cap, by simp [items, removed, timedOut], ?_, ?_⟩
        · simpa [packageEntry, removed, timedOut] using fold
        · simpa [packageEntry, removed, timedOut] using timeouts
      · obtain ⟨pushed, pushed_cap, pushed_items, keep⟩ := keep_entry_of_room
          (show acc.cache.candidate.items.length < acc.cache.candidate.cap by omega) shared_tx
        -- The counted accumulator holds the cache with the entry pushed.
        let counted := packageCount tx_num_limit
          { acc with cache := acc.cache.keepEntry shared_tx } shared_tx
        obtain ⟨same_cache, same_timeouts⟩ := package_count_cache tx_num_limit
          { acc with cache := acc.cache.keepEntry shared_tx } shared_tx
        have counted_cache : counted.cache = acc.cache.setCandidate pushed := by
          rw [same_cache, keep]
        obtain ⟨queue, cap, items, fold, timeouts⟩ :=
          package_entries_fold tx_num_limit current_height timeout rest counted
            (by rw [counted_cache]; simp [pushed_cap, pushed_items]; omega)
        rw [counted_cache] at cap items fold
        refine ⟨queue, by simp [cap, pushed_cap], ?_, ?_, ?_⟩
        · simp [items, pushed_items, removed, timedOut]
        · simpa [packageEntry, removed, timedOut] using fold
        · rw [counted_cache, same_timeouts] at timeouts
          simpa [packageEntry, removed, timedOut] using timeouts

/-- What rebuilding the queues leaves: the incumbent holds `kept`, the candidate
is empty, the roles are swapped, and the marks and ids are untouched. -/
structure Rebuilt (cache after : TxCache) (kept : List SharedTx) : Prop where
  incumbent_items : after.incumbent.items = kept
  incumbent_cap : after.incumbent.cap = cache.candidate.cap
  candidate_items : after.candidate.items = []
  candidate_cap : after.candidate.cap = cache.incumbent.cap
  removed : after.removed = cache.removed
  next_id : after.next_id = cache.next_id

def kept (cache : TxCache) (current_height timeout : UInt64) : List SharedTx :=
  cache.incumbent.items.filter fun s => !cache.isRemoved s && !s.isTimeout current_height timeout

theorem mem_kept {cache : TxCache} {current_height timeout : UInt64} {shared_tx : SharedTx} :
    shared_tx ∈ cache.kept current_height timeout ↔ shared_tx ∈ cache.incumbent.items ∧
      cache.isRemoved shared_tx = false ∧ shared_tx.isTimeout current_height timeout = false := by
  simp [kept]

def timedOut (cache : TxCache) (current_height timeout : UInt64) : List Hash :=
  (cache.incumbent.items.filter fun s => !cache.isRemoved s && s.isTimeout current_height timeout).map
    (·.tx.tx_hash)

theorem flush_incumbent_queue_spec {cache : TxCache} (current_height timeout : UInt64)
    (empty : cache.candidate.items = []) (room : cache.incumbent.items.length ≤ cache.candidate.cap) :
    Rebuilt cache (cache.flushIncumbentQueue current_height timeout)
      (cache.kept current_height timeout) ∧
    (cache.flushIncumbentQueue current_height timeout).map =
      cache.map.deletes (cache.timedOut current_height timeout) := by
  obtain ⟨queue, cap, items, fold⟩ := flush_entries_fold current_height timeout cache.incumbent.items
    (cache.setIncumbent cache.incumbent.clear) [] (by simpa [empty] using room)
  -- After the switch the candidate is the emptied incumbent, so no omission is left.
  have switched : ((cache.setIncumbent cache.incumbent.clear).setCandidate queue).switchQueueRole.candidate.items
      = [] := by simp
  simp only [flushIncumbentQueue, fold, process_omission_txs_of_empty switched]
  refine ⟨⟨?_, ?_, ?_, ?_, ?_, ?_⟩, ?_⟩ <;> simp [kept, timedOut, items, cap, empty]

theorem package_spec {cache : TxCache} (cycles_limit tx_num_limit current_height timeout : UInt64)
    (empty : cache.candidate.items = []) (room : cache.incumbent.items.length ≤ cache.candidate.cap) :
    Rebuilt cache (cache.package cycles_limit tx_num_limit current_height timeout).2
      (cache.kept current_height timeout) ∧
    (cache.package cycles_limit tx_num_limit current_height timeout).2.map =
      cache.map.deletes (cache.timedOut current_height timeout) := by
  obtain ⟨queue, cap, items, fold, timeouts⟩ := package_entries_fold tx_num_limit current_height
    timeout cache.incumbent.items ⟨cache.setIncumbent cache.incumbent.clear, [], [], [], 0, .OrderTxs⟩
    (by simpa [empty] using room)
  have switched : ((cache.setIncumbent cache.incumbent.clear).setCandidate queue).switchQueueRole.candidate.items
      = [] := by simp
  simp only [package, fold, timeouts, process_omission_txs_of_empty switched]
  refine ⟨⟨?_, ?_, ?_, ?_, ?_, ?_⟩, ?_⟩ <;> simp [kept, timedOut, items, cap, empty]

theorem foldl_mark_removed (tx_hashes : List Hash) (cache : TxCache) :
    tx_hashes.foldl markRemoved cache =
      { cache with removed := fun id => cache.removed id ||
          tx_hashes.any fun tx_hash => (cache.map.get tx_hash).any (·.id == id) } := by
  induction tx_hashes generalizing cache with
  | nil => simp
  | cons tx_hash rest ih =>
    rw [List.foldl_cons, ih]
    cases found : cache.map.get tx_hash with
    | none => simp [markRemoved, found]
    | some shared_tx =>
      simp only [markRemoved, found, setRemoved, List.any_cons, Option.any_some]
      congr 1
      funext id
      by_cases same : id = shared_tx.id
      · subst same; simp
      · have differs : (shared_tx.id == id) = false := beq_eq_false_iff_ne.mpr (Ne.symm same)
        simp [Function.update_of_ne same, differs]

end TxCache

end Muta.Mempool
