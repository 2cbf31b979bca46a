import Muta.Mempool.CacheInvariant

/-! The memory pool of `core/mempool/src/lib.rs` and the checks of its default
adapter, `core/mempool/src/adapter/mod.rs`.

A call of the pool runs against what its adapter answers during that call: the
checks of a transaction, the transactions a peer sends for a list of hashes,
the latest height. These are the fields of `MemPoolAdapter`, arbitrary
functions, so what is proved for every adapter holds whatever the network and
the storage answer. The awaits of one call are taken to run with no other call
in between, which is also what the lock between `insert_tx` and `flush` buys.

Transactions enter the pool on three paths. `insert` and `sync_propose_txs`
go through `insert_tx`, which runs the admission checks and the adapter's
checks before it touches the cache; `ensure_order_txs` puts what a peer sends
into `callback_cache` after comparing only the number of transactions, each
under the hash it names itself. `get_full_txs` serves both caches.

The pool's `tx_cache` moves only by steps of the cache system of
`CacheInvariant`, each insertion behind the adapter's checks
(`PoolCall.step_refines`), so the cache invariant and "every cached
transaction passed the checks" hold of every pool a run reaches. The callback
cache has no such guard.
-/

set_option autoImplicit false

namespace Muta.Mempool

open TxCache

set_option linter.dupNamespace false in
/-- `ProtocolError` as the pool sees it: its own errors, boxed, and those of
other components by their kind. The constructor is named after the kind, as
`ProtocolError::new(ProtocolErrorKind::Mempool, ..)` builds it. -/
inductive ProtocolError where
  | Mempool (error : MemPoolError)
  | Other (kind : ProtocolErrorKind)
  deriving DecidableEq, Repr

inductive TxType where
  | NewTx
  | ProposeTx
  deriving DecidableEq, Repr

/-- What the adapter answers during one call of the pool. -/
structure MemPoolAdapter where
  pull_txs : List Hash → Except ProtocolError (List SignedTransaction)
  broadcast_tx : SignedTransaction → Except ProtocolError Unit
  checkSignature : SignedTransaction → Except ProtocolError Unit
  checkTransaction : SignedTransaction → Except ProtocolError Unit
  check_storage_exist : Hash → Except ProtocolError Unit
  get_latest_height : Except ProtocolError UInt64

/-! ### The checks of the default adapter -/

/-- What the checks of `DefaultMemPoolAdapter` read: the three values that
`set_args` stores, and the storage's latest block. -/
structure DefaultMemPoolAdapter where
  timeout_gap : UInt64
  cycles_limit : UInt64
  max_tx_size : UInt64
  latest_block : Except ProtocolError Block

namespace DefaultMemPoolAdapter

def checkSignature (verify_signature : Bytes → Bytes → Bytes → Bool) (tx : SignedTransaction) :
    Except ProtocolError Unit :=
  if verify_signature tx.tx_hash.asBytes tx.signature tx.pubkey then .ok ()
  else .error (.Mempool (.CheckSig tx.tx_hash))

/-- `check_transaction`, with `Hash::digest` and the fixed codec of the raw
transaction as parameters. -/
def checkTransaction (adapter : DefaultMemPoolAdapter) (digest : Bytes → Hash)
    (encode_fixed : RawTransaction → Except ProtocolError Bytes) (stx : SignedTransaction) :
    Except ProtocolError Unit := do
  let fixed_bytes ← encode_fixed stx.raw
  let size := UInt64.ofNat fixed_bytes.length
  let tx_hash := digest fixed_bytes
  if tx_hash ≠ stx.tx_hash then
    throw (.Mempool (.CheckHash stx.tx_hash tx_hash))
  if size > adapter.max_tx_size then
    throw (.Mempool (.ExceedSizeLimit tx_hash adapter.max_tx_size size))
  if stx.raw.cycles_limit > adapter.cycles_limit then
    throw (.Mempool (.ExceedCyclesLimit tx_hash adapter.cycles_limit stx.raw.cycles_limit))
  let latest_block ← adapter.latest_block
  if latest_block.header.chain_id ≠ stx.raw.chain_id then
    throw (.Mempool (.WrongChain stx.tx_hash))
  let latest_height := latest_block.header.height
  if stx.raw.timeout > latest_height + adapter.timeout_gap then
    throw (.Mempool (.InvalidTimeout stx.tx_hash))
  if stx.raw.timeout < latest_height then
    throw (.Mempool (.Timeout stx.tx_hash stx.raw.timeout))

/-- What passing both checks says of a transaction: it is signed over its stated
hash, and that hash is the digest of its encoding. -/
def Valid (digest : Bytes → Hash) (encode_fixed : RawTransaction → Except ProtocolError Bytes)
    (verify_signature : Bytes → Bytes → Bytes → Bool) (tx : SignedTransaction) : Prop :=
  verify_signature tx.tx_hash.asBytes tx.signature tx.pubkey = true ∧
    ∃ fixed_bytes, encode_fixed tx.raw = .ok fixed_bytes ∧ digest fixed_bytes = tx.tx_hash

variable {verify_signature : Bytes → Bytes → Bytes → Bool} {digest : Bytes → Hash}
  {encode_fixed : RawTransaction → Except ProtocolError Bytes}

theorem check_signature_ok {tx : SignedTransaction} :
    checkSignature verify_signature tx = .ok () ↔
      verify_signature tx.tx_hash.asBytes tx.signature tx.pubkey = true := by
  unfold checkSignature
  split_ifs with verified <;> simp [verified]

theorem check_transaction_ok {adapter : DefaultMemPoolAdapter} {stx : SignedTransaction}
    (ok : adapter.checkTransaction digest encode_fixed stx = .ok ()) :
    ∃ fixed_bytes, encode_fixed stx.raw = .ok fixed_bytes ∧ digest fixed_bytes = stx.tx_hash := by
  unfold checkTransaction at ok
  cases encoded : encode_fixed stx.raw with
  | error failure => simp [encoded] at ok
  | ok fixed_bytes =>
    refine ⟨fixed_bytes, rfl, ?_⟩
    -- Otherwise the first check throws.
    by_contra mismatch
    simp [encoded, mismatch] at ok

theorem check_transaction_of_mismatch (adapter : DefaultMemPoolAdapter) {stx : SignedTransaction}
    {fixed_bytes : Bytes} (encoded : encode_fixed stx.raw = .ok fixed_bytes)
    (mismatch : digest fixed_bytes ≠ stx.tx_hash) :
    adapter.checkTransaction digest encode_fixed stx =
      .error (.Mempool (.CheckHash stx.tx_hash (digest fixed_bytes))) := by
  simp [checkTransaction, encoded, mismatch]

theorem check_transaction_timeout {adapter : DefaultMemPoolAdapter} {stx : SignedTransaction}
    {block : Block} (latest : adapter.latest_block = .ok block)
    (ok : adapter.checkTransaction digest encode_fixed stx = .ok ()) :
    block.header.height ≤ stx.raw.timeout ∧
      stx.raw.timeout ≤ block.header.height + adapter.timeout_gap := by
  unfold checkTransaction at ok
  cases encoded : encode_fixed stx.raw with
  | error failure => simp [encoded] at ok
  | ok fixed_bytes =>
    -- Each bound is a check of its own; outside it every branch left throws.
    constructor
    · by_contra early
      simp [encoded, latest, UInt64.not_le.mp early] at ok
      split_ifs at ok
    · by_contra late
      simp [encoded, latest, UInt64.not_le.mp late] at ok
      split_ifs at ok

/-- The window `check_transaction` admits at latest height `h` includes `h` itself, where
`is_timeout` with the bound `h + timeout_gap` that `package` and `flush` pass already
expires: a wrapper of an admitted transaction is timed out, and a rebuild of the queue at
that height and gap drops it, exactly when its timeout is `h`. -/
theorem check_transaction_admits_expired {adapter : DefaultMemPoolAdapter}
    {stx : SignedTransaction} {block : Block} (latest : adapter.latest_block = .ok block)
    (ok : adapter.checkTransaction digest encode_fixed stx = .ok ())
    {shared_tx : SharedTx} (wraps : shared_tx.tx = stx) :
    (shared_tx.isTimeout block.header.height (block.header.height + adapter.timeout_gap) = true ↔
        stx.raw.timeout = block.header.height) ∧
      ∀ cache : TxCache, shared_tx ∈ cache.incumbent.items → cache.isRemoved shared_tx = false →
        (shared_tx ∉ cache.kept block.header.height (block.header.height + adapter.timeout_gap) ↔
          stx.raw.timeout = block.header.height) := by
  obtain ⟨low, high⟩ := check_transaction_timeout latest ok
  subst wraps
  have expired : shared_tx.isTimeout block.header.height
      (block.header.height + adapter.timeout_gap) = true ↔
        shared_tx.tx.raw.timeout = block.header.height := by
    rw [SharedTx.is_timeout_of_le high, decide_eq_true_iff]
    exact ⟨fun le => UInt64.le_antisymm le low, fun same => UInt64.le_of_eq same⟩
  refine ⟨expired, fun cache held live => ?_⟩
  rw [TxCache.mem_kept, ← expired]
  simp [held, live]

def sampleHash : Hash := ⟨List.replicate 32 0, Hash.zeros_length⟩

def sampleBlock (height : UInt64) : Block where
  header := {
    chain_id := sampleHash
    height
    exec_height := height
    pre_hash := sampleHash
    timestamp := 0
    logs_bloom := []
    order_root := sampleHash
    confirm_root := []
    state_root := sampleHash
    receipt_root := []
    cycles_used := []
    proposer := ⟨List.replicate 20 0, Address.zeros_length⟩
    proof := ⟨height, 0, sampleHash, [], []⟩
    validator_version := 0
    validators := [] }
  ordered_tx_hashes := []

def sampleTx (timeout : UInt64) : SignedTransaction where
  raw := ⟨sampleHash, sampleHash, timeout, 1, 1, ⟨"asset", "transfer", ""⟩⟩
  tx_hash := sampleHash
  pubkey := []
  signature := []

def sampleAdapter : DefaultMemPoolAdapter where
  timeout_gap := 3
  cycles_limit := 100
  max_tx_size := 1000
  latest_block := .ok (sampleBlock 5)

/-- At latest height 5 and gap 3, a transaction with timeout 5 passes the checks and is
already timed out at (5, 8). -/
theorem check_transaction_admits_expired_at_five :
    sampleAdapter.checkTransaction (fun _ => sampleHash) (fun _ => .ok []) (sampleTx 5) = .ok () ∧
      (⟨0, sampleTx 5, false⟩ : SharedTx).isTimeout 5 (5 + 3) = true :=
  have ok : sampleAdapter.checkTransaction (fun _ => sampleHash) (fun _ => .ok [])
      (sampleTx 5) = .ok () := by rfl
  ⟨ok, (check_transaction_admits_expired rfl ok rfl).1.mpr rfl⟩

end DefaultMemPoolAdapter

def MemPoolAdapter.Vets (Valid : SignedTransaction → Prop) (adapter : MemPoolAdapter) : Prop :=
  ∀ tx, adapter.checkSignature tx = .ok () → adapter.checkTransaction tx = .ok () → Valid tx

def MemPoolAdapter.withDefaultChecks (adapter : MemPoolAdapter) (config : DefaultMemPoolAdapter)
    (digest : Bytes → Hash) (encode_fixed : RawTransaction → Except ProtocolError Bytes)
    (verify_signature : Bytes → Bytes → Bytes → Bool) : MemPoolAdapter :=
  { adapter with
    checkSignature := DefaultMemPoolAdapter.checkSignature verify_signature
    checkTransaction := config.checkTransaction digest encode_fixed }

def MemPoolAdapter.answering (adapter : MemPoolAdapter) (txs : List SignedTransaction) :
    MemPoolAdapter :=
  { adapter with pull_txs := fun _ => .ok txs }

theorem default_checks_vet (config : DefaultMemPoolAdapter) (digest : Bytes → Hash)
    (encode_fixed : RawTransaction → Except ProtocolError Bytes)
    (verify_signature : Bytes → Bytes → Bytes → Bool) (adapter : MemPoolAdapter) :
    MemPoolAdapter.Vets (DefaultMemPoolAdapter.Valid digest encode_fixed verify_signature)
      (adapter.withDefaultChecks config digest encode_fixed verify_signature) := by
  intro tx signed checked
  exact ⟨DefaultMemPoolAdapter.check_signature_ok.mp signed,
    DefaultMemPoolAdapter.check_transaction_ok checked⟩

/-! ### The pool -/

/-- `HashMemPool`, without the adapter, which answers each call, and the lock. -/
structure HashMemPool where
  pool_size : Nat
  timeout_gap : UInt64
  tx_cache : TxCache
  callback_cache : Map SignedTransaction

abbrev MemPoolM := EStateM ProtocolError HashMemPool

namespace HashMemPool

def new (pool_size : Nat) : HashMemPool :=
  ⟨pool_size, 0, TxCache.new (pool_size * 2), Map.new pool_size⟩

def setTxCache (pool : HashMemPool) (tx_cache : TxCache) : HashMemPool := { pool with tx_cache }

def setCallbackCache (pool : HashMemPool) (callback_cache : Map SignedTransaction) :
    HashMemPool :=
  { pool with callback_cache }

def fromResult {α : Type} : Except ProtocolError α → MemPoolM α
  | .ok value => pure value
  | .error failure => throw failure

def onTxCache {α : Type} (call : TxCacheM α) : MemPoolM α := fun pool =>
  match call.run pool.tx_cache with
  | .ok value cache => .ok value (pool.setTxCache cache)
  | .error failure cache => .error (.Mempool failure) (pool.setTxCache cache)

def showUnknownTxs (pool : HashMemPool) (tx_hashes : List Hash) : List Hash :=
  (pool.tx_cache.showUnknown tx_hashes).filter fun tx_hash => !pool.callback_cache.containsKey tx_hash

/-- The checks of `insert_tx` before it touches the cache, in the source's order;
none of them writes to the pool. -/
def insertChecks (adapter : MemPoolAdapter) (pool : HashMemPool) (tx : SignedTransaction) :
    Except ProtocolError Unit := do
  (pool.tx_cache.checkReachLimit pool.pool_size).mapError .Mempool
  (pool.tx_cache.checkExist tx.tx_hash).mapError .Mempool
  adapter.checkSignature tx
  adapter.checkTransaction tx
  adapter.check_storage_exist tx.tx_hash

/-- `insert_tx`; `network_origin` is `ctx.is_network_origin_txs()`. -/
def insertTx (adapter : MemPoolAdapter) (network_origin : Bool) (tx : SignedTransaction)
    (tx_type : TxType) : MemPoolM Unit := do
  let pool ← MonadState.get
  fromResult (insertChecks adapter pool tx)
  match tx_type with
  | .NewTx => onTxCache (TxCache.insertNewTx tx)
  | .ProposeTx => onTxCache (TxCache.insertProposeTx tx)
  if !network_origin then
    fromResult (adapter.broadcast_tx tx)

def insert (adapter : MemPoolAdapter) (network_origin : Bool) (tx : SignedTransaction) :
    MemPoolM Unit :=
  insertTx adapter network_origin tx .NewTx

/-- `package`; the timeout bound `current_height + timeout_gap` wraps as `u64`. -/
def package (adapter : MemPoolAdapter) (cycles_limit tx_num_limit : UInt64) :
    MemPoolM MixedTxHashes := do
  let current_height ← fromResult adapter.get_latest_height
  let pool ← MonadState.get
  let packaged := pool.tx_cache.package cycles_limit tx_num_limit current_height
    (current_height + pool.timeout_gap)
  set (pool.setTxCache packaged.2)
  pure packaged.1

def flush (adapter : MemPoolAdapter) (tx_hashes : List Hash) : MemPoolM Unit := do
  let current_height ← fromResult adapter.get_latest_height
  let pool ← MonadState.get
  set ((pool.setTxCache (pool.tx_cache.flush tx_hashes current_height
    (current_height + pool.timeout_gap))).setCallbackCache pool.callback_cache.clear)

/-- One hash of the loop of `get_full_txs`: the transaction cache first, then the
callback cache. -/
def fullTx (pool : HashMemPool) (tx_hash : Hash) : Option SignedTransaction :=
  match pool.tx_cache.get tx_hash with
  | some tx => some tx
  | none => pool.callback_cache.get tx_hash

def getFullTxs (pool : HashMemPool) (tx_hashes : List Hash) :
    Except ProtocolError (List SignedTransaction) :=
  let full_txs := tx_hashes.filterMap pool.fullTx
  if full_txs.length ≠ tx_hashes.length then
    .error (.Mempool (.MisMatch tx_hashes.length full_txs.length))
  else .ok full_txs

/-- The callback cache after the pulled transactions are put in, each under the
hash it names; a hash already there keeps its transaction. -/
def cachePulled (callback_cache : Map SignedTransaction) (txs : List SignedTransaction) :
    Map SignedTransaction :=
  txs.foldl (fun cache tx => (cache.insert tx.tx_hash tx).2) callback_cache

def ensureOrderTxs (adapter : MemPoolAdapter) (order_tx_hashes : List Hash) : MemPoolM Unit := do
  let pool ← MonadState.get
  let unknown_hashes := pool.showUnknownTxs order_tx_hashes
  if !unknown_hashes.isEmpty then
    let unknown_len := unknown_hashes.length
    let txs ← fromResult (adapter.pull_txs unknown_hashes)
    if txs.length ≠ unknown_len then
      throw (.Mempool (.EnsureBreak unknown_len txs.length))
    let pool ← MonadState.get
    set (pool.setCallbackCache (cachePulled pool.callback_cache txs))

/-- `let _ = ...`: the call's error is dropped, what it wrote stays. -/
def discard (call : MemPoolM Unit) : MemPoolM Unit := fun pool =>
  .ok () (Trace.after (call.run pool))

def insertPulled (adapter : MemPoolAdapter) (network_origin : Bool) :
    List SignedTransaction → MemPoolM Unit
  | [] => pure ()
  | tx :: rest => do
    discard (insertTx adapter network_origin tx .ProposeTx)
    insertPulled adapter network_origin rest

def syncProposeTxs (adapter : MemPoolAdapter) (network_origin : Bool)
    (propose_tx_hashes : List Hash) : MemPoolM Unit := do
  let pool ← MonadState.get
  let unknown_hashes := pool.showUnknownTxs propose_tx_hashes
  if !unknown_hashes.isEmpty then
    let txs ← fromResult (adapter.pull_txs unknown_hashes)
    insertPulled adapter network_origin txs

/-- The pool's half of `set_args`; the adapter's half is its own configuration. -/
def setArgs (timeout_gap : UInt64) : MemPoolM Unit :=
  modify fun pool => { pool with timeout_gap }

/-! ### What each method does -/

@[simp] theorem pool_size_set_tx_cache (pool : HashMemPool) (tx_cache : TxCache) :
    (pool.setTxCache tx_cache).pool_size = pool.pool_size := rfl

@[simp] theorem tx_cache_set_tx_cache (pool : HashMemPool) (tx_cache : TxCache) :
    (pool.setTxCache tx_cache).tx_cache = tx_cache := rfl

@[simp] theorem callback_cache_set_tx_cache (pool : HashMemPool) (tx_cache : TxCache) :
    (pool.setTxCache tx_cache).callback_cache = pool.callback_cache := rfl

@[simp] theorem pool_size_set_callback_cache (pool : HashMemPool) (cache : Map SignedTransaction) :
    (pool.setCallbackCache cache).pool_size = pool.pool_size := rfl

@[simp] theorem tx_cache_set_callback_cache (pool : HashMemPool) (cache : Map SignedTransaction) :
    (pool.setCallbackCache cache).tx_cache = pool.tx_cache := rfl

@[simp] theorem callback_cache_set_callback_cache (pool : HashMemPool)
    (cache : Map SignedTransaction) : (pool.setCallbackCache cache).callback_cache = cache := rfl

@[simp] theorem set_tx_cache_set_tx_cache (pool : HashMemPool) (cache other : TxCache) :
    (pool.setTxCache cache).setTxCache other = pool.setTxCache other := rfl

@[simp] theorem set_tx_cache_tx_cache (pool : HashMemPool) : pool.setTxCache pool.tx_cache = pool :=
  rfl

@[simp] theorem from_result_run {α : Type} (result : Except ProtocolError α) (pool : HashMemPool) :
    (fromResult result).run pool =
      match result with
      | .ok value => .ok value pool
      | .error failure => .error failure pool := by
  cases result <;> rfl

theorem on_tx_cache_run {α : Type} (call : TxCacheM α) (pool : HashMemPool) :
    (onTxCache call).run pool =
      match call.run pool.tx_cache with
      | .ok value cache => .ok value (pool.setTxCache cache)
      | .error failure cache => .error (.Mempool failure) (pool.setTxCache cache) := rfl

theorem insert_checks_ok {adapter : MemPoolAdapter} {pool : HashMemPool} {tx : SignedTransaction}
    (ok : insertChecks adapter pool tx = .ok ()) :
    pool.tx_cache.checkReachLimit pool.pool_size = .ok () ∧
    pool.tx_cache.checkExist tx.tx_hash = .ok () ∧
    adapter.checkSignature tx = .ok () ∧ adapter.checkTransaction tx = .ok () := by
  unfold insertChecks at ok
  cases limit : pool.tx_cache.checkReachLimit pool.pool_size with
  | error _ => simp [limit, Except.mapError] at ok
  | ok _ =>
  cases fresh : pool.tx_cache.checkExist tx.tx_hash with
  | error _ => simp [limit, fresh, Except.mapError] at ok
  | ok _ =>
  cases signed : adapter.checkSignature tx with
  | error _ => simp [limit, fresh, signed, Except.mapError] at ok
  | ok _ =>
  cases checked : adapter.checkTransaction tx with
  | error _ => simp [limit, fresh, signed, checked, Except.mapError] at ok
  | ok _ => exact ⟨rfl, rfl, rfl, rfl⟩

theorem insert_tx_run (adapter : MemPoolAdapter) (network_origin : Bool) (tx : SignedTransaction)
    (tx_type : TxType) (pool : HashMemPool) :
    (insertTx adapter network_origin tx tx_type).run pool =
      match insertChecks adapter pool tx with
      | .error failure => .error failure pool
      | .ok () =>
        match (TxCache.insertWrapped (tx_type == .ProposeTx) tx).run pool.tx_cache with
        | .error failure cache => .error (.Mempool failure) (pool.setTxCache cache)
        | .ok () cache =>
          if network_origin then .ok () (pool.setTxCache cache)
          else match adapter.broadcast_tx tx with
            | .ok () => .ok () (pool.setTxCache cache)
            | .error failure => .error failure (pool.setTxCache cache) := by
  cases checks : insertChecks adapter pool tx with
  | error failure =>
    simp only [insertTx, EStateM.run_bind, EStateM.run_get, from_result_run, checks]
  | ok _ =>
    -- Both types insert a fresh wrapper, then broadcast unless it came from the network.
    have inserted : ∀ proposed, (onTxCache (TxCache.insertWrapped proposed tx) >>= fun _ =>
        if (!network_origin) = true then fromResult (adapter.broadcast_tx tx) else pure ()).run pool =
          match (TxCache.insertWrapped proposed tx).run pool.tx_cache with
          | .error failure cache => .error (.Mempool failure) (pool.setTxCache cache)
          | .ok () cache =>
            if network_origin then .ok () (pool.setTxCache cache)
            else match adapter.broadcast_tx tx with
              | .ok () => .ok () (pool.setTxCache cache)
              | .error failure => .error failure (pool.setTxCache cache) := by
      intro proposed
      rw [EStateM.run_bind, on_tx_cache_run]
      cases (TxCache.insertWrapped proposed tx).run pool.tx_cache with
      | error failure cache => rfl
      | ok _ cache =>
        cases network_origin
        · cases adapter.broadcast_tx tx <;> rfl
        · rfl
    simp only [insertTx, EStateM.run_bind, EStateM.run_get, from_result_run, checks]
    cases tx_type with
    | NewTx => exact inserted false
    | ProposeTx => exact inserted true

theorem after_bind_of_frame {α : Type} (call : MemPoolM α) (next : α → MemPoolM Unit)
    (frame : ∀ value pool, Trace.after ((next value).run pool) = pool) (pool : HashMemPool) :
    Trace.after ((call >>= next).run pool) = Trace.after (call.run pool) := by
  simp only [EStateM.run_bind]
  cases call.run pool with
  | ok value after => exact frame value after
  | error failure after => rfl

theorem from_result_after {α : Type} (result : Except ProtocolError α) (pool : HashMemPool) :
    Trace.after ((fromResult result).run pool) = pool := by
  cases result <;> rfl

theorem step_of_insert_checks {adapter : MemPoolAdapter} {pool : HashMemPool}
    {tx : SignedTransaction} (checks : insertChecks adapter pool tx = .ok ()) (proposed : Bool) :
    checkedInsert pool.pool_size pool.tx_cache tx.tx_hash (TxCache.insertWrapped proposed tx) =
      Trace.after ((TxCache.insertWrapped proposed tx).run pool.tx_cache) := by
  obtain ⟨limit, fresh, _⟩ := insert_checks_ok checks
  simp [checkedInsert, limit, fresh]

theorem on_tx_cache_after {α : Type} (call : TxCacheM α) (pool : HashMemPool) :
    Trace.after ((onTxCache call).run pool) =
      pool.setTxCache (Trace.after (call.run pool.tx_cache)) := by
  rw [on_tx_cache_run]
  cases call.run pool.tx_cache <;> rfl

theorem package_after (adapter : MemPoolAdapter) (cycles_limit tx_num_limit : UInt64)
    (pool : HashMemPool) :
    Trace.after ((package adapter cycles_limit tx_num_limit).run pool) =
      match adapter.get_latest_height with
      | .ok current_height => pool.setTxCache (pool.tx_cache.package cycles_limit tx_num_limit
          current_height (current_height + pool.timeout_gap)).2
      | .error _ => pool := by
  cases latest : adapter.get_latest_height <;>
    simp only [package, EStateM.run_bind, from_result_run, latest] <;> rfl

theorem flush_after (adapter : MemPoolAdapter) (tx_hashes : List Hash) (pool : HashMemPool) :
    Trace.after ((flush adapter tx_hashes).run pool) =
      match adapter.get_latest_height with
      | .ok current_height =>
        (pool.setTxCache (pool.tx_cache.flush tx_hashes current_height
          (current_height + pool.timeout_gap))).setCallbackCache pool.callback_cache.clear
      | .error _ => pool := by
  cases latest : adapter.get_latest_height <;>
    simp only [flush, EStateM.run_bind, from_result_run, latest] <;> rfl

theorem ensure_order_txs_run (adapter : MemPoolAdapter) (order_tx_hashes : List Hash)
    (pool : HashMemPool) :
    (ensureOrderTxs adapter order_tx_hashes).run pool =
      if (pool.showUnknownTxs order_tx_hashes).isEmpty then .ok () pool
      else match adapter.pull_txs (pool.showUnknownTxs order_tx_hashes) with
        | .error failure => .error failure pool
        | .ok txs =>
          if txs.length ≠ (pool.showUnknownTxs order_tx_hashes).length then
            .error (.Mempool (.EnsureBreak (pool.showUnknownTxs order_tx_hashes).length txs.length))
              pool
          else .ok () (pool.setCallbackCache (cachePulled pool.callback_cache txs)) := by
  simp only [ensureOrderTxs, EStateM.run_bind, EStateM.run_get]
  cases (pool.showUnknownTxs order_tx_hashes).isEmpty with
  | true => rfl
  | false =>
    simp only [Bool.not_false, ↓reduceIte, Bool.false_eq_true, EStateM.run_bind, from_result_run]
    cases adapter.pull_txs (pool.showUnknownTxs order_tx_hashes) with
    | error failure => rfl
    | ok txs =>
      dsimp only
      split_ifs <;> rfl

theorem ensure_order_txs_after (adapter : MemPoolAdapter) (order_tx_hashes : List Hash)
    (pool : HashMemPool) :
    Trace.after ((ensureOrderTxs adapter order_tx_hashes).run pool) = pool ∨
      ∃ txs, Trace.after ((ensureOrderTxs adapter order_tx_hashes).run pool) =
        pool.setCallbackCache (cachePulled pool.callback_cache txs) := by
  rw [ensure_order_txs_run]
  split_ifs
  · exact .inl rfl
  · split
    · exact .inl rfl
    · split_ifs
      · exact .inl rfl
      · exact .inr ⟨_, rfl⟩

end HashMemPool

open HashMemPool

def CacheCall.CheckedBy (adapter : MemPoolAdapter) (call : CacheCall) : Prop :=
  ∀ tx ∈ call.inserted, adapter.checkSignature tx = .ok () ∧ adapter.checkTransaction tx = .ok ()

def TxType.cacheCall : TxType → SignedTransaction → CacheCall
  | .NewTx, tx => .insertNewTx tx
  | .ProposeTx, tx => .insertProposeTx tx

namespace HashMemPool

theorem insert_tx_refines (adapter : MemPoolAdapter) (network_origin : Bool)
    (tx : SignedTransaction) (tx_type : TxType) (pool : HashMemPool) :
    ∃ cache, Trace.after ((insertTx adapter network_origin tx tx_type).run pool) =
        pool.setTxCache cache ∧
      Trace.Reachable (CacheCall.step pool.pool_size) (CacheCall.CheckedBy adapter) pool.tx_cache
        cache := by
  -- Broadcasting writes nothing.
  have broadcast : ∀ (_ : Unit) (after : HashMemPool), Trace.after
      ((if (!network_origin) = true then fromResult (adapter.broadcast_tx tx) else pure ()).run
        after) = after := by
    intro _ after
    split
    · exact from_result_after _ after
    · rfl
  cases checks : insertChecks adapter pool tx with
  | error failure =>
    refine ⟨pool.tx_cache, ?_, Trace.Reachable.refl _ _ _⟩
    simp only [insertTx, EStateM.run_bind, EStateM.run_get, from_result_run, checks]
    rfl
  | ok _ =>
    obtain ⟨_, _, signed, checked⟩ := insert_checks_ok checks
    have admitted : (tx_type.cacheCall tx).CheckedBy adapter := by
      cases tx_type <;>
        simp [CacheCall.CheckedBy, TxType.cacheCall, CacheCall.inserted, signed, checked]
    refine ⟨_, ?_, (Trace.Reachable.refl _ _ pool.tx_cache).step _ admitted⟩
    -- Both types insert a fresh wrapper, marked proposed or not.
    have inserted : ∀ proposed, Trace.after ((onTxCache (TxCache.insertWrapped proposed tx) >>=
        fun _ => if (!network_origin) = true then fromResult (adapter.broadcast_tx tx) else pure ()).run
          pool) =
        pool.setTxCache (checkedInsert pool.pool_size pool.tx_cache tx.tx_hash
          (TxCache.insertWrapped proposed tx)) := by
      intro proposed
      rw [after_bind_of_frame _ _ broadcast, on_tx_cache_after, step_of_insert_checks checks proposed]
    cases tx_type with
    | NewTx =>
      simp only [insertTx, EStateM.run_bind, EStateM.run_get, from_result_run, checks,
        TxType.cacheCall, CacheCall.step, TxCache.insertNewTx]
      simpa only [EStateM.run_bind] using inserted false
    | ProposeTx =>
      simp only [insertTx, EStateM.run_bind, EStateM.run_get, from_result_run, checks,
        TxType.cacheCall, CacheCall.step, TxCache.insertProposeTx]
      simpa only [EStateM.run_bind] using inserted true

/-- Every exit of `insert_tx` before the broadcast leaves the transactions of the cache
as they were, and a returning call has the transaction in the cache. The broadcast
comes after the insertion, though: when it fails, for whatever reason the adapter
has, the call fails with the transaction inserted. -/
theorem insert_tx_broadcast_error_keeps_tx (adapter : MemPoolAdapter) (network_origin : Bool)
    (tx : SignedTransaction) (tx_type : TxType) (pool : HashMemPool) :
    (∀ failure after, (insertTx adapter network_origin tx tx_type).run pool = .error failure after →
        after.tx_cache.SameContents pool.tx_cache ∨
          network_origin = false ∧ adapter.broadcast_tx tx = .error failure ∧
            after.tx_cache.map.containsKey tx.tx_hash = true) ∧
      (∀ after, (insertTx adapter network_origin tx tx_type).run pool = .ok () after →
        after.tx_cache.map.containsKey tx.tx_hash = true) ∧
      (insertChecks adapter pool tx = .ok () →
        pool.tx_cache.incumbent.items.length < pool.tx_cache.incumbent.cap →
        network_origin = false → ∀ failure, adapter.broadcast_tx tx = .error failure →
          ∃ after, (insertTx adapter network_origin tx tx_type).run pool = .error failure after ∧
            pool.tx_cache.map.containsKey tx.tx_hash = false ∧
            after.tx_cache.map.containsKey tx.tx_hash = true) := by
  refine ⟨fun failure after fails => ?_, fun after returns => ?_,
    fun checks room origin failure broadcast => ?_⟩
  case refine_1 =>
    rw [insert_tx_run] at fails
    split at fails
    · cases fails
      exact .inl ⟨rfl, rfl, rfl⟩
    · split at fails
      next refusal cache inserted =>
        cases fails
        exact .inl (TxCache.insert_wrapped_error inserted)
      next cache inserted =>
        -- The insertion went through: only the broadcast can fail.
        split at fails
        · cases fails
        · next local_origin =>
          split at fails
          · cases fails
          · next broadcast_failure broadcasted =>
            cases fails
            exact .inr ⟨Bool.eq_false_iff.mpr local_origin, broadcasted,
              TxCache.insert_wrapped_ok inserted⟩
  case refine_2 =>
    rw [insert_tx_run] at returns
    split at returns
    · cases returns
    · split at returns
      · cases returns
      next cache inserted =>
        split at returns
        · cases returns
          exact TxCache.insert_wrapped_ok inserted
        · split at returns
          · cases returns
            exact TxCache.insert_wrapped_ok inserted
          · cases returns
  case refine_3 =>
    obtain ⟨-, fresh, -⟩ := insert_checks_ok checks
    have absent : pool.tx_cache.map.containsKey tx.tx_hash = false := TxCache.check_exist_ok.mp fresh
    obtain ⟨cache, inserted⟩ : ∃ cache,
        (TxCache.insertWrapped (tx_type == .ProposeTx) tx).run pool.tx_cache = .ok () cache :=
      TxCache.insert_wrapped_of_room absent room
    refine ⟨pool.setTxCache cache, ?_, absent, TxCache.insert_wrapped_ok inserted⟩
    rw [insert_tx_run, checks, inserted, origin]
    simp only [Bool.false_eq_true, if_false, broadcast]

/-- An adapter whose checks all pass and whose broadcast answers `failure`, as the
stale error of an earlier gossip batch left in `err_rx` would. -/
def broadcastFailing (failure : ProtocolError) : MemPoolAdapter where
  pull_txs _ := .ok []
  broadcast_tx _ := .error failure
  checkSignature _ := .ok ()
  checkTransaction _ := .ok ()
  check_storage_exist _ := .ok ()
  get_latest_height := .ok 0

/-- `insert` of a new local transaction into a new pool fails on the broadcast and
leaves the transaction in the cache. -/
theorem insert_tx_broadcast_error_keeps_tx_new_pool :
    ∃ after, (insert (broadcastFailing (.Other .Network)) false
        (DefaultMemPoolAdapter.sampleTx 5)).run (new 10) = .error (.Other .Network) after ∧
      (new 10).tx_cache.map.containsKey (DefaultMemPoolAdapter.sampleTx 5).tx_hash = false ∧
      after.tx_cache.map.containsKey (DefaultMemPoolAdapter.sampleTx 5).tx_hash = true :=
  (insert_tx_broadcast_error_keeps_tx (broadcastFailing (.Other .Network)) false
    (DefaultMemPoolAdapter.sampleTx 5) .NewTx (new 10)).2.2 (by rfl) (by decide) rfl _ rfl

theorem insert_pulled_refines (adapter : MemPoolAdapter) (network_origin : Bool) :
    ∀ (txs : List SignedTransaction) (pool : HashMemPool),
      ∃ cache, Trace.after ((insertPulled adapter network_origin txs).run pool) =
          pool.setTxCache cache ∧
        Trace.Reachable (CacheCall.step pool.pool_size) (CacheCall.CheckedBy adapter) pool.tx_cache
          cache
  | [], pool => ⟨pool.tx_cache, rfl, Trace.Reachable.refl _ _ _⟩
  | tx :: rest, pool => by
    obtain ⟨cache, inserted, first⟩ := insert_tx_refines adapter network_origin tx .ProposeTx pool
    obtain ⟨later, pulled, second⟩ :=
      insert_pulled_refines adapter network_origin rest (pool.setTxCache cache)
    refine ⟨later, ?_, first.trans second⟩
    -- The insertion's error is dropped; the next insertion starts where it stopped.
    show Trace.after ((insertPulled adapter network_origin rest).run
      (Trace.after ((insertTx adapter network_origin tx .ProposeTx).run pool))) = _
    rw [inserted, pulled, set_tx_cache_set_tx_cache]

theorem sync_propose_txs_refines (adapter : MemPoolAdapter) (network_origin : Bool)
    (propose_tx_hashes : List Hash) (pool : HashMemPool) :
    ∃ cache, Trace.after ((syncProposeTxs adapter network_origin propose_tx_hashes).run pool) =
        pool.setTxCache cache ∧
      Trace.Reachable (CacheCall.step pool.pool_size) (CacheCall.CheckedBy adapter) pool.tx_cache
        cache := by
  simp only [syncProposeTxs, EStateM.run_bind, EStateM.run_get]
  cases (pool.showUnknownTxs propose_tx_hashes).isEmpty with
  | true => exact ⟨pool.tx_cache, rfl, Trace.Reachable.refl _ _ _⟩
  | false =>
    simp only [Bool.not_false, ↓reduceIte, EStateM.run_bind, from_result_run]
    cases adapter.pull_txs (pool.showUnknownTxs propose_tx_hashes) with
    | error failure => exact ⟨pool.tx_cache, rfl, Trace.Reachable.refl _ _ _⟩
    | ok txs => exact insert_pulled_refines adapter network_origin txs pool

end HashMemPool

/-! ### Runs of the pool -/

/-- The calls of `MemPool` that write to the pool, each with the adapter's answers. -/
inductive PoolCall where
  | insert (adapter : MemPoolAdapter) (network_origin : Bool) (tx : SignedTransaction)
  | package (adapter : MemPoolAdapter) (cycles_limit tx_num_limit : UInt64)
  | flush (adapter : MemPoolAdapter) (tx_hashes : List Hash)
  | ensureOrderTxs (adapter : MemPoolAdapter) (order_tx_hashes : List Hash)
  | syncProposeTxs (adapter : MemPoolAdapter) (network_origin : Bool) (propose_tx_hashes : List Hash)
  | setArgs (timeout_gap : UInt64)

def PoolCall.run : PoolCall → MemPoolM Unit
  | .insert adapter network_origin tx => HashMemPool.insert adapter network_origin tx
  | .package adapter cycles_limit tx_num_limit => do
    let _ ← HashMemPool.package adapter cycles_limit tx_num_limit
  | .flush adapter tx_hashes => HashMemPool.flush adapter tx_hashes
  | .ensureOrderTxs adapter order_tx_hashes => HashMemPool.ensureOrderTxs adapter order_tx_hashes
  | .syncProposeTxs adapter network_origin propose_tx_hashes =>
    HashMemPool.syncProposeTxs adapter network_origin propose_tx_hashes
  | .setArgs timeout_gap => HashMemPool.setArgs timeout_gap

def PoolCall.step (call : PoolCall) (pool : HashMemPool) : HashMemPool :=
  Trace.after (call.run.run pool)

/-- The cache calls a pool call may make: checked insertions behind its adapter's
checks, or calls that insert nothing. -/
def PoolCall.Checked : PoolCall → CacheCall → Prop
  | .insert adapter _ _, call => call.CheckedBy adapter
  | .syncProposeTxs adapter _ _, call => call.CheckedBy adapter
  | _, call => call.inserted = []

def PoolCall.Vets (Valid : SignedTransaction → Prop) : PoolCall → Prop
  | .insert adapter _ _ => adapter.Vets Valid
  | .syncProposeTxs adapter _ _ => adapter.Vets Valid
  | _ => True

def PoolCall.DefaultChecks (config : DefaultMemPoolAdapter) (digest : Bytes → Hash)
    (encode_fixed : RawTransaction → Except ProtocolError Bytes)
    (verify_signature : Bytes → Bytes → Bytes → Bool) : PoolCall → Prop
  | .insert adapter _ _ | .syncProposeTxs adapter _ _ =>
    ∃ base : MemPoolAdapter, adapter = base.withDefaultChecks config digest encode_fixed verify_signature
  | _ => True

theorem PoolCall.DefaultChecks.vets {config : DefaultMemPoolAdapter} {digest : Bytes → Hash}
    {encode_fixed : RawTransaction → Except ProtocolError Bytes}
    {verify_signature : Bytes → Bytes → Bytes → Bool} {call : PoolCall}
    (checks : call.DefaultChecks config digest encode_fixed verify_signature) :
    call.Vets (DefaultMemPoolAdapter.Valid digest encode_fixed verify_signature) := by
  cases call with
  | insert adapter _ _ =>
    obtain ⟨base, rfl⟩ := checks
    exact default_checks_vet config digest encode_fixed verify_signature base
  | syncProposeTxs adapter _ _ =>
    obtain ⟨base, rfl⟩ := checks
    exact default_checks_vet config digest encode_fixed verify_signature base
  | package | flush | ensureOrderTxs | setArgs => trivial

def CacheCall.Inserts (Valid : SignedTransaction → Prop) (call : CacheCall) : Prop :=
  ∀ tx ∈ call.inserted, Valid tx

theorem PoolCall.Checked.inserts {Valid : SignedTransaction → Prop} {call : PoolCall}
    (vets : call.Vets Valid) {cacheCall : CacheCall} (checked : call.Checked cacheCall) :
    cacheCall.Inserts Valid := by
  intro tx member
  -- The other calls make only cache calls that insert nothing.
  have quiet : cacheCall.inserted = [] → Valid tx := fun empty => by
    rw [empty] at member
    cases member
  cases call with
  | insert adapter _ _ => exact vets tx (checked tx member).1 (checked tx member).2
  | syncProposeTxs adapter _ _ => exact vets tx (checked tx member).1 (checked tx member).2
  | package => exact quiet checked
  | flush => exact quiet checked
  | ensureOrderTxs => exact quiet checked
  | setArgs => exact quiet checked

/-- What one call can do to the pool: move the transaction cache along checked
cache calls, and with that clear the callback cache (`flush`); put pulled
transactions into the callback cache; or set the timeout gap. -/
theorem PoolCall.step_cases (call : PoolCall) (pool : HashMemPool) :
    (∃ cache, call.step pool = pool.setTxCache cache ∧
      Trace.Reachable (CacheCall.step pool.pool_size) call.Checked pool.tx_cache cache) ∨
    (∃ cache, call.step pool = (pool.setTxCache cache).setCallbackCache pool.callback_cache.clear ∧
      Trace.Reachable (CacheCall.step pool.pool_size) call.Checked pool.tx_cache cache) ∨
    (∃ txs, call.step pool = pool.setCallbackCache (cachePulled pool.callback_cache txs)) ∨
    (∃ timeout_gap, call.step pool = { pool with timeout_gap }) := by
  -- A cache call that inserts nothing, from the cache to its result.
  have quiet : ∀ cacheCall : CacheCall, cacheCall.inserted = [] → call.Checked cacheCall →
      Trace.Reachable (CacheCall.step pool.pool_size) call.Checked pool.tx_cache
        (cacheCall.step pool.pool_size pool.tx_cache) :=
    fun cacheCall _ checked => (Trace.Reachable.refl _ _ _).step cacheCall checked
  cases call with
  | insert adapter network_origin tx =>
    exact .inl (insert_tx_refines adapter network_origin tx .NewTx pool)
  | package adapter cycles_limit tx_num_limit =>
    left
    rw [PoolCall.step, PoolCall.run, after_bind_of_frame _ _ (fun _ _ => rfl), package_after]
    cases adapter.get_latest_height with
    | error _ => exact ⟨pool.tx_cache, rfl, Trace.Reachable.refl _ _ _⟩
    | ok current_height =>
      exact ⟨_, rfl, quiet (.package cycles_limit tx_num_limit current_height
        (current_height + pool.timeout_gap)) rfl rfl⟩
  | flush adapter tx_hashes =>
    rw [PoolCall.step, PoolCall.run, flush_after]
    cases adapter.get_latest_height with
    | error _ => exact .inl ⟨pool.tx_cache, rfl, Trace.Reachable.refl _ _ _⟩
    | ok current_height =>
      exact .inr (.inl ⟨_, rfl, quiet (.flush tx_hashes current_height
        (current_height + pool.timeout_gap)) rfl rfl⟩)
  | ensureOrderTxs adapter order_tx_hashes =>
    rcases ensure_order_txs_after adapter order_tx_hashes pool with same | pulled
    · exact .inl ⟨pool.tx_cache, same, Trace.Reachable.refl _ _ _⟩
    · exact .inr (.inr (.inl pulled))
  | syncProposeTxs adapter network_origin propose_tx_hashes =>
    exact .inl (sync_propose_txs_refines adapter network_origin propose_tx_hashes pool)
  | setArgs timeout_gap => exact .inr (.inr (.inr ⟨timeout_gap, rfl⟩))

/-- The refinement: the transaction cache of a pool moves only along cache calls,
each insertion valid when the call's adapter vets validity. -/
theorem PoolCall.step_refines {Valid : SignedTransaction → Prop} (call : PoolCall)
    (vets : call.Vets Valid) (pool : HashMemPool) :
    Trace.Reachable (CacheCall.step pool.pool_size) (CacheCall.Inserts Valid) pool.tx_cache
      (call.step pool).tx_cache := by
  have valid : ∀ cacheCall, call.Checked cacheCall → cacheCall.Inserts Valid :=
    fun _ checked => PoolCall.Checked.inserts vets checked
  rcases call.step_cases pool with ⟨cache, same, moved⟩ | ⟨cache, same, moved⟩ | ⟨_, same⟩ | ⟨_, same⟩
  · rw [same]; exact moved.mono valid
  · rw [same]; exact moved.mono valid
  · rw [same]; exact Trace.Reachable.refl _ _ _
  · rw [same]; exact Trace.Reachable.refl _ _ _

theorem show_unknown_txs_new (pool_size : Nat) (tx_hashes : List Hash) :
    (HashMemPool.new pool_size).showUnknownTxs tx_hashes = tx_hashes := by
  simp [showUnknownTxs, TxCache.showUnknown, TxCache.contain, HashMemPool.new, TxCache.new]

/-- `ensure_order_txs` on a new pool, with a peer answering the requested hash with
any transaction naming it, whatever that transaction's body or signature: the
default `check_transaction` refuses it, it is not valid, and yet, in a run whose
every adapter has the default checks, `get_full_txs` serves it. -/
theorem ensure_order_txs_serves_unchecked (config : DefaultMemPoolAdapter) (digest : Bytes → Hash)
    (encode_fixed : RawTransaction → Except ProtocolError Bytes)
    (verify_signature : Bytes → Bytes → Bytes → Bool) (adapter : MemPoolAdapter) (pool_size : Nat)
    (forged : SignedTransaction) (fixed_bytes : Bytes)
    (encoded : encode_fixed forged.raw = .ok fixed_bytes)
    (mismatch : digest fixed_bytes ≠ forged.tx_hash) :
    let peer := (adapter.withDefaultChecks config digest encode_fixed verify_signature).answering
      [forged]
    let pool := (PoolCall.ensureOrderTxs peer [forged.tx_hash]).step (HashMemPool.new pool_size)
    peer.checkTransaction forged = .error (.Mempool (.CheckHash forged.tx_hash (digest fixed_bytes))) ∧
    ¬ DefaultMemPoolAdapter.Valid digest encode_fixed verify_signature forged ∧
    Trace.Reachable PoolCall.step (PoolCall.Vets (DefaultMemPoolAdapter.Valid digest encode_fixed
      verify_signature)) (HashMemPool.new pool_size) pool ∧
    pool.getFullTxs [forged.tx_hash] = .ok [forged] := by
  intro peer pool
  have invalid : ¬ DefaultMemPoolAdapter.Valid digest encode_fixed verify_signature forged := by
    rintro ⟨_, bytes, encoded_bytes, hash⟩
    rw [encoded] at encoded_bytes
    cases encoded_bytes
    exact mismatch hash
  refine ⟨config.check_transaction_of_mismatch encoded mismatch, invalid,
    (Trace.Reachable.refl _ _ _).step _ trivial, ?_⟩
  -- The one hash is unknown and pulled; the answer is cached under the hash it names.
  have pulled : pool = (HashMemPool.new pool_size).setCallbackCache
      (cachePulled (HashMemPool.new pool_size).callback_cache [forged]) := by
    simp [pool, PoolCall.step, PoolCall.run, ensure_order_txs_run, show_unknown_txs_new, peer,
      MemPoolAdapter.answering]
  have served : pool.fullTx forged.tx_hash = some forged := by
    rw [pulled, fullTx]
    simp only [tx_cache_set_callback_cache, callback_cache_set_callback_cache, cachePulled,
      List.foldl_cons, List.foldl_nil]
    rw [TxCache.get, show (HashMemPool.new pool_size).tx_cache.map = Map.new (pool_size * 2) from rfl,
      Map.get_new, Option.map_none]
    exact Map.get_insert_self (@Map.contains_key_new SignedTransaction pool_size forged.tx_hash)
      forged
  simp [getFullTxs, served]

/-- A signed transfer whose stated hash is not the zero digest of its encoding. -/
def forgedTx : SignedTransaction :=
  let zero : Hash := ⟨List.replicate 32 0, Hash.zeros_length⟩
  ⟨⟨zero, zero, 10, 1, 100, ⟨"asset", "transfer", ""⟩⟩, ⟨List.replicate 32 1, Hash.ones_length⟩,
    [], []⟩

def acceptingAdapter : MemPoolAdapter :=
  ⟨fun _ => .ok [], fun _ => .ok (), fun _ => .ok (), fun _ => .ok (), fun _ => .ok (), .ok 0⟩

theorem ensure_order_txs_serves_unchecked_forged :
    ¬ DefaultMemPoolAdapter.Valid (fun _ => forgedTx.raw.chain_id) (fun _ => .ok [])
        (fun _ _ _ => true) forgedTx ∧
      ((PoolCall.ensureOrderTxs
        ((acceptingAdapter.withDefaultChecks ⟨0, 0, 0, .error (.Other .Storage)⟩
          (fun _ => forgedTx.raw.chain_id) (fun _ => .ok []) (fun _ _ _ => true)).answering
          [forgedTx]) [forgedTx.tx_hash]).step (HashMemPool.new 1)).getFullTxs
        [forgedTx.tx_hash] = .ok [forgedTx] := by
  obtain ⟨_, invalid, _, served⟩ := ensure_order_txs_serves_unchecked ⟨0, 0, 0, .error (.Other .Storage)⟩
    (fun _ => forgedTx.raw.chain_id) (fun _ => .ok []) (fun _ _ _ => true) acceptingAdapter 1
    forgedTx [] rfl (by decide)
  exact ⟨invalid, served⟩

end Muta.Mempool
