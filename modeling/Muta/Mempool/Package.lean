import Muta.Mempool.CacheInvariant

/-! The hashes `TxCache::package` hands to consensus
(`core/mempool/src/tx_cache.rs`).

The loop counts the kept entries through three stages. The first `tx_num_limit`
of them go to `order_tx_hashes`. The next one moves the stage on, and since the
test for a proposed entry reads the stage from before the move, it goes to
`propose_tx_hashes` whether it is proposed or not. After it, proposed entries
are skipped and the others counted until the count passes `tx_num_limit` again.
So `propose_tx_hashes` is the entry right after the order hashes followed by
`tx_num_limit - 1` entries that are not proposed (`package_hashes`), and a
`tx_num_limit` of zero still packs one propose hash.

The count is a `u64`. It stays below `tx_num_limit + 1` in every stage, so it
cannot wrap while the queue holds fewer than `2^64` entries, which a queue of
`usize` capacity does.
-/

set_option autoImplicit false

namespace Muta.Mempool

namespace TxCache

def PackageAcc.counter (acc : PackageAcc) : List Hash × List Hash × UInt64 × Stage :=
  (acc.order_tx_hashes, acc.propose_tx_hashes, acc.tx_count, acc.stage)

section Counting

variable (tx_num_limit : UInt64)

theorem package_count_counter {acc other : PackageAcc} (same : acc.counter = other.counter)
    (shared_tx : SharedTx) :
    (packageCount tx_num_limit acc shared_tx).counter =
      (packageCount tx_num_limit other shared_tx).counter := by
  obtain ⟨cache, order, propose, timeouts, count, stage⟩ := acc
  obtain ⟨cache', order', propose', timeouts', count', stage'⟩ := other
  simp only [PackageAcc.counter, Prod.mk.injEq] at same
  obtain ⟨rfl, rfl, rfl, rfl⟩ := same
  unfold packageCount
  split
  · rfl
  · next counted =>
    -- both sides take the same branches: split on the stage and on the count
    cases stage
    case Finished => exact absurd (Or.inl rfl) counted
    all_goals
      by_cases exceeds : count + 1 > tx_num_limit <;> simp only [exceeds, ↓reduceIte, Stage.next] <;> rfl

theorem foldl_package_count_counter (items : List SharedTx) {acc other : PackageAcc}
    (same : acc.counter = other.counter) :
    (items.foldl (packageCount tx_num_limit) acc).counter =
      (items.foldl (packageCount tx_num_limit) other).counter := by
  induction items generalizing acc other with
  | nil => exact same
  | cons shared_tx rest ih => exact ih (package_count_counter tx_num_limit same shared_tx)

end Counting

theorem removed_keep_entry (cache : TxCache) (shared_tx : SharedTx) :
    (cache.keepEntry shared_tx).removed = cache.removed := by
  unfold keepEntry
  split <;> simp

theorem package_entries_counter (tx_num_limit current_height timeout : UInt64)
    (items : List SharedTx) (acc : PackageAcc) :
    (items.foldl (packageEntry tx_num_limit current_height timeout) acc).counter =
      ((items.filter fun s => !acc.cache.isRemoved s && !s.isTimeout current_height timeout).foldl
        (packageCount tx_num_limit) acc).counter := by
  induction items generalizing acc with
  | nil => rfl
  | cons shared_tx rest ih =>
    by_cases removed : acc.cache.isRemoved shared_tx = true
    · simp only [List.foldl_cons, packageEntry, removed, ↓reduceIte, List.filter_cons,
        Bool.not_true, Bool.false_and, Bool.false_eq_true]
      exact ih acc
    · by_cases timedOut : shared_tx.isTimeout current_height timeout = true
      · simp only [List.foldl_cons, packageEntry, removed, timedOut, ↓reduceIte,
          List.filter_cons, Bool.not_true, Bool.and_false, Bool.false_eq_true]
        rw [ih]
        exact foldl_package_count_counter tx_num_limit _ rfl
      · -- a kept entry is counted, and keeping it changes no `removed` mark
        simp only [List.foldl_cons, packageEntry, removed, timedOut, ↓reduceIte,
          List.filter_cons, Bool.not_false, Bool.and_self, Bool.false_eq_true]
        rw [ih]
        obtain ⟨same_cache, -⟩ := package_count_cache tx_num_limit
          { acc with cache := acc.cache.keepEntry shared_tx } shared_tx
        have marks : (packageCount tx_num_limit
            { acc with cache := acc.cache.keepEntry shared_tx } shared_tx).cache.isRemoved =
            acc.cache.isRemoved := by
          funext s
          simp only [same_cache, isRemoved, removed_keep_entry]
        rw [marks]
        have counted := package_count_counter tx_num_limit
          (show ({ acc with cache := acc.cache.keepEntry shared_tx } : PackageAcc).counter =
            acc.counter from rfl) shared_tx
        exact foldl_package_count_counter tx_num_limit _ counted

/-! ### The three stages of the count -/

section Stages

variable (tx_num_limit : UInt64)

abbrev hashOf (shared_tx : SharedTx) : Hash := shared_tx.tx.tx_hash

theorem count_succ_toNat {count : UInt64} (fits : count.toNat + 1 < 2 ^ 64) :
    (count + 1).toNat = count.toNat + 1 := by
  rw [UInt64.toNat_add]
  simp only [UInt64.toNat_one]
  exact Nat.mod_eq_of_lt fits

theorem count_succ_gt_iff {count : UInt64} (fits : count.toNat + 1 < 2 ^ 64) :
    count + 1 > tx_num_limit ↔ tx_num_limit.toNat < count.toNat + 1 := by
  rw [gt_iff_lt, UInt64.lt_iff_toNat_lt, count_succ_toNat fits]

/-! One entry of the count, by stage and by whether the count passes the limit. -/

theorem package_count_skipped {acc : PackageAcc} {shared_tx : SharedTx}
    (skip : acc.stage = .Finished ∨ (acc.stage = .ProposeTxs ∧ shared_tx.proposed = true)) :
    packageCount tx_num_limit acc shared_tx = acc := by
  rw [packageCount, dif_pos skip]

theorem package_count_order {acc : PackageAcc} (ordering : acc.stage = .OrderTxs)
    (within : ¬ acc.tx_count + 1 > tx_num_limit) (shared_tx : SharedTx) :
    packageCount tx_num_limit acc shared_tx =
      { acc with
        tx_count := acc.tx_count + 1
        order_tx_hashes := acc.order_tx_hashes ++ [hashOf shared_tx] } := by
  simp [packageCount, ordering, within]

theorem package_count_order_over {acc : PackageAcc} (ordering : acc.stage = .OrderTxs)
    (exceeds : acc.tx_count + 1 > tx_num_limit) (shared_tx : SharedTx) :
    packageCount tx_num_limit acc shared_tx =
      { acc with
        stage := .ProposeTxs
        tx_count := 1
        propose_tx_hashes := acc.propose_tx_hashes ++ [hashOf shared_tx] } := by
  -- `Stage.next` takes a proof about the stage, so the stage is substituted first
  obtain ⟨cache, order, propose, timeouts, count, stage⟩ := acc
  subst ordering
  simp [packageCount, exceeds, Stage.next]

theorem package_count_propose {acc : PackageAcc} (proposing : acc.stage = .ProposeTxs)
    {shared_tx : SharedTx} (fresh : shared_tx.proposed = false)
    (within : ¬ acc.tx_count + 1 > tx_num_limit) :
    packageCount tx_num_limit acc shared_tx =
      { acc with
        tx_count := acc.tx_count + 1
        propose_tx_hashes := acc.propose_tx_hashes ++ [hashOf shared_tx] } := by
  simp [packageCount, proposing, fresh, within]

theorem package_count_propose_over {acc : PackageAcc} (proposing : acc.stage = .ProposeTxs)
    {shared_tx : SharedTx} (fresh : shared_tx.proposed = false)
    (exceeds : acc.tx_count + 1 > tx_num_limit) :
    packageCount tx_num_limit acc shared_tx = { acc with stage := .Finished, tx_count := 1 } := by
  obtain ⟨cache, order, propose, timeouts, count, stage⟩ := acc
  subst proposing
  simp [packageCount, fresh, exceeds, Stage.next]

theorem foldl_package_count_finished (items : List SharedTx) {acc : PackageAcc}
    (finished : acc.stage = .Finished) : items.foldl (packageCount tx_num_limit) acc = acc := by
  induction items with
  | nil => rfl
  | cons shared_tx rest ih =>
    rw [List.foldl_cons, package_count_skipped tx_num_limit (.inl finished)]
    exact ih

theorem foldl_package_count_propose (items : List SharedTx) {acc : PackageAcc}
    (proposing : acc.stage = .ProposeTxs) (low : 1 ≤ acc.tx_count.toNat)
    (high : acc.tx_count.toNat ≤ max tx_num_limit.toNat 1)
    (fits : acc.tx_count.toNat + items.length < 2 ^ 64) :
    (items.foldl (packageCount tx_num_limit) acc).order_tx_hashes = acc.order_tx_hashes ∧
    (items.foldl (packageCount tx_num_limit) acc).propose_tx_hashes = acc.propose_tx_hashes ++
      ((items.filter fun s => !s.proposed).take
        (max tx_num_limit.toNat 1 - acc.tx_count.toNat)).map hashOf := by
  induction items generalizing acc with
  | nil => simp
  | cons shared_tx rest ih =>
    rw [List.length_cons] at fits
    cases proposed : shared_tx.proposed
    case true =>
      -- a proposed entry is skipped while packing propose hashes
      rw [List.foldl_cons, package_count_skipped tx_num_limit (.inr ⟨proposing, proposed⟩)]
      simpa [proposed] using ih proposing low high (by omega)
    case false =>
      have fits_one : acc.tx_count.toNat + 1 < 2 ^ 64 := by omega
      by_cases exceeds : acc.tx_count + 1 > tx_num_limit
      · -- the count passes the limit: the stage is finished and nothing more is taken
        have full : max tx_num_limit.toNat 1 - acc.tx_count.toNat = 0 := by
          have := (count_succ_gt_iff tx_num_limit fits_one).mp exceeds
          omega
        rw [List.foldl_cons, package_count_propose_over tx_num_limit proposing proposed exceeds,
          foldl_package_count_finished tx_num_limit rest rfl]
        simp [full]
      · -- the entry is taken, and the count goes up by one
        have within := (count_succ_gt_iff tx_num_limit fits_one).not.mp exceeds
        have counted := count_succ_toNat fits_one
        rw [List.foldl_cons, package_count_propose tx_num_limit proposing proposed exceeds]
        obtain ⟨order, propose⟩ := @ih { acc with
            tx_count := acc.tx_count + 1
            propose_tx_hashes := acc.propose_tx_hashes ++ [hashOf shared_tx] }
          proposing (by simp [counted]) (by simp [counted]; omega) (by simp [counted]; omega)
        have room : max tx_num_limit.toNat 1 - acc.tx_count.toNat =
            (max tx_num_limit.toNat 1 - (acc.tx_count.toNat + 1)) + 1 := by omega
        refine ⟨order, ?_⟩
        rw [propose]
        simp [proposed, counted, room, List.take_succ_cons]

/-- While packing order hashes from a count `count ≤ n`, the next `n - count`
entries are taken as order hashes; the one after them is taken as a propose hash
whatever its mark, and the propose stage goes on from a count of one. -/
theorem foldl_package_count_order (items : List SharedTx) {acc : PackageAcc}
    (ordering : acc.stage = .OrderTxs) (within : acc.tx_count.toNat ≤ tx_num_limit.toNat)
    (fits : acc.tx_count.toNat + items.length < 2 ^ 64) :
    (items.foldl (packageCount tx_num_limit) acc).order_tx_hashes = acc.order_tx_hashes ++
      (items.take (tx_num_limit.toNat - acc.tx_count.toNat)).map hashOf ∧
    (items.foldl (packageCount tx_num_limit) acc).propose_tx_hashes = acc.propose_tx_hashes ++
      ((items.drop (tx_num_limit.toNat - acc.tx_count.toNat)).take 1 ++
        ((items.drop (tx_num_limit.toNat - acc.tx_count.toNat + 1)).filter fun s => !s.proposed).take
          (max tx_num_limit.toNat 1 - 1)).map hashOf := by
  induction items generalizing acc with
  | nil => simp
  | cons shared_tx rest ih =>
    rw [List.length_cons] at fits
    have fits_one : acc.tx_count.toNat + 1 < 2 ^ 64 := by omega
    by_cases exceeds : acc.tx_count + 1 > tx_num_limit
    · -- the count reached the limit: this entry opens the propose stage
      have reached : tx_num_limit.toNat - acc.tx_count.toNat = 0 := by
        have := (count_succ_gt_iff tx_num_limit fits_one).mp exceeds
        omega
      rw [List.foldl_cons, package_count_order_over tx_num_limit ordering exceeds]
      obtain ⟨order, propose⟩ := @foldl_package_count_propose tx_num_limit rest
        { acc with
          stage := .ProposeTxs
          tx_count := 1
          propose_tx_hashes := acc.propose_tx_hashes ++ [hashOf shared_tx] }
        rfl (by simp) (by simp) (by simp; omega)
      refine ⟨by simpa [reached] using order, ?_⟩
      rw [propose]
      simp [reached]
    · -- the entry is taken as an order hash
      have below := (count_succ_gt_iff tx_num_limit fits_one).not.mp exceeds
      have counted := count_succ_toNat fits_one
      have gap : tx_num_limit.toNat - acc.tx_count.toNat =
          (tx_num_limit.toNat - (acc.tx_count.toNat + 1)) + 1 := by omega
      rw [List.foldl_cons, package_count_order tx_num_limit ordering exceeds]
      obtain ⟨order, propose⟩ := @ih { acc with
          tx_count := acc.tx_count + 1
          order_tx_hashes := acc.order_tx_hashes ++ [hashOf shared_tx] }
        ordering (by simp [counted]; omega) (by simp [counted]; omega)
      refine ⟨?_, ?_⟩
      · rw [order]
        simp [counted, gap, List.take_succ_cons]
      · rw [propose]
        simp [counted, gap, List.drop_succ_cons]

end Stages

/-! ### The hashes of `package` -/

/-- The propose selection `package` makes from the kept entries: the entry after
the `n` order hashes, whatever its mark, then `n - 1` entries that are not
proposed. -/
def packedPropose (kept : List SharedTx) (n : Nat) : List SharedTx :=
  (kept.drop n).take 1 ++ ((kept.drop (n + 1)).filter fun s => !s.proposed).take (n - 1)

/-- The hashes `package` hands to consensus, for a queue of fewer than `2^64`
entries: the first `n` kept entries as order hashes, and `packed_propose` of the
kept entries as propose hashes. -/
theorem package_hashes (cache : TxCache) (cycles_limit tx_num_limit current_height timeout : UInt64)
    (bounded : cache.incumbent.items.length < 2 ^ 64) :
    (cache.package cycles_limit tx_num_limit current_height timeout).1.order_tx_hashes =
      ((cache.kept current_height timeout).take tx_num_limit.toNat).map hashOf ∧
    (cache.package cycles_limit tx_num_limit current_height timeout).1.propose_tx_hashes =
      (packedPropose (cache.kept current_height timeout) tx_num_limit.toNat).map hashOf := by
  let start : PackageAcc := ⟨cache.setIncumbent cache.incumbent.clear, [], [], [], 0, .OrderTxs⟩
  have counter := package_entries_counter tx_num_limit current_height timeout
    cache.incumbent.items start
  -- the entries the loop counts are the kept ones
  have filtered : (cache.incumbent.items.filter fun s =>
      !start.cache.isRemoved s && !s.isTimeout current_height timeout) =
      cache.kept current_height timeout := by
    simp [start, kept]
  have fits : start.tx_count.toNat + (cache.kept current_height timeout).length < 2 ^ 64 := by
    have shorter : (cache.kept current_height timeout).length ≤ cache.incumbent.items.length :=
      List.length_filter_le _ _
    simp only [start, UInt64.toNat_zero, Nat.zero_add]
    omega
  rw [filtered] at counter
  obtain ⟨order, propose⟩ := foldl_package_count_order tx_num_limit
    (cache.kept current_height timeout) (rfl : start.stage = .OrderTxs) (by simp [start]) fits
  simp only [PackageAcc.counter, Prod.mk.injEq] at counter
  obtain ⟨same_order, same_propose, -, -⟩ := counter
  have limit : max tx_num_limit.toNat 1 - 1 = tx_num_limit.toNat - 1 := by omega
  refine ⟨?_, ?_⟩
  · simp only [package]
    rw [same_order, order]
    simp [start]
  · simp only [package]
    rw [same_propose, propose]
    simp [start, packedPropose, limit]

/-- `package` on a cache that keeps the invariant, for a pool size of `usize`: the
first `n` entries that did not time out are packed as order hashes, and the
propose hashes are the next entry, whether or not it came from
`insert_propose_tx`, then `n - 1` entries that are not proposed. The entries
that did not time out stay queued in order, and the invariant holds after. -/
theorem package_packs_boundary_entry {pool_size : Nat} {cache : TxCache}
    (inv : CacheInvariant pool_size cache) (small : pool_size < 2 ^ 64)
    (cycles_limit tx_num_limit current_height timeout : UInt64) :
    (cache.package cycles_limit tx_num_limit current_height timeout).1.order_tx_hashes =
      ((cache.incumbent.items.filter fun s => !s.isTimeout current_height timeout).take
        tx_num_limit.toNat).map hashOf ∧
    (cache.package cycles_limit tx_num_limit current_height timeout).1.propose_tx_hashes =
      (packedPropose (cache.incumbent.items.filter fun s => !s.isTimeout current_height timeout)
        tx_num_limit.toNat).map hashOf ∧
    (cache.package cycles_limit tx_num_limit current_height timeout).2.incumbent.items =
      cache.incumbent.items.filter (fun s => !s.isTimeout current_height timeout) ∧
    CacheInvariant pool_size (cache.package cycles_limit tx_num_limit current_height timeout).2 := by
  -- under the invariant nothing queued is removed, so the kept entries are the live ones
  have live : cache.kept current_height timeout =
      cache.incumbent.items.filter fun s => !s.isTimeout current_height timeout := by
    refine List.filter_congr fun s member => ?_
    simp [inv.not_removed s member]
  have bounded : cache.incumbent.items.length < 2 ^ 64 := Nat.lt_of_le_of_lt inv.within small
  obtain ⟨order, propose⟩ := package_hashes cache cycles_limit tx_num_limit current_height
    timeout bounded
  obtain ⟨queued, kept⟩ := inv.package cycles_limit tx_num_limit current_height timeout
  rw [live] at order propose
  exact ⟨order, propose, queued, kept⟩

def boundaryTx (byte : UInt8) : SignedTransaction :=
  let hash : Hash := ⟨List.replicate 32 byte, Hash.replicate_length byte⟩
  ⟨⟨hash, hash, 10, 1, 100, ⟨"asset", "transfer", ""⟩⟩, hash, [], []⟩

theorem package_packs_boundary_entry_proposed :
    ∃ cache : TxCache, CacheInvariant 2 cache ∧ (2 : Nat) < 2 ^ 64 ∧
      (∃ s ∈ cache.incumbent.items, s.tx = boundaryTx 2 ∧ s.proposed = true) ∧
      (cache.package 0 1 0 100).1.propose_tx_hashes = [(boundaryTx 2).tx_hash] := by
  have start := cache_invariant_new 2
  -- a new transaction, then one from propose syncing
  obtain ⟨first, -, first_items, first_inv⟩ := @CacheInvariant.insertWrapped 2 _ start
    (boundaryTx 1) (by rw [start.len_eq]; decide)
    (by rw [Bool.eq_false_iff, Ne, start.contain_iff]; simp [TxCache.new, incumbent]) false
  obtain ⟨second, -, second_items, second_inv⟩ := @CacheInvariant.insertWrapped 2 _ first_inv
    (boundaryTx 2) (by rw [first_inv.len_eq, first_items]; simp [TxCache.new, incumbent])
    (by
      rw [Bool.eq_false_iff, Ne, first_inv.contain_iff, first_items]
      simp [TxCache.new, incumbent, boundaryTx]) true
  obtain ⟨-, propose, -, -⟩ := package_packs_boundary_entry second_inv (by decide) 0 1 0 100
  refine ⟨second, second_inv, by decide,
    ⟨⟨first.next_id, boundaryTx 2, true⟩, by simp [second_items], rfl, rfl⟩, ?_⟩
  rw [propose, second_items, first_items]
  simp [TxCache.new, incumbent, packedPropose, SharedTx.isTimeout, boundaryTx]

/-! ### When the boundary entry is fresh -/

end TxCache

end Muta.Mempool
