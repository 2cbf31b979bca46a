import Muta.Consensus.Engine
import Muta.FixedCodec.Block

/-! Block synchronization, `core/consensus/src/synchronization.rs`.

`start_sync` walks from the local height to the remote one. For each height
it reads the local block, fetches the next one from the network, checks that
its `pre_hash` is the digest of the local block, executes it, and commits it on
a status agent of its own. Execution appends one result to the pending lists
and the commit cuts the prefix the header confirms, so after every height the
lists hold the heights its header has not confirmed yet.

The adapter is a record of the calls the loop makes: the network, the
executor and the metadata service are functions of their arguments, and the
local blocks are state, since the loop reads back the block it saved one
height before.
-/

set_option autoImplicit false

namespace Muta.Consensus

open CurrentConsensusStatus FixedCodec

structure ExecutorParams where
  state_root : MerkleRoot
  height : UInt64
  timestamp : UInt64
  cycles_limit : UInt64
  deriving DecidableEq, Repr

structure ExecutorResp where
  receipts : List Receipt
  all_cycles_used : UInt64
  logs_bloom : Bloom
  state_root : MerkleRoot
  deriving DecidableEq, Repr

/-- `ExecutedInfo::new`. The receipt root is the Merkle root of the receipts'
digests, or `Hash::from_empty` for none; `receipt_root` computes it. -/
def ExecutedInfo.new (receipt_root : List Receipt → MerkleRoot) (height : UInt64)
    (order_root : MerkleRoot) (resp : ExecutorResp) : ExecutedInfo where
  exec_height := height
  cycles_used := resp.all_cycles_used
  receipt_root := receipt_root resp.receipts
  confirm_root := order_root
  state_root := resp.state_root
  logs_bloom := resp.logs_bloom

structure RichBlock where
  block : Block
  txs : List SignedTransaction
  deriving DecidableEq, Repr

/-- The errors that end a synchronization, by where they come from: an adapter
call (by the component that failed), the fixed codec, or `verify_block`. -/
inductive SyncError where
  | Adapter (kind : ProtocolErrorKind)
  | FixedCodec (error : FixedCodecError)
  | Check (error : ConsensusError)
  deriving DecidableEq, Repr

/-- The calls of `SynchronizationAdapter` on the path of `start_sync` that read
nothing the loop writes. -/
structure SynchronizationAdapter where
  get_block_from_remote : UInt64 → Except ProtocolErrorKind Block
  get_txs_from_remote : List Hash → Except ProtocolErrorKind (List SignedTransaction)
  sync_exec : ExecutorParams → List SignedTransaction → Except ProtocolErrorKind ExecutorResp
  get_metadata : MerkleRoot → UInt64 → UInt64 → Except ProtocolErrorKind Metadata

structure SyncState where
  status : CurrentConsensusStatus
  blocks : UInt64 → Option Block

abbrev SyncM (α : Type) := EStateM (Fail SyncError) SyncState α

def StatusPanic.message : StatusPanic → String
  | .exec_height_assert => "assertion failed: info.exec_height == self.exec_height + 1"
  | .height_assert => "assertion failed: block.header.height == self.current_height + 1"
  | .vec_lengths_do_not_match => "vec lengths do not match."
  | .check_list_cycles_used => "check list_cycles_used error"
  | .check_list_logs_bloom => "check list_logs_bloom error"
  | .check_list_confirm_root => "check list_confirm_root error"
  | .check_list_receipt_root => "check list_receipt_root error"
  | .split_off_out_of_range => "`at` split index out of bounds"

namespace SyncM

variable {α : Type}

def lift (result : Except (Fail SyncError) α) : SyncM α := fun state =>
  match result with
  | .ok value => .ok value state
  | .error failure => .error failure state

def adapter (result : Except ProtocolErrorKind α) : Except (Fail SyncError) α :=
  result.mapError fun kind => .error (.Adapter kind)

def codec (result : ProtocolResult α) : Except (Fail SyncError) α :=
  Fail.mapFail SyncError.FixedCodec result

/-- A method of the status agent; a panic keeps what the method had written. -/
def statusCall (call : StatusM Unit) : SyncM Unit := fun state =>
  match call.run state.status with
  | .ok () status => .ok () { state with status }
  | .error failure status => .error (.panic failure.message) { state with status }

end SyncM

open SyncM

def getBlockByHeight (height : UInt64) : SyncM Block := fun state =>
  match state.blocks height with
  | some block => .ok block state
  | none => .error (.error (.Adapter .Storage)) state

/-- `save_chain_data`, of which only `save_block` writes what the loop reads. -/
def saveBlock (block : Block) : SyncM Unit :=
  modify fun state => { state with blocks := Function.update state.blocks block.header.height block }

theorem remaining_lt {current remote : UInt64} (lt : current < remote) :
    (remote - (current + 1)).toNat < (remote - current).toNat := by
  have small := UInt64.lt_iff_toNat_lt.mp lt
  have succ := toNat_succ_of_lt lt
  have succ_le : current + 1 ≤ remote := UInt64.le_iff_toNat_le.mpr (by omega)
  rw [UInt64.toNat_sub_of_le _ _ succ_le, UInt64.toNat_sub_of_le _ _ (UInt64.le_of_lt lt)]
  omega

section

variable (adapter : SynchronizationAdapter) (digest : Bytes → Hash)
  (receipt_root : List Receipt → MerkleRoot)

/-- `get_rich_block_from_remote`; the chunks of transactions the loop fetches
are joined into one call. -/
def getRichBlockFromRemote (height : UInt64) : Except (Fail SyncError) RichBlock := do
  let block ← SyncM.adapter (adapter.get_block_from_remote height)
  let txs ← SyncM.adapter (adapter.get_txs_from_remote block.ordered_tx_hashes)
  pure ⟨block, txs⟩

def verifyBlock (current_block next_block : Block) : Except (Fail SyncError) Unit := do
  let block_hash := digest (← codec (encode_fixed current_block))
  if block_hash ≠ next_block.header.pre_hash then
    throw (.error (.Check (.SyncBlockHashErr next_block.header.height)))

def execBlock (rich_block : RichBlock) : SyncM ExecutorResp := do
  let current_status := (← get).status
  let exec_params : ExecutorParams := {
    state_root := current_status.getLatestStateRoot
    height := rich_block.block.header.height
    timestamp := rich_block.block.header.timestamp
    cycles_limit := current_status.cycles_limit }
  let resp ← lift (SyncM.adapter (adapter.sync_exec exec_params rich_block.txs))
  statusCall (updateByExecuted (ExecutedInfo.new receipt_root rich_block.block.header.height
    rich_block.block.header.order_root resp))
  pure resp

def commitBlock (rich_block : RichBlock) : SyncM Unit := do
  let _ ← execBlock adapter receipt_root rich_block
  let block := rich_block.block
  let block_hash := digest (← lift (codec (encode_fixed block)))
  let metadata ← lift (SyncM.adapter (adapter.get_metadata block.header.state_root
    block.header.height block.header.timestamp))
  statusCall (updateByCommited metadata block block_hash block.header.proof)
  saveBlock block

/-- One round of the loop of `start_sync`: the block at `current_height` is read
back, the next one fetched, verified against it and committed. -/
def syncRound (current_height : UInt64) : SyncM Unit := do
  let current_block ← getBlockByHeight current_height
  let next_rich_block ← lift (getRichBlockFromRemote adapter (current_height + 1))
  lift (verifyBlock digest current_block next_rich_block.block)
  commitBlock adapter digest receipt_root next_rich_block

/-- `start_sync`: one round per height until the remote height is reached. The
height is a `u64` and wraps; what is left to do is the distance from the next
height to the remote one. -/
def startSync (current_height remote_height : UInt64) : SyncM Unit := do
  syncRound adapter digest receipt_root current_height
  let next_height := current_height + 1
  if next_height ≥ remote_height then
    pure ()
  else
    startSync next_height remote_height
termination_by (remote_height - (current_height + 1)).toNat
decreasing_by
  exact remaining_lt (UInt64.not_le.mp ‹_›)

end

/-! ### What each call returns

One inversion lemma per call: what a call that returned had received and
what it left. -/

namespace SyncM

variable {α : Type} {state after : SyncState} {value : α}

theorem lift_eq_ok {result : Except (Fail SyncError) α} (returns : lift result state = .ok value after) :
    result = .ok value ∧ after = state := by
  cases result with
  | ok found =>
    simp only [lift, EStateM.Result.ok.injEq] at returns
    exact ⟨returns.1 ▸ rfl, returns.2.symm⟩
  | error failure => cases returns

theorem codec_eq_ok {result : ProtocolResult α} (returns : codec result = .ok value) :
    result = .ok value := by
  cases result with
  | ok found => simpa [codec] using returns
  | error failure => cases failure <;> cases returns

theorem status_call_eq_ok {call : StatusM Unit} (returns : statusCall call state = .ok () after) :
    call.run state.status = .ok () after.status ∧ after.blocks = state.blocks := by
  unfold statusCall at returns
  cases ran : call.run state.status with
  | ok result status =>
    simp only [ran, EStateM.Result.ok.injEq] at returns
    obtain ⟨-, rfl⟩ := returns
    exact ⟨rfl, rfl⟩
  | error failure status =>
    simp only [ran] at returns
    cases returns

end SyncM

theorem get_block_by_height_eq_ok {height : UInt64} {state after : SyncState} {block : Block}
    (returns : getBlockByHeight height state = .ok block after) : after = state := by
  unfold getBlockByHeight at returns
  split at returns
  · cases returns
    rfl
  · cases returns

section

variable {adapter : SynchronizationAdapter} {digest : Bytes → Hash}
  {receipt_root : List Receipt → MerkleRoot}

theorem get_rich_block_from_remote_eq_ok {height : UInt64} {rich_block : RichBlock}
    (returns : getRichBlockFromRemote adapter height = .ok rich_block) :
    adapter.get_block_from_remote height = .ok rich_block.block := by
  unfold getRichBlockFromRemote at returns
  cases fetched : adapter.get_block_from_remote height with
  | error kind => simp [fetched, SyncM.adapter] at returns
  | ok block =>
    cases txs : adapter.get_txs_from_remote block.ordered_tx_hashes with
    | error kind => simp [fetched, txs, SyncM.adapter] at returns
    | ok found =>
      simp only [fetched, txs, SyncM.adapter, except_mapError_ok, except_ok_bind] at returns
      cases returns
      rfl

theorem exec_block_eq_ok {rich_block : RichBlock} {state after : SyncState} {resp : ExecutorResp}
    (returns : execBlock adapter receipt_root rich_block state = .ok resp after) :
    ∃ info : ExecutedInfo, info.exec_height = rich_block.block.header.height ∧
      (updateByExecuted info).run state.status = .ok () after.status ∧ after.blocks = state.blocks := by
  obtain ⟨current, mid, got, executed⟩ := Trace.bind_eq_ok returns
  cases got
  obtain ⟨found, mid, lifted, recorded⟩ := Trace.bind_eq_ok executed
  obtain ⟨-, rfl⟩ := SyncM.lift_eq_ok lifted
  obtain ⟨_, mid, called, pured⟩ := Trace.bind_eq_ok recorded
  cases pured
  obtain ⟨ran, blocks⟩ := SyncM.status_call_eq_ok called
  exact ⟨_, rfl, ran, blocks⟩

theorem commit_block_eq_ok {rich_block : RichBlock} {state after : SyncState}
    (returns : commitBlock adapter digest receipt_root rich_block state = .ok () after) :
    ∃ (info : ExecutedInfo) (mid : CurrentConsensusStatus) (bytes : Bytes) (metadata : Metadata),
      info.exec_height = rich_block.block.header.height ∧
      (updateByExecuted info).run state.status = .ok () mid ∧
      encode_fixed rich_block.block = .ok bytes ∧
      (updateByCommited metadata rich_block.block (digest bytes) rich_block.block.header.proof).run
        mid = .ok () after.status := by
  obtain ⟨_, executed_state, executed, after_exec⟩ := Trace.bind_eq_ok returns
  obtain ⟨info, height, ran, -⟩ := exec_block_eq_ok executed
  obtain ⟨bytes, encoded_state, lifted_codec, after_codec⟩ := Trace.bind_eq_ok after_exec
  obtain ⟨encoded, rfl⟩ := SyncM.lift_eq_ok lifted_codec
  obtain ⟨metadata, fetched_state, lifted_metadata, after_metadata⟩ := Trace.bind_eq_ok after_codec
  obtain ⟨-, rfl⟩ := SyncM.lift_eq_ok lifted_metadata
  obtain ⟨_, committed_state, called, saved⟩ := Trace.bind_eq_ok after_metadata
  obtain ⟨committed, -⟩ := SyncM.status_call_eq_ok called
  -- Saving the block writes the local blocks only.
  cases saved
  exact ⟨info, _, bytes, metadata, height, ran, SyncM.codec_eq_ok encoded, committed⟩

theorem sync_round_eq_ok {height : UInt64} {state after : SyncState}
    (returns : syncRound adapter digest receipt_root height state = .ok () after) :
    ∃ rich_block : RichBlock, adapter.get_block_from_remote (height + 1) = .ok rich_block.block ∧
      commitBlock adapter digest receipt_root rich_block state = .ok () after := by
  obtain ⟨current, read_state, read, after_read⟩ := Trace.bind_eq_ok returns
  cases get_block_by_height_eq_ok read
  obtain ⟨rich_block, fetched_state, lifted_fetch, after_fetch⟩ := Trace.bind_eq_ok after_read
  obtain ⟨fetched, rfl⟩ := SyncM.lift_eq_ok lifted_fetch
  obtain ⟨_, verified_state, lifted_verify, committed⟩ := Trace.bind_eq_ok after_fetch
  obtain ⟨-, rfl⟩ := SyncM.lift_eq_ok lifted_verify
  exact ⟨rich_block, get_rich_block_from_remote_eq_ok fetched, committed⟩

end

/-! ### The status along a synchronization

The chain is the blocks the remote serves, by height, and its headers'
execution heights say how far each block confirms. After the round that
commits a height the agent is executed and committed up to it, and its lists
hold the heights above its block's execution height. -/

def heightsBetween (low high : Nat) : List Nat := List.range' (low + 1) (high - low)

@[simp] theorem length_heights_between (low high : Nat) :
    (heightsBetween low high).length = high - low := List.length_range'

structure HoldsResults (results : Nat → ExecutedInfo) (low high : Nat)
    (status : CurrentConsensusStatus) : Prop where
  cycles_used : status.list_cycles_used = (heightsBetween low high).map fun h => (results h).cycles_used
  logs_bloom : status.list_logs_bloom = (heightsBetween low high).map fun h => (results h).logs_bloom
  confirm_root :
    status.list_confirm_root = (heightsBetween low high).map fun h => (results h).confirm_root
  receipt_root :
    status.list_receipt_root = (heightsBetween low high).map fun h => (results h).receipt_root
  state_root : status.list_state_root = (heightsBetween low high).map fun h => (results h).state_root

structure ListsResults (results : Nat → ExecutedInfo) (low high : Nat) (header : BlockHeader) :
    Prop where
  cycles_used : header.cycles_used = (heightsBetween low high).map fun h => (results h).cycles_used
  logs_bloom : header.logs_bloom = (heightsBetween low high).map fun h => (results h).logs_bloom
  confirm_root : header.confirm_root = (heightsBetween low high).map fun h => (results h).confirm_root
  receipt_root : header.receipt_root = (heightsBetween low high).map fun h => (results h).receipt_root

variable {results : Nat → ExecutedInfo} {low high : Nat}

theorem HoldsResults.equal_lengths {status : CurrentConsensusStatus}
    (holds : HoldsResults results low high status) : status.pending.EqualLengths := by
  simp [Pending.EqualLengths, pending, holds.cycles_used, holds.logs_bloom, holds.confirm_root,
    holds.receipt_root, holds.state_root]

theorem HoldsResults.length {status : CurrentConsensusStatus}
    (holds : HoldsResults results low high status) : status.list_cycles_used.length = high - low := by
  simp [holds.cycles_used]

theorem ListsResults.length {header : BlockHeader} (lists : ListsResults results low high header) :
    header.confirm_root.length = high - low := by
  simp [lists.confirm_root]

/-- The sync agent after the round of `height`: committed and executed up to it,
with the heights above its block's execution height pending. -/
structure Synced (chain : UInt64 → Block) (height : UInt64) (status : CurrentConsensusStatus) :
    Prop where
  current_height : status.current_height = height
  exec_height : status.exec_height = height
  equal_lengths : status.pending.EqualLengths
  pending_length :
    status.list_cycles_used.length = height.toNat - (chain height).header.exec_height.toNat
  confirmed_below : (chain height).header.exec_height.toNat ≤ height.toNat

theorem Synced.after_commit {chain : UInt64 → Block} {height remote_height : UInt64}
    {status mid after : CurrentConsensusStatus} {info : ExecutedInfo} {metadata : Metadata}
    {block_hash : Hash} (synced : Synced chain height status) (below : height < remote_height)
    (executed : info.exec_height = (chain (height + 1)).header.height)
    (confirms : (chain (height + 1)).header.confirm_root.length =
      (chain (height + 1)).header.exec_height.toNat - (chain height).header.exec_height.toNat)
    (monotone : (chain height).header.exec_height ≤ (chain (height + 1)).header.exec_height)
    (ran : (updateByExecuted info).run status = .ok () mid)
    (committed : (updateByCommited metadata (chain (height + 1)) block_hash
      (chain (height + 1)).header.proof).run mid = .ok () after) :
    Synced chain (height + 1) after ∧ after.current_hash = block_hash := by
  obtain ⟨at_height, at_exec, equal, length, confirmed⟩ := synced
  have kept : mid.current_height = status.current_height := by
    have unchanged := update_by_executed_current_height info status
    rwa [ran, Trace.after_ok] at unchanged
  obtain ⟨next, passes, long, cut, head, hash, -⟩ := update_by_commited_ok_inv committed
  have succ := toNat_succ_of_lt below
  rw [kept, at_height] at next
  -- The block is of the next height, so execution appends its result.
  have fresh : ¬ info.exec_height ≤ status.exec_height := by
    rw [executed, next, at_exec, UInt64.le_iff_toNat_le, succ]
    omega
  have appended : info.exec_height = status.exec_height + 1 := by rw [executed, next, at_exec]
  have pushed : mid.pending = status.pending.push info := by
    rw [update_by_executed_run, if_neg fresh, if_pos appended] at ran
    cases ran
    simp [pending, Pending.push, appended]
  have after_pending : after.pending = (status.pending.push info).drop
      (chain (height + 1)).header.confirm_root.length := by
    rw [cut, pushed]
  -- The confirmed prefix is no longer than what is pending after execution.
  have within : (chain (height + 1)).header.confirm_root.length ≤ status.list_cycles_used.length + 1 := by
    obtain ⟨_, _, _, _, _, confirm_prefix, _⟩ := split_off_passes_lengths passes
    have bound := confirm_prefix.length_le
    rw [show mid.list_confirm_root = mid.pending.confirm_root from rfl, pushed] at bound
    obtain ⟨_, same, _, _⟩ := equal
    simp only [Pending.push, pending, List.length_append, List.length_singleton] at bound same
    omega
  have cycles : after.list_cycles_used.length =
      status.list_cycles_used.length + 1 - (chain (height + 1)).header.confirm_root.length := by
    rw [show after.list_cycles_used = after.pending.cycles_used from rfl, after_pending]
    simp [Pending.drop, Pending.push, pending]
  have monotone := UInt64.le_iff_toNat_le.mp monotone
  refine ⟨⟨?_, ?_, ?_, ?_, ?_⟩, hash⟩
  · rw [head, next]
  · rw [show after.exec_height = after.pending.exec_height from rfl, after_pending]
    simp only [Pending.drop, Pending.push]
    rw [executed, next]
  · rw [after_pending]
    exact (equal.push info).drop _
  · rw [cycles, confirms, length, succ]
    omega
  · rw [confirms, length] at within
    rw [succ]
    omega

section

variable {adapter : SynchronizationAdapter} {digest : Bytes → Hash}
  {receipt_root : List Receipt → MerkleRoot} {chain : UInt64 → Block}

/-- A round of a synced agent, on a block of the chain that confirms from where
the previous one stopped, leaves it synced one height further and at the
digest of the block. -/
theorem Synced.after_sync_round {height remote_height : UInt64} {state after : SyncState}
    (synced : Synced chain height state.status) (below : height < remote_height)
    (remote : adapter.get_block_from_remote (height + 1) = .ok (chain (height + 1)))
    (confirms : (chain (height + 1)).header.confirm_root.length =
      (chain (height + 1)).header.exec_height.toNat - (chain height).header.exec_height.toNat)
    (monotone : (chain height).header.exec_height ≤ (chain (height + 1)).header.exec_height)
    (returns : syncRound adapter digest receipt_root height state = .ok () after) :
    Synced chain (height + 1) after.status ∧
      ∃ bytes, encode_fixed (chain (height + 1)) = .ok bytes ∧ after.status.current_hash = digest bytes := by
  obtain ⟨rich_block, fetched, committed⟩ := sync_round_eq_ok returns
  have same : rich_block.block = chain (height + 1) := by
    rw [remote] at fetched
    exact (Except.ok.inj fetched).symm
  obtain ⟨info, mid, bytes, metadata, executed, ran, encoded, committed⟩ := commit_block_eq_ok committed
  rw [same] at executed encoded committed
  obtain ⟨synced, hash⟩ := synced.after_commit below executed confirms monotone ran committed
  exact ⟨synced, bytes, encoded, hash⟩

/-- The loop, from any synced height at or above the start: it ends synced at
the remote height, at the digest of the remote's block. The induction follows
the recursion of `start_sync`. -/
theorem Synced.after_start_sync {start remote_height : UInt64}
    (remote : ∀ height, start ≤ height → height < remote_height →
      adapter.get_block_from_remote (height + 1) = .ok (chain (height + 1)))
    (confirms : ∀ height, start ≤ height → height < remote_height →
      (chain (height + 1)).header.confirm_root.length =
        (chain (height + 1)).header.exec_height.toNat - (chain height).header.exec_height.toNat)
    (monotone : ∀ height, start ≤ height → height < remote_height →
      (chain height).header.exec_height ≤ (chain (height + 1)).header.exec_height)
    (height : UInt64) {state final : SyncState} (from_start : start ≤ height)
    (below : height < remote_height) (synced : Synced chain height state.status)
    (returns : (startSync adapter digest receipt_root height remote_height).run state = .ok () final) :
    Synced chain remote_height final.status ∧
      ∃ bytes, encode_fixed (chain remote_height) = .ok bytes ∧
        final.status.current_hash = digest bytes := by
  induction height using startSync.induct remote_height generalizing state with
  | case1 height ih =>
    rw [startSync] at returns
    obtain ⟨_, mid, round, rest⟩ := Trace.bind_eq_ok returns
    obtain ⟨round_synced, round_hash⟩ := synced.after_sync_round below (remote height from_start below)
      (confirms height from_start below) (monotone height from_start below) round
    have succ := toNat_succ_of_lt below
    by_cases reached : height + 1 ≥ remote_height
    · -- The round was the last one: its height is the remote one.
      rw [if_pos reached] at rest
      cases rest
      have last : height + 1 = remote_height := by
        have := UInt64.lt_iff_toNat_lt.mp below
        have := UInt64.le_iff_toNat_le.mp reached
        exact UInt64.toNat_inj.mp (by omega)
      rw [← last]
      exact ⟨round_synced, round_hash⟩
    · rw [if_neg reached] at rest
      have later : start ≤ height + 1 := by
        rw [UInt64.le_iff_toNat_le, succ]
        have := UInt64.le_iff_toNat_le.mp from_start
        omega
      exact ih reached later (UInt64.not_le.mp reached) round_synced rest

/-! ### Rounds in which every call returns -/

theorem get_block_by_height_of_stored {height : UInt64} {state : SyncState} {block : Block}
    (stored : state.blocks height = some block) : getBlockByHeight height state = .ok block state := by
  simp [getBlockByHeight, stored]

theorem status_call_of_ok {call : StatusM Unit} {state : SyncState} {status : CurrentConsensusStatus}
    (ran : call.run state.status = .ok () status) :
    statusCall call state = .ok () { state with status } := by
  unfold statusCall
  rw [ran]

theorem verify_block_of_linked {current_block next_block : Block} {bytes : Bytes}
    (encoded : encode_fixed current_block = .ok bytes) (linked : digest bytes = next_block.header.pre_hash) :
    verifyBlock digest current_block next_block = .ok () := by
  unfold verifyBlock
  rw [SyncM.codec, encoded]
  simp [linked, pure, Except.pure]

theorem exec_block_of_ok {rich_block : RichBlock} {state : SyncState} {resp : ExecutorResp}
    {mid : CurrentConsensusStatus}
    (executes : adapter.sync_exec ⟨state.status.getLatestStateRoot, rich_block.block.header.height,
      rich_block.block.header.timestamp, state.status.cycles_limit⟩ rich_block.txs = .ok resp)
    (ran : (updateByExecuted (ExecutedInfo.new receipt_root rich_block.block.header.height
      rich_block.block.header.order_root resp)).run state.status = .ok () mid) :
    execBlock adapter receipt_root rich_block state = .ok resp { state with status := mid } := by
  unfold execBlock
  rw [Trace.bind_of_eq_ok (rfl : (get : SyncM SyncState) state = .ok state state), executes, Trace.bind_of_eq_ok (rfl : lift (SyncM.adapter (.ok resp)) state = .ok resp state),
    Trace.bind_of_eq_ok (status_call_of_ok ran)]
  rfl

theorem commit_block_of_ok {rich_block : RichBlock} {state : SyncState} {bytes : Bytes}
    {resp : ExecutorResp} {metadata : Metadata} {mid after : CurrentConsensusStatus}
    (executed : execBlock adapter receipt_root rich_block state = .ok resp { state with status := mid })
    (encoded : encode_fixed rich_block.block = .ok bytes)
    (metadata_ok : adapter.get_metadata rich_block.block.header.state_root
      rich_block.block.header.height rich_block.block.header.timestamp = .ok metadata)
    (committed : (updateByCommited metadata rich_block.block (digest bytes)
      rich_block.block.header.proof).run mid = .ok () after) :
    commitBlock adapter digest receipt_root rich_block state =
      .ok () ⟨after, Function.update state.blocks rich_block.block.header.height (some rich_block.block)⟩ := by
  unfold commitBlock
  rw [Trace.bind_of_eq_ok executed, encoded,
    Trace.bind_of_eq_ok (rfl : lift (codec (.ok bytes)) _ = .ok bytes _), metadata_ok, Trace.bind_of_eq_ok (rfl : lift (SyncM.adapter (.ok metadata)) _ = .ok metadata _),
    Trace.bind_of_eq_ok (status_call_of_ok committed)]
  rfl

theorem sync_round_returns {height : UInt64} {state : SyncState} {current_block : Block}
    {rich_block : RichBlock} {current_bytes bytes : Bytes} {resp : ExecutorResp} {metadata : Metadata}
    {mid after : CurrentConsensusStatus}
    (stored : state.blocks height = some current_block)
    (fetched : getRichBlockFromRemote adapter (height + 1) = .ok rich_block)
    (current_encoded : encode_fixed current_block = .ok current_bytes)
    (linked : digest current_bytes = rich_block.block.header.pre_hash)
    (executes : adapter.sync_exec ⟨state.status.getLatestStateRoot, rich_block.block.header.height,
      rich_block.block.header.timestamp, state.status.cycles_limit⟩ rich_block.txs = .ok resp)
    (ran : (updateByExecuted (ExecutedInfo.new receipt_root rich_block.block.header.height
      rich_block.block.header.order_root resp)).run state.status = .ok () mid)
    (encoded : encode_fixed rich_block.block = .ok bytes)
    (metadata_ok : adapter.get_metadata rich_block.block.header.state_root
      rich_block.block.header.height rich_block.block.header.timestamp = .ok metadata)
    (committed : (updateByCommited metadata rich_block.block (digest bytes)
      rich_block.block.header.proof).run mid = .ok () after) :
    syncRound adapter digest receipt_root height state =
      .ok () ⟨after, Function.update state.blocks rich_block.block.header.height (some rich_block.block)⟩ := by
  unfold syncRound
  rw [Trace.bind_of_eq_ok (get_block_by_height_of_stored stored), fetched,
    Trace.bind_of_eq_ok (rfl : lift (.ok rich_block) state = .ok rich_block state),
    verify_block_of_linked current_encoded linked,
    Trace.bind_of_eq_ok (rfl : lift (.ok ()) state = .ok () state)]
  exact commit_block_of_ok (exec_block_of_ok executes ran) encoded metadata_ok committed

theorem start_sync_last_round {height remote_height : UInt64} {state after : SyncState}
    (returns : syncRound adapter digest receipt_root height state = .ok () after)
    (reached : height + 1 ≥ remote_height) :
    (startSync adapter digest receipt_root height remote_height).run state = .ok () after := by
  rw [startSync, EStateM.run, Trace.bind_of_eq_ok returns, if_pos reached]
  rfl

/-! ### Synchronization reaches the remote status -/

/-- From an agent at `current_height`, executed as far and holding the results
its block left pending, a synchronization to `remote_height` that returns ends
at the remote height, executed as far, at the digest of the remote block, with
the heights above that block's execution height pending. The chain's blocks
list the results between consecutive execution heights, which never decrease. -/
theorem start_sync_reaches_remote {results : Nat → ExecutedInfo}
    {current_height remote_height : UInt64} {state final : SyncState}
    (below : current_height < remote_height)
    (remote : ∀ height, current_height ≤ height → height < remote_height →
      adapter.get_block_from_remote (height + 1) = .ok (chain (height + 1)))
    (listed : ∀ height, current_height ≤ height → height < remote_height →
      ListsResults results (chain height).header.exec_height.toNat
        (chain (height + 1)).header.exec_height.toNat (chain (height + 1)).header)
    (monotone : ∀ height, current_height ≤ height → height < remote_height →
      (chain height).header.exec_height ≤ (chain (height + 1)).header.exec_height)
    (at_height : state.status.current_height = current_height)
    (at_exec : state.status.exec_height = current_height)
    (confirmed_below : (chain current_height).header.exec_height ≤ current_height)
    (holds : HoldsResults results (chain current_height).header.exec_height.toNat current_height.toNat
      state.status)
    (returns : (startSync adapter digest receipt_root current_height remote_height).run state =
      .ok () final) :
    final.status.current_height = remote_height ∧ final.status.exec_height = remote_height ∧
      (∃ bytes, encode_fixed (chain remote_height) = .ok bytes ∧
        final.status.current_hash = digest bytes) ∧
      final.status.pending.EqualLengths ∧
      final.status.list_cycles_used.length =
        remote_height.toNat - (chain remote_height).header.exec_height.toNat := by
  have start : Synced chain current_height state.status :=
    ⟨at_height, at_exec, holds.equal_lengths, holds.length,
      UInt64.le_iff_toNat_le.mp confirmed_below⟩
  obtain ⟨synced, hash⟩ := start.after_start_sync remote
    (fun height low high => (listed height low high).length) monotone current_height
    (UInt64.le_refl _) below returns
  exact ⟨synced.current_height, synced.exec_height, hash, synced.equal_lengths, synced.pending_length⟩

end

/-! ### Chains of one round

A network that serves blocks listing no results, an executor that always
answers, and a digest that every block's `pre_hash` matches. -/

def zeroHash : Hash := ⟨List.replicate 32 0, Hash.zeros_length⟩

def testBlock (height exec_height : UInt64) : Block where
  header := {
    chain_id := zeroHash
    height
    exec_height
    pre_hash := zeroHash
    timestamp := 0
    logs_bloom := []
    order_root := zeroHash
    confirm_root := []
    state_root := zeroHash
    receipt_root := []
    cycles_used := []
    proposer := ⟨List.replicate 20 0, Address.zeros_length⟩
    proof := ⟨height, 0, zeroHash, [], []⟩
    validator_version := 0
    validators := [] }
  ordered_tx_hashes := []

def testAdapter (chain : UInt64 → Block) : SynchronizationAdapter where
  get_block_from_remote height := .ok (chain height)
  get_txs_from_remote _ := .ok []
  sync_exec _ _ := .ok ⟨[], 0, ⟨List.replicate 256 0, Bloom.zeros_length⟩, zeroHash⟩
  get_metadata _ _ _ := .ok ⟨zeroHash, ⟨"0x"⟩, 0, 0, 0, 3000, [], 15, 10, 10, 3, 30000, 1048576⟩

def testState (chain : UInt64 → Block) (height : UInt64) : SyncState where
  status := { genesisStatus with current_height := height, exec_height := height }
  blocks stored := if stored = height then some (chain stored) else none

theorem test_round_returns (chain : UInt64 → Block) (height exec_height : UInt64)
    (next : chain (height + 1) = testBlock (height + 1) exec_height) (below : height < height + 1) :
    ∃ final, (startSync (testAdapter chain) (fun _ => zeroHash) (fun _ => zeroHash) height
        (height + 1)).run (testState chain height) = .ok () final ∧
      final.status.list_cycles_used.length = 1 := by
  obtain ⟨current_bytes, current_encoded⟩ := block_encodes (chain height)
  obtain ⟨bytes, encoded⟩ := block_encodes (testBlock (height + 1) exec_height)
  have fetched : getRichBlockFromRemote (testAdapter chain) (height + 1) =
      .ok ⟨testBlock (height + 1) exec_height, []⟩ := by
    have remote : (testAdapter chain).get_block_from_remote (height + 1) =
        .ok (testBlock (height + 1) exec_height) := by
      rw [← next]
      rfl
    rw [getRichBlockFromRemote, remote]
    rfl
  have fresh : ¬ height + 1 ≤ height := fun le => absurd below (UInt64.not_lt.mpr le)
  -- Execution appends the one result and keeps the committed height.
  let info := ExecutedInfo.new (fun _ => zeroHash) (testBlock (height + 1) exec_height).header.height
    (testBlock (height + 1) exec_height).header.order_root
    ⟨[], 0, ⟨List.replicate 256 0, List.length_replicate⟩, zeroHash⟩
  obtain ⟨mid, ran, mid_height, mid_cycles⟩ : ∃ mid,
      (updateByExecuted info).run (testState chain height).status = .ok () mid ∧
        mid.current_height = height ∧ mid.list_cycles_used.length = 1 := by
    have ran := update_by_executed_run info (testState chain height).status
    dsimp only [info, ExecutedInfo.new, testBlock, testState] at ran
    simp only [fresh, if_false, if_true] at ran
    exact ⟨_, ran, rfl, rfl⟩
  -- The header lists nothing, so the commit confirms nothing.
  have passes : mid.splitOffFailure (testBlock (height + 1) exec_height) = none :=
    split_off_passes_of_prefixes rfl rfl rfl List.nil_prefix List.nil_prefix List.nil_prefix
      List.nil_prefix
  have next_height : (testBlock (height + 1) exec_height).header.height = mid.current_height + 1 := by
    rw [mid_height]
    rfl
  obtain ⟨after, committed, cut, -⟩ := update_by_commited_returns passes next_height (Nat.zero_le _)
  have round : syncRound (testAdapter chain) (fun _ => zeroHash) (fun _ => zeroHash) height
      (testState chain height) = _ :=
    sync_round_returns (if_pos rfl) fetched current_encoded rfl rfl ran encoded rfl committed
  refine ⟨_, start_sync_last_round round (UInt64.le_refl _), ?_⟩
  have cycles := congrArg Pending.cycles_used cut
  simp only [Pending.drop] at cycles
  rw [← mid_cycles]
  exact congrArg List.length cycles

def steadyChain : UInt64 → Block := fun height => testBlock height 0

theorem start_sync_reaches_remote_one_height :
    ∃ final, (startSync (testAdapter steadyChain) (fun _ => zeroHash) (fun _ => zeroHash) 0 1).run
        (testState steadyChain 0) = .ok () final ∧
      final.status.current_height = 1 ∧ final.status.exec_height = 1 ∧
      (∃ bytes, encode_fixed (steadyChain 1) = .ok bytes ∧ final.status.current_hash = zeroHash) ∧
      final.status.pending.EqualLengths ∧
      final.status.list_cycles_used.length =
        (1 : UInt64).toNat - (steadyChain 1).header.exec_height.toNat := by
  obtain ⟨final, returns, -⟩ := test_round_returns steadyChain 0 0 rfl (by decide)
  have listed : ∀ height : UInt64, 0 ≤ height → height < 1 →
      ListsResults (fun _ => firstResult) (steadyChain height).header.exec_height.toNat
        (steadyChain (height + 1)).header.exec_height.toNat (steadyChain (height + 1)).header :=
    fun _ _ _ => ⟨rfl, rfl, rfl, rfl⟩
  have holds : HoldsResults (fun _ => firstResult) (steadyChain 0).header.exec_height.toNat
      (0 : UInt64).toNat (testState steadyChain 0).status := ⟨rfl, rfl, rfl, rfl, rfl⟩
  exact ⟨final, returns, start_sync_reaches_remote (by decide) (fun _ _ _ => rfl) listed
    (fun _ _ _ => UInt64.le_refl 0) rfl rfl (UInt64.le_refl 0) holds returns⟩

def decreasingChain : UInt64 → Block := fun height => testBlock height (if height = 2 then 0 else 1)

theorem start_sync_decreasing_exec_height :
    ¬ (decreasingChain 1).header.exec_height ≤ (decreasingChain 2).header.exec_height ∧
    (decreasingChain 1).header.exec_height ≤ 1 ∧
    ListsResults (fun _ => firstResult) (decreasingChain 1).header.exec_height.toNat
      (decreasingChain 2).header.exec_height.toNat (decreasingChain 2).header ∧
    HoldsResults (fun _ => firstResult) (decreasingChain 1).header.exec_height.toNat
      (1 : UInt64).toNat (testState decreasingChain 1).status ∧
    ∃ final, (startSync (testAdapter decreasingChain) (fun _ => zeroHash) (fun _ => zeroHash) 1
        2).run (testState decreasingChain 1) = .ok () final ∧
      final.status.list_cycles_used.length ≠
        (2 : UInt64).toNat - (decreasingChain 2).header.exec_height.toNat := by
  obtain ⟨final, returns, one⟩ := test_round_returns decreasingChain 1 0 rfl (by decide)
  refine ⟨by decide, by decide, ⟨rfl, rfl, rfl, rfl⟩, ⟨rfl, rfl, rfl, rfl, rfl⟩, final, returns, ?_⟩
  rw [one]
  decide

end Muta.Consensus
