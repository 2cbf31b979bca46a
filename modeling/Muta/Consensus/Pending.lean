import Muta.Consensus.Status

/-! The pending lists hold the results of the heights not yet committed.

Abstractly the status keeps a window of execution results with consecutive
heights ending at `exec_height` (`PendingResults`); the five lists are its
columns. `update_by_executed` pushes the result of the next height and a commit
drops the prefix the block confirms, so every reachable status holds such a
window, and `split_off` of the unchecked `list_state_root` cannot panic because
its length is the length of the four checked lists.

The invariants are stated on `Pending`, the part of the status they are about,
and each call's effect on it comes from the inversion lemmas of `Status`.
-/

set_option autoImplicit false

namespace Muta.Consensus

open CurrentConsensusStatus

/-- Results of executed heights, consecutive and ending at the execution height. -/
abbrev PendingResults := Window ExecutedInfo fun info => info.exec_height.toNat

namespace Pending

def EqualLengths (pending : Pending) : Prop :=
  pending.logs_bloom.length = pending.cycles_used.length ∧
  pending.confirm_root.length = pending.cycles_used.length ∧
  pending.receipt_root.length = pending.cycles_used.length ∧
  pending.state_root.length = pending.cycles_used.length

instance (pending : Pending) : Decidable pending.EqualLengths :=
  inferInstanceAs (Decidable (_ ∧ _ ∧ _ ∧ _))

/-- The lists are the columns of a window of results, and the execution height
ends the window. -/
structure Holds (pending : Pending) (results : PendingResults) : Prop where
  exec_height : pending.exec_height.toNat = results.last
  cycles_used : pending.cycles_used = results.items.map (·.cycles_used)
  logs_bloom : pending.logs_bloom = results.items.map (·.logs_bloom)
  confirm_root : pending.confirm_root = results.items.map (·.confirm_root)
  receipt_root : pending.receipt_root = results.items.map (·.receipt_root)
  state_root : pending.state_root = results.items.map (·.state_root)

def ResultsFrom (results : Set ExecutedInfo) (pending : Pending) : Prop :=
  ∃ window : PendingResults, pending.Holds window ∧ ∀ info ∈ window.items, info ∈ results

variable {pending : Pending} {window : PendingResults}

theorem Holds.equal_lengths (holds : pending.Holds window) : pending.EqualLengths := by
  obtain ⟨_, cycles, blooms, confirms, receipts, states⟩ := holds
  simp [EqualLengths, cycles, blooms, confirms, receipts, states]

theorem EqualLengths.push (equal : pending.EqualLengths) (info : ExecutedInfo) :
    (pending.push info).EqualLengths := by
  obtain ⟨blooms, confirms, receipts, states⟩ := equal
  simp [EqualLengths, Pending.push, blooms, confirms, receipts, states]

theorem EqualLengths.drop (equal : pending.EqualLengths) (len : Nat) :
    (pending.drop len).EqualLengths := by
  obtain ⟨blooms, confirms, receipts, states⟩ := equal
  simp [EqualLengths, Pending.drop, blooms, confirms, receipts, states]

theorem Holds.push (holds : pending.Holds window) (info : ExecutedInfo)
    (fresh : info.exec_height.toNat = window.last + 1) :
    (pending.push info).Holds (window.push info fresh) := by
  obtain ⟨_, cycles, blooms, confirms, receipts, states⟩ := holds
  constructor <;> simp [Pending.push, fresh, cycles, blooms, confirms, receipts, states]

theorem Holds.drop (holds : pending.Holds window) (len : Nat) :
    (pending.drop len).Holds (window.drop len) := by
  obtain ⟨exec, cycles, blooms, confirms, receipts, states⟩ := holds
  constructor <;>
    simp [Pending.drop, exec, cycles, blooms, confirms, receipts, states, List.map_drop]

theorem Holds.entry (holds : pending.Holds window) (i : Nat)
    (small : i < pending.cycles_used.length) :
    ∃ info ∈ window.items,
      info.exec_height.toNat = pending.exec_height.toNat + 1 - pending.cycles_used.length + i ∧
      pending.cycles_used[i]? = some info.cycles_used ∧
      pending.logs_bloom[i]? = some info.logs_bloom ∧
      pending.confirm_root[i]? = some info.confirm_root ∧
      pending.receipt_root[i]? = some info.receipt_root ∧
      pending.state_root[i]? = some info.state_root := by
  obtain ⟨exec, cycles, blooms, confirms, receipts, states⟩ := holds
  have length : pending.cycles_used.length = window.items.length := by simp [cycles]
  have inside : i < window.items.length := length ▸ small
  refine ⟨window.items[i], List.getElem_mem inside, ?_, ?_⟩
  · rw [window.index_getElem i inside, exec, length]
  · simp [cycles, blooms, confirms, receipts, states, inside]

end Pending

/-! ### The calls on the status -/

/-- The calls the node makes on the shared status: the executor daemon's
`update_by_executed`, the commit's `update_by_commited` and a replacement from
synchronization. -/
inductive StatusCall where
  | updateByExecuted (info : ExecutedInfo)
  | updateByCommited (metadata : Metadata) (block : Block) (block_hash : Hash)
      (current_proof : Proof)
  | replace (new_status : CurrentConsensusStatus)

/-- The status a call leaves, also when it panics. -/
def StatusCall.step : StatusCall → CurrentConsensusStatus → CurrentConsensusStatus
  | .updateByExecuted info, status =>
    Trace.after ((CurrentConsensusStatus.updateByExecuted info).run status)
  | .updateByCommited metadata block block_hash current_proof, status =>
    Trace.after
      ((CurrentConsensusStatus.updateByCommited metadata block block_hash current_proof).run status)
  | .replace new_status, status => status.replace new_status

def StatusCall.KeepsLengths : StatusCall → Prop
  | .replace new_status => new_status.pending.EqualLengths
  | _ => True

def StatusCall.DeliversFrom (results : Set ExecutedInfo) : StatusCall → Prop
  | .updateByExecuted info => info ∈ results
  | .updateByCommited .. => True
  | .replace new_status => new_status.pending.ResultsFrom results

/-! ### One step of each call -/

theorem toNat_succ_of_lt {low high : UInt64} (lt : low < high) :
    (low + 1).toNat = low.toNat + 1 := by
  have small := UInt64.lt_iff_toNat_lt.mp lt
  have bound := high.toNat_lt
  rw [UInt64.toNat_add]
  simp only [UInt64.toNat_one]
  omega

theorem state_root_long {status : CurrentConsensusStatus} (equal : status.pending.EqualLengths)
    {block : Block} (passes : status.splitOffFailure block = none) :
    block.header.confirm_root.length ≤ status.list_state_root.length := by
  obtain ⟨_, _, _, _, _, confirms, _⟩ := split_off_passes_lengths passes
  have confirms := confirms.length_le
  obtain ⟨_, same, _, states⟩ := equal
  simp only [pending] at same states
  omega

theorem StatusCall.step_equal_lengths (call : StatusCall) (status : CurrentConsensusStatus)
    (keeps : call.KeepsLengths) (equal : status.pending.EqualLengths) :
    (call.step status).pending.EqualLengths := by
  cases call with
  | updateByExecuted info =>
    rcases update_by_executed_pending info status with same | ⟨_, _, pushed⟩
    · rw [StatusCall.step, same]; exact equal
    · rw [StatusCall.step, pushed]; exact equal.push info
  | updateByCommited metadata block block_hash current_proof =>
    rcases update_by_commited_pending metadata block block_hash current_proof status with
      same | ⟨_, _, dropped⟩ | ⟨passes, short, _⟩
    · rw [StatusCall.step, same]; exact equal
    · rw [StatusCall.step, dropped]; exact equal.drop _
    · -- A panic in the last split needs state roots shorter than the other lists.
      exact absurd (state_root_long equal passes) (Nat.not_le_of_lt short)
  | replace new_status => simpa [StatusCall.step, StatusCall.KeepsLengths] using keeps

theorem StatusCall.step_results_from (results : Set ExecutedInfo) (call : StatusCall)
    (status : CurrentConsensusStatus) (delivers : call.DeliversFrom results)
    (holding : status.pending.ResultsFrom results) :
    (call.step status).pending.ResultsFrom results := by
  obtain ⟨window, holds, drawn⟩ := holding
  cases call with
  | updateByExecuted info =>
    rcases update_by_executed_pending info status with same | ⟨newer, succ, pushed⟩
    · rw [StatusCall.step, same]; exact ⟨window, holds, drawn⟩
    · -- The new result is the one of the height after the window.
      have fresh : info.exec_height.toNat = window.last + 1 := by
        rw [succ, toNat_succ_of_lt newer, ← holds.exec_height]
        rfl
      refine ⟨window.push info fresh, pushed ▸ holds.push info fresh, ?_⟩
      intro other member
      rcases List.mem_append.mp member with old | new
      · exact drawn other old
      · rw [List.mem_singleton.mp new]; exact delivers
  | updateByCommited metadata block block_hash current_proof =>
    rcases update_by_commited_pending metadata block block_hash current_proof status with
      same | ⟨_, _, dropped⟩ | ⟨passes, short, _⟩
    · rw [StatusCall.step, same]; exact ⟨window, holds, drawn⟩
    · refine ⟨window.drop _, dropped ▸ holds.drop _, ?_⟩
      exact fun other member => drawn other (List.mem_of_mem_drop member)
    · exact absurd (state_root_long holds.equal_lengths passes) (Nat.not_le_of_lt short)
  | replace new_status => simpa [StatusCall.step, StatusCall.DeliversFrom] using delivers

theorem update_by_commited_split_safe {status : CurrentConsensusStatus}
    (equal : status.pending.EqualLengths) {metadata : Metadata} {block : Block}
    {block_hash : Hash} {current_proof : Proof} {failure : StatusPanic}
    {after : CurrentConsensusStatus}
    (fails : (updateByCommited metadata block block_hash current_proof).run status =
      .error failure after) :
    failure ≠ .split_off_out_of_range := by
  rcases update_by_commited_error fails with ⟨height, _⟩ | checked | ⟨_, passes, short⟩
  · rw [height]; decide
  · rintro rfl
    exact split_off_failure_ne_out_of_range status block checked
  · exact absurd (state_root_long equal passes) (Nat.not_le_of_lt short)

/-! ### Every reachable status -/

theorem pending_lists_invariant :
    (∀ init status : CurrentConsensusStatus, init.pending.EqualLengths →
      Trace.Reachable StatusCall.step StatusCall.KeepsLengths init status →
      status.pending.EqualLengths ∧
      ∀ metadata block block_hash current_proof failure after,
        (updateByCommited metadata block block_hash current_proof).run status =
          .error failure after →
        failure ≠ .split_off_out_of_range) ∧
    (∀ (results : Set ExecutedInfo) (init status : CurrentConsensusStatus),
      init.pending.ResultsFrom results →
      Trace.Reachable StatusCall.step (StatusCall.DeliversFrom results) init status →
      ∀ i < status.list_cycles_used.length, ∃ info ∈ results,
        info.exec_height.toNat = status.exec_height.toNat + 1 - status.list_cycles_used.length + i ∧
        status.list_cycles_used[i]? = some info.cycles_used ∧
        status.list_logs_bloom[i]? = some info.logs_bloom ∧
        status.list_confirm_root[i]? = some info.confirm_root ∧
        status.list_receipt_root[i]? = some info.receipt_root ∧
        status.list_state_root[i]? = some info.state_root) := by
  constructor
  · intro init status equal reached
    have lengths : status.pending.EqualLengths :=
      reached.invariant StatusCall.step_equal_lengths equal
    exact ⟨lengths, fun _ _ _ _ _ _ fails => update_by_commited_split_safe lengths fails⟩
  · intro results init status holding reached i small
    have from_results : status.pending.ResultsFrom results :=
      reached.invariant (StatusCall.step_results_from results) holding
    obtain ⟨window, holds, drawn⟩ := from_results
    obtain ⟨info, member, entry⟩ := holds.entry i small
    exact ⟨info, drawn info member, entry⟩

def genesisStatus : CurrentConsensusStatus :=
  let hash : Hash := ⟨List.replicate 32 0, Hash.zeros_length⟩
  ⟨0, 0, 0, 0, hash, hash, [], [], [], [], [], ⟨0, 0, hash, [], []⟩, [], 3000, 15, 10, 10, 3,
    30000, 1048576⟩

def firstResult : ExecutedInfo :=
  let hash : Hash := ⟨List.replicate 32 1, Hash.ones_length⟩
  ⟨1, 7, ⟨List.replicate 256 0, Bloom.zeros_length⟩, hash, hash, hash⟩

theorem pending_lists_invariant_first_result :
    (StatusCall.step (.updateByExecuted firstResult) genesisStatus).pending.EqualLengths ∧
    (StatusCall.step (.updateByExecuted firstResult) genesisStatus).list_cycles_used[0]? =
      some firstResult.cycles_used := by
  have reached : ∀ admissible : StatusCall → Prop, admissible (.updateByExecuted firstResult) →
      Trace.Reachable StatusCall.step admissible genesisStatus
        (StatusCall.step (.updateByExecuted firstResult) genesisStatus) :=
    fun admissible ok => (Trace.Reachable.refl _ _ _).step _ ok
  have holding : genesisStatus.pending.ResultsFrom {firstResult} :=
    ⟨Window.empty 0, ⟨rfl, rfl, rfl, rfl, rfl, rfl⟩, by simp [Window.empty]⟩
  refine ⟨(pending_lists_invariant.1 genesisStatus _ (by decide) (reached _ trivial)).1, ?_⟩
  obtain ⟨info, member, _, cycles, _⟩ := pending_lists_invariant.2 {firstResult} genesisStatus _
    holding (reached _ rfl) 0 (by decide)
  rw [show info = firstResult from member] at cycles
  exact cycles

end Muta.Consensus
