import Muta.Protocol.Types
import Muta.Lib.Trace
import Muta.Lib.Window

/-! The consensus status of `core/consensus/src/status.rs`.

`CurrentConsensusStatus` keeps, besides the committed head, five pending
lists: one entry per executed height that no committed block has confirmed
yet. The executor daemon appends to them through `update_by_executed`, and a
commit cuts the prefix its header confirms through `update_by_commited` and
`split_off`. Both are `&mut self` methods behind a `parking_lot` lock, which is
not poisoned by a panic, so the model runs them in `EStateM`: a panic leaves the
state as far as it had been updated.
-/

set_option autoImplicit false

namespace Muta.Consensus

structure ExecutedInfo where
  exec_height : UInt64
  cycles_used : UInt64
  logs_bloom : Bloom
  state_root : MerkleRoot
  receipt_root : MerkleRoot
  confirm_root : MerkleRoot
  deriving DecidableEq, Repr

structure CurrentConsensusStatus where
  cycles_price : UInt64
  cycles_limit : UInt64
  current_height : UInt64
  exec_height : UInt64
  current_hash : Hash
  latest_commited_state_root : MerkleRoot
  list_logs_bloom : List Bloom
  list_confirm_root : List MerkleRoot
  list_state_root : List MerkleRoot
  list_receipt_root : List MerkleRoot
  list_cycles_used : List UInt64
  current_proof : Proof
  validators : List Validator
  consensus_interval : UInt64
  propose_ratio : UInt64
  prevote_ratio : UInt64
  precommit_ratio : UInt64
  brake_ratio : UInt64
  tx_num_limit : UInt64
  max_tx_size : UInt64
  deriving DecidableEq, Repr

/-- The panics of the status methods, one per `assert!`, `panic!` and
out-of-range `Vec::split_off`. -/
inductive StatusPanic where
  | exec_height_assert
  | height_assert
  | vec_lengths_do_not_match
  | check_list_cycles_used
  | check_list_logs_bloom
  | check_list_confirm_root
  | check_list_receipt_root
  | split_off_out_of_range
  deriving DecidableEq, Repr

abbrev StatusM := EStateM StatusPanic CurrentConsensusStatus

/-- `util::check_list_roots`: the block's roots are at most as many as the
cached ones and agree with them pairwise. -/
def checkListRoots {T : Type} [DecidableEq T] (cache_roots block_roots : List T) : Bool :=
  decide (block_roots.length ≤ cache_roots.length) &&
    (cache_roots.zip block_roots).all fun (c_root, e_root) => c_root == e_root

theorem check_list_roots_iff {T : Type} [DecidableEq T] (cache_roots block_roots : List T) :
    checkListRoots cache_roots block_roots = true ↔ block_roots <+: cache_roots := by
  induction block_roots generalizing cache_roots with
  | nil => simp [checkListRoots]
  | cons root rest ih =>
    cases cache_roots with
    | nil => simp [checkListRoots]
    | cons cached cache =>
      have step := ih cache
      simp only [checkListRoots, Bool.and_eq_true, decide_eq_true_eq, List.all_eq_true,
        List.length_cons, List.zip_cons_cons, List.mem_cons, forall_eq_or_imp, beq_iff_eq,
        List.cons_prefix_cons] at step ⊢
      constructor
      · rintro ⟨length, same, rest_same⟩
        exact ⟨same.symm, step.mp ⟨by omega, rest_same⟩⟩
      · rintro ⟨rfl, rest_prefix⟩
        obtain ⟨length, all⟩ := step.mpr rest_prefix
        exact ⟨by omega, rfl, all⟩

def CurrentConsensusStatus.getLatestStateRoot (status : CurrentConsensusStatus) : MerkleRoot :=
  status.list_state_root.getLast?.getD status.latest_commited_state_root

/-- The five lists and the execution height, the part of the status that the
pending-results invariant is about. -/
structure Pending where
  exec_height : UInt64
  cycles_used : List UInt64
  logs_bloom : List Bloom
  confirm_root : List MerkleRoot
  receipt_root : List MerkleRoot
  state_root : List MerkleRoot
  deriving DecidableEq

def CurrentConsensusStatus.pending (status : CurrentConsensusStatus) : Pending :=
  ⟨status.exec_height, status.list_cycles_used, status.list_logs_bloom, status.list_confirm_root,
    status.list_receipt_root, status.list_state_root⟩

def Pending.push (pending : Pending) (info : ExecutedInfo) : Pending :=
  ⟨info.exec_height, pending.cycles_used ++ [info.cycles_used],
    pending.logs_bloom ++ [info.logs_bloom], pending.confirm_root ++ [info.confirm_root],
    pending.receipt_root ++ [info.receipt_root], pending.state_root ++ [info.state_root]⟩

def Pending.drop (pending : Pending) (len : Nat) : Pending :=
  ⟨pending.exec_height, pending.cycles_used.drop len, pending.logs_bloom.drop len,
    pending.confirm_root.drop len, pending.receipt_root.drop len, pending.state_root.drop len⟩

/-- The four checked lists cut by `len` and the state roots not: what a panic in
the last split leaves. -/
def Pending.dropChecked (pending : Pending) (len : Nat) : Pending :=
  { pending.drop len with state_root := pending.state_root }

namespace CurrentConsensusStatus

/-- `update_by_executed`: an old height is ignored, the next one is appended to
all five lists, and any other height fails the assertion. -/
def updateByExecuted (info : ExecutedInfo) : StatusM Unit := do
  let status ← get
  if info.exec_height ≤ status.exec_height then
    return
  unless info.exec_height = status.exec_height + 1 do
    throw .exec_height_assert
  set { status with
    exec_height := status.exec_height + 1
    list_cycles_used := status.list_cycles_used ++ [info.cycles_used]
    list_confirm_root := status.list_confirm_root ++ [info.confirm_root]
    list_logs_bloom := status.list_logs_bloom ++ [info.logs_bloom]
    list_receipt_root := status.list_receipt_root ++ [info.receipt_root]
    list_state_root := status.list_state_root ++ [info.state_root] }

/-- `set_metadata`: the consensus parameters of the committed block. It only
assigns fields, so it is a function of the status. -/
def setMetadata (status : CurrentConsensusStatus) (metadata : Metadata) :
    CurrentConsensusStatus :=
  { status with
    cycles_limit := metadata.cycles_limit
    cycles_price := metadata.cycles_price
    consensus_interval := metadata.interval
    validators := metadata.verifier_list.map fun v =>
      { address := v.address, propose_weight := v.propose_weight, vote_weight := v.vote_weight }
    propose_ratio := metadata.propose_ratio
    prevote_ratio := metadata.prevote_ratio
    precommit_ratio := metadata.precommit_ratio }

/-- `self.<list> = self.<list>.split_off(len)`, the same statement for each of
the five lists: `Vec::split_off` panics when `len` exceeds the length, and
otherwise the list keeps its elements from `len` on. -/
def splitList {T : Type} (len : Nat) (field : CurrentConsensusStatus → List T)
    (update : CurrentConsensusStatus → List T → CurrentConsensusStatus) : StatusM Unit := do
  let status ← get
  if len ≤ (field status).length then
    set (update status ((field status).drop len))
  else
    throw .split_off_out_of_range

/-- The checks `split_off` makes before it splits anything, in its order, as
the panic of the first one that fails. -/
def splitOffFailure (status : CurrentConsensusStatus) (block : Block) : Option StatusPanic :=
  let len := block.header.confirm_root.length
  if len ≠ block.header.cycles_used.length ∨ len ≠ block.header.logs_bloom.length ∨
      len ≠ block.header.receipt_root.length then
    some .vec_lengths_do_not_match
  else if !checkListRoots status.list_cycles_used block.header.cycles_used then
    some .check_list_cycles_used
  else if !checkListRoots status.list_logs_bloom block.header.logs_bloom then
    some .check_list_logs_bloom
  else if !checkListRoots status.list_confirm_root block.header.confirm_root then
    some .check_list_confirm_root
  else if !checkListRoots status.list_receipt_root block.header.receipt_root then
    some .check_list_receipt_root
  else
    none

/-- `split_off`: the header lists must agree in length and the four checked
ones must be prefixes of the pending lists; `list_state_root` is split too,
though nothing checks it. -/
def splitOff (block : Block) : StatusM Unit := do
  let status ← get
  if let some failure := splitOffFailure status block then
    throw failure
  let len := block.header.confirm_root.length
  splitList len (·.list_cycles_used) fun s list => { s with list_cycles_used := list }
  splitList len (·.list_logs_bloom) fun s list => { s with list_logs_bloom := list }
  splitList len (·.list_confirm_root) fun s list => { s with list_confirm_root := list }
  splitList len (·.list_receipt_root) fun s list => { s with list_receipt_root := list }
  splitList len (·.list_state_root) fun s list => { s with list_state_root := list }

def commitHead (status : CurrentConsensusStatus) (block : Block) (block_hash : Hash)
    (current_proof : Proof) : CurrentConsensusStatus :=
  { status with
    current_height := block.header.height
    current_hash := block_hash
    current_proof := current_proof
    latest_commited_state_root := block.header.state_root }

/-- `update_by_commited`: the metadata is set before the height is asserted. -/
def updateByCommited (metadata : Metadata) (block : Block) (block_hash : Hash)
    (current_proof : Proof) : StatusM Unit := do
  modify (·.setMetadata metadata)
  let status ← get
  unless block.header.height = status.current_height + 1 do
    throw .height_assert
  set (status.commitHead block block_hash current_proof)
  splitOff block

/-- `StatusAgent::replace`: every field but the four ratios of the timer, the
transaction limit and the size limit is taken from the new status. -/
def replace (status new_status : CurrentConsensusStatus) : CurrentConsensusStatus :=
  { status with
    cycles_price := new_status.cycles_price
    cycles_limit := new_status.cycles_limit
    current_height := new_status.current_height
    exec_height := new_status.exec_height
    current_hash := new_status.current_hash
    latest_commited_state_root := new_status.latest_commited_state_root
    list_logs_bloom := new_status.list_logs_bloom
    list_confirm_root := new_status.list_confirm_root
    list_state_root := new_status.list_state_root
    list_receipt_root := new_status.list_receipt_root
    list_cycles_used := new_status.list_cycles_used
    current_proof := new_status.current_proof
    validators := new_status.validators
    consensus_interval := new_status.consensus_interval }

/-! ### What each method does

One lemma per method states its whole effect; the invariants below cite these
and never unfold a method. -/

@[simp] theorem pending_set_metadata (status : CurrentConsensusStatus) (metadata : Metadata) :
    (status.setMetadata metadata).pending = status.pending := rfl

@[simp] theorem pending_replace (status new_status : CurrentConsensusStatus) :
    (status.replace new_status).pending = new_status.pending := rfl

@[simp] theorem pending_commit_head (status : CurrentConsensusStatus) (block : Block)
    (block_hash : Hash) (current_proof : Proof) :
    (status.commitHead block block_hash current_proof).pending = status.pending := rfl

theorem split_off_failure_of_pending {status other : CurrentConsensusStatus}
    (same : other.pending = status.pending) (block : Block) :
    other.splitOffFailure block = status.splitOffFailure block := by
  simp only [pending, Pending.mk.injEq] at same
  obtain ⟨_, cycles, blooms, confirms, receipts, _⟩ := same
  simp only [splitOffFailure, cycles, blooms, confirms, receipts]

theorem split_off_failure_ne_out_of_range (status : CurrentConsensusStatus) (block : Block) :
    status.splitOffFailure block ≠ some .split_off_out_of_range := by
  simp only [splitOffFailure]
  split_ifs <;> simp

theorem update_by_executed_run (info : ExecutedInfo) (status : CurrentConsensusStatus) :
    (updateByExecuted info).run status =
      if info.exec_height ≤ status.exec_height then .ok () status
      else if info.exec_height = status.exec_height + 1 then
        .ok () { status with
          exec_height := status.exec_height + 1
          list_cycles_used := status.list_cycles_used ++ [info.cycles_used]
          list_confirm_root := status.list_confirm_root ++ [info.confirm_root]
          list_logs_bloom := status.list_logs_bloom ++ [info.logs_bloom]
          list_receipt_root := status.list_receipt_root ++ [info.receipt_root]
          list_state_root := status.list_state_root ++ [info.state_root] }
      else .error .exec_height_assert status := by
  simp only [updateByExecuted, EStateM.run_bind, EStateM.run_get]
  split_ifs <;> rfl

theorem split_list_run {T : Type} (len : Nat) (field : CurrentConsensusStatus → List T)
    (update : CurrentConsensusStatus → List T → CurrentConsensusStatus)
    (status : CurrentConsensusStatus) :
    (splitList len field update).run status =
      if len ≤ (field status).length then .ok () (update status ((field status).drop len))
      else .error .split_off_out_of_range status := by
  simp only [splitList, EStateM.run_bind, EStateM.run_get]
  split_ifs <;> rfl

theorem split_off_passes_lengths {status : CurrentConsensusStatus} {block : Block}
    (passes : status.splitOffFailure block = none) :
    block.header.cycles_used.length = block.header.confirm_root.length ∧
    block.header.logs_bloom.length = block.header.confirm_root.length ∧
    block.header.receipt_root.length = block.header.confirm_root.length ∧
    block.header.cycles_used <+: status.list_cycles_used ∧
    block.header.logs_bloom <+: status.list_logs_bloom ∧
    block.header.confirm_root <+: status.list_confirm_root ∧
    block.header.receipt_root <+: status.list_receipt_root := by
  simp only [splitOffFailure] at passes
  split_ifs at passes with lengths c₁ c₂ c₃ c₄
  simp only [Bool.not_eq_true', Bool.not_eq_false] at c₁ c₂ c₃ c₄
  simp only [ne_eq, not_or, not_not] at lengths
  exact ⟨lengths.1.symm, lengths.2.1.symm, lengths.2.2.symm,
    (check_list_roots_iff _ _).mp c₁, (check_list_roots_iff _ _).mp c₂,
    (check_list_roots_iff _ _).mp c₃, (check_list_roots_iff _ _).mp c₄⟩

theorem split_off_passes_of_prefixes {status : CurrentConsensusStatus} {block : Block}
    (cycles : block.header.cycles_used.length = block.header.confirm_root.length)
    (blooms : block.header.logs_bloom.length = block.header.confirm_root.length)
    (receipts : block.header.receipt_root.length = block.header.confirm_root.length)
    (p₁ : block.header.cycles_used <+: status.list_cycles_used)
    (p₂ : block.header.logs_bloom <+: status.list_logs_bloom)
    (p₃ : block.header.confirm_root <+: status.list_confirm_root)
    (p₄ : block.header.receipt_root <+: status.list_receipt_root) :
    status.splitOffFailure block = none := by
  have c₁ := (check_list_roots_iff _ _).mpr p₁
  have c₂ := (check_list_roots_iff _ _).mpr p₂
  have c₃ := (check_list_roots_iff _ _).mpr p₃
  have c₄ := (check_list_roots_iff _ _).mpr p₄
  simp [splitOffFailure, cycles, blooms, receipts, c₁, c₂, c₃, c₄]

@[simp] theorem update_by_executed_current_height (info : ExecutedInfo)
    (status : CurrentConsensusStatus) :
    (Trace.after ((updateByExecuted info).run status)).current_height = status.current_height := by
  rw [update_by_executed_run]
  split_ifs <;> rfl

def splitChecked (status : CurrentConsensusStatus) (len : Nat) : CurrentConsensusStatus :=
  { status with
    list_cycles_used := status.list_cycles_used.drop len
    list_logs_bloom := status.list_logs_bloom.drop len
    list_confirm_root := status.list_confirm_root.drop len
    list_receipt_root := status.list_receipt_root.drop len }

/-- The whole effect of `split_off`: a failed check panics before anything is
split; once the checks pass only the unchecked state-root list can still be too
short, and then the other four are already cut. -/
theorem split_off_run (block : Block) (status : CurrentConsensusStatus) :
    (splitOff block).run status =
      match status.splitOffFailure block with
      | some failure => .error failure status
      | none =>
        if block.header.confirm_root.length ≤ status.list_state_root.length then
          .ok () { status.splitChecked block.header.confirm_root.length with
            list_state_root := status.list_state_root.drop block.header.confirm_root.length }
        else
          .error .split_off_out_of_range (status.splitChecked block.header.confirm_root.length) := by
  cases passes : status.splitOffFailure block with
  | some failure => simp [splitOff, passes]
  | none =>
    obtain ⟨cycles, blooms, receipts, p₁, p₂, p₃, p₄⟩ := split_off_passes_lengths passes
    have l₁ := p₁.length_le
    have l₂ := p₂.length_le
    have l₃ := p₃.length_le
    have l₄ := p₄.length_le
    rw [cycles] at l₁
    rw [blooms] at l₂
    rw [receipts] at l₄
    simp [splitOff, passes, split_list_run, l₁, l₂, l₃, l₄]
    split_ifs <;> rfl

theorem update_by_commited_run (metadata : Metadata) (block : Block) (block_hash : Hash)
    (current_proof : Proof) (status : CurrentConsensusStatus) :
    (updateByCommited metadata block block_hash current_proof).run status =
      if block.header.height = status.current_height + 1 then
        (splitOff block).run ((status.setMetadata metadata).commitHead block block_hash current_proof)
      else .error .height_assert (status.setMetadata metadata) := by
  have height : (status.setMetadata metadata).current_height = status.current_height := rfl
  simp only [updateByCommited, EStateM.run_bind, EStateM.run_modify, EStateM.run_get, height]
  split_ifs <;> rfl

theorem update_by_executed_pending (info : ExecutedInfo) (status : CurrentConsensusStatus) :
    (Trace.after ((updateByExecuted info).run status)).pending = status.pending ∨
    status.exec_height < info.exec_height ∧ info.exec_height = status.exec_height + 1 ∧
      (Trace.after ((updateByExecuted info).run status)).pending = status.pending.push info := by
  rw [update_by_executed_run]
  split_ifs with old succ
  · exact .inl rfl
  · refine .inr ⟨UInt64.not_le.mp old, succ, ?_⟩
    simp [pending, Pending.push, succ]
  · exact .inl rfl

/-- What `update_by_commited` can do to the pending part: nothing, or, once the
checks pass, cut the confirmed prefix from all five lists, or from the four
checked ones when the state roots are too short. -/
theorem update_by_commited_pending (metadata : Metadata) (block : Block) (block_hash : Hash)
    (current_proof : Proof) (status : CurrentConsensusStatus) :
    (Trace.after ((updateByCommited metadata block block_hash current_proof).run status)).pending =
        status.pending ∨
    status.splitOffFailure block = none ∧
      block.header.confirm_root.length ≤ status.list_state_root.length ∧
      (Trace.after ((updateByCommited metadata block block_hash current_proof).run status)).pending =
        status.pending.drop block.header.confirm_root.length ∨
    status.splitOffFailure block = none ∧
      status.list_state_root.length < block.header.confirm_root.length ∧
      (Trace.after ((updateByCommited metadata block block_hash current_proof).run status)).pending =
        status.pending.dropChecked block.header.confirm_root.length := by
  rw [update_by_commited_run]
  split_ifs with height
  · have same : ((status.setMetadata metadata).commitHead block block_hash current_proof).pending =
        status.pending := rfl
    rw [split_off_run, split_off_failure_of_pending same]
    cases passes : status.splitOffFailure block with
    | some failure => exact .inl same
    | none =>
      dsimp only
      split_ifs with long
      · exact .inr (.inl ⟨rfl, long, rfl⟩)
      · exact .inr (.inr ⟨rfl, Nat.lt_of_not_le long, rfl⟩)
  · exact .inl rfl

theorem update_by_commited_error {metadata : Metadata} {block : Block} {block_hash : Hash}
    {current_proof : Proof} {status after : CurrentConsensusStatus} {failure : StatusPanic}
    (fails : (updateByCommited metadata block block_hash current_proof).run status =
      .error failure after) :
    failure = .height_assert ∧ block.header.height ≠ status.current_height + 1 ∨
    status.splitOffFailure block = some failure ∨
    failure = .split_off_out_of_range ∧ status.splitOffFailure block = none ∧
      status.list_state_root.length < block.header.confirm_root.length := by
  rw [update_by_commited_run] at fails
  split_ifs at fails with height
  · have same : ((status.setMetadata metadata).commitHead block block_hash current_proof).pending =
        status.pending := rfl
    rw [split_off_run, split_off_failure_of_pending same] at fails
    cases passes : status.splitOffFailure block with
    | some found =>
      simp only [passes, EStateM.Result.error.injEq] at fails
      exact .inr (.inl (fails.1 ▸ rfl))
    | none =>
      simp only [passes] at fails
      split_ifs at fails with long
      simp only [EStateM.Result.error.injEq] at fails
      exact .inr (.inr ⟨fails.1.symm, rfl, Nat.lt_of_not_le long⟩)
  · simp only [EStateM.Result.error.injEq] at fails
    exact .inl ⟨fails.1.symm, height⟩

theorem update_by_commited_returns {metadata : Metadata} {block : Block} {block_hash : Hash}
    {current_proof : Proof} {status : CurrentConsensusStatus}
    (passes : status.splitOffFailure block = none)
    (height : block.header.height = status.current_height + 1)
    (long : block.header.confirm_root.length ≤ status.list_state_root.length) :
    ∃ after, (updateByCommited metadata block block_hash current_proof).run status = .ok () after ∧
      after.pending = status.pending.drop block.header.confirm_root.length ∧
      after.current_height = block.header.height ∧ after.current_hash = block_hash ∧
      after.latest_commited_state_root = block.header.state_root := by
  have same : ((status.setMetadata metadata).commitHead block block_hash current_proof).pending =
      status.pending := rfl
  rw [update_by_commited_run, if_pos height, split_off_run, split_off_failure_of_pending same, passes]
  exact ⟨_, if_pos long, rfl, rfl, rfl, rfl⟩

theorem update_by_commited_ok_inv {metadata : Metadata} {block : Block} {block_hash : Hash}
    {current_proof : Proof} {status after : CurrentConsensusStatus}
    (returns : (updateByCommited metadata block block_hash current_proof).run status = .ok () after) :
    block.header.height = status.current_height + 1 ∧ status.splitOffFailure block = none ∧
      block.header.confirm_root.length ≤ status.list_state_root.length ∧
      after.pending = status.pending.drop block.header.confirm_root.length ∧
      after.current_height = block.header.height ∧ after.current_hash = block_hash ∧
      after.latest_commited_state_root = block.header.state_root := by
  have same : ((status.setMetadata metadata).commitHead block block_hash current_proof).pending =
      status.pending := rfl
  have height : block.header.height = status.current_height + 1 := by
    by_contra wrong
    rw [update_by_commited_run, if_neg wrong] at returns
    cases returns
  have passes : status.splitOffFailure block = none := by
    cases failure : status.splitOffFailure block with
    | none => rfl
    | some found =>
      rw [update_by_commited_run, if_pos height, split_off_run, split_off_failure_of_pending same,
        failure] at returns
      cases returns
  have long : block.header.confirm_root.length ≤ status.list_state_root.length := by
    by_contra short
    -- The head is written before the split, and it keeps the state roots.
    have short : ¬ block.header.confirm_root.length ≤
        ((status.setMetadata metadata).commitHead block block_hash current_proof).list_state_root.length :=
      short
    rw [update_by_commited_run, if_pos height, split_off_run, split_off_failure_of_pending same,
      passes] at returns
    dsimp only at returns
    rw [if_neg short] at returns
    cases returns
  obtain ⟨left, returned, cut, rest⟩ := update_by_commited_returns passes height long
  rw [returns, EStateM.Result.ok.injEq] at returned
  rw [returned.2]
  exact ⟨height, passes, long, cut, rest⟩

end CurrentConsensusStatus

end Muta.Consensus
