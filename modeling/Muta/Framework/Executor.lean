import Muta.Framework.State
import Muta.Protocol.ServiceContext
import Muta.Lib.Frame

/-! The service executor of `framework/src/executor/mod.rs`.

`exec` runs the block's before hooks, then one call per transaction, then the
after hooks, and commits the state of every service into the root state. Each
hook and each transaction runs inside `panic::catch_unwind`: a call that returns
has every state stashed, one that panics has every cache reverted. A hook's panic
is swallowed there, but `catch_call` turns a transaction's panic into
`Err(ExecutorError::CallService)`. The closure `exec` maps over the transactions
passes it on with `?`, and `collect` into a `Result` stops at it: `exec` returns
that error and runs neither the remaining transactions nor the after hooks, nor
the commit (`exec_aborts_on_panic`). A transaction naming a service the mapping
does not have panics in `call`, and aborts the block the same way. Where no
transaction panics, every transaction gets its receipt, in order
(`exec_returns`).

A service is what the mapping makes of a name: the code of its hooks and
methods. That code runs over the states of all services (through its SDK, and
through the executor as dispatcher) and the cells its context shares, and it
reaches the states only through their stores, which insert into the caches. So
every state keeps what it falls back to (`CacheOnly`), and a reverted call leaves
every state as the last stash left it (`catch_call_reverts`).
-/

set_option autoImplicit false

namespace Muta.Framework

open Muta.Frame

structure ExecutorParams where
  state_root : MerkleRoot
  height : UInt64
  timestamp : UInt64
  cycles_limit : UInt64
  deriving DecidableEq, Repr

structure ExecutorResp where
  receipts : List Receipt
  all_cycles_used : UInt64
  logs_bloom : Bloom
  state_root : MerkleRoot
  deriving DecidableEq, Repr

inductive HookType where
  | Before
  | After
  deriving DecidableEq, Repr

inductive ExecType where
  | Read
  | Write
  deriving DecidableEq, Repr

/-- `ExecutorError`, but `NotFoundMethod` and `JsonParse`, which only the code of
services raises. -/
inductive ExecutorError where
  | NotFoundService (service : String)
  | InitService (message : String)
  | QueryService (message : String)
  | CallService (message : String)
  deriving DecidableEq, Repr

/-- The errors `exec` passes on: of the states, of `Address::from_pubkey_bytes`, of
the executor, and of the mapping's `get_service` for a name it does not know. -/
inductive ExecError where
  | State (error : ProtocolError)
  | Types (error : TypesError)
  | Executor (error : ExecutorError)
  | Mapping (service : String)
  deriving DecidableEq, Repr

/-- `format!("{:?}", e)` of a caught panic's payload, a `Box<dyn Any + Send>`: its
`Debug` shows none of what the payload holds. -/
def anyDebug (_payload : String) : String := "Any \x7b .. \x7d"

/-- The cells all contexts of one call share (`Rc<RefCell<..>>`). -/
structure Cells where
  cycles_used : UInt64
  events : List Event
  deriving DecidableEq, Repr

/-- What the code of services runs over: the state of each service the executor
holds (its `HashMap`), and the cells of the running call's context. -/
structure World (T : Type) where
  states : String → Option (GeneralServiceState T)
  cells : Cells

def World.view {T : Type} [MPTTrie T] (world : World T) (name : String) : Option Contents :=
  (world.states name).map GeneralServiceState.view

def World.saved {T : Type} [MPTTrie T] (world : World T) (name : String) : Option Contents :=
  (world.states name).map GeneralServiceState.savedView

/-- The code of a service: it returns, or panics with a message, and leaves the
world as its writes made it. -/
abbrev Code (T α : Type) := EStateM String (World T) α

/-- Code that writes the states only through their stores, into the caches. -/
def CacheOnly {T : Type} [MPTTrie T] {α : Type} (code : Code T α) : Prop := Keeps World.saved code

def Code.Returns {T α : Type} (code : Code T α) : Prop :=
  ∀ world, ∃ value after, code.run world = .ok value after

/-- A service as the executor calls it: the code of its hooks and methods, each of
which writes only caches. -/
structure Service (T : Type) [MPTTrie T] where
  hook_before_ : ExecutorParams → Code T Unit
  hook_after_ : ExecutorParams → Code T Unit
  tx_hook_before_ : ServiceContext → Code T Unit
  tx_hook_after_ : ServiceContext → Code T Unit
  read_ : ServiceContext → Code T ServiceResponse
  write_ : ServiceContext → Code T ServiceResponse
  hook_before_cache_only : ∀ params, CacheOnly (hook_before_ params)
  hook_after_cache_only : ∀ params, CacheOnly (hook_after_ params)
  tx_hook_before_cache_only : ∀ context, CacheOnly (tx_hook_before_ context)
  tx_hook_after_cache_only : ∀ context, CacheOnly (tx_hook_after_ context)
  read_cache_only : ∀ context, CacheOnly (read_ context)
  write_cache_only : ∀ context, CacheOnly (write_ context)

def Service.Returns {T : Type} [MPTTrie T] (service : Service T) : Prop :=
  ∀ context, (service.tx_hook_before_ context).Returns ∧ (service.write_ context).Returns ∧
    (service.tx_hook_after_ context).Returns

structure ServiceMapping (T : Type) [MPTTrie T] where
  list_service_name : List String
  getService : String → Option (Service T)

def ServiceMapping.Returns {T : Type} [MPTTrie T] (mapping : ServiceMapping T) : Prop :=
  ∀ name service, mapping.getService name = some service → service.Returns

/-- `ServiceExecutor`: the states of the services, the root state, and the cells of
the context `get_context` made last. -/
structure ServiceExecutor (T : Type) where
  world : World T
  root_state : GeneralServiceState T

abbrev ExecM (T : Type) := EStateM (Fail ExecError) (ServiceExecutor T)

namespace ServiceExecutor

variable {T : Type} [MPTTrie T]

def mapStates (f : GeneralServiceState T → GeneralServiceState T) (executor : ServiceExecutor T) :
    ServiceExecutor T :=
  { executor with world.states := fun name => (executor.world.states name).map f }

def saved (executor : ServiceExecutor T) : String → Option Contents := executor.world.saved

def liftState {α : Type} : ProtocolResult α → ExecM T α
  | .ok value => pure value
  | .error (.error error) => throw (.error (.State error))
  | .error (.panic message) => throw (.panic message)

def liftTypes {α : Type} : Except TypesError α → ExecM T α
  | .ok value => pure value
  | .error error => throw (.error (.Types error))

def stash : ExecM T Unit := modify (mapStates GeneralServiceState.stash)

def revertCache : ExecM T Unit := modify (mapStates GeneralServiceState.revertCache)

/-- `get_sdk`: an SDK over the state of `service`, which must exist. -/
def getSdk (service : String) : ExecM T Unit := do
  if ((← get).world.states service).isNone then throw (.error (.Executor (.NotFoundService service)))

def runCode {α : Type} (code : Code T α) : ExecM T α := fun executor =>
  match code.run executor.world with
  | .ok value world => .ok value { executor with world }
  | .error message world => .error (.panic message) { executor with world }

/-- `panic::catch_unwind(AssertUnwindSafe(|| ..))`: a panic is caught as its
payload, and what the call wrote before it stays. -/
def catchUnwind {α : Type} (call : ExecM T α) : ExecM T (Except String α) := fun executor =>
  match call executor with
  | .ok value after => .ok (.ok value) after
  | .error (.panic message) after => .ok (.error message) after
  | .error (.error error) after => .error (.error error) after

/-- `.unwrap_or_else(|e| panic!("{message}: {}", e))`; the payload is read by nothing
but `any_debug`, so the error's text is left out of it. -/
def expect {α : Type} (message : String) (call : ExecM T α) : ExecM T α := fun executor =>
  match call executor with
  | .ok value after => .ok value after
  | .error (.error _) after => .error (.panic message) after
  | .error (.panic inner) after => .error (.panic inner) after

def getContext (tx_hash nonce : Option Hash) (caller : Address) (cycles_price cycles_limit : UInt64)
    (params : ExecutorParams) (request : TransactionRequest) : ExecM T ServiceContext := do
  modify fun executor => { executor with world.cells := ⟨0, []⟩ }
  pure {
    tx_hash, nonce, cycles_limit, cycles_price, caller
    height := params.height
    timestamp := params.timestamp
    service_name := request.service_name
    service_method := request.method
    service_payload := request.payload
    extra := none }

def emptyBloom : Bloom := ⟨List.replicate 256 0, Bloom.zeros_length⟩

/-- `logs_bloom`: the digest of the service name and data of every event of every
receipt, accrued into the empty filter; `accrue` is ethbloom's `accrue` of a raw
input. -/
def logsBloom (digest : Bytes → Hash) (accrue : Bloom → Bytes → Bloom) (receipts : List Receipt) : Bloom :=
  receipts.foldl (fun bloom receipt => receipt.events.foldl (fun bloom event =>
    accrue bloom (digest (Rlp.utf8 (event.service ++ event.data))).bytes) bloom) emptyBloom

variable (mapping : ServiceMapping T)

def getService (name : String) : ExecM T (Service T) :=
  match mapping.getService name with
  | some service => pure service
  | none => throw (.error (.Mapping name))

/-- `hook`: the hook of every service, in the mapping's order; each hook that
panics has every cache reverted, each that returns has them stashed. -/
def hook (hook : HookType) (exec_params : ExecutorParams) : ExecM T Unit :=
  mapping.list_service_name.forM fun name => do
    getSdk name
    let service ← getService mapping name
    let hook_ret ← catchUnwind (runCode (match hook with
      | .Before => service.hook_before_ exec_params
      | .After => service.hook_after_ exec_params))
    match hook_ret with
    | .error _ => revertCache
    | .ok () => stash

def call (context : ServiceContext) (exec_type : ExecType) : ExecM T ServiceResponse := do
  expect "get target service sdk failed" (getSdk context.service_name)
  let service ← expect "get target service failed" (getService mapping context.service_name)
  match exec_type with
  | .Read => runCode (service.read_ context)
  | .Write => runCode (service.write_ context)

def callWithTxHooks (context : ServiceContext) (exec_type : ExecType) : ExecM T ServiceResponse := do
  let tx_hook_services ← mapping.list_service_name.mapM fun name => do
    expect "get target service sdk failed" (getSdk name)
    expect "get target service sdk failed" (getService mapping name)
  tx_hook_services.forM fun service => runCode (service.tx_hook_before_ context)
  let original_res ← call mapping context exec_type
  tx_hook_services.forM fun service => runCode (service.tx_hook_after_ context)
  pure original_res

/-- `catch_call`: a call that returns is stashed; one that panics has every cache
reverted and becomes the error `CallService`. -/
def catchCall (context : ServiceContext) (exec_type : ExecType) : ExecM T ServiceResponse := do
  let result ← catchUnwind (match exec_type with
    | .Read => call mapping context exec_type
    | .Write => callWithTxHooks mapping context exec_type)
  match result with
  | .ok r =>
    stash
    pure r
  | .error e =>
    revertCache
    throw (.error (.Executor (.CallService (anyDebug e))))

/-- `commit`: every state committed and its root inserted under the service's name
into the root state, which is then stashed and committed. The `HashMap` of states
holds the mapping's names, and its order is taken to be theirs. -/
def commit : ExecM T MerkleRoot := do
  mapping.list_service_name.forM fun name => do
    let executor ← get
    match executor.world.states name with
    | none => pure ()
    | some state =>
      let (committed, root) := state.commit
      set { executor with world.states := Function.update executor.world.states name (some committed) }
      let root_state ← liftState (executor.root_state.insert name root)
      modify fun executor => { executor with root_state }
  let executor ← get
  let (root_state, root) := executor.root_state.stash.commit
  set { executor with root_state }
  pure root

variable (digest : Bytes → Hash)

/-- The closure `exec` maps over the transactions: the receipt of one, its state
root `MerkleRoot::from_empty()` until the commit. -/
def execTx (params : ExecutorParams) (stx : SignedTransaction) : ExecM T Receipt := do
  let caller ← liftTypes (Address.fromPubkeyBytes digest stx.pubkey)
  let context ← getContext (some stx.tx_hash) (some stx.raw.nonce) caller stx.raw.cycles_price
    stx.raw.cycles_limit params stx.raw.request
  let exec_resp ← catchCall mapping context .Write
  let cells := (← get).world.cells
  pure {
    state_root := digest [0x80]
    height := context.height
    tx_hash := stx.tx_hash
    cycles_used := cells.cycles_used
    events := cells.events
    response := ⟨context.service_name, context.service_method, exec_resp⟩ }

/-- `Executor::exec`. The cycles are summed in `u64`, which wraps in a release build. -/
def exec (accrue : Bloom → Bytes → Bloom) (params : ExecutorParams) (txs : List SignedTransaction) :
    ExecM T ExecutorResp := do
  hook mapping .Before params
  let receipts ← txs.mapM (execTx mapping digest params)
  hook mapping .After params
  let state_root ← commit mapping
  let receipts := receipts.map fun receipt => { receipt with state_root }
  let all_cycles_used := receipts.foldl (fun sum receipt => sum + receipt.cycles_used) 0
  pure ⟨receipts, all_cycles_used, logsBloom digest accrue receipts, state_root⟩

/-! ### What each step does -/

section Steps

variable {mapping digest}

def fresh (executor : ServiceExecutor T) : ServiceExecutor T := { executor with world.cells := ⟨0, []⟩ }

def txContext (digest : Bytes → Hash) (params : ExecutorParams) (stx : SignedTransaction) : ServiceContext where
  tx_hash := some stx.tx_hash
  nonce := some stx.raw.nonce
  cycles_limit := stx.raw.cycles_limit
  cycles_price := stx.raw.cycles_price
  caller := Address.ofHash (digest stx.pubkey)
  height := params.height
  timestamp := params.timestamp
  service_name := stx.raw.request.service_name
  service_method := stx.raw.request.method
  service_payload := stx.raw.request.payload
  extra := none

omit [MPTTrie T] in
@[simp] theorem map_states_states (f : GeneralServiceState T → GeneralServiceState T) (executor : ServiceExecutor T)
    (name : String) : (mapStates f executor).world.states name = (executor.world.states name).map f := rfl

omit [MPTTrie T] in
theorem get_sdk_run (service : String) (executor : ServiceExecutor T) :
    (getSdk service).run executor =
      if (executor.world.states service).isNone then .error (.error (.Executor (.NotFoundService service))) executor
      else .ok () executor := by
  simp only [getSdk, EStateM.run_bind, EStateM.run_get]
  cases executor.world.states service <;> rfl

theorem get_service_run (name : String) (executor : ServiceExecutor T) :
    (getService mapping name).run executor =
      match mapping.getService name with
      | some service => .ok service executor
      | none => .error (.error (.Mapping name)) executor := by
  unfold getService
  cases mapping.getService name <;> rfl

omit [MPTTrie T] in
@[simp] theorem final_expect {α : Type} (message : String) (call : ExecM T α) (executor : ServiceExecutor T) :
    final ((expect message call).run executor) = final (call.run executor) := by
  simp only [expect, EStateM.run]
  cases call executor with
  | ok value after => rfl
  | error failure after => cases failure <;> rfl

omit [MPTTrie T] in
@[simp] theorem final_catch_unwind {α : Type} (call : ExecM T α) (executor : ServiceExecutor T) :
    final ((catchUnwind call).run executor) = final (call.run executor) := by
  simp only [catchUnwind, EStateM.run]
  cases call executor with
  | ok value after => rfl
  | error failure after => cases failure <;> rfl

omit [MPTTrie T] in
theorem catch_unwind_run {α : Type} (call : ExecM T α) (executor : ServiceExecutor T) :
    (catchUnwind call).run executor =
      match call.run executor with
      | .ok value after => .ok (.ok value) after
      | .error (.panic message) after => .ok (.error message) after
      | .error (.error error) after => .error (.error error) after := rfl

theorem exec_tx_run (params : ExecutorParams) (stx : SignedTransaction) (executor : ServiceExecutor T) :
    (execTx mapping digest params stx).run executor =
      match (catchCall mapping (txContext digest params stx) .Write).run (fresh executor) with
      | .ok exec_resp after => .ok {
          state_root := digest [0x80]
          height := params.height
          tx_hash := stx.tx_hash
          cycles_used := after.world.cells.cycles_used
          events := after.world.cells.events
          response := ⟨stx.raw.request.service_name, stx.raw.request.method, exec_resp⟩ } after
      | .error failure after => .error failure after := by
  simp only [execTx, Address.fromPubkeyBytes, Address.from_hash_eq, liftTypes, getContext, EStateM.run_bind,
    EStateM.run_pure, EStateM.run_modify, EStateM.run_get, fresh, txContext]
  split <;> rename_i result <;> rw [result]

end Steps

/-! ### A panicking transaction -/

section Panics

variable {mapping digest}

theorem get_sdk_keeps (service : String) : Keeps saved (getSdk service : ExecM T Unit) := by
  intro executor
  rw [get_sdk_run]
  split <;> rfl

theorem get_service_keeps (name : String) : Keeps saved (getService mapping name) := by
  intro executor
  rw [get_service_run]
  split <;> rfl

theorem expect_keeps {α : Type} {call : ExecM T α} (message : String) (keeps : Keeps saved call) :
    Keeps saved (expect message call) := fun executor => by
  rw [final_expect]
  exact keeps executor

theorem run_code_keeps {α : Type} {code : Code T α} (cache_only : CacheOnly code) : Keeps saved (runCode code) := by
  intro executor
  have kept := cache_only executor.world
  simp only [EStateM.run, runCode] at kept ⊢
  cases run : code executor.world <;> simpa [run, saved] using kept

theorem call_keeps (context : ServiceContext) (exec_type : ExecType) : Keeps saved (call mapping context exec_type) := by
  unfold call
  refine (expect_keeps _ (get_sdk_keeps _)).bind fun _ => (expect_keeps _ (get_service_keeps _)).bind fun service => ?_
  cases exec_type with
  | Read => exact run_code_keeps (service.read_cache_only context)
  | Write => exact run_code_keeps (service.write_cache_only context)

theorem call_with_tx_hooks_keeps (context : ServiceContext) (exec_type : ExecType) :
    Keeps saved (callWithTxHooks mapping context exec_type) := by
  unfold callWithTxHooks
  refine (Keeps.mapM _ fun name _ => (expect_keeps _ (get_sdk_keeps name)).bind fun _ =>
    expect_keeps _ (get_service_keeps name)).bind fun services => ?_
  refine (Keeps.forM services fun service _ => run_code_keeps (service.tx_hook_before_cache_only context)).bind
    fun _ => ?_
  refine (call_keeps context exec_type).bind fun original_res => ?_
  exact (Keeps.forM services fun service _ => run_code_keeps (service.tx_hook_after_cache_only context)).bind
    fun _ => Keeps.pure original_res

/-- A transaction whose call panics, in a hook or in its method, becomes the error
`CallService`, and leaves every state reading what it fell back to before the call. -/
theorem catch_call_reverts {context : ServiceContext} {executor after : ServiceExecutor T} {message : String}
    (panics : (callWithTxHooks mapping context .Write).run executor = .error (.panic message) after) :
    (catchCall mapping context .Write).run executor =
        .error (.error (.Executor (.CallService (anyDebug message))))
          (after.mapStates GeneralServiceState.revertCache) ∧
      (after.mapStates GeneralServiceState.revertCache).world.view = executor.saved := by
  constructor
  · simp only [catchCall, EStateM.run_bind, catch_unwind_run, panics, revertCache, EStateM.run_modify]
    rfl
  · -- the call kept what every state falls back to, and the revert makes that what it reads
    have kept : after.saved = executor.saved := by
      have keeps := @call_with_tx_hooks_keeps _ _ mapping context .Write executor
      rwa [panics] at keeps
    funext name
    rw [← kept]
    simp [World.view, saved, World.saved, Function.comp_def, GeneralServiceState.view_revert_cache]

theorem exec_aborts_on_panic (accrue : Bloom → Bytes → Bloom) (params : ExecutorParams)
    (done : List SignedTransaction) (stx : SignedTransaction) (rest : List SignedTransaction)
    {executor before middle after : ServiceExecutor T} {receipts : List Receipt} {message : String}
    (hooked : (hook mapping .Before params).run executor = .ok () before)
    (done_returns : (done.mapM (execTx mapping digest params)).run before = .ok receipts middle)
    (panics : (callWithTxHooks mapping (txContext digest params stx) .Write).run (fresh middle) =
      .error (.panic message) after) :
    (exec mapping digest accrue params (done ++ stx :: rest)).run executor =
      .error (.error (.Executor (.CallService (anyDebug message))))
        (after.mapStates GeneralServiceState.revertCache) := by
  have throws : (execTx mapping digest params stx).run middle =
      .error (.error (.Executor (.CallService (anyDebug message))))
        (after.mapStates GeneralServiceState.revertCache) := by
    rw [exec_tx_run, (catch_call_reverts panics).1]
  simp only [exec, EStateM.run_bind, hooked, mapM_append_error done stx rest done_returns throws]

end Panics

/-! ### A block without panics -/

def Serves (mapping : ServiceMapping T) (executor : ServiceExecutor T) : Prop :=
  ∀ name ∈ mapping.list_service_name, (executor.world.states name).isSome ∧ (mapping.getService name).isSome

def ReceiptFor (params : ExecutorParams) (stx : SignedTransaction) (receipt : Receipt) : Prop :=
  receipt.tx_hash = stx.tx_hash ∧ receipt.height = params.height ∧
    receipt.response.service_name = stx.raw.request.service_name ∧ receipt.response.method = stx.raw.request.method

section Returns

variable {mapping digest}

theorem Serves.of_saved {executor after : ServiceExecutor T} (serves : Serves mapping executor)
    (kept : after.saved = executor.saved) : Serves mapping after := by
  intro name member
  have present : (after.world.states name).isSome = (executor.world.states name).isSome := by
    simpa [saved, World.saved] using congrArg Option.isSome (congrFun kept name)
  rw [present]
  exact serves name member

theorem Serves.mapStates {executor : ServiceExecutor T} (serves : Serves mapping executor)
    (f : GeneralServiceState T → GeneralServiceState T) : Serves mapping (executor.mapStates f) := by
  intro name member
  simpa using serves name member

theorem stash_returns : Returns (Serves mapping) (fun _ => True) stash :=
  fun _ serves => ⟨(), _, rfl, trivial, serves.mapStates _⟩

theorem revert_cache_returns : Returns (Serves mapping) (fun _ => True) revertCache :=
  fun _ serves => ⟨(), _, rfl, trivial, serves.mapStates _⟩

theorem get_sdk_returns {name : String} (member : name ∈ mapping.list_service_name) :
    Returns (Serves mapping) (fun _ => True) (getSdk name) := by
  intro executor serves
  obtain ⟨state, found⟩ := Option.isSome_iff_exists.mp (serves name member).1
  exact ⟨(), executor, by rw [get_sdk_run, found]; rfl, trivial, serves⟩

theorem get_service_returns {name : String} (member : name ∈ mapping.list_service_name) :
    Returns (Serves mapping) (fun service => mapping.getService name = some service) (getService mapping name) := by
  intro executor serves
  obtain ⟨service, found⟩ := Option.isSome_iff_exists.mp (serves name member).2
  exact ⟨service, executor, by rw [get_service_run, found], found, serves⟩

theorem expect_returns {α : Type} {post : α → Prop} {call : ExecM T α} (message : String)
    (returns : Returns (Serves mapping) post call) : Returns (Serves mapping) post (expect message call) := by
  intro executor serves
  obtain ⟨value, after, run, posted, serves_after⟩ := returns executor serves
  refine ⟨value, after, ?_, posted, serves_after⟩
  simp only [expect, EStateM.run] at run ⊢
  rw [run]

theorem run_code_returns {α : Type} {code : Code T α} (cache_only : CacheOnly code) (returns : code.Returns) :
    Returns (Serves mapping) (fun _ => True) (runCode code) := by
  intro executor serves
  obtain ⟨value, world, run⟩ := returns executor.world
  have ran : (runCode code).run executor = .ok value { executor with world } := by
    simp only [runCode, EStateM.run] at run ⊢
    rw [run]
  have kept := run_code_keeps cache_only executor
  rw [ran] at kept
  exact ⟨value, _, ran, trivial, serves.of_saved kept⟩

theorem catch_unwind_run_code_returns {α : Type} {code : Code T α} (cache_only : CacheOnly code) :
    Returns (Serves mapping) (fun _ => True) (catchUnwind (runCode code)) := by
  intro executor serves
  have kept := run_code_keeps cache_only executor
  -- the code returned or panicked; either way the caught call returns
  cases run : code.run executor.world with
  | ok value world =>
    have ran : (runCode code).run executor = .ok value { executor with world } := by
      simp only [runCode, EStateM.run] at run ⊢
      rw [run]
    rw [ran] at kept
    exact ⟨.ok value, { executor with world }, by rw [catch_unwind_run, ran], trivial, serves.of_saved kept⟩
  | error message world =>
    have ran : (runCode code).run executor = .error (.panic message) { executor with world } := by
      simp only [runCode, EStateM.run] at run ⊢
      rw [run]
    rw [ran] at kept
    exact ⟨.error message, { executor with world }, by rw [catch_unwind_run, ran], trivial, serves.of_saved kept⟩

theorem hook_returns (hook_type : HookType) (params : ExecutorParams) :
    Returns (Serves mapping) (fun _ => True) (hook mapping hook_type params) := by
  unfold hook
  refine Returns.forM _ fun name member => ?_
  refine (get_sdk_returns member).bind fun _ _ => (get_service_returns member).bind fun service _ => ?_
  have cache_only : CacheOnly (match hook_type with
      | .Before => service.hook_before_ params
      | .After => service.hook_after_ params) := by
    cases hook_type with
    | Before => exact service.hook_before_cache_only params
    | After => exact service.hook_after_cache_only params
  refine (catch_unwind_run_code_returns cache_only).bind fun hook_ret _ => ?_
  cases hook_ret with
  | error _ => exact revert_cache_returns
  | ok _ => exact stash_returns

theorem call_returns (returns : mapping.Returns) {context : ServiceContext}
    (named : context.service_name ∈ mapping.list_service_name) :
    Returns (Serves mapping) (fun _ => True) (call mapping context .Write) := by
  unfold call
  refine (expect_returns _ (get_sdk_returns named)).bind fun _ _ =>
    (expect_returns _ (get_service_returns named)).bind fun service found => ?_
  exact run_code_returns (service.write_cache_only context) (returns _ service found context).2.1

theorem call_with_tx_hooks_returns (returns : mapping.Returns) {context : ServiceContext}
    (named : context.service_name ∈ mapping.list_service_name) :
    Returns (Serves mapping) (fun _ => True) (callWithTxHooks mapping context .Write) := by
  unfold callWithTxHooks
  refine (Returns.mapM _ fun name member => (expect_returns _ (get_sdk_returns member)).bind fun _ _ =>
    expect_returns _ (get_service_returns member)).bind fun services found => ?_
  -- every service the loop made is one of the mapping's, so its transaction code returns
  have each : ∀ service ∈ services, service.Returns :=
    forall_mem_of_forall₂ (fun name service made => returns name service made) found
  refine (Returns.forM services fun service member =>
    run_code_returns (service.tx_hook_before_cache_only context) (each service member context).1).bind
    fun _ _ => ?_
  refine (call_returns returns named).bind fun original_res _ => ?_
  exact (Returns.forM services fun service member =>
    run_code_returns (service.tx_hook_after_cache_only context) (each service member context).2.2).bind
    fun _ _ => Returns.pure trivial

theorem catch_call_returns (returns : mapping.Returns) {context : ServiceContext}
    (named : context.service_name ∈ mapping.list_service_name) :
    Returns (Serves mapping) (fun _ => True) (catchCall mapping context .Write) := by
  intro executor serves
  obtain ⟨response, after, run, -, serves_after⟩ := call_with_tx_hooks_returns returns named executor serves
  refine ⟨response, after.mapStates GeneralServiceState.stash, ?_, trivial, serves_after.mapStates _⟩
  simp only [catchCall, EStateM.run_bind, catch_unwind_run, run, stash, EStateM.run_modify]
  rfl

theorem exec_tx_returns (returns : mapping.Returns) (params : ExecutorParams) {stx : SignedTransaction}
    (named : stx.raw.request.service_name ∈ mapping.list_service_name) :
    Returns (Serves mapping) (ReceiptFor params stx) (execTx mapping digest params stx) := by
  intro executor serves
  obtain ⟨response, after, run, -, serves_after⟩ :=
    @catch_call_returns _ _ mapping returns (txContext digest params stx) named (fresh executor) serves
  exact ⟨_, after, by rw [exec_tx_run, run], ⟨rfl, rfl, rfl, rfl⟩, serves_after⟩

omit [MPTTrie T] in
theorem root_insert_eq (root_state : GeneralServiceState T) (name : String) (root : MerkleRoot) :
    root_state.insert name root =
      .ok { root_state with cache_map := root_state.cache_map.insert (Rlp.utf8 name) ([0xe1, 0xa0] ++ root.asBytes) } :=
  GeneralServiceState.insert_eq_ok root_state rfl (Hash.encode_fixed_eq root)

theorem commit_returns : Returns (Serves mapping) (fun _ => True) (commit mapping) := by
  unfold commit
  refine (Returns.forM _ fun name _ => ?_).bind fun _ _ => Returns.get.bind fun executor serves => ?_
  · refine Returns.get.bind fun executor serves => ?_
    cases found : executor.world.states name with
    | none => exact Returns.pure trivial
    | some state =>
      -- the committed state replaces the state, and the root state takes its root
      dsimp only
      refine (Returns.set ?_).bind fun _ _ => ?_
      · intro other member
        by_cases same : other = name
        · subst same
          simpa using (serves other member).2
        · simpa [Function.update_of_ne same] using serves other member
      · rw [root_insert_eq]
        simp only [liftState, pure_bind]
        exact Returns.modify fun _ serves => serves
  · -- only the root state changes
    dsimp only
    refine (Returns.set ?_).bind fun _ _ => ?_
    · exact serves
    · exact Returns.pure trivial

/-- Without a panic, `exec` returns one receipt per transaction, in order, each with
the block's state root. -/
theorem exec_returns (returns : mapping.Returns) (accrue : Bloom → Bytes → Bloom) (params : ExecutorParams)
    (txs : List SignedTransaction) {executor : ServiceExecutor T} (serves : Serves mapping executor)
    (named : ∀ stx ∈ txs, stx.raw.request.service_name ∈ mapping.list_service_name) :
    ∃ resp after, (exec mapping digest accrue params txs).run executor = .ok resp after ∧
      List.Forall₂ (fun stx receipt => ReceiptFor params stx receipt ∧ receipt.state_root = resp.state_root)
        txs resp.receipts := by
  obtain ⟨_, before, hooked, -, serves_before⟩ := hook_returns .Before params executor serves
  obtain ⟨receipts, middle, looped, receipted, serves_middle⟩ :=
    Returns.mapM txs (fun stx member => @exec_tx_returns _ _ mapping digest returns params stx (named stx member))
      before serves_before
  obtain ⟨_, hooked_state, hooked_after, -, serves_after⟩ := hook_returns .After params middle serves_middle
  obtain ⟨state_root, committed, commit_run, -, -⟩ := commit_returns hooked_state serves_after
  -- the receipts the loop made, stamped with the root of the commit
  let stamped := receipts.map fun receipt => { receipt with state_root }
  refine ⟨⟨stamped, stamped.foldl (fun sum receipt => sum + receipt.cycles_used) 0,
    logsBloom digest accrue stamped, state_root⟩, committed, ?_, ?_⟩
  · simp only [exec, EStateM.run_bind, hooked, looped, hooked_after, commit_run, EStateM.run_pure]
    rfl
  · rw [List.forall₂_map_right_iff]
    exact receipted.imp fun stx receipt answered => ⟨answered, rfl⟩

end Returns

/-- A panicking call is isolated only in the states: it leaves every state as the
last stash left it, but `exec` returns the error, with no receipt for the block;
only a block in which no call panics gets its receipts, one per transaction in
order. -/
theorem exec_panic_aborts_block :
    (∀ (mapping : ServiceMapping T) (context : ServiceContext) (executor after : ServiceExecutor T) (message : String),
      (callWithTxHooks mapping context .Write).run executor = .error (.panic message) after →
      (catchCall mapping context .Write).run executor =
          .error (.error (.Executor (.CallService (anyDebug message))))
            (after.mapStates GeneralServiceState.revertCache) ∧
        (after.mapStates GeneralServiceState.revertCache).world.view = executor.saved) ∧
    (∀ (mapping : ServiceMapping T) (digest : Bytes → Hash) (accrue : Bloom → Bytes → Bloom) (params : ExecutorParams)
      (done : List SignedTransaction) (stx : SignedTransaction) (rest : List SignedTransaction)
      (executor before middle after : ServiceExecutor T) (receipts : List Receipt) (message : String),
      (hook mapping .Before params).run executor = .ok () before →
      (done.mapM (execTx mapping digest params)).run before = .ok receipts middle →
      (callWithTxHooks mapping (txContext digest params stx) .Write).run (fresh middle) =
        .error (.panic message) after →
      (exec mapping digest accrue params (done ++ stx :: rest)).run executor =
        .error (.error (.Executor (.CallService (anyDebug message))))
          (after.mapStates GeneralServiceState.revertCache)) ∧
    (∀ (mapping : ServiceMapping T) (digest : Bytes → Hash) (accrue : Bloom → Bytes → Bloom) (params : ExecutorParams)
      (txs : List SignedTransaction) (executor : ServiceExecutor T),
      mapping.Returns → Serves mapping executor →
      (∀ stx ∈ txs, stx.raw.request.service_name ∈ mapping.list_service_name) →
      ∃ resp after, (exec mapping digest accrue params txs).run executor = .ok resp after ∧
        List.Forall₂ (fun stx receipt => ReceiptFor params stx receipt ∧ receipt.state_root = resp.state_root)
          txs resp.receipts) :=
  ⟨fun _ _ _ _ _ panics => catch_call_reverts panics,
    fun _ _ accrue params done stx rest _ _ _ _ _ _ hooked done_returns panics =>
      exec_aborts_on_panic accrue params done stx rest hooked done_returns panics,
    fun _ _ accrue params txs _ returns serves named => exec_returns returns accrue params txs serves named⟩

/-! A block with one transaction that names a service the mapping does not have. -/

def quietService : Service T where
  hook_before_ _ := pure ()
  hook_after_ _ := pure ()
  tx_hook_before_ _ := pure ()
  tx_hook_after_ _ := pure ()
  read_ _ := pure (ServiceResponse.fromSucceed "")
  write_ _ := pure (ServiceResponse.fromSucceed "")
  hook_before_cache_only _ := Keeps.pure _
  hook_after_cache_only _ := Keeps.pure _
  tx_hook_before_cache_only _ := Keeps.pure _
  tx_hook_after_cache_only _ := Keeps.pure _
  read_cache_only _ := Keeps.pure _
  write_cache_only _ := Keeps.pure _

def assetMapping : ServiceMapping T := ⟨["asset"], fun name => if name = "asset" then some quietService else none⟩

def assetExecutor (trie : T) : ServiceExecutor T :=
  ⟨⟨fun name => if name = "asset" then some (GeneralServiceState.new trie) else none, ⟨0, []⟩⟩,
    GeneralServiceState.new trie⟩

def nullHash : Hash := ⟨List.replicate 32 0, Hash.zeros_length⟩

/-- A transfer sent to `assets`. -/
def misnamedTx : SignedTransaction :=
  ⟨⟨nullHash, nullHash, 0, 1, 100, ⟨"assets", "transfer", ""⟩⟩, nullHash, [], []⟩

-- a transaction to "assets" aborts the block instead of failing alone
example (digest : Bytes → Hash) (accrue : Bloom → Bytes → Bloom)
    (params : ExecutorParams) (trie : T) :
    ∃ after, (exec assetMapping digest accrue params [misnamedTx]).run (assetExecutor trie) =
      .error (.error (.Executor (.CallService (anyDebug "get target service sdk failed")))) after :=
  ⟨_, exec_aborts_on_panic accrue params [] misnamedTx [] rfl rfl rfl⟩

end ServiceExecutor

end Muta.Framework
