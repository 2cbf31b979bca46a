import Muta.Protocol.ServiceContext
import Muta.Lib.Saturating
import Muta.Lib.Ledger
import Muta.Lib.SortedMap

/-! The asset service of `built-in-services/asset/src/lib.rs`, over the account
store of its SDK.

The service keeps its assets in the `StoreMap` "assets" and every balance in the
account store, through `get_account_value(address, asset_id)` and
`set_account_value`. With `Hash::digest` collision-free on the keys
`get_address_key` builds and the RLP codec of `AssetBalance` a round trip, the
account store is a map from an address and an asset id to an `AssetBalance`, and
that map is `AssetState.accounts`. `serde_json::to_string` of the payloads, events
and assets the service writes cannot fail (no map has a key that is not a
string), so the branches that answer 103 are left out; the events a method emits
change nothing here, and the `#[cycles]` guard in front of each method answers
before the method runs, writing nothing of this state.

A method writes as it goes, and what it wrote stays even when it answers an
error: the executor stashes the state of every call that did not panic.
`_transfer` exits before any write on each of its three errors, then writes the
recipient and the sender. `transfer_from` however writes the sender's decreased
allowance before it calls `_transfer`, so its error 106 keeps the decrease
(`transfer_from_run`).

The abstract layer is the ledger of `Muta.Ledger`: the supply of each asset and
what each address holds of it (`AssetState.ledger`). Every call moves that
projection along ledger moves (`AssetCall.step_moves`): `create_asset` issues a
fresh asset to its caller, a transfer of either kind moves a value between two
addresses, `approve` moves nothing. So every state reachable from genesis
projects to a ledger reachable from the genesis ledger, and every asset keeps its
supply.
-/

set_option autoImplicit false

namespace Muta.AssetService

open Function

structure Asset where
  id : Hash
  name : String
  symbol : String
  supply : UInt64
  issuer : Address
  deriving DecidableEq, Repr

/-- `Asset::default()`. `Hash::default()` is `Hash::from_empty()`, the digest of the
RLP of nothing, and `Address::default()` is twenty zero bytes. -/
def Asset.default (digest : Bytes → Hash) : Asset :=
  ⟨digest [0x80], "", "", 0, ⟨List.replicate 20 0, Address.zeros_length⟩⟩

structure AssetBalance where
  value : UInt64
  allowance : SortedMap Address UInt64

def AssetBalance.empty : AssetBalance := ⟨0, .empty⟩

structure InitGenesisPayload where
  id : Hash
  name : String
  symbol : String
  supply : UInt64
  issuer : Address

structure CreateAssetPayload where
  name : String
  symbol : String
  supply : UInt64

structure TransferPayload where
  asset_id : Hash
  «to» : Address
  value : UInt64

abbrev ApprovePayload := TransferPayload

structure TransferFromPayload where
  asset_id : Hash
  sender : Address
  recipient : Address
  value : UInt64

structure Response (α : Type) where
  code : UInt64
  succeed_data : α
  error_message : String

namespace Response

variable {α : Type}

def fromError (default : α) (code : UInt64) (error_message : String) : Response α :=
  ⟨code, default, error_message⟩

def fromSucceed (succeed_data : α) : Response α := ⟨0, succeed_data, ""⟩

def isError (response : Response α) : Bool := response.code != 0

/-- What the `write_` dispatch of `#[service]` answers for a method's response: an
error passes its code and message on, a success its data as JSON text, with
`null` as the empty string. -/
def toServiceResponse (to_json : α → String) (response : Response α) : ServiceResponse :=
  if response.isError then ServiceResponse.fromError response.code response.error_message
  else
    let data_json := to_json response.succeed_data
    ServiceResponse.fromSucceed (if data_json = "null" then "" else data_json)

end Response

/-- `format!("{:?}", e)` of a `String` whose characters need no escape, as those of
`_transfer`'s errors do. -/
def debugString (s : String) : String := "\"" ++ s ++ "\""

/-- The "assets" map of the service and the account store of the SDK. -/
structure AssetState where
  assets : Hash → Option Asset
  accounts : Address → Hash → Option AssetBalance

namespace AssetState

def empty : AssetState := ⟨fun _ => none, fun _ _ => none⟩

def assetBalance (state : AssetState) (address : Address) (asset_id : Hash) : AssetBalance :=
  (state.accounts address asset_id).getD .empty

def setAccount (state : AssetState) (address : Address) (asset_id : Hash)
    (balance : AssetBalance) : AssetState :=
  { state with accounts := update state.accounts address (update (state.accounts address) asset_id (some balance)) }

def insertAsset (state : AssetState) (id : Hash) (asset : Asset) : AssetState :=
  { state with assets := update state.assets id (some asset) }

def values (state : AssetState) (asset_id : Hash) (address : Address) : UInt64 :=
  (state.assetBalance address asset_id).value

def allowances (state : AssetState) (asset_id : Hash) (grantor grantee : Address) : UInt64 :=
  ((state.assetBalance grantor asset_id).allowance.get grantee).getD 0

/-- The write of `approve`, and of `transfer_from` before its transfer: one
allowance of the grantor set, its value as it was. -/
def setAllowance (state : AssetState) (grantor grantee : Address) (asset_id : Hash)
    (amount : UInt64) : AssetState :=
  let balance := state.assetBalance grantor asset_id
  state.setAccount grantor asset_id { balance with allowance := balance.allowance.insert grantee amount }

/-- The two writes of a `_transfer` that passed its checks: the recipient's value
raised, then the sender's lowered. -/
def transferred (state : AssetState) (sender recipient : Address) (asset_id : Hash)
    (value : UInt64) : AssetState :=
  let to_balance := state.assetBalance recipient asset_id
  let sender_balance := state.assetBalance sender asset_id
  (state.setAccount recipient asset_id { to_balance with value := to_balance.value + value }).setAccount
    sender asset_id { sender_balance with value := sender_balance.value - value }

def ledger (state : AssetState) : Ledger.Book Hash Address :=
  ⟨fun id => (state.assets id).map (·.supply.toNat), fun id address => (state.values id address).toNat⟩

variable (state : AssetState)

@[simp] theorem assets_set_account (address : Address) (asset_id : Hash) (balance : AssetBalance) :
    (state.setAccount address asset_id balance).assets = state.assets := rfl

@[simp] theorem assets_insert_asset (id : Hash) (asset : Asset) :
    (state.insertAsset id asset).assets = update state.assets id (some asset) := rfl

@[simp] theorem assets_set_allowance (grantor grantee : Address) (asset_id : Hash) (amount : UInt64) :
    (state.setAllowance grantor grantee asset_id amount).assets = state.assets := rfl

@[simp] theorem assets_transferred (sender recipient : Address) (asset_id : Hash) (value : UInt64) :
    (state.transferred sender recipient asset_id value).assets = state.assets := rfl

@[simp] theorem asset_balance_insert_asset (id : Hash) (asset : Asset) :
    (state.insertAsset id asset).assetBalance = state.assetBalance := rfl

theorem accounts_set_account (address : Address) (asset_id : Hash) (balance : AssetBalance)
    (other : Address) (other_id : Hash) :
    (state.setAccount address asset_id balance).accounts other other_id =
      if other = address ∧ other_id = asset_id then some balance else state.accounts other other_id := by
  by_cases same : other = address
  · subst same
    by_cases same_id : other_id = asset_id
    · subst same_id
      simp [setAccount]
    · simp [setAccount, same_id]
  · simp [setAccount, same]

theorem asset_balance_set_account (address : Address) (asset_id : Hash) (balance : AssetBalance)
    (other : Address) (other_id : Hash) :
    (state.setAccount address asset_id balance).assetBalance other other_id =
      if other = address ∧ other_id = asset_id then balance else state.assetBalance other other_id := by
  rw [assetBalance, accounts_set_account]
  split_ifs <;> rfl

@[simp] theorem getD_accounts (address : Address) (asset_id : Hash) :
    (state.accounts address asset_id).getD .empty = state.assetBalance address asset_id := rfl

@[simp] theorem asset_balance_value (address : Address) (asset_id : Hash) :
    (state.assetBalance address asset_id).value = state.values asset_id address := rfl

@[simp] theorem asset_balance_allowance (grantor grantee : Address) (asset_id : Hash) :
    ((state.assetBalance grantor asset_id).allowance.get grantee).getD 0 =
      state.allowances asset_id grantor grantee := rfl

theorem set_account_eq_set_allowance (grantor grantee : Address) (asset_id : Hash) (amount : UInt64) :
    state.setAccount grantor asset_id
        ⟨state.values asset_id grantor, (state.assetBalance grantor asset_id).allowance.insert grantee amount⟩ =
      state.setAllowance grantor grantee asset_id amount := rfl

@[simp] theorem asset_balance_set_account_self (address : Address) (asset_id : Hash)
    (balance : AssetBalance) : (state.setAccount address asset_id balance).assetBalance address asset_id = balance := by
  simp [asset_balance_set_account]

end AssetState

/-- What `AssetService<SDK>` calls on its map `assets` and on the account store of
its `SDK`, as operations of the monad its methods run in. -/
class AssetSdk (m : Type → Type) where
  /-- `self.assets.contains(id)`. -/
  assetsContains : Hash → m Bool
  /-- `self.assets.insert(id, asset)`. -/
  assetsInsert : Hash → Asset → m Unit
  /-- `sdk.get_account_value(address, asset_id)`. -/
  getAccountValue : Address → Hash → m (Option AssetBalance)
  /-- `sdk.set_account_value(address, asset_id, balance)`. -/
  setAccountValue : Address → Hash → AssetBalance → m Unit

export AssetSdk (assetsContains assetsInsert getAccountValue setAccountValue)

abbrev AssetM := StateM AssetState

/-- The store as plain maps. A method leaves its monad open, and takes this one
where nothing else fixes it. -/
@[default_instance]
instance : AssetSdk AssetM where
  assetsContains id := return ((← get).assets id).isSome
  assetsInsert id asset := modify (·.insertAsset id asset)
  getAccountValue address asset_id := return (← get).accounts address asset_id
  setAccountValue address asset_id balance := modify (·.setAccount address asset_id balance)

section Methods

variable {m : Type → Type} [Monad m] [AssetSdk m] (digest : Bytes → Hash)

def initGenesis (payload : InitGenesisPayload) : m Unit := do
  let asset : Asset := ⟨payload.id, payload.name, payload.symbol, payload.supply, payload.issuer⟩
  assetsInsert asset.id asset
  setAccountValue asset.issuer asset.id ⟨payload.supply, .empty⟩

/-- `create_asset`: the id is the digest of the payload's JSON text and the caller's
hex, and a new asset goes whole to its caller. -/
def createAsset (payload_json : CreateAssetPayload → String) (ctx : ServiceContext)
    (payload : CreateAssetPayload) : m (Response Asset) := do
  let caller := ctx.caller
  let id := digest (Rlp.utf8 (payload_json payload ++ caller.asHex))
  if ← assetsContains id then
    return .fromError (Asset.default digest) 102 "asset id existed"
  let asset : Asset := ⟨id, payload.name, payload.symbol, payload.supply, caller⟩
  assetsInsert id asset
  setAccountValue asset.issuer asset.id ⟨payload.supply, .empty⟩
  return .fromSucceed asset

def _transfer (sender recipient : Address) (asset_id : Hash) (value : UInt64) :
    m (Except String Unit) := do
  if recipient = sender then
    return .error "cann't send value to yourself"
  let sender_asset_balance := (← getAccountValue sender asset_id).getD .empty
  let sender_balance := sender_asset_balance.value
  if sender_balance < value then
    return .error "insufficient balance"
  let to_asset_balance := (← getAccountValue recipient asset_id).getD .empty
  let (v, overflow) := to_asset_balance.value.overflowingAdd value
  if overflow then
    return .error "u64 overflow"
  setAccountValue recipient asset_id { to_asset_balance with value := v }
  let (v, overflow) := sender_balance.overflowingSub value
  if overflow then
    return .error "u64 overflow"
  setAccountValue sender asset_id { sender_asset_balance with value := v }
  return .ok ()

def transfer (ctx : ServiceContext) (payload : TransferPayload) : m (Response Unit) := do
  let caller := ctx.caller
  if !(← assetsContains payload.asset_id) then
    return .fromError () 101 "asset id not existed"
  match ← _transfer caller payload.to payload.asset_id payload.value with
  | .error e => return .fromError () 106 (debugString e)
  | .ok () => return .fromSucceed ()

def approve (ctx : ServiceContext) (payload : ApprovePayload) : m (Response Unit) := do
  let caller := ctx.caller
  if caller = payload.to then
    return .fromError () 104 "cann't approve to yourself"
  if !(← assetsContains payload.asset_id) then
    return .fromError () 101 "asset id not existed"
  let caller_asset_balance := (← getAccountValue caller payload.asset_id).getD .empty
  setAccountValue caller payload.asset_id
    { caller_asset_balance with allowance := caller_asset_balance.allowance.insert payload.to payload.value }
  return .fromSucceed ()

def transferFrom (ctx : ServiceContext) (payload : TransferFromPayload) : m (Response Unit) := do
  let caller := ctx.caller
  if !(← assetsContains payload.asset_id) then
    return .fromError () 101 "asset id not existed"
  let sender_asset_balance := (← getAccountValue payload.sender payload.asset_id).getD .empty
  -- `entry(caller).or_insert(0)`
  let sender_allowance := (sender_asset_balance.allowance.get caller).getD 0
  if sender_allowance < payload.value then
    return .fromError () 105 "insufficient balance"
  let after_sender_allowance := sender_allowance - payload.value
  setAccountValue payload.sender payload.asset_id
    { sender_asset_balance with
      allowance := sender_asset_balance.allowance.insert caller after_sender_allowance }
  match ← _transfer payload.sender payload.recipient payload.asset_id payload.value with
  | .error e => return .fromError () 106 (debugString e)
  | .ok () => return .fromSucceed ()

end Methods

/-- `serde_json::to_string` at the two types whose text the service reads: the
payload of `create_asset`, hashed into the id, and the asset it answers with. -/
structure Json where
  create_payload : CreateAssetPayload → String
  asset : Asset → String

/-- A write call of the service, with its context and its decoded payload. -/
inductive AssetCall where
  | createAsset (ctx : ServiceContext) (payload : CreateAssetPayload)
  | transfer (ctx : ServiceContext) (payload : TransferPayload)
  | approve (ctx : ServiceContext) (payload : ApprovePayload)
  | transferFrom (ctx : ServiceContext) (payload : TransferFromPayload)

namespace AssetCall

variable (digest : Bytes → Hash) (json : Json)

def write_ {m : Type → Type} [Monad m] [AssetSdk m] : AssetCall → m ServiceResponse
  | .createAsset ctx payload =>
    Response.toServiceResponse json.asset <$> AssetService.createAsset digest json.create_payload ctx payload
  | .transfer ctx payload => Response.toServiceResponse (fun _ => "null") <$> AssetService.transfer ctx payload
  | .approve ctx payload => Response.toServiceResponse (fun _ => "null") <$> AssetService.approve ctx payload
  | .transferFrom ctx payload =>
    Response.toServiceResponse (fun _ => "null") <$> AssetService.transferFrom ctx payload

/-- One call, its writes kept whatever it answered. -/
def step (call : AssetCall) (state : AssetState) : AssetState :=
  ((write_ (m := AssetM) digest json call).run state).2

end AssetCall

/-! ### What each method does -/

section Run

variable (state : AssetState)

@[simp] theorem assets_contains_run (id : Hash) :
    (assetsContains id).run state = pure ((state.assets id).isSome, state) := rfl

@[simp] theorem assets_insert_run (id : Hash) (asset : Asset) :
    (assetsInsert id asset).run state = pure ((), state.insertAsset id asset) := rfl

@[simp] theorem get_account_value_run (address : Address) (asset_id : Hash) :
    (getAccountValue address asset_id).run state = pure (state.accounts address asset_id, state) := rfl

@[simp] theorem set_account_value_run (address : Address) (asset_id : Hash) (balance : AssetBalance) :
    (setAccountValue address asset_id balance).run state =
      pure ((), state.setAccount address asset_id balance) := rfl

theorem _transfer_run (sender recipient : Address) (asset_id : Hash) (value : UInt64) :
    (_transfer sender recipient asset_id value).run state =
      if recipient = sender then (.error "cann't send value to yourself", state)
      else if state.values asset_id sender < value then (.error "insufficient balance", state)
      else if 2 ^ 64 ≤ (state.values asset_id recipient).toNat + value.toNat then
        (.error "u64 overflow", state)
      else (.ok (), state.transferred sender recipient asset_id value) := by
  by_cases self_send : recipient = sender
  · simp only [_transfer, self_send, ↓reduceIte]
    rfl
  by_cases poor : state.values asset_id sender < value
  · simp only [_transfer, self_send, poor, ↓reduceIte, StateT.run_bind, get_account_value_run, pure_bind,
      AssetState.getD_accounts, AssetState.asset_balance_value, StateT.run_pure]
    rfl
  by_cases wraps : 2 ^ 64 ≤ (state.values asset_id recipient).toNat + value.toNat
  · simp only [_transfer, self_send, poor, wraps, ↓reduceIte, StateT.run_bind, get_account_value_run,
      pure_bind, AssetState.getD_accounts, AssetState.asset_balance_value, UInt64.overflowingAdd,
      decide_true, StateT.run_pure]
    rfl
  · simp only [_transfer, self_send, poor, wraps, ↓reduceIte, StateT.run_bind, get_account_value_run,
      set_account_value_run, pure_bind, AssetState.getD_accounts, AssetState.asset_balance_value,
      UInt64.overflowingAdd, UInt64.overflowingSub, decide_false, Bool.false_eq_true, StateT.run_pure]
    rfl

theorem transfer_run (ctx : ServiceContext) (payload : TransferPayload) :
    (transfer ctx payload).run state =
      if (state.assets payload.asset_id).isSome then
        match (_transfer ctx.caller payload.to payload.asset_id payload.value).run state with
        | (.error e, after) => (.fromError () 106 (debugString e), after)
        | (.ok (), after) => (.fromSucceed (), after)
      else (.fromError () 101 "asset id not existed", state) := by
  by_cases present : (state.assets payload.asset_id).isSome
  · simp only [transfer, present, ↓reduceIte, StateT.run_bind, assets_contains_run, pure_bind,
      Bool.not_true, Bool.false_eq_true]
    generalize (_transfer ctx.caller payload.to payload.asset_id payload.value).run state = ran
    obtain ⟨result, after⟩ := ran
    cases result <;> rfl
  · simp only [transfer, present, ↓reduceIte, StateT.run_bind, assets_contains_run, pure_bind,
      Bool.not_false, Bool.false_eq_true]
    rfl

theorem approve_run (ctx : ServiceContext) (payload : ApprovePayload) :
    (approve ctx payload).run state =
      if ctx.caller = payload.to then (.fromError () 104 "cann't approve to yourself", state)
      else if (state.assets payload.asset_id).isSome then
        (.fromSucceed (), state.setAllowance ctx.caller payload.to payload.asset_id payload.value)
      else (.fromError () 101 "asset id not existed", state) := by
  by_cases self_grant : ctx.caller = payload.to
  · simp only [approve, self_grant, ↓reduceIte]
    rfl
  by_cases present : (state.assets payload.asset_id).isSome
  · simp only [approve, self_grant, present, ↓reduceIte, StateT.run_bind, assets_contains_run, pure_bind,
      Bool.not_true, Bool.false_eq_true, get_account_value_run, set_account_value_run,
      AssetState.getD_accounts, AssetState.asset_balance_value, AssetState.set_account_eq_set_allowance]
    rfl
  · simp only [approve, self_grant, present, ↓reduceIte, StateT.run_bind, assets_contains_run, pure_bind,
      Bool.not_false, Bool.false_eq_true]
    rfl

/-- `transfer_from` checks the asset and the caller's allowance, writes the
decreased allowance, and only then calls `_transfer`: an error of `_transfer` is
answered with 106 in the state after that write. -/
theorem transfer_from_run (ctx : ServiceContext) (payload : TransferFromPayload) :
    (transferFrom ctx payload).run state =
      if (state.assets payload.asset_id).isSome then
        if state.allowances payload.asset_id payload.sender ctx.caller < payload.value then
          (.fromError () 105 "insufficient balance", state)
        else
          match (_transfer payload.sender payload.recipient payload.asset_id payload.value).run
              (state.setAllowance payload.sender ctx.caller payload.asset_id
                (state.allowances payload.asset_id payload.sender ctx.caller - payload.value)) with
          | (.error e, after) => (.fromError () 106 (debugString e), after)
          | (.ok (), after) => (.fromSucceed (), after)
      else (.fromError () 101 "asset id not existed", state) := by
  by_cases present : (state.assets payload.asset_id).isSome
  · by_cases short : state.allowances payload.asset_id payload.sender ctx.caller < payload.value
    · simp only [transferFrom, present, short, ↓reduceIte, StateT.run_bind, assets_contains_run, pure_bind,
        Bool.not_true, Bool.false_eq_true, get_account_value_run, AssetState.getD_accounts,
        AssetState.asset_balance_allowance]
      rfl
    · simp only [transferFrom, present, short, ↓reduceIte, StateT.run_bind, assets_contains_run, pure_bind,
        Bool.not_true, Bool.false_eq_true, get_account_value_run, set_account_value_run,
        AssetState.getD_accounts, AssetState.asset_balance_allowance, AssetState.asset_balance_value,
        AssetState.set_account_eq_set_allowance]
      generalize (_transfer payload.sender payload.recipient payload.asset_id payload.value).run
        (state.setAllowance payload.sender ctx.caller payload.asset_id
          (state.allowances payload.asset_id payload.sender ctx.caller - payload.value)) = ran
      obtain ⟨result, after⟩ := ran
      cases result <;> rfl
  · simp only [transferFrom, present, ↓reduceIte, StateT.run_bind, assets_contains_run, pure_bind,
      Bool.not_false, Bool.false_eq_true]
    rfl

theorem create_asset_run (digest : Bytes → Hash) (payload_json : CreateAssetPayload → String)
    (ctx : ServiceContext) (payload : CreateAssetPayload) :
    (createAsset digest payload_json ctx payload).run state =
      let id := digest (Rlp.utf8 (payload_json payload ++ ctx.caller.asHex))
      if (state.assets id).isSome then (.fromError (Asset.default digest) 102 "asset id existed", state)
      else
        (.fromSucceed ⟨id, payload.name, payload.symbol, payload.supply, ctx.caller⟩,
          (state.insertAsset id ⟨id, payload.name, payload.symbol, payload.supply, ctx.caller⟩).setAccount
            ctx.caller id ⟨payload.supply, .empty⟩) := by
  by_cases taken : (state.assets (digest (Rlp.utf8 (payload_json payload ++ ctx.caller.asHex)))).isSome
  · simp only [createAsset, taken, ↓reduceIte, StateT.run_bind, assets_contains_run, pure_bind]
    rfl
  · simp only [createAsset, taken, ↓reduceIte, StateT.run_bind, assets_contains_run, pure_bind,
      Bool.false_eq_true, assets_insert_run, set_account_value_run]
    rfl

theorem init_genesis_run (payload : InitGenesisPayload) :
    (initGenesis payload).run state =
      pure ((), (state.insertAsset payload.id
        ⟨payload.id, payload.name, payload.symbol, payload.supply, payload.issuer⟩).setAccount
          payload.issuer payload.id ⟨payload.supply, .empty⟩) := rfl

end Run

/-! ### What the writes do to balances, allowances and the ledger -/

namespace AssetState

variable (state : AssetState)

theorem values_set_account (address : Address) (asset_id : Hash) (balance : AssetBalance) :
    (state.setAccount address asset_id balance).values =
      update state.values asset_id (update (state.values asset_id) address balance.value) := by
  funext other_id other
  simp only [values, asset_balance_set_account, update_apply]
  by_cases same_id : other_id = asset_id <;> by_cases same : other = address <;> simp [same_id, same]

theorem allowances_set_account (address : Address) (asset_id : Hash) (balance : AssetBalance) :
    (state.setAccount address asset_id balance).allowances =
      update state.allowances asset_id
        (update (state.allowances asset_id) address fun grantee => (balance.allowance.get grantee).getD 0) := by
  funext other_id grantor grantee
  simp only [allowances, asset_balance_set_account, update_apply]
  by_cases same_id : other_id = asset_id <;> by_cases same : grantor = address <;> simp [same_id, same]

@[simp] theorem values_insert_asset (id : Hash) (asset : Asset) :
    (state.insertAsset id asset).values = state.values := rfl

@[simp] theorem values_set_allowance (grantor grantee : Address) (asset_id : Hash) (amount : UInt64) :
    (state.setAllowance grantor grantee asset_id amount).values = state.values := by
  simp only [setAllowance, values_set_account, asset_balance_value, update_eq_self]

theorem allowances_set_allowance (grantor grantee : Address) (asset_id : Hash) (amount : UInt64) :
    (state.setAllowance grantor grantee asset_id amount).allowances =
      update state.allowances asset_id
        (update (state.allowances asset_id) grantor
          (update (state.allowances asset_id grantor) grantee amount)) := by
  rw [setAllowance, allowances_set_account]
  congr 2
  funext other
  by_cases same : other = grantee
  · subst same
    simp
  · simp [same]

theorem values_transferred (sender recipient : Address) (asset_id : Hash) (value : UInt64) :
    (state.transferred sender recipient asset_id value).values =
      update state.values asset_id
        (update (update (state.values asset_id) recipient (state.values asset_id recipient + value)) sender
          (state.values asset_id sender - value)) := by
  simp only [transferred, values_set_account, asset_balance_value, update_idem, update_self]

theorem allowances_transferred (sender recipient : Address) (asset_id : Hash) (value : UInt64) :
    (state.transferred sender recipient asset_id value).allowances = state.allowances := by
  -- each of the two writes puts back the allowances it read
  have kept : ∀ (current : AssetState) (address : Address),
      (fun grantee => ((current.assetBalance address asset_id).allowance.get grantee).getD 0) =
        current.allowances asset_id address := fun _ _ => rfl
  simp only [transferred, allowances_set_account, kept, update_eq_self]

@[simp] theorem ledger_supply : state.ledger.supply = fun id => (state.assets id).map (·.supply.toNat) := rfl

@[simp] theorem ledger_held : state.ledger.held = fun id address => (state.values id address).toNat := rfl

@[simp] theorem ledger_set_allowance (grantor grantee : Address) (asset_id : Hash) (amount : UInt64) :
    (state.setAllowance grantor grantee asset_id amount).ledger = state.ledger := by
  simp [ledger]

theorem ledger_transferred {sender recipient : Address} {asset_id : Hash} {value : UInt64}
    (distinct : sender ≠ recipient) (enough : value ≤ state.values asset_id sender)
    (fits : (state.values asset_id recipient).toNat + value.toNat < 2 ^ 64) :
    (state.transferred sender recipient asset_id value).ledger =
      state.ledger.transfer asset_id sender recipient value.toNat := by
  have credited : (state.values asset_id recipient + value).toNat =
      (state.values asset_id recipient).toNat + value.toNat := UInt64.toNat_add_of_lt fits
  have debited : (state.values asset_id sender - value).toNat =
      (state.values asset_id sender).toNat - value.toNat := UInt64.toNat_sub_of_le _ _ enough
  simp only [ledger, Ledger.Book.transfer, values_transferred]
  congr 1
  funext id address
  by_cases same_id : id = asset_id
  · subst same_id
    by_cases from_sender : address = sender
    · subst from_sender
      simp [debited]
    · by_cases to_recipient : address = recipient
      · subst to_recipient
        simp [from_sender, credited]
      · simp [from_sender, to_recipient]
  · simp [same_id]

theorem ledger_created {id : Hash} (asset : Asset) (holder : Address)
    (nothing : ∀ address, state.values id address = 0) :
    ((state.insertAsset id asset).setAccount holder id ⟨asset.supply, .empty⟩).ledger =
      state.ledger.issue id holder asset.supply.toNat := by
  simp only [ledger, Ledger.Book.issue, values_set_account, values_insert_asset, assets_set_account,
    assets_insert_asset]
  congr 1
  · funext other
    by_cases same : other = id
    · subst same
      simp
    · simp [same]
  · funext other address
    by_cases same : other = id
    · subst same
      by_cases held : address = holder
      · subst held
        simp
      · simp [held, nothing]
    · simp [same]

end AssetState

/-! ### Every call moves the ledger -/

section Moves

variable (digest : Bytes → Hash) (json : Json)

theorem ledger_moves_of_eq {state after : AssetState} (same : after.ledger = state.ledger) :
    Trace.Reachable Ledger.Move.apply (fun _ => True) state.ledger after.ledger :=
  same ▸ Trace.Reachable.refl _ _ _

theorem ledger_moves_of_move {state after : AssetState} (move : Ledger.Move Hash Address)
    (applied : move.apply state.ledger = after.ledger) :
    Trace.Reachable Ledger.Move.apply (fun _ => True) state.ledger after.ledger :=
  applied ▸ (Trace.Reachable.refl _ _ _).step move trivial

theorem _transfer_moves (sender recipient : Address) (asset_id : Hash) (value : UInt64)
    (state : AssetState) :
    Trace.Reachable Ledger.Move.apply (fun _ => True) state.ledger
      ((_transfer sender recipient asset_id value).run state).2.ledger := by
  rw [_transfer_run]
  split_ifs with self_send poor wraps
  · exact ledger_moves_of_eq rfl
  · exact ledger_moves_of_eq rfl
  · exact ledger_moves_of_eq rfl
  · have distinct : sender ≠ recipient := fun same => self_send same.symm
    rw [UInt64.lt_iff_toNat_lt] at poor
    have enough : value ≤ state.values asset_id sender := UInt64.le_iff_toNat_le.mpr (by omega)
    have guard : value.toNat ≤ state.ledger.held asset_id sender := UInt64.le_iff_toNat_le.mp enough
    apply ledger_moves_of_move (.move asset_id sender recipient value.toNat)
    rw [AssetState.ledger_transferred state distinct enough (not_le.mp wraps), Ledger.Move.apply,
      if_pos ⟨distinct, guard⟩]

@[simp] theorem step_create_asset (ctx : ServiceContext) (payload : CreateAssetPayload) (state : AssetState) :
    (AssetCall.createAsset ctx payload).step digest json state =
      ((createAsset digest json.create_payload ctx payload).run state).2 := rfl

@[simp] theorem step_transfer (ctx : ServiceContext) (payload : TransferPayload) (state : AssetState) :
    (AssetCall.transfer ctx payload).step digest json state = ((transfer ctx payload).run state).2 := rfl

@[simp] theorem step_approve (ctx : ServiceContext) (payload : ApprovePayload) (state : AssetState) :
    (AssetCall.approve ctx payload).step digest json state = ((approve ctx payload).run state).2 := rfl

@[simp] theorem step_transfer_from (ctx : ServiceContext) (payload : TransferFromPayload)
    (state : AssetState) :
    (AssetCall.transferFrom ctx payload).step digest json state =
      ((transferFrom ctx payload).run state).2 := rfl

theorem create_asset_moves (ctx : ServiceContext) (payload : CreateAssetPayload) (state : AssetState)
    (balanced : Ledger.Balanced state.ledger) :
    Trace.Reachable Ledger.Move.apply (fun _ => True) state.ledger
      ((createAsset digest json.create_payload ctx payload).run state).2.ledger := by
  rw [create_asset_run]
  dsimp only
  split_ifs with taken
  · exact ledger_moves_of_eq rfl
  · -- a fresh id is an unissued token, which nobody holds
    have fresh : state.assets (digest (Rlp.utf8 (json.create_payload payload ++ ctx.caller.asHex))) = none :=
      Option.not_isSome_iff_eq_none.mp taken
    have unissued : state.ledger.supply (digest (Rlp.utf8 (json.create_payload payload ++ ctx.caller.asHex))) = none := by
      simp [fresh]
    have nothing := fun address => balanced.unissued _ address unissued
    apply ledger_moves_of_move (.issue (digest (Rlp.utf8 (json.create_payload payload ++ ctx.caller.asHex)))
      ctx.caller payload.supply.toNat)
    rw [Ledger.Move.apply, if_pos unissued]
    refine (AssetState.ledger_created state ⟨_, payload.name, payload.symbol, payload.supply, ctx.caller⟩
      ctx.caller fun address => ?_).symm
    have zero := nothing address
    simp only [AssetState.ledger_held] at zero
    exact UInt64.toNat_inj.mp zero

theorem transfer_moves (ctx : ServiceContext) (payload : TransferPayload) (state : AssetState) :
    Trace.Reachable Ledger.Move.apply (fun _ => True) state.ledger ((transfer ctx payload).run state).2.ledger := by
  rw [transfer_run]
  split_ifs
  · generalize ran : (_transfer ctx.caller payload.to payload.asset_id payload.value).run state = result
    have moves := _transfer_moves ctx.caller payload.to payload.asset_id payload.value state
    rw [ran] at moves
    obtain ⟨answer, after⟩ := result
    cases answer <;> exact moves
  · exact ledger_moves_of_eq rfl

theorem transfer_from_moves (ctx : ServiceContext) (payload : TransferFromPayload) (state : AssetState) :
    Trace.Reachable Ledger.Move.apply (fun _ => True) state.ledger
      ((transferFrom ctx payload).run state).2.ledger := by
  rw [transfer_from_run]
  split_ifs
  · exact ledger_moves_of_eq rfl
  · -- the allowance write leaves the ledger, and `_transfer` moves it from there
    have written := AssetState.ledger_set_allowance state payload.sender ctx.caller payload.asset_id
      (state.allowances payload.asset_id payload.sender ctx.caller - payload.value)
    have moves := _transfer_moves payload.sender payload.recipient payload.asset_id payload.value
      (state.setAllowance payload.sender ctx.caller payload.asset_id
        (state.allowances payload.asset_id payload.sender ctx.caller - payload.value))
    rw [written] at moves
    generalize (_transfer payload.sender payload.recipient payload.asset_id payload.value).run
      (state.setAllowance payload.sender ctx.caller payload.asset_id
        (state.allowances payload.asset_id payload.sender ctx.caller - payload.value)) = result at moves
    obtain ⟨answer, after⟩ := result
    cases answer <;> exact moves
  · exact ledger_moves_of_eq rfl

/-- From a balanced ledger, every call moves the ledger along at most one move:
`create_asset` issues, a transfer moves, `approve` and every error move nothing. -/
theorem AssetCall.step_moves (call : AssetCall) (state : AssetState)
    (balanced : Ledger.Balanced state.ledger) :
    Trace.Reachable Ledger.Move.apply (fun _ => True) state.ledger (call.step digest json state).ledger := by
  cases call with
  | createAsset ctx payload =>
    rw [step_create_asset]
    exact create_asset_moves digest json ctx payload state balanced
  | transfer ctx payload =>
    rw [step_transfer]
    exact transfer_moves ctx payload state
  | approve ctx payload =>
    -- `approve` writes only allowances
    rw [step_approve, approve_run]
    split_ifs
    · exact ledger_moves_of_eq rfl
    · exact ledger_moves_of_eq (AssetState.ledger_set_allowance _ _ _ _ _)
    · exact ledger_moves_of_eq rfl
  | transferFrom ctx payload =>
    rw [step_transfer_from]
    exact transfer_from_moves ctx payload state

theorem AssetCall.step_balanced (call : AssetCall) (state : AssetState)
    (balanced : Ledger.Balanced state.ledger) : Ledger.Balanced (call.step digest json state).ledger :=
  balanced.reachable (AssetCall.step_moves digest json call state balanced)

end Moves

/-! ### Runs from genesis -/

def genesisState (payload : InitGenesisPayload) : AssetState :=
  ((initGenesis payload).run AssetState.empty).2

theorem ledger_empty : AssetState.empty.ledger = Ledger.Book.empty := rfl

theorem genesis_ledger (payload : InitGenesisPayload) :
    (genesisState payload).ledger = Ledger.Book.empty.issue payload.id payload.issuer payload.supply.toNat := by
  rw [genesisState, init_genesis_run, ← ledger_empty]
  exact AssetState.ledger_created AssetState.empty
    ⟨payload.id, payload.name, payload.symbol, payload.supply, payload.issuer⟩ payload.issuer fun _ => rfl

theorem genesis_balanced (payload : InitGenesisPayload) : Ledger.Balanced (genesisState payload).ledger := by
  rw [genesis_ledger]
  exact Ledger.Balanced.empty.issue _ _ _ rfl

/-! ### Sample values for the witnesses -/

def sampleHash (byte : UInt8) : Hash := ⟨List.replicate 32 byte, Hash.replicate_length byte⟩

def sampleAddress (byte : UInt8) : Address := ⟨List.replicate 20 byte, Address.replicate_length byte⟩

def sampleContext (caller : Address) : ServiceContext :=
  ⟨none, none, 0, 0, caller, 0, "asset", "", "", none, 0⟩

def sampleGenesis : InitGenesisPayload := ⟨sampleHash 1, "Muta", "MT", 1000, sampleAddress 1⟩

def sampleJson : Json := ⟨fun _ => "", fun _ => ""⟩

section Runs

variable (digest : Bytes → Hash) (json : Json)

/-- The service refines the ledger: the ledger of every state reachable from
genesis is reachable from the genesis ledger by issues and moves. -/
theorem asset_refines_ledger (genesis : InitGenesisPayload) {state : AssetState}
    (reached : Trace.Reachable (AssetCall.step digest json) (fun _ => True) (genesisState genesis) state) :
    Trace.Reachable Ledger.Move.apply (fun _ => True) (genesisState genesis).ledger state.ledger :=
  Trace.Reachable.simulate AssetState.ledger
    (fun call state _ balanced => AssetCall.step_balanced digest json call state balanced)
    (fun call state _ balanced => AssetCall.step_moves digest json call state balanced)
    (genesis_balanced genesis) reached

/-- Every asset keeps its supply: over every run from genesis, the values its
holders have of it are finitely many, add up to its supply, and none exceeds it. -/
theorem supply_conserved (genesis : InitGenesisPayload) {state : AssetState}
    (reached : Trace.Reachable (AssetCall.step digest json) (fun _ => True) (genesisState genesis) state)
    {asset_id : Hash} {asset : Asset} (recorded : state.assets asset_id = some asset) :
    HasFiniteSupport (fun address => (state.values asset_id address).toNat) ∧
      ∑ᶠ address, (state.values asset_id address).toNat = asset.supply.toNat ∧
      ∀ address, state.values asset_id address ≤ asset.supply := by
  have balanced : Ledger.Balanced state.ledger :=
    (genesis_balanced genesis).reachable (asset_refines_ledger digest json genesis reached)
  have issued : state.ledger.supply asset_id = some asset.supply.toNat := by
    simp [recorded]
  refine ⟨balanced.finite asset_id, balanced.total asset_id _ issued, fun address => ?_⟩
  exact UInt64.le_iff_toNat_le.mpr (balanced.held_le issued address)

end Runs

def sampleRun : AssetState :=
  Trace.run (AssetCall.step (fun _ => sampleHash 9) sampleJson)
    [.transfer (sampleContext (sampleAddress 1)) ⟨sampleHash 1, sampleAddress 2, 300⟩]
    (genesisState sampleGenesis)

theorem supply_conserved_after_transfer :
    HasFiniteSupport (fun address => (sampleRun.values (sampleHash 1) address).toNat) ∧
      ∑ᶠ address, (sampleRun.values (sampleHash 1) address).toNat = 1000 ∧
      ∀ address, sampleRun.values (sampleHash 1) address ≤ 1000 :=
  supply_conserved (fun _ => sampleHash 9) sampleJson sampleGenesis
    ⟨[.transfer (sampleContext (sampleAddress 1)) ⟨sampleHash 1, sampleAddress 2, 300⟩], by simp, rfl⟩
    (by decide : sampleRun.assets (sampleHash 1) = some ⟨sampleHash 1, "Muta", "MT", 1000, sampleAddress 1⟩)


/-! ### Failed calls -/

section Failures

variable (ctx : ServiceContext) (state : AssetState)

theorem _transfer_error_keeps_state (sender recipient : Address) (asset_id : Hash) (value : UInt64) :
    ∀ e, ((_transfer sender recipient asset_id value).run state).1 = .error e →
      ((_transfer sender recipient asset_id value).run state).2 = state := by
  intro e failed
  rw [_transfer_run] at failed ⊢
  -- the branch that writes returned `ok`, and `split_ifs` drops it
  split_ifs at failed ⊢ <;> rfl

theorem transfer_error_keeps_state (payload : TransferPayload)
    (failed : ((transfer ctx payload).run state).1.isError = true) :
    ((transfer ctx payload).run state).2 = state := by
  rw [transfer_run] at failed ⊢
  split_ifs at failed ⊢
  · have kept := _transfer_error_keeps_state state ctx.caller payload.to payload.asset_id payload.value
    generalize (_transfer ctx.caller payload.to payload.asset_id payload.value).run state = result at failed kept ⊢
    obtain ⟨answer, after⟩ := result
    cases answer with
    | error e => exact kept e rfl
    | ok => cases failed
  · rfl

theorem approve_error_keeps_state (payload : ApprovePayload)
    (failed : ((approve ctx payload).run state).1.isError = true) :
    ((approve ctx payload).run state).2 = state := by
  rw [approve_run] at failed ⊢
  split_ifs at failed ⊢
  · rfl
  · cases failed
  · rfl

theorem transfer_from_error_state (payload : TransferFromPayload)
    (failed : ((transferFrom ctx payload).run state).1.isError = true) :
    ((transferFrom ctx payload).run state).2 = state ∨
      ((transferFrom ctx payload).run state).1.code = 106 ∧
        ((transferFrom ctx payload).run state).2 =
          state.setAllowance payload.sender ctx.caller payload.asset_id
            (state.allowances payload.asset_id payload.sender ctx.caller - payload.value) := by
  rw [transfer_from_run] at failed ⊢
  split_ifs at failed ⊢
  · exact Or.inl rfl
  · have kept := _transfer_error_keeps_state
      (state.setAllowance payload.sender ctx.caller payload.asset_id
        (state.allowances payload.asset_id payload.sender ctx.caller - payload.value))
      payload.sender payload.recipient payload.asset_id payload.value
    generalize (_transfer payload.sender payload.recipient payload.asset_id payload.value).run
      (state.setAllowance payload.sender ctx.caller payload.asset_id
        (state.allowances payload.asset_id payload.sender ctx.caller - payload.value)) = result at failed kept ⊢
    obtain ⟨answer, after⟩ := result
    cases answer with
    | error e => exact Or.inr ⟨rfl, kept e rfl⟩
    | ok => cases failed
  · exact Or.inl rfl

/-- A `transfer_from` that succeeded passed every check and changed three things:
the caller's allowance at the sender, the sender's value and the recipient's. -/
theorem transfer_from_ok_changes (payload : TransferFromPayload)
    (succeeded : ((transferFrom ctx payload).run state).1.isError = false) :
    payload.value ≤ state.allowances payload.asset_id payload.sender ctx.caller ∧
      payload.recipient ≠ payload.sender ∧
      payload.value ≤ state.values payload.asset_id payload.sender ∧
      (state.values payload.asset_id payload.recipient).toNat + payload.value.toNat < 2 ^ 64 ∧
      ((transferFrom ctx payload).run state).2.assets = state.assets ∧
      ((transferFrom ctx payload).run state).2.values =
        update state.values payload.asset_id
          (update (update (state.values payload.asset_id) payload.recipient
              (state.values payload.asset_id payload.recipient + payload.value))
            payload.sender (state.values payload.asset_id payload.sender - payload.value)) ∧
      ((transferFrom ctx payload).run state).2.allowances =
        update state.allowances payload.asset_id
          (update (state.allowances payload.asset_id) payload.sender
            (update (state.allowances payload.asset_id payload.sender) ctx.caller
              (state.allowances payload.asset_id payload.sender ctx.caller - payload.value))) := by
  rw [transfer_from_run] at succeeded ⊢
  split_ifs at succeeded ⊢ with present short
  · cases succeeded
  · rw [_transfer_run] at succeeded ⊢
    simp only [AssetState.values_set_allowance] at succeeded ⊢
    split_ifs at succeeded ⊢ with self_send poor wraps
    · cases succeeded
    · cases succeeded
    · cases succeeded
    · rw [UInt64.lt_iff_toNat_lt] at short poor
      refine ⟨UInt64.le_iff_toNat_le.mpr (by omega), self_send, UInt64.le_iff_toNat_le.mpr (by omega),
        not_le.mp wraps, rfl, ?_, ?_⟩
      · rw [AssetState.values_transferred, AssetState.values_set_allowance]
      · rw [AssetState.allowances_transferred, AssetState.allowances_set_allowance]
  · cases succeeded

end Failures

/-- Failed calls of `transfer` and `approve` leave the state as it was; a failed
`transfer_from` does too, except its error 106, which keeps the allowance it spent
before its transfer failed; a successful `transfer_from` passed its checks and
changed the allowance, the sender's value and the recipient's. -/
theorem failed_calls_keep_state_but_spent_allowance (ctx : ServiceContext) (state : AssetState) :
    (∀ payload : TransferPayload, ((transfer ctx payload).run state).1.isError = true →
      ((transfer ctx payload).run state).2 = state) ∧
    (∀ payload : ApprovePayload, ((approve ctx payload).run state).1.isError = true →
      ((approve ctx payload).run state).2 = state) ∧
    (∀ payload : TransferFromPayload, ((transferFrom ctx payload).run state).1.isError = true →
      ((transferFrom ctx payload).run state).2 = state ∨
        ((transferFrom ctx payload).run state).1.code = 106 ∧
          ((transferFrom ctx payload).run state).2 =
            state.setAllowance payload.sender ctx.caller payload.asset_id
              (state.allowances payload.asset_id payload.sender ctx.caller - payload.value)) ∧
    (∀ payload : TransferFromPayload, ((transferFrom ctx payload).run state).1.isError = false →
      payload.value ≤ state.allowances payload.asset_id payload.sender ctx.caller ∧
      payload.recipient ≠ payload.sender ∧
      payload.value ≤ state.values payload.asset_id payload.sender ∧
      (state.values payload.asset_id payload.recipient).toNat + payload.value.toNat < 2 ^ 64 ∧
      ((transferFrom ctx payload).run state).2.assets = state.assets ∧
      ((transferFrom ctx payload).run state).2.values =
        update state.values payload.asset_id
          (update (update (state.values payload.asset_id) payload.recipient
              (state.values payload.asset_id payload.recipient + payload.value))
            payload.sender (state.values payload.asset_id payload.sender - payload.value)) ∧
      ((transferFrom ctx payload).run state).2.allowances =
        update state.allowances payload.asset_id
          (update (state.allowances payload.asset_id) payload.sender
            (update (state.allowances payload.asset_id payload.sender) ctx.caller
              (state.allowances payload.asset_id payload.sender ctx.caller - payload.value)))) :=
  ⟨transfer_error_keeps_state ctx state, approve_error_keeps_state ctx state,
    transfer_from_error_state ctx state, transfer_from_ok_changes ctx state⟩

/-- The issuer of the sample asset has granted 5 to a second address. -/
def grantedState : AssetState :=
  ((approve (sampleContext (sampleAddress 1)) ⟨sampleHash 1, sampleAddress 2, 5⟩).run
    (genesisState sampleGenesis)).2

-- the second address sends 5 of the issuer's to the issuer: `_transfer` refuses,
-- `transfer_from` answers 106, and the grant is spent all the same
example :
    ((transferFrom (sampleContext (sampleAddress 2)) ⟨sampleHash 1, sampleAddress 1, sampleAddress 1, 5⟩).run
        grantedState).1.code = 106 ∧
      grantedState.allowances (sampleHash 1) (sampleAddress 1) (sampleAddress 2) = 5 ∧
      ((transferFrom (sampleContext (sampleAddress 2)) ⟨sampleHash 1, sampleAddress 1, sampleAddress 1, 5⟩).run
        grantedState).2.allowances (sampleHash 1) (sampleAddress 1) (sampleAddress 2) = 0 := by
  decide

end Muta.AssetService
