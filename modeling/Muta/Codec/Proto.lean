import Muta.Protocol.Types
import Muta.Lib.Conversion
import Muta.Lib.RlpReadback

/-! The protobuf layer of `protocol/src/codec` and `core/consensus/src/wal_proto.rs`:
the wire messages, their conversions from and to the protocol types, and the
`ProtocolCodecSync` codecs built from them.

`From` never fails. `TryFrom` fails on a missing message field (`field!`), on a
hash or an address of the wrong length and on a string that is not UTF-8, and a
bloom of the wrong length makes `Bloom::from_slice` panic. prost's `encode` and
`decode` of a message are a `Conversion.MessageCodec`, which reads back what it
writes. Every `TryFrom` reads back what its `From` writes (`protobuf_conversions_round_trip`),
so every codec reads back what it writes.
-/

set_option autoImplicit false

namespace Muta

/-- `protocol::types::Balance`, a `BigUint`. -/
abbrev Balance := Nat

/-- `BigUint::to_bytes_be`: the big-endian digits, and `[0]` for zero. -/
def Balance.toBytesBe (balance : Balance) : Bytes := if balance = 0 then [0] else Rlp.toBe balance

def Balance.fromBytesBe (bytes : Bytes) : Balance := Rlp.fromBe bytes

/-- `Bloom::from_slice`, `assert_eq!(src.len(), 256)` before the copy. -/
def Bloom.fromSlice (bytes : Bytes) : MayPanic Bloom :=
  if same : bytes.length = 256 then .ok ⟨bytes, same⟩
  else .error ("assertion failed: `(left == right)`\n  left: `" ++ toString bytes.length ++ "`,\n right: `256`")

/-- `fixed_types::FixedSignedTxs`, the signed transactions of the consensus WAL. -/
structure FixedSignedTxs where
  inner : List SignedTransaction
  deriving DecidableEq, Repr

namespace Proto

structure DecodeError where
  description : String
  deriving DecidableEq, Repr

/-- The errors of `CodecError` that the conversions and codecs return. -/
inductive CodecError where
  | ProtobufDecode (error : DecodeError)
  | MissingField (type field : String)
  | FromStringUtf8
  deriving DecidableEq, Repr

inductive ConsensusType where
  | WALSignedTxs
  deriving DecidableEq, Repr

/-- The errors of this layer, each as the `ProtocolError` of its kind. -/
inductive ProtocolError where
  | Codec (error : CodecError)
  | Types (error : TypesError)
  | ConsensusDecodeErr (kind : ConsensusType)
  deriving DecidableEq, Repr

abbrev CodecResult (α : Type) := Except (Fail ProtocolError) α

def field {α : Type} (value : Option α) (type field_name : String) : CodecResult α :=
  match value with
  | some present => .ok present
  | none => .error (.error (.Codec (.MissingField type field_name)))

def stringFromUtf8 (bytes : Bytes) : CodecResult String :=
  match Rlp.fromUtf8 bytes with
  | some s => .ok s
  | none => .error (.error (.Codec .FromStringUtf8))

@[simp] theorem field_some {α : Type} (value : α) (type field_name : String) :
    field (some value) type field_name = .ok value := rfl

@[simp] theorem string_from_utf8_utf8 (s : String) : stringFromUtf8 (Rlp.utf8 s) = .ok s := by
  simp [stringFromUtf8, Rlp.from_utf8_utf8]

/-! ### Messages -/

structure Balance where
  value : Bytes

structure Hash where
  value : Bytes

structure MerkleRoot where
  value : Option Hash

structure Address where
  value : Bytes

structure TransactionRequest where
  service_name : Bytes
  method : Bytes
  payload : Bytes

structure RawTransaction where
  chain_id : Option Hash
  nonce : Option Hash
  timeout : UInt64
  cycles_price : UInt64
  cycles_limit : UInt64
  request : Option TransactionRequest

structure SignedTransaction where
  raw : Option RawTransaction
  tx_hash : Option Hash
  pubkey : Bytes
  signature : Bytes

structure Proof where
  height : UInt64
  round : UInt64
  block_hash : Option Hash
  signature : Bytes
  bitmap : Bytes

structure Validator where
  address : Option Address
  propose_weight : UInt32
  vote_weight : UInt32

structure BlockHeader where
  chain_id : Option Hash
  height : UInt64
  pre_hash : Option Hash
  timestamp : UInt64
  logs_bloom : List Bytes
  order_root : Option Hash
  confirm_root : List Hash
  state_root : Option Hash
  receipt_root : List Hash
  cycles_used : List UInt64
  proposer : Option Address
  proof : Option Proof
  validator_version : UInt64
  validators : List Validator
  exec_height : UInt64

structure Block where
  header : Option BlockHeader
  ordered_tx_hashes : List Hash

structure Pill where
  block : Option Block
  propose_hashes : List Hash

structure ReceiptResponse where
  service_name : Bytes
  method : Bytes
  code : UInt64
  succeed_data : Bytes
  error_message : Bytes

structure Event where
  service : Bytes
  data : Bytes

structure Receipt where
  state_root : Option Hash
  height : UInt64
  tx_hash : Option Hash
  cycles_used : UInt64
  events : List Event
  response : Option ReceiptResponse

structure FixedSignedTxs where
  inner : List SignedTransaction

-- the messages are countable, so `Conversion.MessageCodec.of_encodable` codes each of them
deriving instance Encodable for Balance, Hash, MerkleRoot, Address, TransactionRequest,
  RawTransaction, SignedTransaction, Proof, Validator, BlockHeader, Block, Pill, ReceiptResponse,
  Event, Receipt, FixedSignedTxs

/-! ### Conversions -/

def Balance.«from» (balance : Muta.Balance) : Balance := ⟨Muta.Balance.toBytesBe balance⟩

def Balance.tryFrom (balance : Balance) : CodecResult Muta.Balance :=
  .ok (Muta.Balance.fromBytesBe balance.value)

def Hash.«from» (hash : Muta.Hash) : Hash := ⟨hash.asBytes⟩

def Hash.tryFrom (hash : Hash) : CodecResult Muta.Hash :=
  (Muta.Hash.fromBytes hash.value).mapError fun error => .error (.Types error)

def Address.«from» (address : Muta.Address) : Address := ⟨address.asBytes⟩

def Address.tryFrom (address : Address) : CodecResult Muta.Address :=
  (Muta.Address.fromBytes address.value).mapError fun error => .error (.Types error)

def MerkleRoot.«from» (root : Muta.MerkleRoot) : MerkleRoot := ⟨some (Hash.«from» root)⟩

def MerkleRoot.tryFrom (root : MerkleRoot) : CodecResult Muta.MerkleRoot := do
  let hash ← field root.value "MerkleRoot" "value"
  Hash.tryFrom hash

def TransactionRequest.«from» (request : Muta.TransactionRequest) : TransactionRequest :=
  ⟨Rlp.utf8 request.service_name, Rlp.utf8 request.method, Rlp.utf8 request.payload⟩

def TransactionRequest.tryFrom (request : TransactionRequest) : CodecResult Muta.TransactionRequest := do
  let service_name ← stringFromUtf8 request.service_name
  let method ← stringFromUtf8 request.method
  let payload ← stringFromUtf8 request.payload
  return ⟨service_name, method, payload⟩

def RawTransaction.«from» (raw : Muta.RawTransaction) : RawTransaction :=
  { chain_id := some (Hash.«from» raw.chain_id)
    nonce := some (Hash.«from» raw.nonce)
    cycles_price := raw.cycles_price
    timeout := raw.timeout
    cycles_limit := raw.cycles_limit
    request := some (TransactionRequest.«from» raw.request) }

def RawTransaction.tryFrom (raw : RawTransaction) : CodecResult Muta.RawTransaction := do
  let chain_id ← field raw.chain_id "RawTransaction" "chain_id"
  let nonce ← field raw.nonce "RawTransaction" "nonce"
  let request ← field raw.request "RawTransaction" "request"
  return {
    chain_id := ← Hash.tryFrom chain_id
    nonce := ← Hash.tryFrom nonce
    timeout := raw.timeout
    cycles_price := raw.cycles_price
    cycles_limit := raw.cycles_limit
    request := ← TransactionRequest.tryFrom request }

def SignedTransaction.«from» (stx : Muta.SignedTransaction) : SignedTransaction :=
  ⟨some (RawTransaction.«from» stx.raw), some (Hash.«from» stx.tx_hash), stx.pubkey, stx.signature⟩

def SignedTransaction.tryFrom (stx : SignedTransaction) : CodecResult Muta.SignedTransaction := do
  let raw ← field stx.raw "SignedTransaction" "raw"
  let tx_hash ← field stx.tx_hash "SignedTransaction" "tx_hash"
  return {
    raw := ← RawTransaction.tryFrom raw
    tx_hash := ← Hash.tryFrom tx_hash
    pubkey := stx.pubkey
    signature := stx.signature }

def Proof.«from» (proof : Muta.Proof) : Proof :=
  ⟨proof.height, proof.round, some (Hash.«from» proof.block_hash), proof.signature, proof.bitmap⟩

def Proof.tryFrom (proof : Proof) : CodecResult Muta.Proof := do
  let block_hash ← field proof.block_hash "Proof" "block_hash"
  return {
    height := proof.height
    round := proof.round
    block_hash := ← Hash.tryFrom block_hash
    signature := proof.signature
    bitmap := proof.bitmap }

def Validator.«from» (validator : Muta.Validator) : Validator :=
  ⟨some (Address.«from» validator.address), validator.propose_weight, validator.vote_weight⟩

def Validator.tryFrom (validator : Validator) : CodecResult Muta.Validator := do
  let address ← field validator.address "Validator" "address"
  return {
    address := ← Address.tryFrom address
    propose_weight := validator.propose_weight
    vote_weight := validator.vote_weight }

def BlockHeader.«from» (header : Muta.BlockHeader) : BlockHeader :=
  { chain_id := some (Hash.«from» header.chain_id)
    height := header.height
    exec_height := header.exec_height
    pre_hash := some (Hash.«from» header.pre_hash)
    timestamp := header.timestamp
    logs_bloom := header.logs_bloom.map (·.bytes)
    order_root := some (Hash.«from» header.order_root)
    confirm_root := header.confirm_root.map Hash.«from»
    state_root := some (Hash.«from» header.state_root)
    receipt_root := header.receipt_root.map Hash.«from»
    cycles_used := header.cycles_used
    proposer := some (Address.«from» header.proposer)
    proof := some (Proof.«from» header.proof)
    validator_version := header.validator_version
    validators := header.validators.map Validator.«from» }

/-- The required fields first, then the four loops, then the conversions of the
struct literal in its order. -/
def BlockHeader.tryFrom (header : BlockHeader) : CodecResult Muta.BlockHeader := do
  let chain_id ← field header.chain_id "BlockHeader" "chain_id"
  let pre_hash ← field header.pre_hash "BlockHeader" "pre_hash"
  let order_root ← field header.order_root "BlockHeader" "order_root"
  let state_root ← field header.state_root "BlockHeader" "state_root"
  let proposer ← field header.proposer "BlockHeader" "proposer"
  let proof ← field header.proof "BlockHeader" "proof"
  let logs_bloom ← header.logs_bloom.mapM fun bloom => Fail.unwind (Bloom.fromSlice bloom)
  let confirm_root ← header.confirm_root.mapM Hash.tryFrom
  let receipt_root ← header.receipt_root.mapM Hash.tryFrom
  let validators ← header.validators.mapM Validator.tryFrom
  return {
    chain_id := ← Hash.tryFrom chain_id
    height := header.height
    exec_height := header.exec_height
    pre_hash := ← Hash.tryFrom pre_hash
    timestamp := header.timestamp
    logs_bloom
    order_root := ← Hash.tryFrom order_root
    confirm_root
    state_root := ← Hash.tryFrom state_root
    receipt_root
    cycles_used := header.cycles_used
    proposer := ← Address.tryFrom proposer
    proof := ← Proof.tryFrom proof
    validator_version := header.validator_version
    validators }

def Block.«from» (block : Muta.Block) : Block :=
  ⟨some (BlockHeader.«from» block.header), block.ordered_tx_hashes.map Hash.«from»⟩

def Block.tryFrom (block : Block) : CodecResult Muta.Block := do
  let header ← field block.header "Block" "header"
  let ordered_tx_hashes ← block.ordered_tx_hashes.mapM Hash.tryFrom
  return { header := ← BlockHeader.tryFrom header, ordered_tx_hashes }

def Pill.«from» (pill : Muta.Pill) : Pill :=
  ⟨some (Block.«from» pill.block), pill.propose_hashes.map Hash.«from»⟩

def Pill.tryFrom (pill : Pill) : CodecResult Muta.Pill := do
  let block ← field pill.block "Pill" "block"
  let propose_hashes ← pill.propose_hashes.mapM Hash.tryFrom
  return { block := ← Block.tryFrom block, propose_hashes }

def ReceiptResponse.«from» (response : Muta.ReceiptResponse) : ReceiptResponse :=
  ⟨Rlp.utf8 response.service_name, Rlp.utf8 response.method, response.response.code,
    Rlp.utf8 response.response.succeed_data, Rlp.utf8 response.response.error_message⟩

def ReceiptResponse.tryFrom (response : ReceiptResponse) : CodecResult Muta.ReceiptResponse := do
  return {
    service_name := ← stringFromUtf8 response.service_name
    method := ← stringFromUtf8 response.method
    response := {
      code := response.code
      succeed_data := ← stringFromUtf8 response.succeed_data
      error_message := ← stringFromUtf8 response.error_message } }

def Event.«from» (event : Muta.Event) : Event := ⟨Rlp.utf8 event.service, Rlp.utf8 event.data⟩

def Event.tryFrom (event : Event) : CodecResult Muta.Event := do
  return { service := ← stringFromUtf8 event.service, data := ← stringFromUtf8 event.data }

def Receipt.«from» (receipt : Muta.Receipt) : Receipt :=
  { state_root := some (Hash.«from» receipt.state_root)
    height := receipt.height
    tx_hash := some (Hash.«from» receipt.tx_hash)
    cycles_used := receipt.cycles_used
    events := receipt.events.map Event.«from»
    response := some (ReceiptResponse.«from» receipt.response) }

def Receipt.tryFrom (receipt : Receipt) : CodecResult Muta.Receipt := do
  let state_root ← field receipt.state_root "Receipt" "state_root"
  let tx_hash ← field receipt.tx_hash "Receipt" "tx_hash"
  let response ← field receipt.response "Receipt" "response"
  let events ← receipt.events.mapM Event.tryFrom
  return {
    state_root := ← Hash.tryFrom state_root
    height := receipt.height
    tx_hash := ← Hash.tryFrom tx_hash
    cycles_used := receipt.cycles_used
    events
    response := ← ReceiptResponse.tryFrom response }

def FixedSignedTxs.«from» (txs : Muta.FixedSignedTxs) : FixedSignedTxs :=
  ⟨txs.inner.map SignedTransaction.«from»⟩

def FixedSignedTxs.tryFrom (txs : FixedSignedTxs) : CodecResult Muta.FixedSignedTxs := do
  let inner ← txs.inner.mapM SignedTransaction.tryFrom
  return ⟨inner⟩

/-! ### Each conversion reads back what it writes -/

open Conversion

@[simp] theorem Balance.try_from_from (balance : Muta.Balance) :
    Balance.tryFrom (Balance.«from» balance) = .ok balance := by
  simp only [Balance.tryFrom, Balance.«from», Muta.Balance.fromBytesBe, Muta.Balance.toBytesBe]
  split_ifs with zero
  · rw [zero]
    rfl
  · rw [Rlp.from_be_to_be]

@[simp] theorem Hash.try_from_from (hash : Muta.Hash) : Hash.tryFrom (Hash.«from» hash) = .ok hash := by
  simp [Hash.tryFrom, Hash.«from»]

@[simp] theorem Address.try_from_from (address : Muta.Address) :
    Address.tryFrom (Address.«from» address) = .ok address := by
  simp [Address.tryFrom, Address.«from»]

@[simp] theorem MerkleRoot.try_from_from (root : Muta.MerkleRoot) :
    MerkleRoot.tryFrom (MerkleRoot.«from» root) = .ok root := by
  simp [MerkleRoot.tryFrom, MerkleRoot.«from»]

@[simp] theorem TransactionRequest.try_from_from (request : Muta.TransactionRequest) :
    TransactionRequest.tryFrom (TransactionRequest.«from» request) = .ok request := by
  simp [TransactionRequest.tryFrom, TransactionRequest.«from»]

@[simp] theorem RawTransaction.try_from_from (raw : Muta.RawTransaction) :
    RawTransaction.tryFrom (RawTransaction.«from» raw) = .ok raw := by
  simp [RawTransaction.tryFrom, RawTransaction.«from»]

@[simp] theorem SignedTransaction.try_from_from (stx : Muta.SignedTransaction) :
    SignedTransaction.tryFrom (SignedTransaction.«from» stx) = .ok stx := by
  simp [SignedTransaction.tryFrom, SignedTransaction.«from»]

@[simp] theorem Proof.try_from_from (proof : Muta.Proof) : Proof.tryFrom (Proof.«from» proof) = .ok proof := by
  simp [Proof.tryFrom, Proof.«from»]

@[simp] theorem Validator.try_from_from (validator : Muta.Validator) :
    Validator.tryFrom (Validator.«from» validator) = .ok validator := by
  simp [Validator.tryFrom, Validator.«from»]

@[simp] theorem Bloom.from_slice_bytes (bloom : Muta.Bloom) : Muta.Bloom.fromSlice bloom.bytes = .ok bloom := by
  simp [Muta.Bloom.fromSlice, bloom.length_eq]

@[simp] theorem BlockHeader.try_from_from (header : Muta.BlockHeader) :
    BlockHeader.tryFrom (BlockHeader.«from» header) = .ok header := by
  -- each bloom has 256 bytes, so `from_slice` does not panic on it
  have blooms := @mapM_comp Muta.Bloom Bytes (Fail ProtocolError) (fun bloom => bloom.bytes)
    (fun bytes => Fail.unwind (Muta.Bloom.fromSlice bytes)) (fun bloom => by simp) header.logs_bloom
  simp [BlockHeader.tryFrom, BlockHeader.«from», blooms, mapM_comp Hash.try_from_from,
    mapM_comp Validator.try_from_from]

@[simp] theorem Block.try_from_from (block : Muta.Block) : Block.tryFrom (Block.«from» block) = .ok block := by
  simp [Block.tryFrom, Block.«from», mapM_comp Hash.try_from_from]

@[simp] theorem Pill.try_from_from (pill : Muta.Pill) : Pill.tryFrom (Pill.«from» pill) = .ok pill := by
  simp [Pill.tryFrom, Pill.«from», mapM_comp Hash.try_from_from]

@[simp] theorem ReceiptResponse.try_from_from (response : Muta.ReceiptResponse) :
    ReceiptResponse.tryFrom (ReceiptResponse.«from» response) = .ok response := by
  simp [ReceiptResponse.tryFrom, ReceiptResponse.«from»]

@[simp] theorem Event.try_from_from (event : Muta.Event) : Event.tryFrom (Event.«from» event) = .ok event := by
  simp [Event.tryFrom, Event.«from»]

@[simp] theorem Receipt.try_from_from (receipt : Muta.Receipt) :
    Receipt.tryFrom (Receipt.«from» receipt) = .ok receipt := by
  simp [Receipt.tryFrom, Receipt.«from», mapM_comp Event.try_from_from]

@[simp] theorem FixedSignedTxs.try_from_from (txs : Muta.FixedSignedTxs) :
    FixedSignedTxs.tryFrom (FixedSignedTxs.«from» txs) = .ok txs := by
  simp [FixedSignedTxs.tryFrom, FixedSignedTxs.«from», mapM_comp SignedTransaction.try_from_from]

end Proto

/-! ### The codecs -/

open Conversion

def Proto.decodeError (error : Proto.DecodeError) : Fail Proto.ProtocolError :=
  .error (.Codec (.ProtobufDecode error))

section Codecs

variable {α : Type}

/-- `impl_default_bytes_codec_for!`: convert and encode; decode and convert back. -/
def defaultEncodeSync {M : Type} (codec : MessageCodec M Proto.DecodeError) (into : α → M) (value : α) : Bytes :=
  Conversion.encodeSync codec into value

def defaultDecodeSync {M : Type} (codec : MessageCodec M Proto.DecodeError)
    (back : M → Proto.CodecResult α) (bytes : Bytes) : Proto.CodecResult α :=
  Conversion.decodeSync codec Proto.decodeError back bytes

end Codecs

def Balance.encodeSync (codec : MessageCodec Proto.Balance Proto.DecodeError) (balance : Balance) : Bytes :=
  defaultEncodeSync codec Proto.Balance.«from» balance
def Balance.decodeSync (codec : MessageCodec Proto.Balance Proto.DecodeError) (bytes : Bytes) :
    Proto.CodecResult Balance := defaultDecodeSync codec Proto.Balance.tryFrom bytes

def Hash.encodeSync (codec : MessageCodec Proto.Hash Proto.DecodeError) (hash : Hash) : Bytes :=
  defaultEncodeSync codec Proto.Hash.«from» hash
def Hash.decodeSync (codec : MessageCodec Proto.Hash Proto.DecodeError) (bytes : Bytes) :
    Proto.CodecResult Hash := defaultDecodeSync codec Proto.Hash.tryFrom bytes

def Block.encodeSync (codec : MessageCodec Proto.Block Proto.DecodeError) (block : Block) : Bytes :=
  defaultEncodeSync codec Proto.Block.«from» block
def Block.decodeSync (codec : MessageCodec Proto.Block Proto.DecodeError) (bytes : Bytes) :
    Proto.CodecResult Block := defaultDecodeSync codec Proto.Block.tryFrom bytes

def BlockHeader.encodeSync (codec : MessageCodec Proto.BlockHeader Proto.DecodeError) (header : BlockHeader) :
    Bytes := defaultEncodeSync codec Proto.BlockHeader.«from» header
def BlockHeader.decodeSync (codec : MessageCodec Proto.BlockHeader Proto.DecodeError) (bytes : Bytes) :
    Proto.CodecResult BlockHeader := defaultDecodeSync codec Proto.BlockHeader.tryFrom bytes

def Proof.encodeSync (codec : MessageCodec Proto.Proof Proto.DecodeError) (proof : Proof) : Bytes :=
  defaultEncodeSync codec Proto.Proof.«from» proof
def Proof.decodeSync (codec : MessageCodec Proto.Proof Proto.DecodeError) (bytes : Bytes) :
    Proto.CodecResult Proof := defaultDecodeSync codec Proto.Proof.tryFrom bytes

def Validator.encodeSync (codec : MessageCodec Proto.Validator Proto.DecodeError) (validator : Validator) :
    Bytes := defaultEncodeSync codec Proto.Validator.«from» validator
def Validator.decodeSync (codec : MessageCodec Proto.Validator Proto.DecodeError) (bytes : Bytes) :
    Proto.CodecResult Validator := defaultDecodeSync codec Proto.Validator.tryFrom bytes

def Pill.encodeSync (codec : MessageCodec Proto.Pill Proto.DecodeError) (pill : Pill) : Bytes :=
  defaultEncodeSync codec Proto.Pill.«from» pill
def Pill.decodeSync (codec : MessageCodec Proto.Pill Proto.DecodeError) (bytes : Bytes) :
    Proto.CodecResult Pill := defaultDecodeSync codec Proto.Pill.tryFrom bytes

def RawTransaction.encodeSync (codec : MessageCodec Proto.RawTransaction Proto.DecodeError)
    (raw : RawTransaction) : Bytes := defaultEncodeSync codec Proto.RawTransaction.«from» raw
def RawTransaction.decodeSync (codec : MessageCodec Proto.RawTransaction Proto.DecodeError) (bytes : Bytes) :
    Proto.CodecResult RawTransaction := defaultDecodeSync codec Proto.RawTransaction.tryFrom bytes

def SignedTransaction.encodeSync (codec : MessageCodec Proto.SignedTransaction Proto.DecodeError)
    (stx : SignedTransaction) : Bytes := defaultEncodeSync codec Proto.SignedTransaction.«from» stx
def SignedTransaction.decodeSync (codec : MessageCodec Proto.SignedTransaction Proto.DecodeError)
    (bytes : Bytes) : Proto.CodecResult SignedTransaction :=
  defaultDecodeSync codec Proto.SignedTransaction.tryFrom bytes

def Receipt.encodeSync (codec : MessageCodec Proto.Receipt Proto.DecodeError) (receipt : Receipt) : Bytes :=
  defaultEncodeSync codec Proto.Receipt.«from» receipt
def Receipt.decodeSync (codec : MessageCodec Proto.Receipt Proto.DecodeError) (bytes : Bytes) :
    Proto.CodecResult Receipt := defaultDecodeSync codec Proto.Receipt.tryFrom bytes

/-- The WAL codec of the consensus: its decode error is `ConsensusError::DecodeErr`. -/
def FixedSignedTxs.encodeSync (codec : MessageCodec Proto.FixedSignedTxs Proto.DecodeError)
    (txs : FixedSignedTxs) : Bytes := Conversion.encodeSync codec Proto.FixedSignedTxs.«from» txs
def FixedSignedTxs.decodeSync (codec : MessageCodec Proto.FixedSignedTxs Proto.DecodeError)
    (bytes : Bytes) : Proto.CodecResult FixedSignedTxs :=
  Conversion.decodeSync codec (fun _ => .error (.ConsensusDecodeErr .WALSignedTxs)) Proto.FixedSignedTxs.tryFrom
    bytes

/-- Every conversion of the protobuf layer reads back what it writes, and so every
codec built on a prost codec that reads back its messages reads back its values. -/
theorem protobuf_conversions_round_trip :
    (RoundTrips Proto.Hash.«from» Proto.Hash.tryFrom ∧
      RoundTrips Proto.Balance.«from» Proto.Balance.tryFrom ∧
      RoundTrips Proto.MerkleRoot.«from» Proto.MerkleRoot.tryFrom ∧
      RoundTrips Proto.Address.«from» Proto.Address.tryFrom ∧
      RoundTrips Proto.TransactionRequest.«from» Proto.TransactionRequest.tryFrom ∧
      RoundTrips Proto.RawTransaction.«from» Proto.RawTransaction.tryFrom ∧
      RoundTrips Proto.SignedTransaction.«from» Proto.SignedTransaction.tryFrom ∧
      RoundTrips Proto.Validator.«from» Proto.Validator.tryFrom ∧
      RoundTrips Proto.Proof.«from» Proto.Proof.tryFrom ∧
      RoundTrips Proto.BlockHeader.«from» Proto.BlockHeader.tryFrom ∧
      RoundTrips Proto.Block.«from» Proto.Block.tryFrom ∧
      RoundTrips Proto.Pill.«from» Proto.Pill.tryFrom ∧
      RoundTrips Proto.Receipt.«from» Proto.Receipt.tryFrom ∧
      RoundTrips Proto.ReceiptResponse.«from» Proto.ReceiptResponse.tryFrom ∧
      RoundTrips Proto.Event.«from» Proto.Event.tryFrom ∧
      RoundTrips Proto.FixedSignedTxs.«from» Proto.FixedSignedTxs.tryFrom) ∧
    (∀ codec (hash : Hash), Hash.decodeSync codec (Hash.encodeSync codec hash) = .ok hash) ∧
    (∀ codec (balance : Balance), Balance.decodeSync codec (Balance.encodeSync codec balance) = .ok balance) ∧
    (∀ codec (raw : RawTransaction),
      RawTransaction.decodeSync codec (RawTransaction.encodeSync codec raw) = .ok raw) ∧
    (∀ codec (stx : SignedTransaction),
      SignedTransaction.decodeSync codec (SignedTransaction.encodeSync codec stx) = .ok stx) ∧
    (∀ codec (validator : Validator),
      Validator.decodeSync codec (Validator.encodeSync codec validator) = .ok validator) ∧
    (∀ codec (proof : Proof), Proof.decodeSync codec (Proof.encodeSync codec proof) = .ok proof) ∧
    (∀ codec (header : BlockHeader),
      BlockHeader.decodeSync codec (BlockHeader.encodeSync codec header) = .ok header) ∧
    (∀ codec (block : Block), Block.decodeSync codec (Block.encodeSync codec block) = .ok block) ∧
    (∀ codec (pill : Pill), Pill.decodeSync codec (Pill.encodeSync codec pill) = .ok pill) ∧
    (∀ codec (receipt : Receipt), Receipt.decodeSync codec (Receipt.encodeSync codec receipt) = .ok receipt) ∧
    (∀ codec (txs : FixedSignedTxs),
      FixedSignedTxs.decodeSync codec (FixedSignedTxs.encodeSync codec txs) = .ok txs) := by
  refine ⟨⟨Proto.Hash.try_from_from, Proto.Balance.try_from_from, Proto.MerkleRoot.try_from_from,
    Proto.Address.try_from_from, Proto.TransactionRequest.try_from_from, Proto.RawTransaction.try_from_from,
    Proto.SignedTransaction.try_from_from, Proto.Validator.try_from_from, Proto.Proof.try_from_from,
    Proto.BlockHeader.try_from_from, Proto.Block.try_from_from, Proto.Pill.try_from_from,
    Proto.Receipt.try_from_from, Proto.ReceiptResponse.try_from_from, Proto.Event.try_from_from,
    Proto.FixedSignedTxs.try_from_from⟩, ?_, ?_, ?_, ?_, ?_, ?_, ?_, ?_, ?_, ?_, ?_⟩
  -- each codec is the two-layer codec of its conversion
  all_goals intro codec value
  · exact decode_sync_encode_sync codec _ Proto.Hash.try_from_from value
  · exact decode_sync_encode_sync codec _ Proto.Balance.try_from_from value
  · exact decode_sync_encode_sync codec _ Proto.RawTransaction.try_from_from value
  · exact decode_sync_encode_sync codec _ Proto.SignedTransaction.try_from_from value
  · exact decode_sync_encode_sync codec _ Proto.Validator.try_from_from value
  · exact decode_sync_encode_sync codec _ Proto.Proof.try_from_from value
  · exact decode_sync_encode_sync codec _ Proto.BlockHeader.try_from_from value
  · exact decode_sync_encode_sync codec _ Proto.Block.try_from_from value
  · exact decode_sync_encode_sync codec _ Proto.Pill.try_from_from value
  · exact decode_sync_encode_sync codec _ Proto.Receipt.try_from_from value
  · exact decode_sync_encode_sync codec _ Proto.FixedSignedTxs.try_from_from value

end Muta
