import Muta.Api.Scalars
import Muta.FixedCodec.Block
import Muta.Lib.Conversion

/-! The GraphQL objects of `core/api/src/schema/transaction.rs` and `block.rs`: the
views built from protocol values, and the input objects a transaction is sent in.

`SignedTransaction::from` shows every field of a signed transaction as a scalar,
and `to_signed_transaction` reads the same scalars back from the input objects:
sending back the fields of a view gives the transaction it shows
(`to_signed_transaction_from`). The block view shows the header's fields, the
ordered hashes and the block hash, `Hash::digest` of `encode_fixed`. A client
reads its scalars back with the same readers (`Block.read`); every field comes
back but one: `Validator::from` fills `propose_weight` from `vote_weight`, so a
validator's proposal weight reads back as its vote weight
(`Block.read_from`).
-/

set_option autoImplicit false

namespace Muta.Api

/-! ### Transactions -/

structure SignedTransaction where
  chain_id : Hash
  cycles_limit : Uint64
  cycles_price : Uint64
  nonce : Hash
  timeout : Uint64
  service_name : String
  method : String
  payload : String
  tx_hash : Hash
  pubkey : Bytes
  signature : Bytes
  deriving DecidableEq, Repr

def SignedTransaction.«from» (stx : Muta.SignedTransaction) : SignedTransaction where
  chain_id := Hash.«from» stx.raw.chain_id
  cycles_limit := Uint64.«from» stx.raw.cycles_limit
  cycles_price := Uint64.«from» stx.raw.cycles_price
  nonce := Hash.«from» stx.raw.nonce
  timeout := Uint64.«from» stx.raw.timeout
  service_name := stx.raw.request.service_name
  method := stx.raw.request.method
  payload := stx.raw.request.payload
  tx_hash := Hash.«from» stx.tx_hash
  pubkey := Bytes.«from» stx.pubkey
  signature := Bytes.«from» stx.signature

structure InputRawTransaction where
  chain_id : Hash
  cycles_limit : Uint64
  cycles_price : Uint64
  nonce : Hash
  timeout : Uint64
  service_name : String
  method : String
  payload : String
  deriving DecidableEq, Repr

structure InputTransactionEncryption where
  tx_hash : Hash
  pubkey : Bytes
  signature : Bytes
  deriving DecidableEq, Repr

/-- `to_transaction`: the fields in the order the struct literal evaluates them. -/
def toTransaction (raw : InputRawTransaction) : ProtocolResult Muta.RawTransaction := do
  let chain_id ← Muta.Hash.fromHex raw.chain_id.asHex
  let nonce ← Muta.Hash.fromHex raw.nonce.asHex
  let timeout ← raw.timeout.tryIntoU64
  let cycles_price ← raw.cycles_price.tryIntoU64
  let cycles_limit ← raw.cycles_limit.tryIntoU64
  pure ⟨chain_id, nonce, timeout, cycles_price, cycles_limit, ⟨raw.service_name, raw.method, raw.payload⟩⟩

def toSignedTransaction (raw : InputRawTransaction) (encryption : InputTransactionEncryption) :
    ProtocolResult Muta.SignedTransaction := do
  let pubkey ← (Base16.decode (Rlp.utf8 (← encryption.pubkey.asHex))).mapError (.API ∘ .FromHex)
  let signature ← (Base16.decode (Rlp.utf8 (← encryption.signature.asHex))).mapError (.API ∘ .FromHex)
  let raw ← toTransaction raw
  let tx_hash ← Muta.Hash.fromHex encryption.tx_hash.asHex
  pure ⟨raw, tx_hash, pubkey, signature⟩

/-- The fields of a transaction view, sent back as input objects, give the
transaction it shows. -/
theorem to_signed_transaction_from (stx : Muta.SignedTransaction) (view : SignedTransaction)
    (shown : SignedTransaction.«from» stx = view) :
    toSignedTransaction ⟨view.chain_id, view.cycles_limit, view.cycles_price, view.nonce, view.timeout,
      view.service_name, view.method, view.payload⟩ ⟨view.tx_hash, view.pubkey, view.signature⟩ = .ok stx := by
  subst shown
  -- the byte strings first, then the raw transaction, then the hash
  simp only [toSignedTransaction, SignedTransaction.«from», Bytes.as_hex_from, except_ok_bind, decode_upper,
    except_mapError_ok]
  simp only [toTransaction, Hash.from_hex_as_hex, Uint64.try_into_u64_from, except_ok_bind]
  rfl

/-! ### Blocks -/

structure Proof where
  height : Uint64
  round : Uint64
  block_hash : Hash
  signature : Bytes
  bitmap : Bytes
  deriving DecidableEq, Repr

/-- A validator, with its weights as the GraphQL `Int`, an `i32`. -/
structure Validator where
  address : Address
  propose_weight : Int32
  vote_weight : Int32
  deriving DecidableEq, Repr

structure BlockHeader where
  chain_id : Hash
  height : Uint64
  exec_height : Uint64
  pre_hash : Hash
  timestamp : Uint64
  order_root : MerkleRoot
  confirm_root : List MerkleRoot
  state_root : MerkleRoot
  receipt_root : List MerkleRoot
  cycles_used : List Uint64
  proposer : Address
  proof : Proof
  validator_version : Uint64
  validators : List Validator
  deriving DecidableEq, Repr

structure Block where
  header : BlockHeader
  ordered_tx_hashes : List Hash
  hash : Hash
  deriving DecidableEq, Repr

def Proof.«from» (proof : Muta.Proof) : Proof :=
  ⟨Uint64.«from» proof.height, Uint64.«from» proof.round, Hash.«from» proof.block_hash, Bytes.«from» proof.signature,
    Bytes.«from» proof.bitmap⟩

/-- `Validator::from`: both weights are `validator.vote_weight as i32`. -/
def Validator.«from» (validator : Muta.Validator) : Validator :=
  ⟨Address.«from» validator.address, validator.vote_weight.toInt32, validator.vote_weight.toInt32⟩

def BlockHeader.«from» (header : Muta.BlockHeader) : BlockHeader where
  chain_id := Hash.«from» header.chain_id
  height := Uint64.«from» header.height
  exec_height := Uint64.«from» header.exec_height
  pre_hash := Hash.«from» header.pre_hash
  timestamp := Uint64.«from» header.timestamp
  order_root := Hash.«from» header.order_root
  state_root := Hash.«from» header.state_root
  confirm_root := header.confirm_root.map Hash.«from»
  receipt_root := header.receipt_root.map Hash.«from»
  cycles_used := header.cycles_used.map Uint64.«from»
  proposer := Address.«from» header.proposer
  proof := Proof.«from» header.proof
  validator_version := Uint64.«from» header.validator_version
  validators := header.validators.map Validator.«from»

/-- `Block::from`, with `Hash::digest` as a parameter; `encode_fixed` is expected
never to fail. -/
def Block.«from» (digest : Muta.Bytes → Muta.Hash) (block : Muta.Block) : MayPanic Block :=
  match FixedCodec.encode_fixed block with
  | .ok bytes => .ok ⟨BlockHeader.«from» block.header, block.ordered_tx_hashes.map Hash.«from», Hash.«from» (digest bytes)⟩
  | .error _ => .error "rlp encode never fail"

/-! ### Reading a block view back -/

def readWeight (weight : Int32) : UInt32 := UInt32.ofNat weight.toInt.toNat

def readHash (hash : Hash) : ProtocolResult Muta.Hash := Muta.Hash.fromHex hash.value

def Proof.read (proof : Proof) : ProtocolResult Muta.Proof := do
  pure ⟨← proof.height.tryIntoU64, ← proof.round.tryIntoU64, ← readHash proof.block_hash,
    ← proof.signature.toVec, ← proof.bitmap.toVec⟩

def Validator.read (validator : Validator) : ProtocolResult Muta.Validator := do
  pure ⟨← Muta.Address.fromHex validator.address.value, readWeight validator.propose_weight,
    readWeight validator.vote_weight⟩

/-- What a client reads back from the scalars of a header view, field by field. The
view shows no `logs_bloom`, so the header read back has none. -/
def BlockHeader.read (header : BlockHeader) : ProtocolResult Muta.BlockHeader := do
  let chain_id ← readHash header.chain_id
  let height ← header.height.tryIntoU64
  let exec_height ← header.exec_height.tryIntoU64
  let pre_hash ← readHash header.pre_hash
  let timestamp ← header.timestamp.tryIntoU64
  let order_root ← readHash header.order_root
  let confirm_root ← header.confirm_root.mapM readHash
  let state_root ← readHash header.state_root
  let receipt_root ← header.receipt_root.mapM readHash
  let cycles_used ← header.cycles_used.mapM Uint64.tryIntoU64
  let proposer ← Muta.Address.fromHex header.proposer.value
  let proof ← header.proof.read
  let validator_version ← header.validator_version.tryIntoU64
  let validators ← header.validators.mapM Validator.read
  pure ⟨chain_id, height, exec_height, pre_hash, timestamp, [], order_root, confirm_root, state_root, receipt_root,
    cycles_used, proposer, proof, validator_version, validators⟩

def Block.read (block : Block) : ProtocolResult Muta.Block := do
  pure ⟨← block.header.read, ← block.ordered_tx_hashes.mapM readHash⟩

def Validator.voteWeightTwice (validator : Muta.Validator) : Muta.Validator :=
  { validator with propose_weight := validator.vote_weight }

theorem read_weight_toInt32 (weight : UInt32) (small : weight.toNat < 2 ^ 31) :
    readWeight weight.toInt32 = weight := by
  have value : weight.toInt32.toInt = weight.toNat := by
    rw [Int32.toInt, UInt32.toBitVec_toInt32, BitVec.toInt_eq_toNat_of_lt (by simp; omega)]
    rfl
  rw [readWeight, value, Int.toNat_natCast, UInt32.ofNat_toNat]

theorem read_hash_from (hash : Muta.Hash) : readHash (Hash.«from» hash) = .ok hash := Hash.from_hex_from hash

theorem Proof.read_from (proof : Muta.Proof) : (Proof.«from» proof).read = .ok proof := by
  simp only [Proof.read, Proof.«from», Uint64.try_into_u64_from, read_hash_from, Bytes.to_vec_from, except_ok_bind]
  rfl

theorem Validator.read_from (validator : Muta.Validator) (small : validator.vote_weight.toNat < 2 ^ 31) :
    (Validator.«from» validator).read = .ok (Validator.voteWeightTwice validator) := by
  simp only [Validator.read, Validator.«from», Address.from_hex_from, except_ok_bind, read_weight_toInt32 _ small]
  rfl

theorem BlockHeader.read_from (header : Muta.BlockHeader)
    (small : ∀ validator ∈ header.validators, validator.vote_weight.toNat < 2 ^ 31) :
    (BlockHeader.«from» header).read =
      .ok { header with logs_bloom := [], validators := header.validators.map Validator.voteWeightTwice } := by
  have validators : (header.validators.map Validator.«from»).mapM Validator.read =
      .ok (header.validators.map Validator.voteWeightTwice) :=
    Conversion.mapM_map_of_mem _ fun validator member => Validator.read_from validator (small validator member)
  simp only [BlockHeader.read, BlockHeader.«from», read_hash_from, Uint64.try_into_u64_from, Address.from_hex_from,
    Proof.read_from, Conversion.mapM_map read_hash_from, Conversion.mapM_map Uint64.try_into_u64_from, validators,
    except_ok_bind]
  rfl

/-- `Block::from` shows the block hash, and every other scalar reads back to its
field, but each validator's proposal weight, which reads back as its vote weight. -/
theorem Block.read_from (digest : Muta.Bytes → Muta.Hash) (block : Muta.Block)
    (small : ∀ validator ∈ block.header.validators, validator.vote_weight.toNat < 2 ^ 31) :
    ∃ bytes view, FixedCodec.encode_fixed block = .ok bytes ∧ Block.«from» digest block = .ok view ∧
      view.hash = Hash.«from» (digest bytes) ∧
      view.read = .ok ⟨{ block.header with
        logs_bloom := [], validators := block.header.validators.map Validator.voteWeightTwice },
        block.ordered_tx_hashes⟩ := by
  obtain ⟨bytes, encoded⟩ := block_encodes block
  refine ⟨bytes, _, encoded, by rw [Block.«from», encoded], rfl, ?_⟩
  simp only [Block.read, BlockHeader.read_from block.header small, Conversion.mapM_map read_hash_from,
    except_ok_bind]
  rfl

/-- The API scalars of a transaction read back to it; those of a block read back to
its fields and its hash, with every validator's proposal weight replaced by its
vote weight. -/
theorem api_scalars_read_back :
    (∀ (stx : Muta.SignedTransaction) (view : SignedTransaction), SignedTransaction.«from» stx = view →
      toSignedTransaction ⟨view.chain_id, view.cycles_limit, view.cycles_price, view.nonce, view.timeout,
        view.service_name, view.method, view.payload⟩ ⟨view.tx_hash, view.pubkey, view.signature⟩ = .ok stx) ∧
    (∀ (digest : Muta.Bytes → Muta.Hash) (block : Muta.Block),
      (∀ validator ∈ block.header.validators, validator.vote_weight.toNat < 2 ^ 31) →
      ∃ bytes view, FixedCodec.encode_fixed block = .ok bytes ∧ Block.«from» digest block = .ok view ∧
        view.hash = Hash.«from» (digest bytes) ∧
        view.read = .ok ⟨{ block.header with
          logs_bloom := [], validators := block.header.validators.map Validator.voteWeightTwice },
          block.ordered_tx_hashes⟩) :=
  ⟨to_signed_transaction_from, Block.read_from⟩

def sampleAddress : Muta.Address := ⟨List.replicate 20 0, Muta.Address.zeros_length⟩

def sampleValidator : Muta.Validator := ⟨sampleAddress, 1, 2⟩

-- its view reads back a proposal weight of 2, not 1
example :
    (Validator.«from» sampleValidator).read = .ok ⟨sampleAddress, 2, 2⟩ ∧ sampleValidator.propose_weight = 1 :=
  ⟨Validator.read_from sampleValidator (by decide), rfl⟩

end Muta.Api
