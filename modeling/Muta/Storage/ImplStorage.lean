import Muta.Storage.Adapter
import Muta.FixedCodec.Block
import Muta.Lib.Trace

/-! `ImplStorage` of `core/storage/src/lib.rs`: the seven schemas over an adapter,
the writes and reads of the `Storage` trait, and what the reads answer.

The abstract model is `Stores`, one keyed store per schema, written the way each
method of `Storage` names them: transactions and receipts by their `tx_hash`, a
block by its height, the height by the block's hash, and the latest block, proof and
WAL. An adapter that keeps the categories in separate columns refines it: every
write keeps `Represents` (`Represents.step`), so every run from the empty store
answers each read as the keyed stores do (`Represents.answers`). Four schemas share
the block column and are kept apart only by their keys: a `u64` key is eight bytes
and a hash key 34, and the block hashes miss the two constant keys as long as
`Hash::digest` has no second preimage of a constant key's text (`Hasher`).

Two reads do not answer what their names promise. `get_block_by_hash` reads the
height stored under the hash, then the block now at that height, so after a second
block at the same height it returns the second one under the first one's hash.
`MemoryAdapter` keeps all categories in one map, so a receipt is written over the
transaction of the same `tx_hash`.
-/

set_option autoImplicit false

namespace Muta.Storage

open ByteStore Conversion Function

structure Codecs where
  signed_transaction : MessageCodec Proto.SignedTransaction Proto.DecodeError
  receipt : MessageCodec Proto.Receipt Proto.DecodeError
  block : MessageCodec Proto.Block Proto.DecodeError
  proof : MessageCodec Proto.Proof Proto.DecodeError

def keyTexts : List String := ["latest_hash", "latest_proof", "overlord_wal"]

/-- `Hash::digest`, with what the storage assumes of it: no bytes but the text of a
constant key hash to that key. -/
structure Hasher where
  digest : Bytes → Hash
  key_preimage : ∀ text ∈ keyTexts, ∀ bytes, digest bytes = digest (Rlp.utf8 text) → bytes = Rlp.utf8 text

/-! ### Codecs and a hasher that exist

The storage is proved for every codec and every hasher with these laws. The two
below meet them, so those results are about something: the messages written as
the digits of their codes, and a digest that hashes each constant key's text to
its position among them and every other input to one more value. -/

def encodableCodecs : Codecs where
  signed_transaction := .ofEncodable _ ⟨"not a signed transaction"⟩
  receipt := .ofEncodable _ ⟨"not a receipt"⟩
  block := .ofEncodable _ ⟨"not a block"⟩
  proof := .ofEncodable _ ⟨"not a proof"⟩

def keyPositionDigest (bytes : Bytes) : Hash :=
  ⟨List.replicate 32 (UInt8.ofNat ((keyTexts.map Rlp.utf8).idxOf bytes)), Hash.replicate_length _⟩

theorem key_position_digest_preimage (text : String) (member : text ∈ keyTexts) (bytes : Bytes)
    (same : keyPositionDigest bytes = keyPositionDigest (Rlp.utf8 text)) : bytes = Rlp.utf8 text := by
  have listed : Rlp.utf8 text ∈ keyTexts.map Rlp.utf8 := List.mem_map_of_mem member
  -- both positions are at most the number of texts, so they survive the byte
  have text_small : (keyTexts.map Rlp.utf8).idxOf (Rlp.utf8 text) < 3 :=
    List.idxOf_lt_length_of_mem listed
  have bytes_small : (keyTexts.map Rlp.utf8).idxOf bytes ≤ 3 := List.idxOf_le_length
  have positions := congrArg UInt8.toNat
    ((List.replicate_right_inj (by decide)).mp (congrArg Hash.bytes same))
  rw [UInt8.toNat_ofNat_of_lt' (by simp [UInt8.size]; omega),
    UInt8.toNat_ofNat_of_lt' (by simp [UInt8.size]; omega)] at positions
  -- so the bytes stand at the text's position, which only the text does
  have bytes_listed : bytes ∈ keyTexts.map Rlp.utf8 :=
    List.idxOf_lt_length_iff.mp (by rw [positions]; exact List.idxOf_lt_length_of_mem listed)
  exact ((List.idxOf_inj bytes_listed).mp positions)

def keyPositionHasher : Hasher := ⟨keyPositionDigest, key_position_digest_preimage⟩

section Keys

variable (hasher : Hasher)

def LATEST_BLOCK_KEY : Hash := hasher.digest (Rlp.utf8 "latest_hash")

def LATEST_PROOF_KEY : Hash := hasher.digest (Rlp.utf8 "latest_proof")

def OVERLORD_WAL_KEY : Hash := hasher.digest (Rlp.utf8 "overlord_wal")

def blockHashes : Set Hash := {hash | hash ≠ LATEST_BLOCK_KEY hasher ∧ hash ≠ LATEST_PROOF_KEY hasher}

end Keys

/-! ### Block hashes miss the constant keys -/

theorem begin_list_eq_ok {items : List (MayPanic Bytes)} {bytes : Bytes} (encoded : Rlp.beginList items = .ok bytes) :
    ∃ payload, bytes = Rlp.encodeList payload := by
  unfold Rlp.beginList at encoded
  cases all : items.mapM id with
  | error message => simp [all] at encoded
  | ok encodings =>
    simp only [all, except_ok_bind, Except.ok.injEq] at encoded
    exact ⟨_, encoded.symm⟩

theorem encode_fixed_block_list {block : Block} {bytes : Bytes} (encoded : FixedCodec.encode_fixed block = .ok bytes) :
    ∃ payload, bytes = Rlp.encodeList payload := by
  change Fail.unwind (Block.rlpAppend block) = .ok bytes at encoded
  cases written : Block.rlpAppend block with
  | error message => simp [written] at encoded
  | ok value =>
    rw [written, Fail.unwind_ok, Except.ok.injEq] at encoded
    rw [Block.rlpAppend, encoded] at written
    exact begin_list_eq_ok written

theorem encode_list_ne_text (payload : Bytes) {text : String} (short : (Rlp.utf8 text).length < 56)
    (first : ∀ byte ∈ (Rlp.utf8 text).head?, byte.toNat < 0xc0) : Rlp.encodeList payload ≠ Rlp.utf8 text := by
  intro same
  by_cases small : payload.length < 56
  · have head := congrArg List.head? same
    simp only [Rlp.encodeList, Rlp.encodeHeader, small, ↓reduceIte, List.singleton_append, List.head?_cons] at head
    have low := first _ head.symm
    rw [UInt8.toNat_ofNat'] at low
    omega
  · have length := congrArg List.length same
    simp only [Rlp.encodeList, List.length_append] at length
    omega

section Keys

variable (hasher : Hasher)

theorem latest_keys_ne : LATEST_BLOCK_KEY hasher ≠ LATEST_PROOF_KEY hasher := by
  intro same
  have texts := hasher.key_preimage "latest_proof" (by simp [keyTexts]) _ same
  exact absurd texts (by decide)

theorem block_hash_mem {block : Block} {bytes : Bytes} (encoded : FixedCodec.encode_fixed block = .ok bytes) :
    hasher.digest bytes ∈ blockHashes hasher := by
  obtain ⟨payload, rfl⟩ := encode_fixed_block_list encoded
  constructor
  · intro same
    exact encode_list_ne_text payload (by decide) (by decide +kernel)
      (hasher.key_preimage "latest_hash" (by simp [keyTexts]) _ same)
  · intro same
    exact encode_list_ne_text payload (by decide) (by decide +kernel)
      (hasher.key_preimage "latest_proof" (by simp [keyTexts]) _ same)

end Keys

/-! ### The schemas -/

def fromCodec {α : Type} (result : Proto.CodecResult α) : StorageResult α := Fail.mapFail ProtocolError.Codec result

def fromFixedCodec {α : Type} (result : ProtocolResult α) : StorageResult α :=
  Fail.mapFail ProtocolError.FixedCodec result

theorem from_codec_decode_sync {M α : Type} (codec : MessageCodec M Proto.DecodeError) {into : α → M}
    {back : M → Proto.CodecResult α} (trips : RoundTrips into back) (value : α) :
    fromCodec (defaultDecodeSync codec back (defaultEncodeSync codec into value)) = .ok value := by
  rw [defaultDecodeSync, defaultEncodeSync, decode_sync_encode_sync codec _ trips value]
  rfl

section Schemas

variable (codecs : Codecs)

def TransactionSchema : StorageSchema Hash SignedTransaction where
  category := .SignedTransaction
  encode_key := Hash.encodeSync
  encodeValue := Muta.SignedTransaction.encodeSync codecs.signed_transaction
  decodeValue bytes := fromCodec (Muta.SignedTransaction.decodeSync codecs.signed_transaction bytes)
  decode_encode := from_codec_decode_sync codecs.signed_transaction Proto.SignedTransaction.try_from_from

def ReceiptSchema : StorageSchema Hash Receipt where
  category := .Receipt
  encode_key := Hash.encodeSync
  encodeValue := Muta.Receipt.encodeSync codecs.receipt
  decodeValue bytes := fromCodec (Muta.Receipt.decodeSync codecs.receipt bytes)
  decode_encode := from_codec_decode_sync codecs.receipt Proto.Receipt.try_from_from

def BlockSchema : StorageSchema UInt64 Block where
  category := .Block
  encode_key := UInt64.encodeSync
  encodeValue := Muta.Block.encodeSync codecs.block
  decodeValue bytes := fromCodec (Muta.Block.decodeSync codecs.block bytes)
  decode_encode := from_codec_decode_sync codecs.block Proto.Block.try_from_from

def HashBlockSchema : StorageSchema Hash UInt64 where
  category := .Block
  encode_key := Hash.encodeSync
  encodeValue := UInt64.encodeSync
  decodeValue := UInt64.decodeSync
  decode_encode := UInt64.decode_sync_encode_sync

def LatestBlockSchema : StorageSchema Hash Block where
  category := .Block
  encode_key := Hash.encodeSync
  encodeValue := Muta.Block.encodeSync codecs.block
  decodeValue bytes := fromCodec (Muta.Block.decodeSync codecs.block bytes)
  decode_encode := from_codec_decode_sync codecs.block Proto.Block.try_from_from

def LatestProofSchema : StorageSchema Hash Proof where
  category := .Block
  encode_key := Hash.encodeSync
  encodeValue := Muta.Proof.encodeSync codecs.proof
  decodeValue bytes := fromCodec (Muta.Proof.decodeSync codecs.proof bytes)
  decode_encode := from_codec_decode_sync codecs.proof Proto.Proof.try_from_from

def OverlordWalSchema : StorageSchema Hash Bytes where
  category := .Wal
  encode_key := Hash.encodeSync
  encodeValue bytes := bytes
  decodeValue bytes := .ok bytes
  decode_encode _ := rfl

@[simp] theorem TransactionSchema_category : (TransactionSchema codecs).category = .SignedTransaction := rfl
@[simp] theorem ReceiptSchema_category : (ReceiptSchema codecs).category = .Receipt := rfl
@[simp] theorem BlockSchema_category : (BlockSchema codecs).category = .Block := rfl
@[simp] theorem HashBlockSchema_category : HashBlockSchema.category = .Block := rfl
@[simp] theorem LatestBlockSchema_category : (LatestBlockSchema codecs).category = .Block := rfl
@[simp] theorem LatestProofSchema_category : (LatestProofSchema codecs).category = .Block := rfl
@[simp] theorem OverlordWalSchema_category : OverlordWalSchema.category = .Wal := rfl

end Schemas

/-! ### `ImplStorage` -/

structure ImplStorage (Column : Type) where
  adapter : Store Column
  latest_block : Option Block

def ImplStorage.new {Column : Type} (adapter : Store Column) : ImplStorage Column := ⟨adapter, none⟩

def checkNone {α : Type} : Option α → StorageResult α
  | some value => .ok value
  | none => .error (.error (.Storage .GetNone))

/-- `opts_to_flat`: the values found, in order; `expect` cannot fail after the filter. -/
def optsToFlat {α : Type} (values : List (Option α)) : List α := values.filterMap id

section Storage

variable {Column : Type} [DecidableEq Column] (getColumn : StorageCategory → Column) (codecs : Codecs)
  (hasher : Hasher)

def insertTransactions (signed_txs : List SignedTransaction) (storage : ImplStorage Column) :
    StorageResult (ImplStorage Column) := do
  let hashes := signed_txs.map fun stx => stx.tx_hash
  let adapter ← batchModify getColumn (TransactionSchema codecs) hashes (signed_txs.map .Insert) storage.adapter
  pure { storage with adapter }

def insertBlock (block : Block) (storage : ImplStorage Column) : StorageResult (ImplStorage Column) := do
  let height := block.header.height
  let block_hash := hasher.digest (← fromFixedCodec (FixedCodec.encode_fixed block))
  let adapter := insert getColumn (BlockSchema codecs) height block storage.adapter
  let adapter := insert getColumn HashBlockSchema block_hash height adapter
  let adapter := insert getColumn (LatestBlockSchema codecs) (LATEST_BLOCK_KEY hasher) block adapter
  pure ⟨adapter, some block⟩

def insertReceipts (receipts : List Receipt) (storage : ImplStorage Column) : StorageResult (ImplStorage Column) := do
  let hashes := receipts.map fun receipt => receipt.tx_hash
  let adapter ← batchModify getColumn (ReceiptSchema codecs) hashes (receipts.map .Insert) storage.adapter
  pure { storage with adapter }

def updateLatestProof (proof : Proof) (storage : ImplStorage Column) : ImplStorage Column :=
  { storage with adapter := insert getColumn (LatestProofSchema codecs) (LATEST_PROOF_KEY hasher) proof storage.adapter }

def updateOverlordWal (info : Bytes) (storage : ImplStorage Column) : ImplStorage Column :=
  { storage with adapter := insert getColumn OverlordWalSchema (OVERLORD_WAL_KEY hasher) info storage.adapter }

def getTransactionByHash (storage : ImplStorage Column) (tx_hash : Hash) : StorageResult SignedTransaction := do
  checkNone (← get getColumn (TransactionSchema codecs) tx_hash storage.adapter)

def getTransactions (storage : ImplStorage Column) (hashes : List Hash) : StorageResult (List SignedTransaction) := do
  pure (optsToFlat (← getBatch getColumn (TransactionSchema codecs) hashes storage.adapter))

/-- The cached block, or else the one under `LATEST_BLOCK_KEY`. -/
def getLatestBlock (storage : ImplStorage Column) : StorageResult Block :=
  match storage.latest_block with
  | some block => .ok block
  | none => do checkNone (← get getColumn (LatestBlockSchema codecs) (LATEST_BLOCK_KEY hasher) storage.adapter)

def getBlockByHeight (storage : ImplStorage Column) (height : UInt64) : StorageResult Block := do
  checkNone (← get getColumn (BlockSchema codecs) height storage.adapter)

def getBlockByHash (storage : ImplStorage Column) (block_hash : Hash) : StorageResult Block := do
  let height ← checkNone (← get getColumn HashBlockSchema block_hash storage.adapter)
  checkNone (← get getColumn (BlockSchema codecs) height storage.adapter)

def getReceipt (storage : ImplStorage Column) (hash : Hash) : StorageResult Receipt := do
  checkNone (← get getColumn (ReceiptSchema codecs) hash storage.adapter)

def getReceipts (storage : ImplStorage Column) (hashes : List Hash) : StorageResult (List Receipt) := do
  pure (optsToFlat (← getBatch getColumn (ReceiptSchema codecs) hashes storage.adapter))

def getLatestProof (storage : ImplStorage Column) : StorageResult Proof := do
  checkNone (← get getColumn (LatestProofSchema codecs) (LATEST_PROOF_KEY hasher) storage.adapter)

def loadOverlordWal (storage : ImplStorage Column) : StorageResult Bytes := do
  checkNone (← get getColumn OverlordWalSchema (OVERLORD_WAL_KEY hasher) storage.adapter)

end Storage

inductive StorageWrite where
  | insertTransactions (signed_txs : List SignedTransaction)
  | insertBlock (block : Block)
  | insertReceipts (receipts : List Receipt)
  | updateLatestProof (proof : Proof)
  | updateOverlordWal (info : Bytes)

section Run

variable {Column : Type} [DecidableEq Column] (getColumn : StorageCategory → Column) (codecs : Codecs)
  (hasher : Hasher)

def StorageWrite.apply : StorageWrite → ImplStorage Column → StorageResult (ImplStorage Column)
  | .insertTransactions signed_txs, storage => Storage.insertTransactions getColumn codecs signed_txs storage
  | .insertBlock block, storage => Storage.insertBlock getColumn codecs hasher block storage
  | .insertReceipts receipts, storage => Storage.insertReceipts getColumn codecs receipts storage
  | .updateLatestProof proof, storage => .ok (Storage.updateLatestProof getColumn codecs hasher proof storage)
  | .updateOverlordWal info, storage => .ok (Storage.updateOverlordWal getColumn hasher info storage)

/-- The storage after a write; every write that fails does so before it writes. -/
def StorageWrite.step (write : StorageWrite) (storage : ImplStorage Column) : ImplStorage Column :=
  match write.apply getColumn codecs hasher storage with
  | .ok after => after
  | .error _ => storage

end Run

/-! ### What each write leaves -/

section Writes

variable {Column : Type} [DecidableEq Column] {getColumn : StorageCategory → Column} {codecs : Codecs}
  {hasher : Hasher} (storage : ImplStorage Column)

@[simp] theorem step_insert_transactions (signed_txs : List SignedTransaction) :
    (StorageWrite.insertTransactions signed_txs).step getColumn codecs hasher storage =
      { storage with
        adapter := (storage.adapter.setAll ((TransactionSchema codecs).layout getColumn).column
          ((signed_txs.map fun stx => (stx.tx_hash, some stx)).map ((TransactionSchema codecs).layout getColumn).write)) } := by
  simp only [StorageWrite.step, StorageWrite.apply, insertTransactions, batch_modify_insert]
  rfl

@[simp] theorem step_insert_receipts (receipts : List Receipt) :
    (StorageWrite.insertReceipts receipts).step getColumn codecs hasher storage =
      { storage with
        adapter := (storage.adapter.setAll ((ReceiptSchema codecs).layout getColumn).column
          ((receipts.map fun receipt => (receipt.tx_hash, some receipt)).map ((ReceiptSchema codecs).layout getColumn).write)) } := by
  simp only [StorageWrite.step, StorageWrite.apply, insertReceipts, batch_modify_insert]
  rfl

theorem step_insert_block {block : Block} {bytes : Bytes} (encoded : FixedCodec.encode_fixed block = .ok bytes) :
    (StorageWrite.insertBlock block).step getColumn codecs hasher storage =
      ⟨insert getColumn (LatestBlockSchema codecs) (LATEST_BLOCK_KEY hasher) block
        (insert getColumn HashBlockSchema (hasher.digest bytes) block.header.height
          (insert getColumn (BlockSchema codecs) block.header.height block storage.adapter)), some block⟩ := by
  simp only [StorageWrite.step, StorageWrite.apply, insertBlock, fromFixedCodec, Fail.mapFail, encoded,
    except_mapError_ok, except_ok_bind]
  rfl

@[simp] theorem step_update_latest_proof (proof : Proof) :
    (StorageWrite.updateLatestProof proof).step getColumn codecs hasher storage =
      updateLatestProof getColumn codecs hasher proof storage := rfl

@[simp] theorem step_update_overlord_wal (info : Bytes) :
    (StorageWrite.updateOverlordWal info).step getColumn codecs hasher storage =
      updateOverlordWal getColumn hasher info storage := rfl

end Writes

/-! ### The keyed stores -/

/-- One keyed store per schema, under the keys the methods of `Storage` name. -/
structure Stores where
  transactions : Hash → Option SignedTransaction
  receipts : Hash → Option Receipt
  blocks : UInt64 → Option Block
  heights : Hash → Option UInt64
  latest_block : Option Block
  latest_proof : Option Proof
  overlord_wal : Option Bytes

namespace Stores

def empty : Stores := ⟨fun _ => none, fun _ => none, fun _ => none, fun _ => none, none, none, none⟩

def apply (hasher : Hasher) : StorageWrite → Stores → Stores
  | .insertTransactions signed_txs, stores =>
    { stores with transactions := assign stores.transactions (signed_txs.map fun stx => (stx.tx_hash, some stx)) }
  | .insertBlock block, stores =>
    match FixedCodec.encode_fixed block with
    | .ok bytes =>
      { stores with
        blocks := update stores.blocks block.header.height (some block)
        heights := update stores.heights (hasher.digest bytes) (some block.header.height)
        latest_block := some block }
    | .error _ => stores
  | .insertReceipts receipts, stores =>
    { stores with receipts := assign stores.receipts (receipts.map fun receipt => (receipt.tx_hash, some receipt)) }
  | .updateLatestProof proof, stores => { stores with latest_proof := some proof }
  | .updateOverlordWal info, stores => { stores with overlord_wal := some info }

theorem apply_insert_block (hasher : Hasher) (stores : Stores) {block : Block} {bytes : Bytes}
    (encoded : FixedCodec.encode_fixed block = .ok bytes) :
    apply hasher (.insertBlock block) stores =
      { stores with
        blocks := update stores.blocks block.header.height (some block)
        heights := update stores.heights (hasher.digest bytes) (some block.header.height)
        latest_block := some block } := by
  simp only [apply, encoded]

variable (stores : Stores)

def getTransactionByHash (tx_hash : Hash) : StorageResult SignedTransaction := checkNone (stores.transactions tx_hash)

def getTransactions (hashes : List Hash) : StorageResult (List SignedTransaction) :=
  .ok (hashes.filterMap stores.transactions)

def getLatestBlock : StorageResult Block := checkNone stores.latest_block

def getBlockByHeight (height : UInt64) : StorageResult Block := checkNone (stores.blocks height)

def getBlockByHash (block_hash : Hash) : StorageResult Block := do
  checkNone (stores.blocks (← checkNone (stores.heights block_hash)))

def getReceipt (hash : Hash) : StorageResult Receipt := checkNone (stores.receipts hash)

def getReceipts (hashes : List Hash) : StorageResult (List Receipt) := .ok (hashes.filterMap stores.receipts)

def getLatestProof : StorageResult Proof := checkNone stores.latest_proof

def loadOverlordWal : StorageResult Bytes := checkNone stores.overlord_wal

end Stores

/-! ### Refinement -/

section Refinement

variable {Column : Type} [DecidableEq Column] (getColumn : StorageCategory → Column) (codecs : Codecs)
  (hasher : Hasher)

/-- The store keeps each schema's map at its keys, and the cached block is the
latest one. -/
structure Represents (storage : ImplStorage Column) (stores : Stores) : Prop where
  transactions : (TransactionSchema codecs).Holds getColumn Set.univ stores.transactions storage.adapter
  receipts : (ReceiptSchema codecs).Holds getColumn Set.univ stores.receipts storage.adapter
  blocks : (BlockSchema codecs).Holds getColumn Set.univ stores.blocks storage.adapter
  heights : HashBlockSchema.Holds getColumn (blockHashes hasher) stores.heights storage.adapter
  latest_block : (LatestBlockSchema codecs).Holds getColumn {LATEST_BLOCK_KEY hasher}
    (fun _ => stores.latest_block) storage.adapter
  latest_proof : (LatestProofSchema codecs).Holds getColumn {LATEST_PROOF_KEY hasher}
    (fun _ => stores.latest_proof) storage.adapter
  overlord_wal : OverlordWalSchema.Holds getColumn {OVERLORD_WAL_KEY hasher}
    (fun _ => stores.overlord_wal) storage.adapter
  cached : ∀ block, storage.latest_block = some block → stores.latest_block = some block

/-- Every read answers as the keyed stores do; a hash is read back as a block hash
unless it is a constant key of the block column. -/
structure Answers (storage : ImplStorage Column) (stores : Stores) : Prop where
  transaction : ∀ tx_hash,
    getTransactionByHash getColumn codecs storage tx_hash = stores.getTransactionByHash tx_hash
  transactions : ∀ hashes, getTransactions getColumn codecs storage hashes = stores.getTransactions hashes
  latest_block : getLatestBlock getColumn codecs hasher storage = stores.getLatestBlock
  block_by_height : ∀ height, getBlockByHeight getColumn codecs storage height = stores.getBlockByHeight height
  block_by_hash : ∀ block_hash ∈ blockHashes hasher,
    getBlockByHash getColumn codecs storage block_hash = stores.getBlockByHash block_hash
  receipt : ∀ hash, getReceipt getColumn codecs storage hash = stores.getReceipt hash
  receipts : ∀ hashes, getReceipts getColumn codecs storage hashes = stores.getReceipts hashes
  latest_proof : getLatestProof getColumn codecs hasher storage = stores.getLatestProof
  overlord_wal : loadOverlordWal getColumn hasher storage = stores.loadOverlordWal

end Refinement


section Refinement

variable {Column : Type} [DecidableEq Column] {getColumn : StorageCategory → Column} {codecs : Codecs}
  {hasher : Hasher} {storage : ImplStorage Column} {stores : Stores}

omit [DecidableEq Column] in
theorem Represents.empty : Represents getColumn codecs hasher (ImplStorage.new Store.empty) Stores.empty where
  transactions := StorageSchema.Holds.empty _ _
  receipts := StorageSchema.Holds.empty _ _
  blocks := StorageSchema.Holds.empty _ _
  heights := StorageSchema.Holds.empty _ _
  latest_block := StorageSchema.Holds.empty _ _
  latest_proof := StorageSchema.Holds.empty _ _
  overlord_wal := StorageSchema.Holds.empty _ _
  cached _ cached := nomatch cached

theorem hash_keys_apart {hash : Hash} {keys : Set Hash} (outside : ∀ k ∈ keys, k ≠ hash) :
    ∀ k ∈ keys, Hash.encodeSync hash ≠ Hash.encodeSync k :=
  fun k member same => outside k member (Hash.encode_sync_injective same).symm

theorem u64_keys_apart (height : UInt64) (keys : Set Hash) :
    ∀ k ∈ keys, UInt64.encodeSync height ≠ Hash.encodeSync k :=
  fun k _ => UInt64.encode_sync_ne_hash height k

theorem hash_keys_apart_u64 (hash : Hash) (keys : Set UInt64) :
    ∀ k ∈ keys, Hash.encodeSync hash ≠ UInt64.encodeSync k :=
  fun k _ same => UInt64.encode_sync_ne_hash k hash same.symm

variable (separate : Injective getColumn)
include separate

theorem Represents.insertTransactions (represents : Represents getColumn codecs hasher storage stores)
    (signed_txs : List SignedTransaction) :
    Represents getColumn codecs hasher ((StorageWrite.insertTransactions signed_txs).step getColumn codecs hasher storage)
      ((Stores.apply hasher (.insertTransactions signed_txs)) stores) := by
  rw [step_insert_transactions]
  -- one batch in the transaction column; every other schema is in another column
  exact {
    transactions := represents.transactions.setAll Hash.encode_sync_injective _
    receipts := represents.receipts.set_all_other separate (by simp) _
    blocks := represents.blocks.set_all_other separate (by simp) _
    heights := represents.heights.set_all_other separate (by simp) _
    latest_block := represents.latest_block.set_all_other separate (by simp) _
    latest_proof := represents.latest_proof.set_all_other separate (by simp) _
    overlord_wal := represents.overlord_wal.set_all_other separate (by simp) _
    cached := represents.cached }

theorem Represents.insertReceipts (represents : Represents getColumn codecs hasher storage stores)
    (receipts : List Receipt) :
    Represents getColumn codecs hasher ((StorageWrite.insertReceipts receipts).step getColumn codecs hasher storage)
      ((Stores.apply hasher (.insertReceipts receipts)) stores) := by
  rw [step_insert_receipts]
  exact {
    transactions := represents.transactions.set_all_other separate (by simp) _
    receipts := represents.receipts.setAll Hash.encode_sync_injective _
    blocks := represents.blocks.set_all_other separate (by simp) _
    heights := represents.heights.set_all_other separate (by simp) _
    latest_block := represents.latest_block.set_all_other separate (by simp) _
    latest_proof := represents.latest_proof.set_all_other separate (by simp) _
    overlord_wal := represents.overlord_wal.set_all_other separate (by simp) _
    cached := represents.cached }

theorem Represents.insertBlock (represents : Represents getColumn codecs hasher storage stores) (block : Block) :
    Represents getColumn codecs hasher ((StorageWrite.insertBlock block).step getColumn codecs hasher storage)
      ((Stores.apply hasher (.insertBlock block)) stores) := by
  obtain ⟨bytes, encoded⟩ := block_encodes block
  have fresh := block_hash_mem hasher encoded
  rw [step_insert_block storage encoded, Stores.apply_insert_block hasher stores encoded]
  -- three writes in the block column: the block by height, the height by hash, the latest block
  exact {
    transactions := ((represents.transactions.insert_other separate (by simp) _ _).insert_other separate
      (by simp) _ _).insert_other separate (by simp) _ _
    receipts := ((represents.receipts.insert_other separate (by simp) _ _).insert_other separate
      (by simp) _ _).insert_other separate (by simp) _ _
    blocks := ((represents.blocks.insert_same UInt64.encode_sync_injective _ _).insert_apart (by rfl)
      (hash_keys_apart_u64 _ _) _).insert_apart (by rfl) (hash_keys_apart_u64 _ _) _
    heights := ((represents.heights.insert_apart (by rfl) (u64_keys_apart _ _) _).insert_same
      Hash.encode_sync_injective _ _).insert_apart (by rfl) (hash_keys_apart fun _ member => member.1) _
    latest_block := (((represents.latest_block.insert_apart (by rfl) (u64_keys_apart _ _) _).insert_apart (by rfl)
      (hash_keys_apart fun _ member => (Set.mem_singleton_iff.mp member).symm ▸ fresh.1.symm) _).insert_single
      Hash.encode_sync_injective block)
    latest_proof := ((represents.latest_proof.insert_apart (by rfl) (u64_keys_apart _ _) _).insert_apart (by rfl)
      (hash_keys_apart fun _ member => (Set.mem_singleton_iff.mp member).symm ▸ fresh.2.symm) _).insert_apart (by rfl)
      (hash_keys_apart fun _ member => (Set.mem_singleton_iff.mp member).symm ▸ (latest_keys_ne hasher).symm) _
    overlord_wal := ((represents.overlord_wal.insert_other separate (by simp) _ _).insert_other separate
      (by simp) _ _).insert_other separate (by simp) _ _
    cached := fun _ cached => cached }

theorem Represents.updateLatestProof (represents : Represents getColumn codecs hasher storage stores)
    (proof : Proof) :
    Represents getColumn codecs hasher ((StorageWrite.updateLatestProof proof).step getColumn codecs hasher storage)
      ((Stores.apply hasher (.updateLatestProof proof)) stores) := by
  rw [step_update_latest_proof]
  exact {
    transactions := represents.transactions.insert_other separate (by simp) _ _
    receipts := represents.receipts.insert_other separate (by simp) _ _
    blocks := represents.blocks.insert_apart (by rfl) (hash_keys_apart_u64 _ _) _
    heights := represents.heights.insert_apart (by rfl) (hash_keys_apart fun _ member => member.2) _
    latest_block := represents.latest_block.insert_apart (by rfl)
      (hash_keys_apart fun _ member => (Set.mem_singleton_iff.mp member).symm ▸ latest_keys_ne hasher) _
    latest_proof := represents.latest_proof.insert_single Hash.encode_sync_injective proof
    overlord_wal := represents.overlord_wal.insert_other separate (by simp) _ _
    cached := represents.cached }

theorem Represents.updateOverlordWal (represents : Represents getColumn codecs hasher storage stores)
    (info : Bytes) :
    Represents getColumn codecs hasher ((StorageWrite.updateOverlordWal info).step getColumn codecs hasher storage)
      ((Stores.apply hasher (.updateOverlordWal info)) stores) := by
  rw [step_update_overlord_wal]
  exact {
    transactions := represents.transactions.insert_other separate (by simp) _ _
    receipts := represents.receipts.insert_other separate (by simp) _ _
    blocks := represents.blocks.insert_other separate (by simp) _ _
    heights := represents.heights.insert_other separate (by simp) _ _
    latest_block := represents.latest_block.insert_other separate (by simp) _ _
    latest_proof := represents.latest_proof.insert_other separate (by simp) _ _
    overlord_wal := represents.overlord_wal.insert_single Hash.encode_sync_injective info
    cached := represents.cached }

theorem Represents.step (represents : Represents getColumn codecs hasher storage stores) :
    ∀ write : StorageWrite, Represents getColumn codecs hasher (write.step getColumn codecs hasher storage)
      (Stores.apply hasher write stores)
  | .insertTransactions signed_txs => represents.insertTransactions separate signed_txs
  | .insertBlock block => represents.insertBlock separate block
  | .insertReceipts receipts => represents.insertReceipts separate receipts
  | .updateLatestProof proof => represents.updateLatestProof separate proof
  | .updateOverlordWal info => represents.updateOverlordWal separate info

end Refinement

section Reads

variable {Column : Type} [DecidableEq Column] {getColumn : StorageCategory → Column} {codecs : Codecs}
  {hasher : Hasher} {storage : ImplStorage Column} {stores : Stores}

@[simp] theorem bind_check_none {α : Type} (result : StorageResult α) : (some <$> result >>= checkNone) = result := by
  cases result <;> rfl

omit [DecidableEq Column] in
theorem get_of_read {K V : Type} {schema : StorageSchema K V} {key : K} {val : V} {db : Store Column}
    (read : db (getColumn schema.category) (schema.encode_key key) = some (schema.encodeValue val)) :
    get getColumn schema key db = .ok (some val) := by
  simp [get, read, schema.decode_encode]

omit [DecidableEq Column] in
theorem Represents.answers (represents : Represents getColumn codecs hasher storage stores) :
    Answers getColumn codecs hasher storage stores where
  transaction tx_hash := by
    rw [getTransactionByHash, represents.transactions.get (Set.mem_univ tx_hash), except_ok_bind]
    rfl
  transactions hashes := by
    rw [getTransactions, represents.transactions.getBatch hashes (fun _ _ => Set.mem_univ _)]
    simp [optsToFlat, Stores.getTransactions, List.filterMap_map]
  latest_block := by
    cases cache : storage.latest_block with
    | some block => simp [getLatestBlock, cache, Stores.getLatestBlock, represents.cached block cache, checkNone]
    | none =>
      rw [getLatestBlock, cache, represents.latest_block.get (Set.mem_singleton _), except_ok_bind]
      rfl
  block_by_height height := by
    rw [getBlockByHeight, represents.blocks.get (Set.mem_univ height), except_ok_bind]
    rfl
  block_by_hash block_hash member := by
    rw [getBlockByHash, represents.heights.get member, except_ok_bind, Stores.getBlockByHash]
    -- the height under the hash, then the block at that height
    cases stores.heights block_hash with
    | none => rfl
    | some height =>
      simp only [checkNone, except_ok_bind]
      rw [represents.blocks.get (Set.mem_univ height), except_ok_bind]
  receipt hash := by
    rw [getReceipt, represents.receipts.get (Set.mem_univ hash), except_ok_bind]
    rfl
  receipts hashes := by
    rw [getReceipts, represents.receipts.getBatch hashes (fun _ _ => Set.mem_univ _)]
    simp [optsToFlat, Stores.getReceipts, List.filterMap_map]
  latest_proof := by
    rw [getLatestProof, represents.latest_proof.get (Set.mem_singleton _), except_ok_bind]
    rfl
  overlord_wal := by
    rw [loadOverlordWal, represents.overlord_wal.get (Set.mem_singleton _), except_ok_bind]
    rfl

end Reads

/-! ### Where the reads do not answer what they name -/

section Overwrites

variable {Column : Type} [DecidableEq Column] (getColumn : StorageCategory → Column) (codecs : Codecs)
  (hasher : Hasher)

theorem insert_read_same {K V : Type} (schema : StorageSchema K V) (key : K) (val : V) (db : Store Column) :
    insert getColumn schema key val db (getColumn schema.category) (schema.encode_key key) =
      some (schema.encodeValue val) :=
  Store.set_same _ _ _ _

theorem insert_read_apart {K V : Type} {schema : StorageSchema K V} {key : K} (val : V) (db : Store Column)
    {column : Column} {other : Bytes} (apart : schema.encode_key key ≠ other) :
    insert getColumn schema key val db column other = db column other :=
  Store.set_apart _ _ fun same => apart (Prod.mk.inj same).2

theorem block_by_hash_after_same_height (storage : ImplStorage Column) {first second : Block} {bytes : Bytes}
    (encoded : FixedCodec.encode_fixed first = .ok bytes) (same_height : second.header.height = first.header.height) :
    getBlockByHash getColumn codecs
      ((StorageWrite.insertBlock second).step getColumn codecs hasher
        ((StorageWrite.insertBlock first).step getColumn codecs hasher storage)) (hasher.digest bytes) =
      .ok second := by
  obtain ⟨second_bytes, second_encoded⟩ := block_encodes second
  have fresh := (block_hash_mem hasher encoded).1
  have not_latest : Hash.encodeSync (LATEST_BLOCK_KEY hasher) ≠ Hash.encodeSync (hasher.digest bytes) :=
    fun same => fresh (Hash.encode_sync_injective same).symm
  rw [step_insert_block _ encoded, step_insert_block _ second_encoded]
  -- the hash still reads the height, which either block wrote under it
  have height : (insert getColumn (LatestBlockSchema codecs) (LATEST_BLOCK_KEY hasher) second
      (insert getColumn HashBlockSchema (hasher.digest second_bytes) second.header.height
        (insert getColumn (BlockSchema codecs) second.header.height second
          (insert getColumn (LatestBlockSchema codecs) (LATEST_BLOCK_KEY hasher) first
            (insert getColumn HashBlockSchema (hasher.digest bytes) first.header.height
              (insert getColumn (BlockSchema codecs) first.header.height first storage.adapter))))))
      (getColumn HashBlockSchema.category) (HashBlockSchema.encode_key (hasher.digest bytes)) =
      some (HashBlockSchema.encodeValue first.header.height) := by
    rw [insert_read_apart _ _ _ not_latest]
    by_cases same_hash : hasher.digest second_bytes = hasher.digest bytes
    · rw [← same_hash, same_height]
      exact insert_read_same _ _ _ _ _
    · rw [insert_read_apart _ _ _ fun same => same_hash (Hash.encode_sync_injective same),
        insert_read_apart _ _ _ (UInt64.encode_sync_ne_hash _ _), insert_read_apart _ _ _ not_latest]
      exact insert_read_same _ _ _ _ _
  -- and the height reads the block written last at it
  have block : (insert getColumn (LatestBlockSchema codecs) (LATEST_BLOCK_KEY hasher) second
      (insert getColumn HashBlockSchema (hasher.digest second_bytes) second.header.height
        (insert getColumn (BlockSchema codecs) second.header.height second
          (insert getColumn (LatestBlockSchema codecs) (LATEST_BLOCK_KEY hasher) first
            (insert getColumn HashBlockSchema (hasher.digest bytes) first.header.height
              (insert getColumn (BlockSchema codecs) first.header.height first storage.adapter))))))
      (getColumn (BlockSchema codecs).category) ((BlockSchema codecs).encode_key first.header.height) =
      some ((BlockSchema codecs).encodeValue second) := by
    rw [insert_read_apart _ _ _ fun same => UInt64.encode_sync_ne_hash _ _ same.symm,
      insert_read_apart _ _ _ fun same => UInt64.encode_sync_ne_hash _ _ same.symm, ← same_height]
    exact insert_read_same _ _ _ _ _
  rw [getBlockByHash, get_of_read height, except_ok_bind, checkNone, except_ok_bind, get_of_read block,
    except_ok_bind]
  rfl

/-- `MemoryAdapter` writes a receipt over the transaction of the same hash: what
`get_transaction_by_hash` then returns is the receipt's bytes decoded as a
transaction, whatever transaction was inserted. -/
theorem memory_receipt_overwrites_transaction (storage : ImplStorage Unit) (stx : SignedTransaction)
    (receipt : Receipt) (same_hash : receipt.tx_hash = stx.tx_hash) :
    getTransactionByHash MemoryAdapter.getColumn codecs
      ((StorageWrite.insertReceipts [receipt]).step MemoryAdapter.getColumn codecs hasher
        ((StorageWrite.insertTransactions [stx]).step MemoryAdapter.getColumn codecs hasher storage)) stx.tx_hash =
      (TransactionSchema codecs).decodeValue ((ReceiptSchema codecs).encodeValue receipt) := by
  -- both writes go to the one map, under the same key
  have read : ((storage.adapter.set ((TransactionSchema codecs).layout MemoryAdapter.getColumn).column
      (((TransactionSchema codecs).layout MemoryAdapter.getColumn).key stx.tx_hash)
      (some (((TransactionSchema codecs).layout MemoryAdapter.getColumn).value stx))).set
      ((ReceiptSchema codecs).layout MemoryAdapter.getColumn).column
      (((ReceiptSchema codecs).layout MemoryAdapter.getColumn).key receipt.tx_hash)
      (some (((ReceiptSchema codecs).layout MemoryAdapter.getColumn).value receipt)))
      (MemoryAdapter.getColumn (TransactionSchema codecs).category) ((TransactionSchema codecs).encode_key stx.tx_hash) =
      some ((ReceiptSchema codecs).encodeValue receipt) := by
    rw [same_hash]
    exact Store.set_same _ _ _ _
  rw [step_insert_transactions, step_insert_receipts]
  simp only [getTransactionByHash, get, List.map_cons, List.map_nil, Store.set_all_cons, Store.set_all_nil,
    Layout.write, Option.map_some]
  rw [read]
  exact bind_check_none _

end Overwrites

/-! ### The schemas as keyed stores -/

/-- Over `RocksAdapter`, every run of writes from the empty store leaves every read
answering as the keyed stores do; under any adapter, the hash of a block
overwritten at its height reads the later block; and over `MemoryAdapter`, a
receipt replaces the transaction of its hash. -/
theorem schema_reads_after_writes (codecs : Codecs) (hasher : Hasher) :
    (∀ writes : List StorageWrite,
      Answers RocksAdapter.mapCategory codecs hasher
        (Trace.run (StorageWrite.step RocksAdapter.mapCategory codecs hasher) writes (ImplStorage.new Store.empty))
        (Trace.run (Stores.apply hasher) writes Stores.empty)) ∧
    (∀ (Column : Type) [DecidableEq Column] (getColumn : StorageCategory → Column) (storage : ImplStorage Column)
      (first second : Block) (bytes : Bytes), FixedCodec.encode_fixed first = .ok bytes →
      second.header.height = first.header.height →
      getBlockByHash getColumn codecs
        ((StorageWrite.insertBlock second).step getColumn codecs hasher
          ((StorageWrite.insertBlock first).step getColumn codecs hasher storage)) (hasher.digest bytes) =
        .ok second) ∧
    (∀ (storage : ImplStorage Unit) (stx : SignedTransaction) (receipt : Receipt), receipt.tx_hash = stx.tx_hash →
      getTransactionByHash MemoryAdapter.getColumn codecs
        ((StorageWrite.insertReceipts [receipt]).step MemoryAdapter.getColumn codecs hasher
          ((StorageWrite.insertTransactions [stx]).step MemoryAdapter.getColumn codecs hasher storage)) stx.tx_hash =
        (TransactionSchema codecs).decodeValue ((ReceiptSchema codecs).encodeValue receipt)) := by
  refine ⟨fun writes => ?_, fun Column _ getColumn storage first second bytes encoded same_height =>
    block_by_hash_after_same_height getColumn codecs hasher storage encoded same_height,
    fun storage stx receipt same_hash => memory_receipt_overwrites_transaction codecs hasher storage stx receipt same_hash⟩
  -- `map_category` gives every category a column family of its own
  have related := Trace.run_simulation (StorageWrite.step RocksAdapter.mapCategory codecs hasher)
    (Stores.apply hasher) (fun _ => True) (Represents RocksAdapter.mapCategory codecs hasher)
    (fun write _ _ _ represents => represents.step RocksAdapter.map_category_injective write) writes
    (fun _ _ => trivial) _ _ Represents.empty
  exact related.answers

def sampleHash : Hash := ⟨List.replicate 32 0, Hash.zeros_length⟩

def signedBy (pubkey : Bytes) : SignedTransaction :=
  ⟨⟨sampleHash, sampleHash, 0, 0, 0, ⟨"", "", ""⟩⟩, sampleHash, pubkey, []⟩

def sampleReceipt : Receipt := ⟨sampleHash, 0, sampleHash, 0, [], ⟨"", "", ⟨0, "", ""⟩⟩⟩

-- over `MemoryAdapter`, with any codecs and from any store, the transaction read
-- back after `sample_receipt` is inserted is not the one inserted, for one of two
-- transactions of `sample_hash`
example (codecs : Codecs) (hasher : Hasher) (storage : ImplStorage Unit) :
    ¬ (getTransactionByHash MemoryAdapter.getColumn codecs
        ((StorageWrite.insertReceipts [sampleReceipt]).step MemoryAdapter.getColumn codecs hasher
          ((StorageWrite.insertTransactions [signedBy [1]]).step MemoryAdapter.getColumn codecs hasher storage))
        sampleHash = .ok (signedBy [1]) ∧
      getTransactionByHash MemoryAdapter.getColumn codecs
        ((StorageWrite.insertReceipts [sampleReceipt]).step MemoryAdapter.getColumn codecs hasher
          ((StorageWrite.insertTransactions [signedBy [2]]).step MemoryAdapter.getColumn codecs hasher storage))
        sampleHash = .ok (signedBy [2])) := by
  rintro ⟨first, second⟩
  rw [show sampleHash = (signedBy [1]).tx_hash from rfl,
    memory_receipt_overwrites_transaction codecs hasher storage _ _ rfl] at first
  rw [show sampleHash = (signedBy [2]).tx_hash from rfl,
    memory_receipt_overwrites_transaction codecs hasher storage _ _ rfl] at second
  -- both reads decode the same receipt bytes
  have same := Except.ok.inj (first.symm.trans second)
  exact absurd same (by decide)

end Muta.Storage
