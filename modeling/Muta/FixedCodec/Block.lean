import Muta.FixedCodec.Primitive

/-! The `rlp` codecs of `fixed_codec::block`, with `ethbloom`'s codec of `Bloom`.

A `BlockHeader` is fifteen items, five of them lists; the decoder reads those
five with `rlp::decode_list`, which panics where the list cannot be read, and
so do the hash lists of `Block` and `Pill`. Every other field is read with `?`.
-/

set_option autoImplicit false

namespace Muta

open Rlp FixedCodec

/-- `impl_fixed_hash_rlp!(Bloom, 256)`: the 256 bytes as one byte string. -/
def Bloom.rlpAppend (bloom : Bloom) : MayPanic Bytes := .ok (encodeValue bloom.bytes)

def Bloom.decode (r : Rlp) : Rlp.Result Bloom :=
  monadLift <| decodeValue r.bytes fun bytes =>
    if same : bytes.length = 256 then .ok ⟨bytes, same⟩
    else if bytes.length < 256 then .error .RlpIsTooShort
    else .error .RlpIsTooBig

instance : Rlp.Encodable Bloom := ⟨Bloom.rlpAppend⟩
instance : Rlp.Decodable Bloom := ⟨Bloom.decode⟩

def Proof.rlpAppend (proof : Proof) : MayPanic Bytes :=
  beginList [Rlp.Encodable.rlpAppend proof.bitmap, Rlp.Encodable.rlpAppend proof.block_hash,
    Rlp.Encodable.rlpAppend proof.height, Rlp.Encodable.rlpAppend proof.round,
    Rlp.Encodable.rlpAppend proof.signature]

def Proof.decode (r : Rlp) : Rlp.Result Proof := do
  if !r.isList && r.size != 5 then throw (.error .RlpIncorrectListLen)
  let bitmap ← (← r.at 0).data
  let block_hash ← Rlp.decode (← r.at 1).asRaw
  let height ← (← r.at 2).asVal
  let round ← (← r.at 3).asVal
  let signature ← (← r.at 4).data
  pure ⟨height, round, block_hash, signature, bitmap⟩

instance : Rlp.Encodable Proof := ⟨Proof.rlpAppend⟩
instance : Rlp.Decodable Proof := ⟨Proof.decode⟩

def Validator.rlpAppend (validator : Validator) : MayPanic Bytes :=
  beginList [Rlp.Encodable.rlpAppend validator.address,
    Rlp.Encodable.rlpAppend validator.propose_weight, Rlp.Encodable.rlpAppend validator.vote_weight]

def Validator.decode (r : Rlp) : Rlp.Result Validator := do
  if !r.isList && r.size != 3 then throw (.error .RlpIncorrectListLen)
  let address ← Rlp.decode (← r.at 0).asRaw
  let propose_weight ← (← r.at 1).asVal
  let vote_weight ← (← r.at 2).asVal
  pure ⟨address, propose_weight, vote_weight⟩

instance : Rlp.Encodable Validator := ⟨Validator.rlpAppend⟩
instance : Rlp.Decodable Validator := ⟨Validator.decode⟩

def BlockHeader.rlpAppend (header : BlockHeader) : MayPanic Bytes :=
  beginList [Rlp.Encodable.rlpAppend header.chain_id, appendList header.confirm_root,
    appendList header.cycles_used, Rlp.Encodable.rlpAppend header.height,
    Rlp.Encodable.rlpAppend header.exec_height, appendList header.logs_bloom,
    Rlp.Encodable.rlpAppend header.order_root, Rlp.Encodable.rlpAppend header.pre_hash,
    Rlp.Encodable.rlpAppend header.proof, Rlp.Encodable.rlpAppend header.proposer,
    appendList header.receipt_root, Rlp.Encodable.rlpAppend header.state_root,
    Rlp.Encodable.rlpAppend header.timestamp, Rlp.Encodable.rlpAppend header.validator_version,
    appendList header.validators]

def BlockHeader.decode (r : Rlp) : Rlp.Result BlockHeader := do
  if !r.isList && r.size != 15 then throw (.error .RlpIncorrectListLen)
  let chain_id ← Rlp.decode (← r.at 0).asRaw
  let confirm_root ← decodeList (← r.at 1).asRaw
  let cycles_used ← decodeList (← r.at 2).asRaw
  let height ← (← r.at 3).asVal
  let exec_height ← (← r.at 4).asVal
  let logs_bloom ← decodeList (← r.at 5).asRaw
  let order_root ← Rlp.decode (← r.at 6).asRaw
  let pre_hash ← Rlp.decode (← r.at 7).asRaw
  let proof ← Rlp.decode (← r.at 8).asRaw
  let proposer ← Rlp.decode (← r.at 9).asRaw
  let receipt_root ← decodeList (← r.at 10).asRaw
  let state_root ← Rlp.decode (← r.at 11).asRaw
  let timestamp ← (← r.at 12).asVal
  let validator_version ← (← r.at 13).asVal
  let validators ← decodeList (← r.at 14).asRaw
  pure ⟨chain_id, height, exec_height, pre_hash, timestamp, logs_bloom, order_root, confirm_root,
    state_root, receipt_root, cycles_used, proposer, proof, validator_version, validators⟩

instance : Rlp.Encodable BlockHeader := ⟨BlockHeader.rlpAppend⟩
instance : Rlp.Decodable BlockHeader := ⟨BlockHeader.decode⟩

def Block.rlpAppend (block : Block) : MayPanic Bytes :=
  beginList [Rlp.Encodable.rlpAppend block.header, appendList block.ordered_tx_hashes]

def Block.decode (r : Rlp) : Rlp.Result Block := do
  if !r.isList && r.size != 2 then throw (.error .RlpIncorrectListLen)
  let header ← Rlp.decode (← r.at 0).asRaw
  let ordered_tx_hashes ← decodeList (← r.at 1).asRaw
  pure ⟨header, ordered_tx_hashes⟩

instance : Rlp.Encodable Block := ⟨Block.rlpAppend⟩
instance : Rlp.Decodable Block := ⟨Block.decode⟩

def Pill.rlpAppend (pill : Pill) : MayPanic Bytes :=
  beginList [Rlp.Encodable.rlpAppend pill.block, appendList pill.propose_hashes]

def Pill.decode (r : Rlp) : Rlp.Result Pill := do
  if !r.isList && r.size != 2 then throw (.error .RlpIncorrectListLen)
  let block ← Rlp.decode (← r.at 0).asRaw
  let propose_hashes ← decodeList (← r.at 1).asRaw
  pure ⟨block, propose_hashes⟩

instance : Rlp.Encodable Pill := ⟨Pill.rlpAppend⟩
instance : Rlp.Decodable Pill := ⟨Pill.decode⟩

instance : FixedCodec Proof := implDefaultFixedCodecFor Proof
instance : FixedCodec Validator := implDefaultFixedCodecFor Validator
instance : FixedCodec Block := implDefaultFixedCodecFor Block
instance : FixedCodec BlockHeader := implDefaultFixedCodecFor BlockHeader
instance : FixedCodec Pill := implDefaultFixedCodecFor Pill

/-! ### Read back -/

theorem bloom_readback : Readback Bloom (fun _ => True) :=
  readback_of_value Bloom.bytes (fun _ => rfl) fun bloom fits rest => by
    show Bloom.decode _ = _
    simp [Bloom.decode, decode_value_encode_value _ fits, bloom.length_eq]

theorem decode_list_readback {α : Type} [Rlp.Decodable α] {values : List α} {encoding : Bytes}
    (reads : encoding.length < 2 ^ 64 → Framed encoding ∧ Rlp.asList ⟨encoding⟩ = .ok values)
    (fits : encoding.length < 2 ^ 64) : (decodeList encoding : Rlp.Result (List α)) = .ok values := by
  simp [decodeList, (reads fits).2]

theorem proof_readback : Readback Proof (fun _ => True) := by
  intro proof _
  obtain ⟨e1, w1, r1⟩ := hash_readback proof.block_hash trivial
  obtain ⟨e2, w2, r2⟩ := readback_uint64 proof.height trivial
  obtain ⟨e3, w3, r3⟩ := readback_uint64 proof.round trivial
  have w0 : Rlp.Encodable.rlpAppend proof.bitmap = .ok (encodeValue proof.bitmap) := rfl
  have w4 : Rlp.Encodable.rlpAppend proof.signature = .ok (encodeValue proof.signature) := rfl
  refine ⟨encodeList [encodeValue proof.bitmap, e1, e2, e3, encodeValue proof.signature].flatten,
    ?_, reads_of_items ⟨fun fits => frames_value _ (length_lt_of_encode_value fits), r1.framed,
      r2.framed, r3.framed, fun fits => frames_value _ (length_lt_of_encode_value fits)⟩
      fun r view fits => ?_⟩
  · show Proof.rlpAppend _ = _
    simp [Proof.rlpAppend, beginList, List.mapM_cons, w0, w1, w2, w3, w4]
  · obtain ⟨f0, f1, f2, f3, f4⟩ := fits
    show Proof.decode r = _
    simp [Proof.decode, view.isList, view.at_eq, Rlp.decode, Rlp.asRaw, Rlp.asVal,
      data_encode_value _ (length_lt_of_encode_value f0), r1.decode f1, r2.decode f2,
      r3.decode f3, data_encode_value _ (length_lt_of_encode_value f4)]

theorem validator_readback : Readback Validator (fun _ => True) := by
  intro validator _
  obtain ⟨e0, w0, r0⟩ := address_readback validator.address trivial
  obtain ⟨e1, w1, r1⟩ := readback_uint32 validator.propose_weight trivial
  obtain ⟨e2, w2, r2⟩ := readback_uint32 validator.vote_weight trivial
  refine ⟨encodeList [e0, e1, e2].flatten, ?_,
    reads_of_items ⟨r0.framed, r1.framed, r2.framed⟩ fun r view fits => ?_⟩
  · show Validator.rlpAppend _ = _
    simp [Validator.rlpAppend, beginList, List.mapM_cons, w0, w1, w2]
  · obtain ⟨f0, f1, f2⟩ := fits
    show Validator.decode r = _
    simp [Validator.decode, view.isList, view.at_eq, Rlp.decode, Rlp.asRaw, Rlp.asVal,
      r0.decode f0, r1.decode f1, r2.decode f2]

theorem block_header_readback : Readback BlockHeader (fun _ => True) := by
  intro header _
  obtain ⟨e0, w0, r0⟩ := hash_readback header.chain_id trivial
  obtain ⟨e1, w1, r1⟩ := readback_list hash_readback header.confirm_root fun _ _ => trivial
  obtain ⟨e2, w2, r2⟩ := readback_list readback_uint64 header.cycles_used fun _ _ => trivial
  obtain ⟨e3, w3, r3⟩ := readback_uint64 header.height trivial
  obtain ⟨e4, w4, r4⟩ := readback_uint64 header.exec_height trivial
  obtain ⟨e5, w5, r5⟩ := readback_list bloom_readback header.logs_bloom fun _ _ => trivial
  obtain ⟨e6, w6, r6⟩ := hash_readback header.order_root trivial
  obtain ⟨e7, w7, r7⟩ := hash_readback header.pre_hash trivial
  obtain ⟨e8, w8, r8⟩ := proof_readback header.proof trivial
  obtain ⟨e9, w9, r9⟩ := address_readback header.proposer trivial
  obtain ⟨e10, w10, r10⟩ := readback_list hash_readback header.receipt_root fun _ _ => trivial
  obtain ⟨e11, w11, r11⟩ := hash_readback header.state_root trivial
  obtain ⟨e12, w12, r12⟩ := readback_uint64 header.timestamp trivial
  obtain ⟨e13, w13, r13⟩ := readback_uint64 header.validator_version trivial
  obtain ⟨e14, w14, r14⟩ := readback_list validator_readback header.validators fun _ _ => trivial
  refine ⟨encodeList [e0, e1, e2, e3, e4, e5, e6, e7, e8, e9, e10, e11, e12, e13, e14].flatten, ?_,
    reads_of_items ⟨r0.framed, fun fits => (r1 fits).1, fun fits => (r2 fits).1, r3.framed,
      r4.framed, fun fits => (r5 fits).1, r6.framed, r7.framed, r8.framed, r9.framed,
      fun fits => (r10 fits).1, r11.framed, r12.framed, r13.framed, fun fits => (r14 fits).1⟩
      fun r view fits => ?_⟩
  · show BlockHeader.rlpAppend _ = _
    simp [BlockHeader.rlpAppend, beginList, List.mapM_cons, w0, w1, w2, w3, w4, w5, w6, w7, w8,
      w9, w10, w11, w12, w13, w14]
  · obtain ⟨f0, f1, f2, f3, f4, f5, f6, f7, f8, f9, f10, f11, f12, f13, f14⟩ := fits
    show BlockHeader.decode r = _
    simp [BlockHeader.decode, view.isList, view.at_eq, Rlp.decode, Rlp.asRaw, Rlp.asVal,
      r0.decode f0, decode_list_readback r1 f1, decode_list_readback r2 f2, r3.decode f3,
      r4.decode f4, decode_list_readback r5 f5, r6.decode f6, r7.decode f7, r8.decode f8,
      r9.decode f9, decode_list_readback r10 f10, r11.decode f11, r12.decode f12, r13.decode f13,
      decode_list_readback r14 f14]

theorem block_readback : Readback Block (fun _ => True) := by
  intro block _
  obtain ⟨e0, w0, r0⟩ := block_header_readback block.header trivial
  obtain ⟨e1, w1, r1⟩ := readback_list hash_readback block.ordered_tx_hashes fun _ _ => trivial
  refine ⟨encodeList [e0, e1].flatten, ?_,
    reads_of_items ⟨r0.framed, fun fits => (r1 fits).1⟩ fun r view fits => ?_⟩
  · show Block.rlpAppend _ = _
    simp [Block.rlpAppend, beginList, List.mapM_cons, w0, w1]
  · obtain ⟨f0, f1⟩ := fits
    show Block.decode r = _
    simp [Block.decode, view.isList, view.at_eq, Rlp.decode, Rlp.asRaw, r0.decode f0,
      decode_list_readback r1 f1]

theorem block_encodes (block : Block) : ∃ bytes, encode_fixed block = .ok bytes := by
  obtain ⟨bytes, encoded, -⟩ := round_trips_of_readback block_readback block trivial
  exact ⟨bytes, encoded⟩

theorem pill_readback : Readback Pill (fun _ => True) := by
  intro pill _
  obtain ⟨e0, w0, r0⟩ := block_readback pill.block trivial
  obtain ⟨e1, w1, r1⟩ := readback_list hash_readback pill.propose_hashes fun _ _ => trivial
  refine ⟨encodeList [e0, e1].flatten, ?_,
    reads_of_items ⟨r0.framed, fun fits => (r1 fits).1⟩ fun r view fits => ?_⟩
  · show Pill.rlpAppend _ = _
    simp [Pill.rlpAppend, beginList, List.mapM_cons, w0, w1]
  · obtain ⟨f0, f1⟩ := fits
    show Pill.decode r = _
    simp [Pill.decode, view.isList, view.at_eq, Rlp.decode, Rlp.asRaw, r0.decode f0,
      decode_list_readback r1 f1]

/-! ### Which decoders panic -/

theorem proof_decode_no_panic (r : Rlp) : Fail.NoPanic (Rlp.Decodable.decode r : Rlp.Result Proof) := by
  show Fail.NoPanic (Proof.decode r)
  simp [Proof.decode, Fail.no_panic_bind_iff, Fail.no_panic_ite, Rlp.decode, Rlp.asVal,
    hash_decode_no_panic, uint64_decode_no_panic]

theorem validator_decode_no_panic (r : Rlp) :
    Fail.NoPanic (Rlp.Decodable.decode r : Rlp.Result Validator) := by
  show Fail.NoPanic (Validator.decode r)
  simp [Validator.decode, Fail.no_panic_bind_iff, Fail.no_panic_ite, Rlp.decode, Rlp.asVal,
    address_decode_no_panic, uint32_decode_no_panic]

end Muta
