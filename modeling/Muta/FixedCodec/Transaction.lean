import Muta.FixedCodec.Primitive

/-! The `rlp` codecs of `fixed_codec::transaction`.

`RawTransaction` is written as eight items, `cycles_limit` before
`cycles_price` and `method` before `service_name`, unlike the order of its
fields; its decoder reads the same positions. `SignedTransaction` is four items,
the raw transaction nested as one of them.
-/

set_option autoImplicit false

namespace Muta

open Rlp FixedCodec

def RawTransaction.rlpAppend (tx : RawTransaction) : MayPanic Bytes :=
  beginList [Rlp.Encodable.rlpAppend tx.chain_id.asBytes, Rlp.Encodable.rlpAppend tx.cycles_limit,
    Rlp.Encodable.rlpAppend tx.cycles_price, Rlp.Encodable.rlpAppend tx.nonce.asBytes,
    Rlp.Encodable.rlpAppend tx.request.method, Rlp.Encodable.rlpAppend tx.request.service_name,
    Rlp.Encodable.rlpAppend tx.request.payload, Rlp.Encodable.rlpAppend tx.timeout]

def RawTransaction.decode (r : Rlp) : Rlp.Result RawTransaction := do
  let chain_id ← fromBytesAt Hash.fromBytes r 0
  let cycles_limit ← (← r.at 1).asVal
  let cycles_price ← (← r.at 2).asVal
  let nonce ← fromBytesAt Hash.fromBytes r 3
  let method ← (← r.at 4).asVal
  let service_name ← (← r.at 5).asVal
  let payload ← (← r.at 6).asVal
  let timeout ← (← r.at 7).asVal
  pure ⟨chain_id, nonce, timeout, cycles_price, cycles_limit, ⟨service_name, method, payload⟩⟩

instance : Rlp.Encodable RawTransaction := ⟨RawTransaction.rlpAppend⟩
instance : Rlp.Decodable RawTransaction := ⟨RawTransaction.decode⟩

def SignedTransaction.rlpAppend (tx : SignedTransaction) : MayPanic Bytes :=
  beginList [Rlp.Encodable.rlpAppend tx.pubkey, Rlp.Encodable.rlpAppend tx.raw,
    Rlp.Encodable.rlpAppend tx.signature, Rlp.Encodable.rlpAppend tx.tx_hash]

def SignedTransaction.decode (r : Rlp) : Rlp.Result SignedTransaction := do
  if !r.isList && r.size != 4 then throw (.error .RlpIncorrectListLen)
  let pubkey ← (← r.at 0).data
  let raw ← Rlp.decode (← r.at 1).asRaw
  let signature ← (← r.at 2).data
  let tx_hash ← Rlp.decode (← r.at 3).asRaw
  pure ⟨raw, tx_hash, pubkey, signature⟩

instance : Rlp.Encodable SignedTransaction := ⟨SignedTransaction.rlpAppend⟩
instance : Rlp.Decodable SignedTransaction := ⟨SignedTransaction.decode⟩

instance : FixedCodec RawTransaction := implDefaultFixedCodecFor RawTransaction
instance : FixedCodec SignedTransaction := implDefaultFixedCodecFor SignedTransaction

/-! ### Read back -/

theorem raw_transaction_readback : Readback RawTransaction (fun _ => True) := by
  intro tx _
  obtain ⟨e1, w1, r1⟩ := readback_uint64 tx.cycles_limit trivial
  obtain ⟨e2, w2, r2⟩ := readback_uint64 tx.cycles_price trivial
  obtain ⟨e4, w4, r4⟩ := readback_string tx.request.method trivial
  obtain ⟨e5, w5, r5⟩ := readback_string tx.request.service_name trivial
  obtain ⟨e6, w6, r6⟩ := readback_string tx.request.payload trivial
  obtain ⟨e7, w7, r7⟩ := readback_uint64 tx.timeout trivial
  -- the two hashes are read as payloads, not through their own codec
  have w0 : Rlp.Encodable.rlpAppend tx.chain_id.asBytes = .ok (encodeValue tx.chain_id.asBytes) :=
    rfl
  have w3 : Rlp.Encodable.rlpAppend tx.nonce.asBytes = .ok (encodeValue tx.nonce.asBytes) := rfl
  refine ⟨encodeList [encodeValue tx.chain_id.asBytes, e1, e2, encodeValue tx.nonce.asBytes, e4,
    e5, e6, e7].flatten, ?_,
    reads_of_items ⟨fun fits => frames_value _ (length_lt_of_encode_value fits), r1.framed,
      r2.framed, fun fits => frames_value _ (length_lt_of_encode_value fits), r4.framed,
      r5.framed, r6.framed, r7.framed⟩ fun r view fits => ?_⟩
  · show RawTransaction.rlpAppend _ = _
    simp [RawTransaction.rlpAppend, beginList, List.mapM_cons, w0, w1, w2, w3, w4, w5, w6, w7]
  · obtain ⟨f0, f1, f2, f3, f4, f5, f6, f7⟩ := fits
    show RawTransaction.decode r = _
    simp [RawTransaction.decode, fromBytesAt, view.at_eq, Rlp.asVal,
      data_encode_value _ (length_lt_of_encode_value f0),
      data_encode_value _ (length_lt_of_encode_value f3), r1.decode f1, r2.decode f2,
      r4.decode f4, r5.decode f5, r6.decode f6, r7.decode f7]

theorem signed_transaction_readback : Readback SignedTransaction (fun _ => True) := by
  intro tx _
  obtain ⟨e1, w1, r1⟩ := raw_transaction_readback tx.raw trivial
  obtain ⟨e3, w3, r3⟩ := hash_readback tx.tx_hash trivial
  have w0 : Rlp.Encodable.rlpAppend tx.pubkey = .ok (encodeValue tx.pubkey) := rfl
  have w2 : Rlp.Encodable.rlpAppend tx.signature = .ok (encodeValue tx.signature) := rfl
  refine ⟨encodeList [encodeValue tx.pubkey, e1, encodeValue tx.signature, e3].flatten, ?_,
    reads_of_items ⟨fun fits => frames_value _ (length_lt_of_encode_value fits), r1.framed,
      fun fits => frames_value _ (length_lt_of_encode_value fits), r3.framed⟩
      fun r view fits => ?_⟩
  · show SignedTransaction.rlpAppend _ = _
    simp [SignedTransaction.rlpAppend, beginList, List.mapM_cons, w0, w1, w2, w3]
  · obtain ⟨f0, f1, f2, f3⟩ := fits
    show SignedTransaction.decode r = _
    simp [SignedTransaction.decode, view.isList, view.at_eq, Rlp.decode, Rlp.asRaw,
      data_encode_value _ (length_lt_of_encode_value f0),
      data_encode_value _ (length_lt_of_encode_value f2), r1.decode f1, r3.decode f3]

/-! ### No decoder here panics -/

theorem raw_transaction_decode_no_panic (r : Rlp) :
    Fail.NoPanic (Rlp.Decodable.decode r : Rlp.Result RawTransaction) := by
  show Fail.NoPanic (RawTransaction.decode r)
  simp [RawTransaction.decode, Fail.no_panic_bind_iff, Rlp.asVal, string_decode_no_panic,
    uint64_decode_no_panic]

theorem signed_transaction_decode_no_panic (r : Rlp) :
    Fail.NoPanic (Rlp.Decodable.decode r : Rlp.Result SignedTransaction) := by
  show Fail.NoPanic (SignedTransaction.decode r)
  simp [SignedTransaction.decode, Fail.no_panic_bind_iff, Fail.no_panic_ite, Rlp.decode,
    raw_transaction_decode_no_panic, hash_decode_no_panic]

end Muta
