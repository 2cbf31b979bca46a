import Muta.FixedCodec.Basic

/-! The `rlp` codecs of `fixed_codec::primitive`.

`Hash` and `Address` are written as a list of one byte string and read back
through `from_bytes`; `Hex` is written without its `0x`, as a list of one
string, and read back with `0x` put in front again, so it reads back exactly
when it has the prefix (`Hex.Prefixed`). `ValidatorExtend` and `Metadata`
are lists of their fields.
-/

set_option autoImplicit false

namespace Muta

open Rlp FixedCodec

/-! ### Hash and Address -/

/-- `s.begin_list(1).append(&self.as_bytes().to_vec())`, for both `Hash` and `Address`. -/
def fixedBytesRlpAppend (bytes : Bytes) : MayPanic Bytes :=
  beginList [Rlp.Encodable.rlpAppend bytes]

/-- `X::from_bytes(BytesMut::from(r.at(index)?.data()?).freeze()).map_err(|_| RlpInvalidLength)`:
the payload of an item, which `from_bytes` must accept. -/
def fromBytesAt {β : Type} (fromBytes : Bytes → Except TypesError β) (r : Rlp) (index : Nat) :
    Except DecoderError β := do
  let item ← r.at index
  let data ← item.data
  (fromBytes data).mapError fun _ => .RlpInvalidLength

def fixedBytesDecode {β : Type} (fromBytes : Bytes → Except TypesError β) (r : Rlp) :
    Rlp.Result β :=
  monadLift (fromBytesAt fromBytes r 0)

def Hash.rlpAppend (hash : Hash) : MayPanic Bytes := fixedBytesRlpAppend hash.asBytes

def Hash.decode (r : Rlp) : Rlp.Result Hash := fixedBytesDecode Hash.fromBytes r

def Address.rlpAppend (address : Address) : MayPanic Bytes := fixedBytesRlpAppend address.asBytes

def Address.decode (r : Rlp) : Rlp.Result Address := fixedBytesDecode Address.fromBytes r

instance : Rlp.Encodable Hash := ⟨Hash.rlpAppend⟩
instance : Rlp.Decodable Hash := ⟨Hash.decode⟩
instance : Rlp.Encodable Address := ⟨Address.rlpAppend⟩
instance : Rlp.Decodable Address := ⟨Address.decode⟩

/-! ### Hex -/

def Hex.rlpAppend (hex : Hex) : MayPanic Bytes :=
  beginList [hex.asStringTrim0x >>= Rlp.Encodable.rlpAppend]

def Hex.decode (r : Rlp) : Rlp.Result Hex := do
  let item ← r.at 0
  let s : String ← item.asVal
  let hex ← ((Hex.fromString ("0x" ++ s)).mapError fun _ =>
    .Custom "decode hex from string error" : Except DecoderError Hex)
  pure hex

instance : Rlp.Encodable Hex := ⟨Hex.rlpAppend⟩
instance : Rlp.Decodable Hex := ⟨Hex.decode⟩

/-! ### ValidatorExtend and Metadata -/

def ValidatorExtend.rlpAppend (validator : ValidatorExtend) : MayPanic Bytes :=
  beginList [Rlp.Encodable.rlpAppend validator.bls_pub_key, Rlp.Encodable.rlpAppend validator.address,
    Rlp.Encodable.rlpAppend validator.propose_weight, Rlp.Encodable.rlpAppend validator.vote_weight]

def ValidatorExtend.decode (r : Rlp) : Rlp.Result ValidatorExtend := do
  if !r.isList && r.size != 4 then throw (.error .RlpIncorrectListLen)
  let bls_pub_key ← Rlp.decode (← r.at 0).asRaw
  let address ← Rlp.decode (← r.at 1).asRaw
  let propose_weight ← (← r.at 2).asVal
  let vote_weight ← (← r.at 3).asVal
  pure ⟨bls_pub_key, address, propose_weight, vote_weight⟩

instance : Rlp.Encodable ValidatorExtend := ⟨ValidatorExtend.rlpAppend⟩
instance : Rlp.Decodable ValidatorExtend := ⟨ValidatorExtend.decode⟩

def Metadata.rlpAppend (metadata : Metadata) : MayPanic Bytes :=
  beginList [Rlp.Encodable.rlpAppend metadata.chain_id, Rlp.Encodable.rlpAppend metadata.common_ref,
    Rlp.Encodable.rlpAppend metadata.timeout_gap, Rlp.Encodable.rlpAppend metadata.cycles_limit,
    Rlp.Encodable.rlpAppend metadata.cycles_price, Rlp.Encodable.rlpAppend metadata.interval,
    appendList metadata.verifier_list, Rlp.Encodable.rlpAppend metadata.propose_ratio,
    Rlp.Encodable.rlpAppend metadata.prevote_ratio, Rlp.Encodable.rlpAppend metadata.precommit_ratio,
    Rlp.Encodable.rlpAppend metadata.brake_ratio, Rlp.Encodable.rlpAppend metadata.tx_num_limit,
    Rlp.Encodable.rlpAppend metadata.max_tx_size]

def Metadata.decode (r : Rlp) : Rlp.Result Metadata := do
  let chain_id ← (← r.at 0).asVal
  let common_ref ← (← r.at 1).asVal
  let timeout_gap ← (← r.at 2).asVal
  let cycles_limit ← (← r.at 3).asVal
  let cycles_price ← (← r.at 4).asVal
  let interval ← (← r.at 5).asVal
  let verifier_list ← (← r.at 6).asList
  let propose_ratio ← (← r.at 7).asVal
  let prevote_ratio ← (← r.at 8).asVal
  let precommit_ratio ← (← r.at 9).asVal
  let brake_ratio ← (← r.at 10).asVal
  let tx_num_limit ← (← r.at 11).asVal
  let max_tx_size ← (← r.at 12).asVal
  pure ⟨chain_id, common_ref, timeout_gap, cycles_limit, cycles_price, interval, verifier_list,
    propose_ratio, prevote_ratio, precommit_ratio, brake_ratio, tx_num_limit, max_tx_size⟩

instance : Rlp.Encodable Metadata := ⟨Metadata.rlpAppend⟩
instance : Rlp.Decodable Metadata := ⟨Metadata.decode⟩

instance : FixedCodec Hash := implDefaultFixedCodecFor Hash
instance : FixedCodec Address := implDefaultFixedCodecFor Address
instance : FixedCodec Hex := implDefaultFixedCodecFor Hex
instance : FixedCodec Metadata := implDefaultFixedCodecFor Metadata

def Metadata.Prefixed (metadata : Metadata) : Prop :=
  metadata.common_ref.Prefixed ∧ ∀ validator ∈ metadata.verifier_list, validator.bls_pub_key.Prefixed

/-! ### Read back -/

theorem fixed_bytes_readback {β : Type} [Rlp.Encodable β] [Rlp.Decodable β] (asBytes : β → Bytes)
    (fromBytes : Bytes → Except TypesError β)
    (writes : ∀ value, Rlp.Encodable.rlpAppend value = fixedBytesRlpAppend (asBytes value))
    (reads : ∀ r, Rlp.Decodable.decode r = fixedBytesDecode fromBytes r)
    (inverse : ∀ value, fromBytes (asBytes value) = .ok value) :
    Readback β (fun _ => True) := by
  intro value _
  have short : ∀ {bytes : Bytes}, (encodeValue bytes).length < 2 ^ 64 → bytes.length < 2 ^ 64 :=
    lt_of_le_of_lt (length_le_encode_value _)
  refine ⟨encodeList [encodeValue (asBytes value)].flatten, ?_,
    reads_of_items (fun fits => frames_value _ (short fits)) fun r view fits => ?_⟩
  · simp [writes, fixedBytesRlpAppend, Rlp.Encodable.rlpAppend, beginList]
  · simp [reads, fixedBytesDecode, fromBytesAt, view.at_eq, data_encode_value _ (short fits),
      inverse]

theorem hash_readback : Readback Hash (fun _ => True) :=
  fixed_bytes_readback Hash.asBytes Hash.fromBytes (fun _ => rfl) (fun _ => rfl)
    Hash.from_bytes_as_bytes

theorem address_readback : Readback Address (fun _ => True) :=
  fixed_bytes_readback Address.asBytes Address.fromBytes (fun _ => rfl) (fun _ => rfl)
    Address.from_bytes_as_bytes

theorem Hash.encode_fixed_eq (hash : Hash) :
    (encode_fixed hash : ProtocolResult Bytes) = .ok ([0xe1, 0xa0] ++ hash.asBytes) := by
  have single : ∀ byte, hash.asBytes ≠ [byte] := fun byte same => by
    have length := hash.as_bytes_length
    rw [same] at length
    simp at length
  have value : encodeValue hash.asBytes = [0xa0] ++ hash.asBytes := by
    unfold encodeValue
    split
    · rename_i byte same
      exact absurd same (single byte)
    · simp [encodeHeader, hash.as_bytes_length]
  simp [Rlp.encode, Rlp.Encodable.rlpAppend, Hash.rlpAppend, fixedBytesRlpAppend, beginList,
    value, encodeList, encodeHeader, hash.as_bytes_length]

theorem hash_inverse : Inverse Hash := by
  intro hash
  obtain ⟨bytes, writes, reads⟩ := round_trips_of_readback hash_readback hash trivial
  refine ⟨bytes, writes, reads ?_⟩
  -- the encoding is the two headers and the 32 bytes
  have written : [0xe1, 0xa0] ++ hash.asBytes = bytes :=
    Except.ok.inj ((Hash.encode_fixed_eq hash).symm.trans writes)
  rw [← written]
  simp

theorem starts_with_append (s : String) : startsWith ("0x" ++ s) "0x" = true := by
  rw [startsWith, List.isPrefixOf_iff_prefix, utf8_append]
  exact List.prefix_append _ _

theorem as_string_trim0x_prefixed (digits : String) :
    Hex.asStringTrim0x ⟨"0x" ++ digits⟩ = .ok digits := by
  have two : utf8 "0x" = [48, 120] := rfl
  simp [Hex.asStringTrim0x, utf8_append, two, from_utf8_utf8]

theorem hex_readback : Readback Hex Hex.Prefixed := by
  rintro ⟨value⟩ ⟨digits, rfl⟩
  obtain ⟨encoding, writes, reads⟩ := readback_string digits trivial
  refine ⟨encodeList [encoding].flatten, ?_, reads_of_items reads.framed fun r view fits => ?_⟩
  · show Hex.rlpAppend _ = _
    simp [Hex.rlpAppend, as_string_trim0x_prefixed, beginList, writes]
  · show Hex.decode r = _
    simp [Hex.decode, view.at_eq, Rlp.asVal, reads.decode fits, Hex.fromString,
      starts_with_append]

theorem validator_extend_readback :
    Readback ValidatorExtend (fun validator => validator.bls_pub_key.Prefixed) := by
  intro validator prefixed
  obtain ⟨e0, w0, r0⟩ := hex_readback validator.bls_pub_key prefixed
  obtain ⟨e1, w1, r1⟩ := address_readback validator.address trivial
  obtain ⟨e2, w2, r2⟩ := readback_uint32 validator.propose_weight trivial
  obtain ⟨e3, w3, r3⟩ := readback_uint32 validator.vote_weight trivial
  refine ⟨encodeList [e0, e1, e2, e3].flatten, ?_,
    reads_of_items ⟨r0.framed, r1.framed, r2.framed, r3.framed⟩ fun r view fits => ?_⟩
  · show ValidatorExtend.rlpAppend _ = _
    simp [ValidatorExtend.rlpAppend, beginList, List.mapM_cons, w0, w1, w2, w3]
  · obtain ⟨f0, f1, f2, f3⟩ := fits
    show ValidatorExtend.decode r = _
    simp [ValidatorExtend.decode, view.isList, view.at_eq, Rlp.decode, Rlp.asRaw, Rlp.asVal,
      r0.decode f0, r1.decode f1, r2.decode f2, r3.decode f3]

theorem metadata_readback : Readback Metadata Metadata.Prefixed := by
  intro metadata ⟨common_prefixed, verifiers_prefixed⟩
  obtain ⟨e0, w0, r0⟩ := hash_readback metadata.chain_id trivial
  obtain ⟨e1, w1, r1⟩ := hex_readback metadata.common_ref common_prefixed
  obtain ⟨e2, w2, r2⟩ := readback_uint64 metadata.timeout_gap trivial
  obtain ⟨e3, w3, r3⟩ := readback_uint64 metadata.cycles_limit trivial
  obtain ⟨e4, w4, r4⟩ := readback_uint64 metadata.cycles_price trivial
  obtain ⟨e5, w5, r5⟩ := readback_uint64 metadata.interval trivial
  obtain ⟨e6, w6, r6⟩ := readback_list validator_extend_readback metadata.verifier_list
    verifiers_prefixed
  obtain ⟨e7, w7, r7⟩ := readback_uint64 metadata.propose_ratio trivial
  obtain ⟨e8, w8, r8⟩ := readback_uint64 metadata.prevote_ratio trivial
  obtain ⟨e9, w9, r9⟩ := readback_uint64 metadata.precommit_ratio trivial
  obtain ⟨e10, w10, r10⟩ := readback_uint64 metadata.brake_ratio trivial
  obtain ⟨e11, w11, r11⟩ := readback_uint64 metadata.tx_num_limit trivial
  obtain ⟨e12, w12, r12⟩ := readback_uint64 metadata.max_tx_size trivial
  refine ⟨encodeList [e0, e1, e2, e3, e4, e5, e6, e7, e8, e9, e10, e11, e12].flatten, ?_,
    reads_of_items ⟨r0.framed, r1.framed, r2.framed, r3.framed, r4.framed, r5.framed,
      fun fits => (r6 fits).1, r7.framed, r8.framed, r9.framed, r10.framed, r11.framed,
      r12.framed⟩ fun r view fits => ?_⟩
  · show Metadata.rlpAppend _ = _
    simp [Metadata.rlpAppend, beginList, List.mapM_cons, w0, w1, w2, w3, w4, w5, w6, w7, w8, w9,
      w10, w11, w12]
  · obtain ⟨f0, f1, f2, f3, f4, f5, f6, f7, f8, f9, f10, f11, f12⟩ := fits
    show Metadata.decode r = _
    simp [Metadata.decode, view.at_eq, Rlp.asVal, r0.decode f0, r1.decode f1, r2.decode f2,
      r3.decode f3, r4.decode f4, r5.decode f5, (r6 f6).2, r7.decode f7, r8.decode f8,
      r9.decode f9, r10.decode f10, r11.decode f11, r12.decode f12]

/-! ### No decoder here panics -/

theorem fixed_bytes_decode_no_panic {β : Type} (fromBytes : Bytes → Except TypesError β) (r : Rlp) :
    Fail.NoPanic (fixedBytesDecode fromBytes r) :=
  Fail.NoPanic.lift _

theorem hash_decode_no_panic (r : Rlp) : Fail.NoPanic (Rlp.Decodable.decode r : Rlp.Result Hash) :=
  fixed_bytes_decode_no_panic Hash.fromBytes r

theorem address_decode_no_panic (r : Rlp) :
    Fail.NoPanic (Rlp.Decodable.decode r : Rlp.Result Address) :=
  fixed_bytes_decode_no_panic Address.fromBytes r

theorem hex_decode_no_panic (r : Rlp) : Fail.NoPanic (Rlp.Decodable.decode r : Rlp.Result Hex) := by
  show Fail.NoPanic (Hex.decode r)
  simp [Hex.decode, Fail.no_panic_bind_iff, Rlp.asVal, string_decode_no_panic]

theorem validator_extend_decode_no_panic (r : Rlp) :
    Fail.NoPanic (Rlp.Decodable.decode r : Rlp.Result ValidatorExtend) := by
  show Fail.NoPanic (ValidatorExtend.decode r)
  simp [ValidatorExtend.decode, Fail.no_panic_bind_iff, Fail.no_panic_ite, Rlp.decode, Rlp.asVal,
    hex_decode_no_panic, address_decode_no_panic, uint32_decode_no_panic]

theorem metadata_decode_no_panic (r : Rlp) :
    Fail.NoPanic (Rlp.Decodable.decode r : Rlp.Result Metadata) := by
  show Fail.NoPanic (Metadata.decode r)
  simp [Metadata.decode, Fail.no_panic_bind_iff, Rlp.asVal, hash_decode_no_panic,
    hex_decode_no_panic, uint64_decode_no_panic,
    as_list_no_panic validator_extend_decode_no_panic]

end Muta
