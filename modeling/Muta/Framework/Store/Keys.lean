import Muta.Framework.State

/-! `FixedKeys`, the key list a store keeps in the state, from `binding::store`.

The keys are written as a list of one item, itself the list of the keys'
encodings as byte strings; an encoding that fails panics. Reading them back
reads that list with `rlp::decode_list` and decodes every key, an error of which
becomes `Custom`. The `FixedCodec` of the list is the default one. When the
keys' codec has an inverse, the list reads back (`fixed_keys_readback`).
-/

set_option autoImplicit false

namespace Muta.Framework

open Rlp FixedCodec

structure FixedKeys (K : Type) where
  inner : List K

namespace FixedKeys

variable {K : Type} [FixedCodec K]

def rlpAppend (keys : FixedKeys K) : MayPanic Bytes := do
  let inner ← keys.inner.mapM fun key => Fail.expectValue "encode should not fail" (encode_fixed key)
  beginList [appendList inner]

def decode (r : Rlp) : Rlp.Result (FixedKeys K) := do
  let inner_u8 : List Bytes ← decodeList (← r.at 0).asRaw
  let inner ← Fail.mapFail (fun _ => DecoderError.Custom "decode K from bytes fail")
    (inner_u8.mapM fun bytes => (decode_fixed bytes : Muta.ProtocolResult K))
  pure ⟨inner⟩

instance : Rlp.Encodable (FixedKeys K) := ⟨rlpAppend⟩
instance : Rlp.Decodable (FixedKeys K) := ⟨decode⟩
instance : FixedCodec (FixedKeys K) := implDefaultFixedCodecFor (FixedKeys K)

theorem encodings_of_inverse (inverse : Inverse K) (keys : List K) :
    ∃ encodings, keys.mapM (fun key => Fail.expectValue "encode should not fail" (encode_fixed key)) =
        .ok encodings ∧
      encodings.mapM (fun bytes => (decode_fixed bytes : Muta.ProtocolResult K)) = .ok keys ∧
      encodings.length = keys.length ∧
      ∀ bytes ∈ encodings, ∃ key ∈ keys, encode_fixed key = .ok bytes := by
  induction keys with
  | nil => exact ⟨[], rfl, rfl, rfl, by simp⟩
  | cons key rest ih =>
    obtain ⟨encoding, writes, reads⟩ := inverse key
    obtain ⟨encodings, rest_writes, rest_reads, rest_length, rest_written⟩ := ih
    refine ⟨encoding :: encodings, ?_, ?_, by simp [rest_length], ?_⟩
    · simp [List.mapM_cons, writes, rest_writes]
    · simp [List.mapM_cons, reads, rest_reads]
    · intro bytes member
      rcases List.mem_cons.mp member with rfl | later
      · exact ⟨key, List.mem_cons_self, writes⟩
      · obtain ⟨other, other_member, other_writes⟩ := rest_written bytes later
        exact ⟨other, List.mem_cons_of_mem key other_member, other_writes⟩

theorem fixed_keys_readback (inverse : Inverse K) : Readback (FixedKeys K) (fun _ => True) := by
  rintro ⟨keys⟩ -
  obtain ⟨encodings, writes, reads, -⟩ := encodings_of_inverse inverse keys
  -- the one item is the list of the encodings, written by `append_list`
  obtain ⟨list, list_writes, list_reads⟩ := readback_list readback_bytes encodings fun _ _ => trivial
  refine ⟨encodeList [list].flatten, ?_,
    reads_of_items (fun fits => (list_reads fits).1) fun r view fits => ?_⟩
  · show rlpAppend _ = _
    simp [rlpAppend, writes, beginList, list_writes]
  · have listed : (decodeList list : Rlp.Result (List Bytes)) = .ok encodings := by
      simp [decodeList, (list_reads fits).2]
    show decode r = _
    simp [decode, view.at_eq, Rlp.asRaw, listed, reads]

theorem rlp_append_eq {keys : List K} {encodings : List Bytes}
    (writes : keys.mapM (fun key => Fail.expectValue "encode should not fail" (encode_fixed key)) =
      .ok encodings) :
    rlpAppend ⟨keys⟩ = .ok (encodeList (encodeList (encodings.map encodeValue).flatten)) := by
  have items : encodings.map (Encodable.rlpAppend : Bytes → MayPanic Bytes) =
      (encodings.map encodeValue).map .ok := by
    simp only [List.map_map]
    rfl
  simp only [rlpAppend, writes, except_ok_bind, appendList, items, begin_list_ok]
  simpa using begin_list_ok [encodeList (encodings.map encodeValue).flatten]

theorem length_encode_keys_lt {encodings : List Bytes} (few : encodings.length < 2 ^ 32)
    (short : ∀ bytes ∈ encodings, bytes.length < 2 ^ 31) :
    (encodeList (encodeList (encodings.map encodeValue).flatten)).length < 2 ^ 64 := by
  have each : ∀ item ∈ encodings.map encodeValue, item.length ≤ 2 ^ 31 + 9 := by
    intro item member
    obtain ⟨bytes, bytes_member, rfl⟩ := List.mem_map.mp member
    have bound := short bytes bytes_member
    have header := length_encode_value_le bytes (by omega)
    omega
  have payload : (encodings.map encodeValue).flatten.length ≤ encodings.length * (2 ^ 31 + 9) := by
    rw [List.length_flatten]
    calc ((encodings.map encodeValue).map List.length).sum
        ≤ ((encodings.map encodeValue).map List.length).length • (2 ^ 31 + 9) :=
          List.sum_le_card_nsmul _ _ (by simpa using each)
      _ = encodings.length * (2 ^ 31 + 9) := by simp
  have inner := length_encode_list_le (encodings.map encodeValue).flatten (by omega)
  have outer := length_encode_list_le (encodeList (encodings.map encodeValue).flatten) (by omega)
  omega

theorem decode_encode_fixed (inverse : Inverse K) {keys : List K} {bytes : Bytes}
    (writes : encode_fixed (⟨keys⟩ : FixedKeys K) = .ok bytes) (fits : bytes.length < 2 ^ 64) :
    (decode_fixed bytes : Muta.ProtocolResult (FixedKeys K)) = .ok ⟨keys⟩ := by
  obtain ⟨written, writes', reads⟩ := round_trips_of_readback (fixed_keys_readback inverse) ⟨keys⟩ trivial
  rw [writes] at writes'
  cases writes'
  exact reads fits

theorem length_encode_fixed_lt (inverse : Inverse K) {keys : List K} (few : keys.length < 2 ^ 32)
    (short : ∀ key ∈ keys, ∀ bytes, encode_fixed key = .ok bytes → bytes.length < 2 ^ 31)
    {bytes : Bytes} (writes : encode_fixed (⟨keys⟩ : FixedKeys K) = .ok bytes) :
    bytes.length < 2 ^ 64 := by
  obtain ⟨encodings, keys_written, -, same_length, written⟩ := encodings_of_inverse inverse keys
  -- the bytes are the list of the keys' byte strings
  have explicit : bytes = encodeList (encodeList (encodings.map encodeValue).flatten) := by
    have unwound := writes
    simp only [default_encode_fixed] at unwound
    simp only [Rlp.encode] at unwound
    rw [show Encodable.rlpAppend (⟨keys⟩ : FixedKeys K) = rlpAppend ⟨keys⟩ from rfl,
      rlp_append_eq keys_written] at unwound
    cases unwound
    rfl
  rw [explicit]
  apply length_encode_keys_lt (by omega)
  intro encoding member
  obtain ⟨key, key_member, key_writes⟩ := written encoding member
  exact short key key_member encoding key_writes

theorem encode_fixed_ok (inverse : Inverse K) (keys : List K) :
    ∃ bytes, (encode_fixed (⟨keys⟩ : FixedKeys K) : Muta.ProtocolResult Bytes) = .ok bytes := by
  obtain ⟨encoding, writes, -⟩ := fixed_keys_readback inverse ⟨keys⟩ trivial
  exact ⟨encoding, by simp [Rlp.encode, writes]⟩

end FixedKeys

end Muta.Framework
