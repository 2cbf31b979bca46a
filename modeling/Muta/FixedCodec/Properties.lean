import Muta.FixedCodec.Transaction
import Muta.FixedCodec.Block
import Muta.FixedCodec.Receipt

/-! What holds of the `FixedCodec` format as a whole.

Every codec reads back what it writes, the `Hex` fields keeping the `0x` prefix
that `Hex::from_string` establishes; `Event` and `ValidatorExtend` have no
`FixedCodec` of their own and are read back by their `rlp` codec. The decoders
of the types with list fields read them with `rlp::decode_list` and panic on
some input, as do those of `u32` and `u64` on short buffers; the others never
panic. No composite decoder is canonical: each reads past the end of its
encoding, and an arity check written `!r.is_list() && r.size() != N` lets every
list through, whatever its number of items.
-/

set_option autoImplicit false

namespace Muta

open Rlp FixedCodec

theorem fixed_codec_round_trip :
    RoundTrips RawTransaction (fun _ => True) ∧ RoundTrips SignedTransaction (fun _ => True) ∧
    RoundTrips Proof (fun _ => True) ∧ RoundTrips Validator (fun _ => True) ∧
    RoundTrips BlockHeader (fun _ => True) ∧ RoundTrips Block (fun _ => True) ∧
    RoundTrips Pill (fun _ => True) ∧ RoundTrips Receipt (fun _ => True) ∧
    RoundTrips ReceiptResponse (fun _ => True) ∧ Readback Event (fun _ => True) ∧
    RoundTrips Metadata Metadata.Prefixed ∧
    Readback ValidatorExtend (fun validator => validator.bls_pub_key.Prefixed) ∧
    RoundTrips Hash (fun _ => True) ∧ RoundTrips Address (fun _ => True) ∧
    RoundTrips Hex Hex.Prefixed ∧ RoundTrips Bool (fun _ => True) ∧
    RoundTrips UInt8 (fun _ => True) ∧ RoundTrips UInt32 (fun _ => True) ∧
    RoundTrips UInt64 (fun _ => True) ∧ RoundTrips String (fun _ => True) ∧
    RoundTrips Bytes (fun _ => True) :=
  -- the composite codecs are the default ones over their `rlp` readbacks
  ⟨round_trips_of_readback raw_transaction_readback,
    round_trips_of_readback signed_transaction_readback, round_trips_of_readback proof_readback,
    round_trips_of_readback validator_readback, round_trips_of_readback block_header_readback,
    round_trips_of_readback block_readback, round_trips_of_readback pill_readback,
    round_trips_of_readback receipt_readback, round_trips_of_readback receipt_response_readback,
    event_readback, round_trips_of_readback metadata_readback, validator_extend_readback,
    round_trips_of_readback hash_readback, round_trips_of_readback address_readback,
    round_trips_of_readback hex_readback, bool_round_trips, uint8_round_trips, uint32_round_trips,
    uint64_round_trips, string_round_trips, bytes_round_trips⟩

/-- A header of one hash whose `confirm_root` item is a list holding a byte,
not a hash: `decode_list` panics on it. -/
def unreadableHeader : Bytes := [0xe4, 0xe1, 0xa0] ++ List.replicate 32 0 ++ [0xc1, 0x00]

theorem fixed_codec_decode_panic_cases :
    NeverPanics RawTransaction ∧ NeverPanics SignedTransaction ∧ NeverPanics Proof ∧
    NeverPanics Validator ∧ NeverPanics Receipt ∧ NeverPanics ReceiptResponse ∧
    NeverPanics Metadata ∧ NeverPanics Hash ∧ NeverPanics Address ∧ NeverPanics Bool ∧
    NeverPanics UInt8 ∧
    (∀ bytes : Bytes, (∃ message, (decode_fixed bytes : ProtocolResult UInt32) =
      .error (.panic message)) ↔ bytes.length < 4) ∧
    (∀ bytes : Bytes, (∃ message, (decode_fixed bytes : ProtocolResult UInt64) =
      .error (.panic message)) ↔ bytes.length < 8) ∧
    (decode_fixed unreadableHeader : ProtocolResult BlockHeader) =
      .error (.panic "trusted rlp should be valid") ∧
    (decode_fixed ([0xe6] ++ unreadableHeader ++ [0xc0]) : ProtocolResult Block) =
      .error (.panic "trusted rlp should be valid") ∧
    (decode_fixed ([0xe8, 0xe6] ++ unreadableHeader ++ [0xc0, 0xc0]) : ProtocolResult Pill) =
      .error (.panic "trusted rlp should be valid") := by
  refine ⟨never_panics_of_decode raw_transaction_decode_no_panic,
    never_panics_of_decode signed_transaction_decode_no_panic,
    never_panics_of_decode proof_decode_no_panic, never_panics_of_decode validator_decode_no_panic,
    never_panics_of_decode receipt_decode_no_panic,
    never_panics_of_decode receipt_response_decode_no_panic,
    never_panics_of_decode metadata_decode_no_panic, never_panics_of_decode hash_decode_no_panic,
    never_panics_of_decode address_decode_no_panic, bool_never_panics, uint8_never_panics,
    uint32_decode_panics_iff, uint64_decode_panics_iff, ?_, ?_, ?_⟩
  -- the block and the pill panic in the header they hold
  all_goals decide

theorem fixed_codec_decode_not_canonical :
    FixedCodec.ReadsPastEnd RawTransaction (fun _ => True) ∧
    FixedCodec.ReadsPastEnd SignedTransaction (fun _ => True) ∧
    FixedCodec.ReadsPastEnd Proof (fun _ => True) ∧
    FixedCodec.ReadsPastEnd Validator (fun _ => True) ∧
    FixedCodec.ReadsPastEnd BlockHeader (fun _ => True) ∧
    FixedCodec.ReadsPastEnd Block (fun _ => True) ∧ FixedCodec.ReadsPastEnd Pill (fun _ => True) ∧
    FixedCodec.ReadsPastEnd Receipt (fun _ => True) ∧
    FixedCodec.ReadsPastEnd ReceiptResponse (fun _ => True) ∧
    Rlp.ReadsPastEnd Event (fun _ => True) ∧
    Rlp.ReadsPastEnd ValidatorExtend (fun validator => validator.bls_pub_key.Prefixed) ∧
    ¬ Canonical Proof := by
  refine ⟨reads_past_end_of_readback raw_transaction_readback,
    reads_past_end_of_readback signed_transaction_readback,
    reads_past_end_of_readback proof_readback, reads_past_end_of_readback validator_readback,
    reads_past_end_of_readback block_header_readback, reads_past_end_of_readback block_readback,
    reads_past_end_of_readback pill_readback, reads_past_end_of_readback receipt_readback,
    reads_past_end_of_readback receipt_response_readback,
    Rlp.reads_past_end_of_readback event_readback,
    Rlp.reads_past_end_of_readback validator_extend_readback, ?_⟩
  -- a proof of five items, and the same list with a sixth: both read as one proof
  obtain ⟨proof, reads⟩ : ∃ proof, (decode_fixed ([0xe6, 0x80, 0xe1, 0xa0] ++ List.replicate 32 0 ++
      [0x80, 0x80, 0x80]) : ProtocolResult Proof) = .ok proof := ⟨_, rfl⟩
  have extra : (decode_fixed ([0xe7, 0x80, 0xe1, 0xa0] ++ List.replicate 32 0 ++
      [0x80, 0x80, 0x80, 0x80]) : ProtocolResult Proof) = .ok proof := by
    rw [← reads]
    decide
  exact not_canonical_of_decode_eq (by decide) reads extra

end Muta
