import Muta.FixedCodec.Primitive

/-! The `rlp` codecs of `fixed_codec::receipt`.

`ReceiptResponse` flattens its `ServiceResponse` into five items; `Event` has an
`rlp` codec but no `FixedCodec`; `Receipt` writes its events as a list item
built item by item, which is `append_list`.
-/

set_option autoImplicit false

namespace Muta

open Rlp FixedCodec

def Event.rlpAppend (event : Event) : MayPanic Bytes :=
  beginList [Rlp.Encodable.rlpAppend event.service, Rlp.Encodable.rlpAppend event.data]

def Event.decode (r : Rlp) : Rlp.Result Event := do
  if !r.isList && r.size != 2 then throw (.error .RlpIncorrectListLen)
  let service ← (← r.at 0).asVal
  let data ← (← r.at 1).asVal
  pure ⟨service, data⟩

instance : Rlp.Encodable Event := ⟨Event.rlpAppend⟩
instance : Rlp.Decodable Event := ⟨Event.decode⟩

def ReceiptResponse.rlpAppend (response : ReceiptResponse) : MayPanic Bytes :=
  beginList [Rlp.Encodable.rlpAppend response.response.code,
    Rlp.Encodable.rlpAppend response.response.succeed_data,
    Rlp.Encodable.rlpAppend response.response.error_message,
    Rlp.Encodable.rlpAppend response.method, Rlp.Encodable.rlpAppend response.service_name]

def ReceiptResponse.decode (r : Rlp) : Rlp.Result ReceiptResponse := do
  if !r.isList && r.size != 5 then throw (.error .RlpIncorrectListLen)
  let code ← (← r.at 0).asVal
  let succeed_data ← (← r.at 1).asVal
  let error_message ← (← r.at 2).asVal
  let method ← (← r.at 3).asVal
  let service_name ← (← r.at 4).asVal
  pure ⟨service_name, method, ⟨code, succeed_data, error_message⟩⟩

instance : Rlp.Encodable ReceiptResponse := ⟨ReceiptResponse.rlpAppend⟩
instance : Rlp.Decodable ReceiptResponse := ⟨ReceiptResponse.decode⟩

/-- `s.begin_list(6)`, with the events written by `begin_list(len)` and one
`append` each. -/
def Receipt.rlpAppend (receipt : Receipt) : MayPanic Bytes :=
  beginList [Rlp.Encodable.rlpAppend receipt.cycles_used, Rlp.Encodable.rlpAppend receipt.height,
    appendList receipt.events, Rlp.Encodable.rlpAppend receipt.response,
    Rlp.Encodable.rlpAppend receipt.state_root, Rlp.Encodable.rlpAppend receipt.tx_hash]

def Receipt.decode (r : Rlp) : Rlp.Result Receipt := do
  if !r.isList && r.size != 6 then throw (.error .RlpIncorrectListLen)
  let cycles_used ← (← r.at 0).asVal
  let height ← (← r.at 1).asVal
  let events ← (← r.at 2).asList
  let response ← Rlp.decode (← r.at 3).asRaw
  let state_root ← Rlp.decode (← r.at 4).asRaw
  let tx_hash ← Rlp.decode (← r.at 5).asRaw
  pure ⟨state_root, height, tx_hash, cycles_used, events, response⟩

instance : Rlp.Encodable Receipt := ⟨Receipt.rlpAppend⟩
instance : Rlp.Decodable Receipt := ⟨Receipt.decode⟩

instance : FixedCodec Receipt := implDefaultFixedCodecFor Receipt
instance : FixedCodec ReceiptResponse := implDefaultFixedCodecFor ReceiptResponse

/-! ### Read back -/

theorem event_readback : Readback Event (fun _ => True) := by
  intro event _
  obtain ⟨e0, w0, r0⟩ := readback_string event.service trivial
  obtain ⟨e1, w1, r1⟩ := readback_string event.data trivial
  refine ⟨encodeList [e0, e1].flatten, ?_,
    reads_of_items ⟨r0.framed, r1.framed⟩ fun r view fits => ?_⟩
  · show Event.rlpAppend _ = _
    simp [Event.rlpAppend, beginList, List.mapM_cons, w0, w1]
  · obtain ⟨f0, f1⟩ := fits
    show Event.decode r = _
    simp [Event.decode, view.isList, view.at_eq, Rlp.asVal, r0.decode f0, r1.decode f1]

theorem receipt_response_readback : Readback ReceiptResponse (fun _ => True) := by
  intro response _
  obtain ⟨e0, w0, r0⟩ := readback_uint64 response.response.code trivial
  obtain ⟨e1, w1, r1⟩ := readback_string response.response.succeed_data trivial
  obtain ⟨e2, w2, r2⟩ := readback_string response.response.error_message trivial
  obtain ⟨e3, w3, r3⟩ := readback_string response.method trivial
  obtain ⟨e4, w4, r4⟩ := readback_string response.service_name trivial
  refine ⟨encodeList [e0, e1, e2, e3, e4].flatten, ?_,
    reads_of_items ⟨r0.framed, r1.framed, r2.framed, r3.framed, r4.framed⟩ fun r view fits => ?_⟩
  · show ReceiptResponse.rlpAppend _ = _
    simp [ReceiptResponse.rlpAppend, beginList, List.mapM_cons, w0, w1, w2, w3, w4]
  · obtain ⟨f0, f1, f2, f3, f4⟩ := fits
    show ReceiptResponse.decode r = _
    simp [ReceiptResponse.decode, view.isList, view.at_eq, Rlp.asVal, r0.decode f0,
      r1.decode f1, r2.decode f2, r3.decode f3, r4.decode f4]

theorem receipt_readback : Readback Receipt (fun _ => True) := by
  intro receipt _
  obtain ⟨e0, w0, r0⟩ := readback_uint64 receipt.cycles_used trivial
  obtain ⟨e1, w1, r1⟩ := readback_uint64 receipt.height trivial
  obtain ⟨e2, w2, r2⟩ := readback_list event_readback receipt.events fun _ _ => trivial
  obtain ⟨e3, w3, r3⟩ := receipt_response_readback receipt.response trivial
  obtain ⟨e4, w4, r4⟩ := hash_readback receipt.state_root trivial
  obtain ⟨e5, w5, r5⟩ := hash_readback receipt.tx_hash trivial
  refine ⟨encodeList [e0, e1, e2, e3, e4, e5].flatten, ?_,
    reads_of_items ⟨r0.framed, r1.framed, fun fits => (r2 fits).1, r3.framed, r4.framed,
      r5.framed⟩ fun r view fits => ?_⟩
  · show Receipt.rlpAppend _ = _
    simp [Receipt.rlpAppend, beginList, List.mapM_cons, w0, w1, w2, w3, w4, w5]
  · obtain ⟨f0, f1, f2, f3, f4, f5⟩ := fits
    show Receipt.decode r = _
    simp [Receipt.decode, view.isList, view.at_eq, Rlp.decode, Rlp.asRaw, Rlp.asVal,
      r0.decode f0, r1.decode f1, (r2 f2).2, r3.decode f3, r4.decode f4, r5.decode f5]

/-! ### No decoder here panics -/

theorem event_decode_no_panic (r : Rlp) : Fail.NoPanic (Rlp.Decodable.decode r : Rlp.Result Event) := by
  show Fail.NoPanic (Event.decode r)
  simp [Event.decode, Fail.no_panic_bind_iff, Fail.no_panic_ite, Rlp.asVal, string_decode_no_panic]

theorem receipt_response_decode_no_panic (r : Rlp) :
    Fail.NoPanic (Rlp.Decodable.decode r : Rlp.Result ReceiptResponse) := by
  show Fail.NoPanic (ReceiptResponse.decode r)
  simp [ReceiptResponse.decode, Fail.no_panic_bind_iff, Fail.no_panic_ite, Rlp.asVal,
    string_decode_no_panic, uint64_decode_no_panic]

theorem receipt_decode_no_panic (r : Rlp) :
    Fail.NoPanic (Rlp.Decodable.decode r : Rlp.Result Receipt) := by
  show Fail.NoPanic (Receipt.decode r)
  simp [Receipt.decode, Fail.no_panic_bind_iff, Fail.no_panic_ite, Rlp.decode, Rlp.asVal,
    uint64_decode_no_panic, as_list_no_panic event_decode_no_panic,
    receipt_response_decode_no_panic, hash_decode_no_panic]

end Muta
