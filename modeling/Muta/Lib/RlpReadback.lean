import Muta.Lib.Rlp

/-! What the `rlp` crate writes, it reads back.

The headers written by `encode_header` are read back by `PayloadInfo::from`
whatever follows them, as long as the length fits the eight bytes a machine word
has; from that, an item written by `encode_value` or `encode_list` is `Framed`,
the items of a list are found by `at` and by the iterator one by one, and the
value codecs of the crate read back what they wrote (`Readback`).
-/

set_option autoImplicit false

namespace Muta.Rlp

/-- `encoding` is one item: its header reads back, whatever follows, and the
header and payload it announces cover the encoding exactly. -/
def Framed (encoding : List UInt8) : Prop :=
  ∃ info : PayloadInfo, info.header_len + info.value_len = encoding.length ∧
    ∀ rest, PayloadInfo.fromHeader (encoding ++ rest) = .ok info

/-- When it fits a machine length, `encoding` is one item that reads back as
`value`, whatever bytes follow it. -/
def ReadsAs {α : Type} [Decodable α] (value : α) (encoding : List UInt8) : Prop :=
  encoding.length < 2 ^ 64 → Framed encoding ∧ ∀ rest, Decodable.decode ⟨encoding ++ rest⟩ = .ok value

def Readback (α : Type) [Encodable α] [Decodable α] (valid : α → Prop) : Prop :=
  ∀ value, valid value → ∃ encoding, Encodable.rlpAppend value = .ok encoding ∧ ReadsAs value encoding

/-- Every valid value is read back from its encoding followed by any bytes: the
reader never checks that it has reached the end of its input. -/
def ReadsPastEnd (α : Type) [Encodable α] [Decodable α] (valid : α → Prop) : Prop :=
  ∀ value, valid value → ∃ bytes, encode value = .ok bytes ∧
    (bytes.length < 2 ^ 64 → ∀ rest, (decode (bytes ++ rest) : Result α) = .ok value)

/-! ### Headers -/

theorem length_to_be_le_eight {len : Nat} (fits : len < 2 ^ 64) : (toBe len).length ≤ 8 :=
  length_to_be_le.mpr (by simpa using fits)

theorem to_be_cons {len : Nat} (big : 56 ≤ len) :
    ∃ first digits, toBe len = first :: digits ∧ first ≠ 0 := by
  cases bytes : toBe len with
  | nil => exact absurd (to_be_eq_nil.mp bytes) (by omega)
  | cons first digits => exact ⟨first, digits, rfl, to_be_head_ne_zero bytes⟩

theorem decode_usize_to_be {len : Nat} {first : UInt8} {digits : List UInt8}
    (bytes : toBe len = first :: digits) (leading : first ≠ 0) (fits : len < 2 ^ 64) :
    decodeUsize first digits = .ok len := by
  have short := length_to_be_le_eight fits
  rw [bytes, List.length_cons] at short
  simp only [decodeUsize, short, leading, if_true, if_false, ← bytes, from_be_to_be]

theorem calculate_payload_info_to_be {len : Nat} (big : 56 ≤ len) (fits : len < 2 ^ 64)
    (tag : UInt8) (rest : List UInt8) :
    calculatePayloadInfo (tag :: (toBe len ++ rest)) (toBe len).length =
      .ok ⟨(toBe len).length + 1, len⟩ := by
  obtain ⟨first, digits, bytes, leading⟩ := to_be_cons big
  have value := decode_usize_to_be bytes leading fits
  rw [bytes]
  have take : (digits ++ rest).take (digits.length + 1 - 1) = digits := by simp
  simp only [calculatePayloadInfo, List.drop_succ_cons, List.drop_zero, List.cons_append,
    leading, if_false, List.length_cons, List.length_append, take, value, except_ok_bind]
  rw [if_neg (by omega), if_neg (by omega)]
  congr 2
  omega

theorem from_header_encode_header {offset : Nat} (kind : offset = 0x80 ∨ offset = 0xc0)
    {len : Nat} (fits : len < 2 ^ 64) (rest : List UInt8) :
    PayloadInfo.fromHeader (encodeHeader offset len ++ rest) =
      .ok ⟨(encodeHeader offset len).length, len⟩ := by
  unfold encodeHeader
  split
  case isTrue short =>
    -- one byte, `offset + len`, which the short ranges of both kinds read
    have tag : (UInt8.ofNat (offset + len)).toNat = offset + len :=
      toNat_ofNat_of_lt (by omega)
    simp only [PayloadInfo.fromHeader, List.singleton_append, List.length_singleton]
    rw [tag]
    rcases kind with rfl | rfl
    · rw [if_neg (by omega), if_pos (by omega), Nat.add_sub_cancel_left]
    · rw [if_neg (by omega), if_neg (by omega), if_neg (by omega), if_pos (by omega),
        Nat.add_sub_cancel_left]
  case isFalse long =>
    -- the tag counts the bytes of the length, which then follow it
    have short := length_to_be_le_eight fits
    obtain ⟨first, digits, bytes, _⟩ := to_be_cons (by omega : 56 ≤ len)
    have counted : 1 ≤ (toBe len).length := by simp [bytes]
    have tag : (UInt8.ofNat (offset + 55 + (toBe len).length)).toNat =
        offset + 55 + (toBe len).length := toNat_ofNat_of_lt (by omega)
    have header := calculate_payload_info_to_be (by omega) fits
      (UInt8.ofNat (offset + 55 + (toBe len).length)) rest
    simp only [PayloadInfo.fromHeader, List.cons_append, List.length_cons]
    rw [tag]
    rcases kind with rfl | rfl
    · rw [if_neg (by omega), if_neg (by omega), if_pos (by omega),
        show 0x80 + 55 + (toBe len).length - 0xb7 = (toBe len).length by omega]
      exact header
    · rw [if_neg (by omega), if_neg (by omega), if_neg (by omega), if_neg (by omega),
        show 0xc0 + 55 + (toBe len).length - 0xf7 = (toBe len).length by omega]
      exact header

/-! ### Framed items -/

theorem payload_info_of_header {encoding : List UInt8} {info : PayloadInfo}
    (total : info.header_len + info.value_len = encoding.length)
    (reads : ∀ rest, PayloadInfo.fromHeader (encoding ++ rest) = .ok info) (rest : List UInt8) :
    payloadInfo (encoding ++ rest) = .ok info := by
  simp only [payloadInfo, reads, List.length_append, except_ok_bind]
  rw [if_pos (by omega)]

theorem Framed.ne_nil {encoding : List UInt8} (framed : Framed encoding) : encoding ≠ [] := by
  rintro rfl
  obtain ⟨_, _, reads⟩ := framed
  cases reads []

theorem from_header_encoding {offset : Nat} (kind : offset = 0x80 ∨ offset = 0xc0)
    (payload : List UInt8) (fits : payload.length < 2 ^ 64) (rest : List UInt8) :
    PayloadInfo.fromHeader (encodeHeader offset payload.length ++ payload ++ rest) =
      .ok ⟨(encodeHeader offset payload.length).length, payload.length⟩ := by
  rw [List.append_assoc]
  exact from_header_encode_header kind fits _

theorem frames_of_header {offset : Nat} (kind : offset = 0x80 ∨ offset = 0xc0)
    (payload : List UInt8) (fits : payload.length < 2 ^ 64) :
    Framed (encodeHeader offset payload.length ++ payload) :=
  ⟨_, by simp, from_header_encoding kind payload fits⟩

theorem frames_list (payload : List UInt8) (fits : payload.length < 2 ^ 64) :
    Framed (encodeList payload) :=
  frames_of_header (.inr rfl) payload fits

theorem frames_value (value : List UInt8) (fits : value.length < 2 ^ 64) :
    Framed (encodeValue value) := by
  unfold encodeValue
  split
  case h_1 byte =>
    split
    case isTrue small =>
      -- a byte below 0x80 stands for itself
      refine ⟨⟨0, 1⟩, rfl, fun rest => ?_⟩
      simp [PayloadInfo.fromHeader, show byte.toNat ≤ 0x7f by omega]
    case isFalse => exact frames_of_header (.inl rfl) [byte] (by simp)
  case h_2 => exact frames_of_header (.inl rfl) value fits

theorem ReadsAs.framed {α : Type} [Decodable α] {value : α} {encoding : List UInt8}
    (reads : ReadsAs value encoding) (fits : encoding.length < 2 ^ 64) : Framed encoding :=
  (reads fits).1

theorem ReadsAs.decode {α : Type} [Decodable α] {value : α} {encoding : List UInt8}
    (reads : ReadsAs value encoding) (fits : encoding.length < 2 ^ 64) :
    Decodable.decode ⟨encoding⟩ = .ok value := by
  simpa using (reads fits).2 []

theorem reads_past_end_of_readback {α : Type} [Encodable α] [Decodable α] {valid : α → Prop}
    (readback : Readback α valid) : ReadsPastEnd α valid := by
  intro value holds
  obtain ⟨encoding, writes, reads⟩ := readback value holds
  exact ⟨encoding, writes, fun fits => (reads fits).2⟩

/-! ### Byte strings -/

/-- A byte string written with a header reads back through `decode_value`: its
length is read in whichever form it was written, and it is not a single byte
below `0x80`, which is written as itself. What follows the item is not read. -/
theorem decode_value_of_header {α : Type} (value : List UInt8) (fits : value.length < 2 ^ 64)
    (canonical : value.length = 1 → 0x80 ≤ (value.headD 0).toNat)
    (f : List UInt8 → Except DecoderError α) (rest : List UInt8) :
    decodeValue (encodeHeader 0x80 value.length ++ value ++ rest) f = f value := by
  unfold encodeHeader
  split
  case isTrue short =>
    have tag : (UInt8.ofNat (0x80 + value.length)).toNat = 0x80 + value.length :=
      toNat_ofNat_of_lt (by omega)
    simp only [decodeValue, List.cons_append, List.nil_append, List.length_cons,
      List.length_append]
    rw [tag, if_neg (by omega), if_pos (by omega), if_neg (by omega), Nat.add_sub_cancel_left,
      List.take_left]
    -- the one-byte form of a byte below 0x80 is never written
    rw [if_neg]
    rintro ⟨single, small⟩
    have := canonical (by omega)
    omega
  case isFalse long =>
    have short := length_to_be_le_eight fits
    obtain ⟨first, digits, bytes, leading⟩ := to_be_cons (by omega : 56 ≤ value.length)
    have counted : (toBe value.length).length = digits.length + 1 := by simp [bytes]
    have tag : (UInt8.ofNat (0x80 + 55 + (toBe value.length).length)).toNat =
        0x80 + 55 + (toBe value.length).length := toNat_ofNat_of_lt (by omega)
    have usize := decode_usize_to_be bytes leading fits
    simp only [decodeValue, List.cons_append, List.append_assoc, List.length_cons,
      List.length_append]
    rw [tag, if_neg (by omega), if_neg (by omega), if_pos (by omega), if_neg (by omega),
      show 0x80 + 55 + (toBe value.length).length - 0xb7 = (toBe value.length).length by omega]
    have take : (digits ++ (value ++ rest)).take (digits.length + 1 - 1) = digits := by simp
    have drop : ∀ t : UInt8,
        (t :: first :: (digits ++ (value ++ rest))).drop (1 + (digits.length + 1)) = value ++ rest := by
      intro t
      rw [show 1 + (digits.length + 1) = digits.length + 1 + 1 by omega]
      simp
    simp only [bytes, List.cons_append, List.length_cons, take, usize, except_ok_bind, drop]
    rw [if_neg (by omega), List.take_left]

theorem decode_value_encode_value {α : Type} (value : List UInt8) (fits : value.length < 2 ^ 64)
    (f : List UInt8 → Except DecoderError α) (rest : List UInt8) :
    decodeValue (encodeValue value ++ rest) f = f value := by
  unfold encodeValue
  split
  case h_1 byte =>
    split
    case isTrue small => simp [decodeValue, show byte.toNat ≤ 0x7f by omega]
    case isFalse large =>
      exact decode_value_of_header [byte] (by simp) (fun _ => by simp; omega) f rest
  case h_2 single =>
    refine decode_value_of_header value fits (fun one => ?_) f rest
    obtain ⟨byte, is_single⟩ := List.length_eq_one_iff.mp one
    exact absurd is_single (single byte)

theorem length_le_encode_value (value : List UInt8) : value.length ≤ (encodeValue value).length := by
  unfold encodeValue
  split
  case h_1 => split <;> simp
  case h_2 => simp

theorem length_lt_of_encode_value {value : List UInt8} (fits : (encodeValue value).length < 2 ^ 64) :
    value.length < 2 ^ 64 :=
  lt_of_le_of_lt (length_le_encode_value value) fits

theorem readback_of_value {α : Type} [Encodable α] [Decodable α] (bytes : α → List UInt8)
    (writes : ∀ value, Encodable.rlpAppend value = .ok (encodeValue (bytes value)))
    (reads : ∀ value, (bytes value).length < 2 ^ 64 → ∀ rest,
      Decodable.decode ⟨encodeValue (bytes value) ++ rest⟩ = .ok value) :
    Readback α (fun _ => True) := by
  intro value _
  refine ⟨_, writes value, fun fits => ?_⟩
  have short : (bytes value).length < 2 ^ 64 :=
    lt_of_le_of_lt (length_le_encode_value _) fits
  exact ⟨frames_value _ short, reads value short⟩

theorem from_utf8_utf8 (s : String) : fromUtf8 (utf8 s) = some s := by
  have same : (⟨(utf8 s).toArray⟩ : ByteArray) = s.toByteArray := by simp [utf8]
  rw [fromUtf8, same]
  simp [String.fromUTF8?, s.isValidUTF8]
  rfl

theorem decode_uint_to_be {width n : Nat} (fits : n < 256 ^ width) :
    decodeUint width (toBe n) = .ok n := by
  cases bytes : toBe n with
  | nil => simp [decodeUint, to_be_eq_nil.mp bytes]
  | cons first rest =>
    have short : (first :: rest).length ≤ width := bytes ▸ length_to_be_le.mpr fits
    have value : fromBe (first :: rest) = n := bytes ▸ from_be_to_be n
    simp only [decodeUint, short, if_true, to_be_head_ne_zero bytes, if_false, value]

theorem readback_bytes : Readback (List UInt8) (fun _ => True) :=
  readback_of_value id (fun _ => rfl) fun value fits rest => by
    simp [Decodable.decode, decode_value_encode_value value fits]

theorem readback_string : Readback String (fun _ => True) :=
  readback_of_value utf8 (fun _ => rfl) fun s fits rest => by
    simp [Decodable.decode, decode_value_encode_value _ fits, from_utf8_utf8]

theorem readback_uint32 : Readback UInt32 (fun _ => True) :=
  readback_of_value (fun n => toBe n.toNat) (fun _ => rfl) fun n fits rest => by
    have small : n.toNat < 256 ^ 4 := n.toNat_lt
    simp [Decodable.decode, decode_value_encode_value _ fits, decode_uint_to_be small,
      except_map_ok]

theorem readback_uint64 : Readback UInt64 (fun _ => True) :=
  readback_of_value (fun n => toBe n.toNat) (fun _ => rfl) fun n fits rest => by
    have small : n.toNat < 256 ^ 8 := n.toNat_lt
    simp [Decodable.decode, decode_value_encode_value _ fits, decode_uint_to_be small,
      except_map_ok]

/-! ### Reading a list item by item -/

theorem item_at_flatten (items : List (List UInt8)) (framed : ∀ e ∈ items, Framed e)
    (index : Nat) : itemAt items.flatten index =
      match items[index]? with
      | some item => .ok item
      | none => .error .RlpIsTooShort := by
  -- induction on the items; each step reads one header and skips or takes its item
  induction items generalizing index with
  | nil =>
    cases index <;> rfl
  | cons first rest ih =>
    obtain ⟨info, total, reads⟩ := framed first List.mem_cons_self
    have found := payload_info_of_header total reads rest.flatten
    have skipped : info.header_len + info.value_len = first.length := total
    cases index with
    | zero =>
      simp only [itemAt, List.flatten_cons, found, except_ok_bind, skipped, List.take_left,
        List.getElem?_cons_zero]
    | succ index =>
      simp only [itemAt, List.flatten_cons, found, except_ok_bind, skipped, List.drop_left,
        List.getElem?_cons_succ]
      exact ih (fun e member => framed e (List.mem_cons_of_mem first member)) index

theorem length_encode_header_le (offset : Nat) {len : Nat} (fits : len < 2 ^ 64) :
    (encodeHeader offset len).length ≤ 9 := by
  unfold encodeHeader
  split
  case isTrue => simp
  case isFalse =>
    have digits := length_to_be_le_eight fits
    simp only [List.length_cons]
    omega

theorem length_encode_value_le (value : List UInt8) (fits : value.length < 2 ^ 64) :
    (encodeValue value).length ≤ value.length + 9 := by
  unfold encodeValue
  split
  case h_1 byte => split <;> simp [encodeHeader]
  case h_2 =>
    have header := length_encode_header_le 0x80 fits
    simp only [List.length_append]
    omega

theorem length_encode_list_le (payload : List UInt8) (fits : payload.length < 2 ^ 64) :
    (encodeList payload).length ≤ payload.length + 9 := by
  have header := length_encode_header_le 0xc0 fits
  simp only [encodeList, List.length_append]
  omega

theorem is_list_encode_list (payload : List UInt8) (fits : payload.length < 2 ^ 64)
    (rest : List UInt8) : Rlp.isList ⟨encodeList payload ++ rest⟩ = true := by
  -- the tag of a list header is at least 0xc0
  unfold encodeList encodeHeader
  split
  case isTrue short =>
    have tag : (UInt8.ofNat (0xc0 + payload.length)).toNat = 0xc0 + payload.length :=
      toNat_ofNat_of_lt (by omega)
    simp only [Rlp.isList, List.cons_append]
    rw [tag, decide_eq_true_eq]
    omega
  case isFalse long =>
    have short := length_to_be_le_eight fits
    have tag : (UInt8.ofNat (0xc0 + 55 + (toBe payload.length).length)).toNat =
        0xc0 + 55 + (toBe payload.length).length := toNat_ofNat_of_lt (by omega)
    simp only [Rlp.isList, List.cons_append]
    rw [tag, decide_eq_true_eq]
    omega

theorem data_of_header {offset : Nat} (kind : offset = 0x80 ∨ offset = 0xc0)
    (payload : List UInt8) (fits : payload.length < 2 ^ 64) (rest : List UInt8) :
    Rlp.data ⟨encodeHeader offset payload.length ++ payload ++ rest⟩ = .ok payload := by
  have found := payload_info_of_header (by simp) (from_header_encoding kind payload fits) rest
  simp only [Rlp.data]
  rw [found]
  simp only [except_ok_bind, List.append_assoc, List.drop_left, List.take_left]

theorem data_encode_list (payload : List UInt8) (fits : payload.length < 2 ^ 64)
    (rest : List UInt8) : Rlp.data ⟨encodeList payload ++ rest⟩ = .ok payload :=
  data_of_header (.inr rfl) payload fits rest

theorem data_encode_value (value : List UInt8) (fits : value.length < 2 ^ 64) :
    Rlp.data ⟨encodeValue value⟩ = .ok value := by
  unfold encodeValue
  split
  case h_1 byte =>
    split
    case isTrue small =>
      simp [Rlp.data, payloadInfo, PayloadInfo.fromHeader, show byte.toNat ≤ 0x7f by omega]
    case isFalse => simpa using data_of_header (.inl rfl) [byte] (by simp) []
  case h_2 => simpa using data_of_header (.inl rfl) value fits []

theorem at_encode_list (items : List (List UInt8)) (framed : ∀ e ∈ items, Framed e)
    (fits : items.flatten.length < 2 ^ 64) (rest : List UInt8) (index : Nat) :
    Rlp.at ⟨encodeList items.flatten ++ rest⟩ index =
      match items[index]? with
      | some item => .ok ⟨item⟩
      | none => .error .RlpIsTooShort := by
  simp only [Rlp.at, is_list_encode_list _ fits rest, Bool.not_true, Bool.false_eq_true, if_false,
    data_encode_list _ fits rest, except_ok_bind, item_at_flatten items framed index]
  cases items[index]? <;> rfl

theorem length_le_length_flatten (items : List (List UInt8)) (framed : ∀ e ∈ items, Framed e) :
    items.length ≤ items.flatten.length := by
  induction items with
  | nil => simp
  | cons first rest ih =>
    have nonempty := (framed first List.mem_cons_self).ne_nil
    have rest_le := ih fun e member => framed e (List.mem_cons_of_mem first member)
    have : 0 < first.length := List.length_pos_iff.mpr nonempty
    simp only [List.length_cons, List.flatten_cons, List.length_append]
    omega

theorem items_from_encode_list (items : List (List UInt8)) (framed : ∀ e ∈ items, Framed e)
    (fits : items.flatten.length < 2 ^ 64) (index fuel : Nat) (enough : items.length ≤ index + fuel) :
    Rlp.itemsFrom ⟨encodeList items.flatten⟩ index fuel = (items.drop index).map Rlp.mk := by
  induction fuel generalizing index with
  | zero => simp [Rlp.itemsFrom, List.drop_eq_nil_of_le (by omega : items.length ≤ index)]
  | succ fuel ih =>
    have found := at_encode_list items framed fits [] index
    rw [List.append_nil] at found
    simp only [Rlp.itemsFrom, found]
    cases found : items[index]? with
    | none =>
      have past : items.length ≤ index := List.getElem?_eq_none_iff.mp found
      simp [List.drop_eq_nil_of_le past]
    | some item =>
      obtain ⟨within, same⟩ := List.getElem?_eq_some_iff.mp found
      simp only [ih (index + 1) (by omega), ← List.getElem_cons_drop within, same, List.map_cons]

theorem iter_encode_list (items : List (List UInt8)) (framed : ∀ e ∈ items, Framed e)
    (fits : items.flatten.length < 2 ^ 64) :
    Rlp.iter ⟨encodeList items.flatten⟩ = items.map Rlp.mk := by
  have enough : items.length ≤ 0 + (encodeList items.flatten).length := by
    have := length_le_length_flatten items framed
    simp only [encodeList, List.length_append]
    omega
  rw [Rlp.iter]
  simpa using items_from_encode_list items framed fits 0 _ enough

/-! ### Lists of values -/

theorem length_le_of_mem_flatten {items : List (List UInt8)} {item : List UInt8}
    (member : item ∈ items) : item.length ≤ items.flatten.length := by
  exact (List.sublist_flatten_of_mem member).length_le

theorem mapM_rlp_append {α : Type} [Encodable α] [Decodable α] {valid : α → Prop}
    (each : Readback α valid) (values : List α) (all : ∀ value ∈ values, valid value) :
    ∃ encodings, values.mapM Encodable.rlpAppend = .ok encodings ∧
      List.Forall₂ ReadsAs values encodings := by
  induction values with
  | nil => exact ⟨[], rfl, .nil⟩
  | cons value rest ih =>
    obtain ⟨encoding, writes, reads⟩ := each value (all value List.mem_cons_self)
    obtain ⟨encodings, rest_writes, rest_reads⟩ :=
      ih fun other member => all other (List.mem_cons_of_mem value member)
    refine ⟨encoding :: encodings, ?_, .cons reads rest_reads⟩
    simp [List.mapM_cons, writes, rest_writes]

theorem as_val_mapM {α : Type} [Decodable α] {values : List α} {encodings : List (List UInt8)}
    (reads : List.Forall₂ ReadsAs values encodings)
    (fits : ∀ encoding ∈ encodings, encoding.length < 2 ^ 64) :
    (∀ encoding ∈ encodings, Framed encoding) ∧
      (encodings.map Rlp.mk).mapM Rlp.asVal = .ok values := by
  induction reads with
  | nil => exact ⟨by simp, rfl⟩
  | cons head _ ih =>
    have framed := head.framed (fits _ List.mem_cons_self)
    have decoded := head.decode (fits _ List.mem_cons_self)
    obtain ⟨rest_framed, rest_decoded⟩ :=
      ih fun encoding member => fits encoding (List.mem_cons_of_mem _ member)
    refine ⟨?_, ?_⟩
    · intro encoding member
      rcases List.mem_cons.mp member with same | later
      · exact same ▸ framed
      · exact rest_framed encoding later
    · simp only [List.map_cons, List.mapM_cons, Rlp.asVal, decoded, rest_decoded, except_ok_bind]
      rfl

theorem readback_list {α : Type} [Encodable α] [Decodable α] {valid : α → Prop}
    (each : Readback α valid) (values : List α) (all : ∀ value ∈ values, valid value) :
    ∃ encoding, appendList values = .ok encoding ∧
      (encoding.length < 2 ^ 64 → Framed encoding ∧ Rlp.asList ⟨encoding⟩ = .ok values) := by
  obtain ⟨encodings, writes, reads⟩ := mapM_rlp_append each values all
  refine ⟨encodeList encodings.flatten, ?_, fun fits => ?_⟩
  · simp [appendList, beginList, List.mapM_map, writes]
  have payload_fits : encodings.flatten.length < 2 ^ 64 := by
    simp only [encodeList, List.length_append] at fits
    omega
  obtain ⟨framed, decoded⟩ := as_val_mapM reads fun encoding member =>
    lt_of_le_of_lt (length_le_of_mem_flatten member) payload_fits
  refine ⟨frames_list _ payload_fits, ?_⟩
  rw [Rlp.asList, iter_encode_list encodings framed payload_fits]
  exact decoded

theorem as_list_no_panic {α : Type} [Decodable α]
    (safe : ∀ rlp, Fail.NoPanic (Decodable.decode rlp : Result α)) (rlp : Rlp) :
    Fail.NoPanic (rlp.asList : Result (List α)) :=
  Fail.NoPanic.mapM _ safe _

structure Items (rlp : Rlp) (items : List (List UInt8)) : Prop where
  isList : rlp.isList = true
  at_eq : ∀ index, rlp.at index =
    match items[index]? with
    | some item => .ok ⟨item⟩
    | none => .error .RlpIsTooShort

theorem items_encode_list {items : List (List UInt8)}
    (framed : List.Forall (fun item => item.length < 2 ^ 64 → Framed item) items)
    (fits : (encodeList items.flatten).length < 2 ^ 64) :
    Framed (encodeList items.flatten) ∧ List.Forall (fun item => item.length < 2 ^ 64) items ∧
      ∀ rest, Items ⟨encodeList items.flatten ++ rest⟩ items := by
  have payload_fits : items.flatten.length < 2 ^ 64 := by
    simp only [encodeList, List.length_append] at fits
    omega
  have each_fits : ∀ item ∈ items, item.length < 2 ^ 64 := fun item member =>
    lt_of_le_of_lt (length_le_of_mem_flatten member) payload_fits
  have each_framed : ∀ item ∈ items, Framed item := fun item member =>
    List.forall_iff_forall_mem.mp framed item member (each_fits item member)
  exact ⟨frames_list _ payload_fits, List.forall_iff_forall_mem.mpr each_fits,
    fun rest => ⟨is_list_encode_list _ payload_fits rest,
      at_encode_list items each_framed payload_fits rest⟩⟩

theorem reads_of_items {α : Type} [Decodable α] {value : α} {items : List (List UInt8)}
    (framed : List.Forall (fun item => item.length < 2 ^ 64 → Framed item) items)
    (reads : ∀ r, Items r items → List.Forall (fun item => item.length < 2 ^ 64) items →
      Decodable.decode r = .ok value) :
    ReadsAs value (encodeList items.flatten) := by
  intro fits
  obtain ⟨whole, each_fits, view⟩ := items_encode_list framed fits
  exact ⟨whole, fun rest => reads _ (view rest) each_fits⟩

@[simp] theorem begin_list_ok (items : List (List UInt8)) :
    beginList (items.map .ok) = .ok (encodeList items.flatten) := by
  have all : (items.map (.ok : List UInt8 → MayPanic (List UInt8))).mapM id = .ok items := by
    induction items with
    | nil => rfl
    | cons item rest ih => simp [List.mapM_cons, ih]
  simp only [beginList, all, except_ok_bind]

theorem utf8_append (s t : String) : utf8 (s ++ t) = utf8 s ++ utf8 t := by
  simp [utf8, String.toByteArray_append]

/-! ### The value codecs never panic -/

theorem string_decode_no_panic (r : Rlp) : Fail.NoPanic (Decodable.decode r : Result String) :=
  Fail.NoPanic.lift _

theorem uint32_decode_no_panic (r : Rlp) : Fail.NoPanic (Decodable.decode r : Result UInt32) :=
  Fail.NoPanic.lift _

theorem uint64_decode_no_panic (r : Rlp) : Fail.NoPanic (Decodable.decode r : Result UInt64) :=
  Fail.NoPanic.lift _

end Muta.Rlp
