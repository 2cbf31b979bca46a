import Muta.Lib.Fail

/-! Recursive length prefix, as the `rlp` crate writes and reads it.

An item is a byte string or a list of items. Its encoding is a header, which
gives the kind and the length of the payload, followed by the payload; a single
byte below `0x80` is its own encoding. Lengths of 56 bytes and more are written
as big-endian numbers of at most eight bytes, without leading zeros.

The reading side follows the crate's `Rlp` view: a view is a byte string, and
nothing is checked until a field is read. `at` skips the items before the one
asked for by their headers, and the iterator behind `as_list` stops at the first
item it cannot read, so that a list with a malformed tail reads as a shorter
list. The readers of the view return a `DecoderError` and never panic; a
`Decodable` instance may panic, and `decode_list` panics where `as_list` fails.

The crate lies outside this repository. These definitions are the RLP
specification that the codecs' round trips and panics are stated against,
written the way the crate writes and reads, and they differ from it in two
places that no result here can tell apart. The view's offset cache is left out:
it only spares the skipping of items already read. Lengths are natural numbers,
so a long string whose declared length overflows `usize` in `decode_value`'s
`checked_add` is refused with `RlpInconsistentLengthAndData`, where the crate
returns `RlpInvalidLength`.

`Framed encoding` says that `encoding` is one item whose header reads back,
whatever follows it. The encodings of byte strings and lists are framed
(`frames_value`, `frames_list`), and the items of a list of framed encodings are
read back one by one (`at_encode_list`, `iter_encode_list`); the round trips of
the codecs built on this library are assembled from these lemmas.
-/

set_option autoImplicit false

namespace Muta

namespace Rlp

inductive DecoderError where
  | RlpIsTooBig
  | RlpIsTooShort
  | RlpExpectedToBeList
  | RlpExpectedToBeData
  | RlpIncorrectListLen
  | RlpDataLenWithZeroPrefix
  | RlpListLenWithZeroPrefix
  | RlpInvalidIndirection
  | RlpInconsistentLengthAndData
  | RlpInvalidLength
  | Custom (message : String)
  deriving DecidableEq, Repr

/-- What a decoder returns: a value, a `DecoderError`, or a panic. -/
abbrev Result (α : Type) := Except (Fail DecoderError) α

/-! ### Big-endian numbers -/

def toBe (n : Nat) : List UInt8 := ((Nat.digits 256 n).map UInt8.ofNat).reverse

def fromBe (bytes : List UInt8) : Nat := bytes.foldl (fun acc byte => acc * 256 + byte.toNat) 0

theorem toNat_ofNat_of_lt {n : Nat} (small : n < 256) : (UInt8.ofNat n).toNat = n := by
  rw [UInt8.toNat_ofNat']
  exact Nat.mod_eq_of_lt small

theorem from_be_append (high low : List UInt8) :
    fromBe (high ++ low) = low.foldl (fun acc byte => acc * 256 + byte.toNat) (fromBe high) := by
  rw [fromBe, List.foldl_append, ← fromBe]

theorem from_be_reverse (digits : List Nat) (small : ∀ d ∈ digits, d < 256) :
    fromBe ((digits.map UInt8.ofNat).reverse) = Nat.ofDigits 256 digits := by
  induction digits with
  | nil => rfl
  | cons d rest ih =>
    have low : d < 256 := small d List.mem_cons_self
    rw [List.map_cons, List.reverse_cons, from_be_append,
      ih fun e member => small e (List.mem_cons_of_mem d member), Nat.ofDigits_cons]
    simp only [List.foldl_cons, List.foldl_nil, toNat_ofNat_of_lt low]
    ring

theorem from_be_to_be (n : Nat) : fromBe (toBe n) = n := by
  rw [toBe, from_be_reverse _ fun d member => Nat.digits_lt_base (by norm_num) member,
    Nat.ofDigits_digits]

theorem length_to_be_le {n k : Nat} : (toBe n).length ≤ k ↔ n < 256 ^ k := by
  rw [toBe, List.length_reverse, List.length_map]
  exact Nat.digits_length_le_iff (by norm_num) n

theorem to_be_eq_nil {n : Nat} : toBe n = [] ↔ n = 0 := by
  simp [toBe, Nat.digits_eq_nil_iff_eq_zero]

theorem to_be_head_ne_zero {n : Nat} {first : UInt8} {rest : List UInt8}
    (bytes : toBe n = first :: rest) : first ≠ 0 := by
  have nonzero : n ≠ 0 := by
    rintro rfl
    simp [toBe] at bytes
  have digits_ne : Nat.digits 256 n ≠ [] := Nat.digits_ne_nil_iff_ne_zero.mpr nonzero
  -- The first byte is the last little-endian digit, which is not zero.
  have last : ((Nat.digits 256 n).map UInt8.ofNat).getLast (by simpa using digits_ne) = first := by
    rw [toBe, List.reverse_eq_cons_iff] at bytes
    simp [bytes]
  rw [List.getLast_map] at last
  have top := Nat.getLast_digit_ne_zero 256 nonzero
  have small := Nat.digits_lt_base (by norm_num : 1 < 256) (List.getLast_mem digits_ne)
  intro zero
  apply top
  rw [← toNat_ofNat_of_lt small, last, zero]
  rfl

/-! ### Encoding -/

/-- The header of a payload of `len` bytes: the byte `offset + len` below 56 bytes,
else `offset + 55 + k` and the `k` bytes of the length. -/
def encodeHeader (offset len : Nat) : List UInt8 :=
  if len < 56 then [UInt8.ofNat (offset + len)]
  else UInt8.ofNat (offset + 55 + (toBe len).length) :: toBe len

/-- `BasicEncoder::encode_value`: a byte string; a single byte below `0x80` is
its own encoding. -/
def encodeValue (value : List UInt8) : List UInt8 :=
  match value with
  | [byte] => if byte.toNat < 0x80 then [byte] else encodeHeader 0x80 1 ++ [byte]
  | value => encodeHeader 0x80 value.length ++ value

def encodeList (payload : List UInt8) : List UInt8 := encodeHeader 0xc0 payload.length ++ payload

/-! ### Reading -/

structure PayloadInfo where
  header_len : Nat
  value_len : Nat
  deriving DecidableEq, Repr

def decodeUsize (first : UInt8) (rest : List UInt8) : Except DecoderError Nat :=
  if rest.length + 1 ≤ 8 then
    if first = 0 then .error .RlpInvalidIndirection else .ok (fromBe (first :: rest))
  else .error .RlpIsTooBig

def calculatePayloadInfo (header_bytes : List UInt8) (len_of_len : Nat) :
    Except DecoderError PayloadInfo :=
  let header_len := 1 + len_of_len
  match header_bytes.drop 1 with
  | [] => .error .RlpIsTooShort
  | first :: rest =>
    if first = 0 then .error .RlpDataLenWithZeroPrefix
    else if header_bytes.length < header_len then .error .RlpIsTooShort
    else do
      let value_len ← decodeUsize first (rest.take (len_of_len - 1))
      if value_len ≤ 55 then .error .RlpInvalidIndirection else .ok ⟨header_len, value_len⟩

def PayloadInfo.fromHeader (header_bytes : List UInt8) : Except DecoderError PayloadInfo :=
  match header_bytes with
  | [] => .error .RlpIsTooShort
  | l :: _ =>
    if l.toNat ≤ 0x7f then .ok ⟨0, 1⟩
    else if l.toNat ≤ 0xb7 then .ok ⟨1, l.toNat - 0x80⟩
    else if l.toNat ≤ 0xbf then calculatePayloadInfo header_bytes (l.toNat - 0xb7)
    else if l.toNat ≤ 0xf7 then .ok ⟨1, l.toNat - 0xc0⟩
    else calculatePayloadInfo header_bytes (l.toNat - 0xf7)

def payloadInfo (bytes : List UInt8) : Except DecoderError PayloadInfo := do
  let item ← PayloadInfo.fromHeader bytes
  if item.header_len + item.value_len ≤ bytes.length then .ok item else .error .RlpIsTooShort

def decodeValue {α : Type} (bytes : List UInt8) (f : List UInt8 → Except DecoderError α) :
    Except DecoderError α :=
  match bytes with
  | [] => .error .RlpIsTooShort
  | l :: after =>
    if l.toNat ≤ 0x7f then f [l]
    else if l.toNat ≤ 0xb7 then
      let last_index_of := 1 + l.toNat - 0x80
      if bytes.length < last_index_of then .error .RlpInconsistentLengthAndData
      else
        let d := after.take (l.toNat - 0x80)
        -- a payload of one byte below 0x80 should have been written as that byte
        if l.toNat = 0x81 ∧ (d.headD 0).toNat < 0x80 then .error .RlpInvalidIndirection
        else f d
    else if l.toNat ≤ 0xbf then
      let len_of_len := l.toNat - 0xb7
      let begin_of_value := 1 + len_of_len
      if bytes.length < begin_of_value then .error .RlpInconsistentLengthAndData
      else
        match after with
        -- not reached: the check above leaves a byte of length
        | [] => .error .RlpInconsistentLengthAndData
        | first :: rest => do
          let len ← decodeUsize first (rest.take (len_of_len - 1))
          if bytes.length < begin_of_value + len then .error .RlpInconsistentLengthAndData
          else f ((bytes.drop begin_of_value).take len)
    else .error .RlpExpectedToBeData

/-- The item at `index` of a list payload; the items before it are skipped by
their headers (`consume_items`). -/
def itemAt (payload : List UInt8) : Nat → Except DecoderError (List UInt8)
  | 0 => do
    let found ← payloadInfo payload
    .ok (payload.take (found.header_len + found.value_len))
  | index + 1 => do
    let info ← payloadInfo payload
    itemAt (payload.drop (info.header_len + info.value_len)) index

end Rlp

open Rlp

/-- `Rlp`: a view of the encoding of one item. -/
structure Rlp where
  bytes : List UInt8
  deriving DecidableEq, Repr

namespace Rlp

def isNull (rlp : Rlp) : Bool := rlp.bytes.isEmpty

def isList (rlp : Rlp) : Bool :=
  match rlp.bytes with
  | first :: _ => 0xc0 ≤ first.toNat
  | [] => false

def isData (rlp : Rlp) : Bool :=
  match rlp.bytes with
  | first :: _ => first.toNat < 0xc0
  | [] => false

def asRaw (rlp : Rlp) : List UInt8 := rlp.bytes

def data (rlp : Rlp) : Except DecoderError (List UInt8) := do
  let pi ← payloadInfo rlp.bytes
  .ok ((rlp.bytes.drop pi.header_len).take pi.value_len)

/-- The length of a byte string's payload, and `0` for a list or what cannot be read. -/
def size (rlp : Rlp) : Nat :=
  if rlp.isData then
    match payloadInfo rlp.bytes with
    | .ok info => info.value_len
    | .error _ => 0
  else 0

def «at» (rlp : Rlp) (index : Nat) : Except DecoderError Rlp :=
  if !rlp.isList then .error .RlpExpectedToBeList
  else do
    let payload ← rlp.data
    let found ← itemAt payload index
    .ok ⟨found⟩

/-- `RlpIterator` from `index` on: the items up to the first that cannot be
read. Every item takes a byte, so there are at most `fuel` of them
(`at_length`). -/
def itemsFrom (rlp : Rlp) (index : Nat) : Nat → List Rlp
  | 0 => []
  | fuel + 1 =>
    match rlp.«at» index with
    | .ok item => item :: rlp.itemsFrom (index + 1) fuel
    | .error _ => []

def iter (rlp : Rlp) : List Rlp := rlp.itemsFrom 0 rlp.bytes.length

end Rlp

namespace Rlp

/-! ### The codec classes -/

class Encodable (α : Type) where
  /-- The encoding of the value as one item; the encoder may panic. -/
  rlpAppend : α → MayPanic (List UInt8)

class Decodable (α : Type) where
  decode : Rlp → Result α

def beginList (items : List (MayPanic (List UInt8))) : MayPanic (List UInt8) := do
  let encodings ← items.mapM id
  .ok (encodeList encodings.flatten)

def appendList {α : Type} [Encodable α] (values : List α) : MayPanic (List UInt8) :=
  beginList (values.map Encodable.rlpAppend)

def encode {α : Type} [Encodable α] (value : α) : MayPanic (List UInt8) := Encodable.rlpAppend value

end Rlp

def Rlp.asVal {α : Type} [Rlp.Decodable α] (rlp : Rlp) : Rlp.Result α := Rlp.Decodable.decode rlp

def Rlp.asList {α : Type} [Rlp.Decodable α] (rlp : Rlp) : Rlp.Result (List α) :=
  rlp.iter.mapM Rlp.asVal

namespace Rlp

def decode {α : Type} [Decodable α] (bytes : List UInt8) : Result α := Decodable.decode ⟨bytes⟩

/-- `rlp::decode_list`, which panics where the list cannot be read. -/
def decodeList {α : Type} [Decodable α] (bytes : List UInt8) : Result (List α) :=
  Fail.expect "trusted rlp should be valid" (Rlp.asList ⟨bytes⟩ : Result (List α))

/-! ### The crate's value codecs -/

def utf8 (s : String) : List UInt8 := s.toByteArray.data.toList

def fromUtf8 (bytes : List UInt8) : Option String := String.fromUTF8? ⟨bytes.toArray⟩

/-- The decoding of `u8` to `u64` at `width` bytes: at most `width` bytes without a
leading zero, and zero as the empty string. -/
def decodeUint (width : Nat) (bytes : List UInt8) : Except DecoderError Nat :=
  match bytes with
  | [] => .ok 0
  | first :: _ =>
    if bytes.length ≤ width then
      if first = 0 then .error .RlpInvalidIndirection else .ok (fromBe bytes)
    else .error .RlpIsTooBig

instance : Encodable (List UInt8) := ⟨fun bytes => .ok (encodeValue bytes)⟩

instance : Decodable (List UInt8) := ⟨fun rlp => monadLift (decodeValue rlp.bytes .ok)⟩

instance : Encodable String := ⟨fun s => .ok (encodeValue (utf8 s))⟩

instance : Decodable String :=
  ⟨fun rlp => monadLift <| decodeValue rlp.bytes fun bytes =>
    match fromUtf8 bytes with
    | some s => .ok s
    | none => .error .RlpExpectedToBeData⟩

instance : Encodable UInt32 := ⟨fun n => .ok (encodeValue (toBe n.toNat))⟩

instance : Decodable UInt32 :=
  ⟨fun rlp => monadLift (decodeValue rlp.bytes fun bytes => (decodeUint 4 bytes).map UInt32.ofNat)⟩

instance : Encodable UInt64 := ⟨fun n => .ok (encodeValue (toBe n.toNat))⟩

instance : Decodable UInt64 :=
  ⟨fun rlp => monadLift (decodeValue rlp.bytes fun bytes => (decodeUint 8 bytes).map UInt64.ofNat)⟩

end Rlp

end Muta
