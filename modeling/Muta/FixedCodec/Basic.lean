import Muta.Protocol.Types
import Muta.Lib.RlpReadback

/-! The `FixedCodec` trait of `protocol::fixed_codec`, and its codecs of the
machine types.

`encode_fixed` and `decode_fixed` are the consistent serialisation of the
protocol: the types with an `rlp` codec take it through
`impl_default_fixed_codec_for!`, and the machine types have codecs of their own.
Every error of these codecs is a `ProtocolError` of kind `FixedCodec`, so the
kind is left implicit and the error is the `FixedCodecError`. A codec round trips
(`RoundTrips`) when what it writes it reads back, and it is total on untrusted
input (`NeverPanics`) when no byte string makes its decoder panic.
-/

set_option autoImplicit false

namespace Muta

inductive FixedCodecError where
  | Decoder (error : Rlp.DecoderError)
  | StringUTF8
  | DecodeBool
  | DecodeUint8
  deriving DecidableEq, Repr

abbrev ProtocolResult (α : Type) := Except (Fail FixedCodecError) α

class FixedCodec (α : Type) where
  encode_fixed : α → ProtocolResult Bytes
  decode_fixed : Bytes → ProtocolResult α

namespace FixedCodec

/-- A value satisfying `valid` is encoded without a panic, and its encoding, when
it fits a machine length, decodes back to it. -/
def RoundTrips (α : Type) [FixedCodec α] (valid : α → Prop) : Prop :=
  ∀ value, valid value → ∃ bytes, encode_fixed value = .ok bytes ∧
    (bytes.length < 2 ^ 64 → decode_fixed bytes = .ok value)

/-- What the decoder reads from `bytes` is written back as exactly `bytes`. -/
def Canonical (α : Type) [FixedCodec α] : Prop :=
  ∀ (bytes : Bytes) (value : α), decode_fixed bytes = .ok value → encode_fixed value = .ok bytes

def ReadsPastEnd (α : Type) [FixedCodec α] (valid : α → Prop) : Prop :=
  ∀ value, valid value → ∃ bytes, encode_fixed value = .ok bytes ∧
    (bytes.length < 2 ^ 64 → ∀ rest, decode_fixed (bytes ++ rest) = .ok value)

/-- `decode_fixed(encode_fixed(x)) = x` for every value: what the stores of the
framework assume of their keys and values. -/
def Inverse (α : Type) [FixedCodec α] : Prop :=
  ∀ value : α, ∃ bytes, encode_fixed value = .ok bytes ∧ decode_fixed bytes = .ok value

def NeverPanics (α : Type) [FixedCodec α] : Prop :=
  ∀ bytes, Fail.NoPanic (decode_fixed bytes : ProtocolResult α)

end FixedCodec

open FixedCodec

/-- `impl_default_fixed_codec_for!`: the `rlp` encoding, and the `rlp` decoding
with its error converted by `From`. -/
@[reducible] def implDefaultFixedCodecFor (α : Type) [Rlp.Encodable α] [Rlp.Decodable α] : FixedCodec α where
  encode_fixed value := Fail.unwind (Rlp.encode value)
  decode_fixed bytes := Fail.mapFail FixedCodecError.Decoder (Rlp.decode bytes)

section Default

variable {α : Type} [Rlp.Encodable α] [Rlp.Decodable α]

@[simp] theorem default_encode_fixed (value : α) :
    @encode_fixed α (implDefaultFixedCodecFor α) value = Fail.unwind (Rlp.encode value) := rfl

@[simp] theorem default_decode_fixed (bytes : Bytes) :
    @decode_fixed α (implDefaultFixedCodecFor α) bytes =
      Fail.mapFail FixedCodecError.Decoder (Rlp.decode bytes) := rfl

theorem round_trips_of_readback {valid : α → Prop} (readback : Rlp.Readback α valid) :
    @RoundTrips α (implDefaultFixedCodecFor α) valid := by
  intro value holds
  obtain ⟨encoding, writes, reads⟩ := readback value holds
  refine ⟨encoding, ?_, fun fits => ?_⟩
  · simp [Rlp.encode, writes]
  · simp [Rlp.decode, reads.decode fits]

theorem reads_past_end_of_readback {valid : α → Prop} (readback : Rlp.Readback α valid) :
    @ReadsPastEnd α (implDefaultFixedCodecFor α) valid := by
  intro value holds
  obtain ⟨encoding, writes, reads⟩ := Rlp.reads_past_end_of_readback readback value holds
  refine ⟨encoding, ?_, fun fits rest => ?_⟩
  · simp [writes]
  · simp [reads fits rest]

theorem never_panics_of_decode (safe : ∀ rlp, Fail.NoPanic (Rlp.Decodable.decode rlp : Rlp.Result α)) :
    @NeverPanics α (implDefaultFixedCodecFor α) :=
  fun bytes => (safe ⟨bytes⟩).mapFail

end Default

theorem not_canonical_of_decode_eq {β : Type} [FixedCodec β] {bytes other : Bytes} {value : β}
    (differ : bytes ≠ other) (reads : decode_fixed bytes = .ok value)
    (reads_other : decode_fixed other = .ok value) : ¬ Canonical β := by
  unfold Canonical
  intro canonical
  have writes := canonical bytes value reads
  have writes_other := canonical other value reads_other
  exact differ (Except.ok.inj (writes.symm.trans writes_other))

theorem Inverse.injective {β : Type} [FixedCodec β] (inverse : Inverse β) {value other : β}
    {bytes : Bytes} (writes : encode_fixed value = .ok bytes)
    (writes_other : encode_fixed other = .ok bytes) : value = other := by
  obtain ⟨encoding, written, reads⟩ := inverse value
  obtain ⟨encoding_other, written_other, reads_other⟩ := inverse other
  rw [writes] at written
  rw [writes_other] at written_other
  cases written
  cases written_other
  exact Except.ok.inj (reads.symm.trans reads_other)

/-! ### Machine types -/

namespace LittleEndian

def write : Nat → Nat → Bytes
  | 0, _ => []
  | width + 1, n => UInt8.ofNat n :: write width (n / 256)

def fromLe : Bytes → Nat
  | [] => 0
  | byte :: rest => byte.toNat + 256 * fromLe rest

/-- `read_u32`/`read_u64`: the number in the first `width` bytes; a shorter
buffer fails the crate's length assertion. -/
def read (width : Nat) (bytes : Bytes) : MayPanic Nat :=
  if bytes.length < width then .error "assertion failed: buffer too short for the integer"
  else .ok (fromLe (bytes.take width))

@[simp] theorem length_write (width n : Nat) : (write width n).length = width := by
  induction width generalizing n with
  | zero => rfl
  | succ width ih => simp [write, ih]

theorem from_le_write (width n : Nat) : fromLe (write width n) = n % 256 ^ width := by
  -- one byte per step: the low byte, then the rest of the number shifted down
  induction width generalizing n with
  | zero => simp [write, fromLe, Nat.mod_one]
  | succ width ih =>
    rw [write, fromLe, ih, pow_succ', Nat.mod_mul, UInt8.toNat_ofNat']

theorem read_write {width n : Nat} (fits : n < 256 ^ width) : read width (write width n) = .ok n := by
  have whole : (write width n).take width = write width n := List.take_of_length_le (by simp)
  simp [read, whole, from_le_write, Nat.mod_eq_of_lt fits]

theorem read_panics_iff (width : Nat) (bytes : Bytes) :
    (∃ message, read width bytes = .error message) ↔ bytes.length < width := by
  unfold read
  split <;> simp_all

end LittleEndian

instance : FixedCodec Bool where
  encode_fixed b := .ok (if b then [1] else [0])
  decode_fixed bytes :=
    match bytes.head? with
    | none => .error (.error .DecodeBool)
    | some u => if u = 0 then .ok false else if u = 1 then .ok true else .error (.error .DecodeBool)

instance : FixedCodec UInt8 where
  encode_fixed n := .ok [n]
  decode_fixed bytes :=
    match bytes.head? with
    | some u => .ok u
    | none => .error (.error .DecodeUint8)

instance : FixedCodec UInt32 where
  encode_fixed n := .ok (LittleEndian.write 4 n.toNat)
  decode_fixed bytes := Fail.unwind ((LittleEndian.read 4 bytes).map UInt32.ofNat)

instance : FixedCodec UInt64 where
  encode_fixed n := .ok (LittleEndian.write 8 n.toNat)
  decode_fixed bytes := Fail.unwind ((LittleEndian.read 8 bytes).map UInt64.ofNat)

instance : FixedCodec String where
  encode_fixed s := .ok (Rlp.utf8 s)
  decode_fixed bytes :=
    match Rlp.fromUtf8 bytes with
    | some s => .ok s
    | none => .error (.error .StringUTF8)

instance : FixedCodec Bytes where
  encode_fixed bytes := .ok bytes
  decode_fixed bytes := .ok bytes

theorem bool_round_trips : RoundTrips Bool (fun _ => True) := by
  intro b _
  cases b <;> exact ⟨_, rfl, fun _ => rfl⟩

theorem uint8_round_trips : RoundTrips UInt8 (fun _ => True) :=
  fun _ _ => ⟨_, rfl, fun _ => rfl⟩

theorem uint32_round_trips : RoundTrips UInt32 (fun _ => True) := by
  intro n _
  refine ⟨_, rfl, fun _ => ?_⟩
  have fits : n.toNat < 256 ^ 4 := n.toNat_lt
  simp [decode_fixed, LittleEndian.read_write fits]

theorem uint64_round_trips : RoundTrips UInt64 (fun _ => True) := by
  intro n _
  refine ⟨_, rfl, fun _ => ?_⟩
  have fits : n.toNat < 256 ^ 8 := n.toNat_lt
  simp [decode_fixed, LittleEndian.read_write fits]

theorem uint64_inverse : Inverse UInt64 := by
  intro n
  obtain ⟨bytes, writes, reads⟩ := uint64_round_trips n trivial
  have length_eq : bytes.length = 8 := by
    cases writes
    simp
  exact ⟨bytes, writes, reads (by omega)⟩

theorem string_round_trips : RoundTrips String (fun _ => True) := by
  intro s _
  refine ⟨_, rfl, fun _ => ?_⟩
  simp [decode_fixed, Rlp.from_utf8_utf8]

theorem bytes_round_trips : RoundTrips Bytes (fun _ => True) :=
  fun _ _ => ⟨_, rfl, fun _ => rfl⟩

theorem bytes_inverse : Inverse Bytes := fun bytes => ⟨bytes, rfl, rfl⟩

@[simp] theorem bytes_encode_fixed (bytes : Bytes) :
    (encode_fixed bytes : ProtocolResult Bytes) = .ok bytes := rfl

theorem bool_never_panics : NeverPanics Bool := by
  intro bytes
  simp only [decode_fixed]
  split
  · exact Fail.NoPanic.error _
  · split_ifs <;> first | exact Fail.NoPanic.ok _ | exact Fail.NoPanic.error _

theorem uint8_never_panics : NeverPanics UInt8 := by
  intro bytes
  simp only [decode_fixed]
  split
  · exact Fail.NoPanic.ok _
  · exact Fail.NoPanic.error _

theorem uint32_decode_panics_iff (bytes : Bytes) :
    (∃ message, (decode_fixed bytes : ProtocolResult UInt32) = .error (.panic message)) ↔
      bytes.length < 4 := by
  rw [← LittleEndian.read_panics_iff]
  simp only [decode_fixed]
  cases LittleEndian.read 4 bytes <;> simp [Except.map, Fail.unwind, Except.mapError]

theorem uint64_decode_panics_iff (bytes : Bytes) :
    (∃ message, (decode_fixed bytes : ProtocolResult UInt64) = .error (.panic message)) ↔
      bytes.length < 8 := by
  rw [← LittleEndian.read_panics_iff]
  simp only [decode_fixed]
  cases LittleEndian.read 8 bytes <;> simp [Except.map, Fail.unwind, Except.mapError]

end Muta
