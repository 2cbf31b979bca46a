import Mathlib

/-! Two-layer codecs: a value is converted into a wire message and a message codec
writes the message as bytes; reading decodes a message and converts it back, and
the way back may fail.

`RoundTrips into back` says that converting back what was converted gives the value
again. Lists converted one element at a time keep it (`RoundTrips.mapM`). A
`MessageCodec` carries its own round trip as a field, so that the two layers
together read back what they write (`decode_sync_encode_sync`).
-/

set_option autoImplicit false

namespace Muta.Conversion

variable {α β ε : Type}

/-- The fallible conversion back reads every converted value back. -/
def RoundTrips (into : α → β) (back : β → Except ε α) : Prop :=
  ∀ value, back (into value) = .ok value

theorem mapM_map {into : α → β} {back : β → Except ε α} (trips : ∀ value, back (into value) = .ok value)
    (values : List α) : (values.map into).mapM back = .ok values := by
  induction values with
  | nil => rfl
  | cons value rest ih =>
    rw [List.map_cons, List.mapM_cons, trips value, ih]
    rfl

theorem mapM_map_of_mem {γ : Type} {into : α → β} {back : β → Except ε γ} {f : α → γ} (values : List α)
    (reads : ∀ value ∈ values, back (into value) = .ok (f value)) :
    (values.map into).mapM back = .ok (values.map f) := by
  induction values with
  | nil => rfl
  | cons value rest ih =>
    rw [List.map_cons, List.mapM_cons, reads value List.mem_cons_self,
      ih fun other member => reads other (List.mem_cons_of_mem value member)]
    rfl

theorem mapM_comp {into : α → β} {back : β → Except ε α} (trips : ∀ value, back (into value) = .ok value)
    (values : List α) : values.mapM (back ∘ into) = .ok values := by
  rw [← List.mapM_map]
  exact mapM_map trips values

theorem RoundTrips.mapM {into : α → β} {back : β → Except ε α} (trips : RoundTrips into back) :
    RoundTrips (List.map into) (List.mapM back) :=
  mapM_map trips

/-- A codec of wire messages that reads back what it writes. -/
structure MessageCodec (M δ : Type) where
  encode : M → List UInt8
  decode : List UInt8 → Except δ M
  decode_encode : ∀ message, decode (encode message) = .ok message

variable {M δ : Type}

def encodeSync (codec : MessageCodec M δ) (into : α → M) (value : α) : List UInt8 :=
  codec.encode (into value)

def decodeSync (codec : MessageCodec M δ) (lift : δ → ε) (back : M → Except ε α)
    (bytes : List UInt8) : Except ε α :=
  (codec.decode bytes).mapError lift >>= back

theorem decode_sync_encode_sync (codec : MessageCodec M δ) (lift : δ → ε) {into : α → M}
    {back : M → Except ε α} (trips : RoundTrips into back) (value : α) :
    decodeSync codec lift back (encodeSync codec into value) = .ok value := by
  rw [decodeSync, encodeSync, codec.decode_encode]
  exact trips value

/-! ### A codec for every countable message type

A message is written as the base-256 digits of its `Encodable` code. This is not
a wire format of any library; it shows that the laws a `MessageCodec` carries are
met, so that what is proved for every codec is proved for codecs that exist. -/

instance encodable_uint8 : Encodable UInt8 := Encodable.ofLeftInverse UInt8.toNat UInt8.ofNat fun byte => by simp

instance encodable_uint32 : Encodable UInt32 := Encodable.ofLeftInverse UInt32.toNat UInt32.ofNat fun word => by simp

instance encodable_uint64 : Encodable UInt64 := Encodable.ofLeftInverse UInt64.toNat UInt64.ofNat fun word => by simp

theorem ofDigits_bytes (n : Nat) :
    Nat.ofDigits 256 (((Nat.digits 256 n).map UInt8.ofNat).map UInt8.toNat) = n := by
  -- every base-256 digit is a byte, so it survives the round trip through `UInt8`
  have bytes : ((Nat.digits 256 n).map UInt8.ofNat).map UInt8.toNat = Nat.digits 256 n := by
    rw [List.map_map]
    refine List.map_congr_left (fun digit member => ?_) |>.trans (List.map_id _)
    exact UInt8.toNat_ofNat_of_lt (Nat.digits_lt_base (by norm_num) member)
  rw [bytes, Nat.ofDigits_digits]

/-- The codec of a countable message type, refusing with `refused` the bytes
that spell no message. -/
def MessageCodec.ofEncodable (M : Type) {δ : Type} [Encodable M] (refused : δ) : MessageCodec M δ where
  encode message := (Nat.digits 256 (Encodable.encode message)).map UInt8.ofNat
  decode bytes :=
    match Encodable.decode (Nat.ofDigits 256 (bytes.map UInt8.toNat)) with
    | some message => .ok message
    | none => .error refused
  decode_encode message := by simp only [ofDigits_bytes, Encodable.encodek]

end Muta.Conversion
