import Muta.Protocol.Types
import Muta.FixedCodec.Basic

/-! The GraphQL scalars of `core/api/src/schema/mod.rs`, and the hex readers of
`protocol::types` they are read back with.

A scalar is the text the API shows: `Hash` and `Address` as their `as_hex`, `0x`
and the lowercase digits; `Uint64` as `0x` and the sixteen digits of the eight
big-endian bytes; `Bytes` as `0x` and two digits a byte. Reading goes through
`clean_0x`, which takes `0x` or `0X` off, through `to_uppercase`, and through
`hex::decode` or `u64::from_str_radix` on the bytes of the text. Every scalar
reads back what it shows (`Hash.from_hex_from`, `Uint64.try_into_u64_from`,
`Bytes.to_vec_from`), also after the API's `as_hex` has turned the whole text to
upper case (`Hash.from_hex_as_hex`).
-/

set_option autoImplicit false

namespace Muta.Api

inductive IntErrorKind where
  | Empty
  | InvalidDigit
  | Overflow
  deriving DecidableEq, Repr

structure ParseIntError where
  kind : IntErrorKind
  deriving DecidableEq, Repr

inductive SchemaError where
  | IntoU64 (error : ParseIntError)
  | FromHex (error : Base16.FromHexError)
  | HexPrefix
  deriving DecidableEq, Repr

/-- The errors the API's conversions return, each the `ProtocolError` of its kind:
`SchemaError`s of kind `API`, and the `TypesError`s of the protocol's hex readers,
`FromHex` among them. -/
inductive ProtocolError where
  | API (error : SchemaError)
  | Types (error : TypesError)
  | TypesFromHex (error : Base16.FromHexError)
  deriving DecidableEq, Repr

abbrev ProtocolResult (α : Type) := Except ProtocolError α

/-! ### Text -/

def strip0x (s : String) : Option String :=
  if startsWith s "0x" || startsWith s "0X" then some (String.ofList (s.toList.drop 2)) else none

def clean0x (s : String) : ProtocolResult String :=
  match strip0x s with
  | some rest => .ok rest
  | none => .error (.API .HexPrefix)

/-- `str::to_uppercase`, on the ASCII letters, which are all a scalar holds. -/
def toUppercase (s : String) : String := String.ofList (s.toList.map Char.toUpper)

def toDigit (radix : Nat) (c : UInt8) : Option Nat :=
  let digit :=
    if 0x30 ≤ c ∧ c ≤ 0x39 then some (c.toNat - 0x30)
    else if 0x61 ≤ c ∧ c ≤ 0x7a then some (c.toNat - 0x61 + 10)
    else if 0x41 ≤ c ∧ c ≤ 0x5a then some (c.toNat - 0x41 + 10)
    else none
  match digit with
  | some d => if d < radix then some d else none
  | none => none

def fromStrRadixStep (radix : Nat) (result : UInt64) (c : UInt8) : Except ParseIntError UInt64 :=
  match toDigit radix c with
  | none => .error ⟨.InvalidDigit⟩
  | some x =>
    if 2 ^ 64 ≤ result.toNat * radix then .error ⟨.Overflow⟩
    else if 2 ^ 64 ≤ result.toNat * radix + x then .error ⟨.Overflow⟩
    else .ok (UInt64.ofNat (result.toNat * radix + x))

/-- `u64::from_str_radix` on the bytes of the text: a leading `+` is dropped, and a
text without digits is `Empty`. -/
def u64FromStrRadix (src : Bytes) (radix : Nat) : Except ParseIntError UInt64 :=
  if src = [] then .error ⟨.Empty⟩
  else
    let digits := if src.head? = some 0x2b then src.tail else src
    if digits = [] then .error ⟨.Empty⟩ else digits.foldlM (fromStrRadixStep radix) 0

def UInt64.toBeBytes (n : UInt64) : Bytes := (LittleEndian.write 8 n.toNat).reverse

/-! ### The scalars -/

structure Hash where
  value : String
  deriving DecidableEq, Repr

abbrev MerkleRoot := Hash

structure Address where
  value : String
  deriving DecidableEq, Repr

structure Uint64 where
  value : String
  deriving DecidableEq, Repr

structure Bytes where
  value : String
  deriving DecidableEq, Repr

def Hash.asHex (hash : Hash) : String := toUppercase hash.value

def Address.asHex (address : Address) : String := toUppercase address.value

def Uint64.asHex (n : Uint64) : ProtocolResult String := do
  pure (toUppercase (← clean0x n.value))

def Uint64.tryIntoU64 (n : Uint64) : ProtocolResult UInt64 := do
  (u64FromStrRadix (Rlp.utf8 (← n.asHex)) 16).mapError (.API ∘ .IntoU64)

def Bytes.asHex (bytes : Bytes) : ProtocolResult String := do
  pure (toUppercase (← clean0x bytes.value))

def Bytes.toVec (bytes : Bytes) : ProtocolResult Muta.Bytes := do
  (Base16.decode (Rlp.utf8 (← bytes.asHex))).mapError (.API ∘ .FromHex)

def Hash.«from» (hash : Muta.Hash) : Hash := ⟨hash.asHex⟩

def Address.«from» (address : Muta.Address) : Address := ⟨address.asHex⟩

def Uint64.«from» (n : UInt64) : Uint64 := ⟨"0x" ++ Base16.encode (UInt64.toBeBytes n)⟩

def Bytes.«from» (bytes : Muta.Bytes) : Bytes := ⟨"0x" ++ Base16.encode bytes⟩

end Muta.Api

namespace Muta

open Api

def clean0x (s : String) : Api.ProtocolResult String :=
  match strip0x s with
  | some rest => .ok rest
  | none => .error (.Types .HexPrefix)

def Hash.fromHex (s : String) : Api.ProtocolResult Hash := do
  let s ← clean0x s
  let bytes ← (Base16.decode (Rlp.utf8 s)).mapError .TypesFromHex
  (Hash.fromBytes bytes).mapError .Types

def Address.fromHex (s : String) : Api.ProtocolResult Address := do
  let s ← clean0x s
  let bytes ← (Base16.decode (Rlp.utf8 s)).mapError .TypesFromHex
  (Address.fromBytes bytes).mapError .Types

end Muta

namespace Muta.Api

/-! ### Reading back -/

section Text

theorem utf8_ofList_ascii (text : List Char) (small : ∀ c ∈ text, c.toNat < 128) :
    Rlp.utf8 (String.ofList text) = Base16.ascii text :=
  Base16.toByteArray_ofList_ascii text small

theorem chars_ascii (case : Char → Char) (small : ∀ n < 16, (case (Base16.digit n)).toNat < 128)
    (bytes : Muta.Bytes) : ∀ c ∈ (Base16.chars bytes).map case, c.toNat < 128 := by
  intro c member
  simp only [Base16.chars, List.map_flatMap, List.mem_flatMap, List.map_cons, List.map_nil, List.mem_cons,
    List.not_mem_nil, or_false] at member
  obtain ⟨byte, -, same | same⟩ := member
  all_goals
    have below := byte.toNat_lt
    rw [same]
    exact small _ (by omega)

theorem lower_ascii (bytes : Muta.Bytes) : ∀ c ∈ Base16.chars bytes, c.toNat < 128 := by
  simpa using chars_ascii id Base16.digit_ascii bytes

theorem upper_ascii (bytes : Muta.Bytes) : ∀ c ∈ (Base16.chars bytes).map Char.toUpper, c.toNat < 128 :=
  chars_ascii Char.toUpper Base16.upper_digit_ascii bytes

theorem prefixed_eq (bytes : Muta.Bytes) :
    "0x" ++ Base16.encode bytes = String.ofList ('0' :: 'x' :: Base16.chars bytes) := by
  apply String.toList_inj.mp
  simp only [String.toList_append, Base16.encode_eq_ofList, String.toList_ofList]
  rfl

theorem strip_0x_ofList {x : Char} (prefix_letter : x = 'x' ∨ x = 'X') (rest : List Char)
    (small : ∀ c ∈ rest, c.toNat < 128) : strip0x (String.ofList ('0' :: x :: rest)) = some (String.ofList rest) := by
  have text : ∀ c ∈ '0' :: x :: rest, c.toNat < 128 := by
    intro c member
    rcases List.mem_cons.mp member with rfl | member
    · decide
    rcases List.mem_cons.mp member with rfl | member
    · rcases prefix_letter with rfl | rfl <;> decide
    exact small c member
  have found : (startsWith (String.ofList ('0' :: x :: rest)) "0x" ||
      startsWith (String.ofList ('0' :: x :: rest)) "0X") = true := by
    simp only [startsWith, utf8_ofList_ascii _ text, Base16.ascii, List.map_cons]
    rcases prefix_letter with rfl | rfl <;> rfl
  simp only [strip0x, found, ↓reduceIte, String.toList_ofList, List.drop_succ_cons, List.drop_zero]

theorem to_uppercase_ofList (text : List Char) :
    toUppercase (String.ofList text) = String.ofList (text.map Char.toUpper) := by
  rw [toUppercase, String.toList_ofList]

end Text

section Scalars

theorem decode_hex (case : Char → Char) (small : ∀ n < 16, (case (Base16.digit n)).toNat < 128)
    (reads : ∀ n < 16, Base16.value (UInt8.ofNat (case (Base16.digit n)).toNat) = some n) (bytes : Muta.Bytes) :
    Base16.decode (Rlp.utf8 (String.ofList ((Base16.chars bytes).map case))) = .ok bytes := by
  rw [utf8_ofList_ascii _ (chars_ascii case small bytes)]
  exact Base16.decode_chars case reads bytes

theorem decode_lower (bytes : Muta.Bytes) :
    Base16.decode (Rlp.utf8 (String.ofList (Base16.chars bytes))) = .ok bytes := by
  simpa using decode_hex id Base16.digit_ascii Base16.value_digit bytes

theorem decode_upper (bytes : Muta.Bytes) :
    Base16.decode (Rlp.utf8 (String.ofList ((Base16.chars bytes).map Char.toUpper))) = .ok bytes :=
  decode_hex Char.toUpper Base16.upper_digit_ascii Base16.value_upper_digit bytes

theorem Hash.from_hex_from (hash : Muta.Hash) : Muta.Hash.fromHex (Hash.«from» hash).value = .ok hash := by
  simp only [Hash.«from», Muta.Hash.asHex, prefixed_eq, Muta.Hash.fromHex, Muta.clean0x,
    strip_0x_ofList (Or.inl rfl) _ (lower_ascii _)]
  rw [except_ok_bind, decode_lower, except_mapError_ok, except_ok_bind]
  exact congrArg (Except.mapError _) (Muta.Hash.from_bytes_as_bytes hash)

theorem Hash.from_hex_as_hex (hash : Muta.Hash) : Muta.Hash.fromHex (Hash.«from» hash).asHex = .ok hash := by
  simp only [Hash.«from», Hash.asHex, Muta.Hash.asHex, prefixed_eq, to_uppercase_ofList, List.map_cons,
    Muta.Hash.fromHex, Muta.clean0x]
  rw [show Char.toUpper '0' = '0' from rfl, show Char.toUpper 'x' = 'X' from rfl,
    strip_0x_ofList (Or.inr rfl) _ (upper_ascii _)]
  rw [except_ok_bind, decode_upper, except_mapError_ok, except_ok_bind]
  exact congrArg (Except.mapError _) (Muta.Hash.from_bytes_as_bytes hash)

theorem Address.from_hex_from (address : Muta.Address) :
    Muta.Address.fromHex (Address.«from» address).value = .ok address := by
  simp only [Address.«from», Muta.Address.asHex, prefixed_eq, Muta.Address.fromHex, Muta.clean0x,
    strip_0x_ofList (Or.inl rfl) _ (lower_ascii _)]
  rw [except_ok_bind, decode_lower, except_mapError_ok, except_ok_bind]
  simp [Muta.Address.fromBytes, address.length_eq]

theorem Bytes.as_hex_from (bytes : Muta.Bytes) :
    (Bytes.«from» bytes).asHex = .ok (String.ofList ((Base16.chars bytes).map Char.toUpper)) := by
  simp only [Bytes.«from», Bytes.asHex, clean0x, prefixed_eq, strip_0x_ofList (Or.inl rfl) _ (lower_ascii _),
    except_ok_bind]
  rw [to_uppercase_ofList]
  rfl

theorem Bytes.to_vec_from (bytes : Muta.Bytes) : (Bytes.«from» bytes).toVec = .ok bytes := by
  rw [Bytes.toVec, Bytes.as_hex_from, except_ok_bind, decode_upper]
  rfl

end Scalars

section Integers

theorem from_be_to_be_bytes (n : UInt64) : Rlp.fromBe (UInt64.toBeBytes n) = n.toNat := by
  -- the last byte written is the low one
  have reads : ∀ width m, Rlp.fromBe (LittleEndian.write width m).reverse = m % 256 ^ width := by
    intro width
    induction width with
    | zero =>
      intro m
      rw [Nat.pow_zero, Nat.mod_one]
      rfl
    | succ width ih =>
      intro m
      rw [LittleEndian.write, List.reverse_cons, Rlp.from_be_append, ih]
      simp only [List.foldl_cons, List.foldl_nil, UInt8.toNat_ofNat']
      rw [show (2 : ℕ) ^ 8 = 256 from rfl, pow_succ, Nat.mul_comm (256 ^ width) 256, Nat.mod_mul]
      ring
  rw [UInt64.toBeBytes, reads, Nat.mod_eq_of_lt (lt_of_lt_of_eq n.toNat_lt (by norm_num))]

theorem to_digit_upper_digit : ∀ n < 16, toDigit 16 (UInt8.ofNat (Base16.digit n).toUpper.toNat) = some n := by
  decide

theorem from_str_radix_step_digit {radix : Nat} {result : UInt64} {c : UInt8} {x : Nat}
    (digit : toDigit radix c = some x) (fits : result.toNat * radix + x < 2 ^ 64) :
    fromStrRadixStep radix result c = .ok (UInt64.ofNat (result.toNat * radix + x)) := by
  have shifted : ¬ 2 ^ 64 ≤ result.toNat * radix := by omega
  have added : ¬ 2 ^ 64 ≤ result.toNat * radix + x := by omega
  simp only [fromStrRadixStep, digit, shifted, added, ↓reduceIte]

def foldBe (acc : Nat) (bytes : Muta.Bytes) : Nat := bytes.foldl (fun acc byte => acc * 256 + byte.toNat) acc

theorem le_fold_be (acc : Nat) (bytes : Muta.Bytes) : acc ≤ foldBe acc bytes := by
  induction bytes generalizing acc with
  | nil => exact le_refl acc
  | cons byte rest ih =>
    have step := ih (acc * 256 + byte.toNat)
    simp only [foldBe, List.foldl_cons] at step ⊢
    omega

theorem foldlM_upper_digits (bytes : Muta.Bytes) (acc : Nat) (fits : foldBe acc bytes < 2 ^ 64) :
    (Base16.ascii ((Base16.chars bytes).map Char.toUpper)).foldlM (fromStrRadixStep 16) (UInt64.ofNat acc) =
      .ok (UInt64.ofNat (foldBe acc bytes)) := by
  induction bytes generalizing acc with
  | nil => rfl
  | cons byte rest ih =>
    have below := byte.toNat_lt
    have high : byte.toNat / 16 < 16 := by omega
    have low : byte.toNat % 16 < 16 := by omega
    -- both digits fit, since the number only grows
    have grows := le_fold_be (acc * 256 + byte.toNat) rest
    have next : foldBe acc (byte :: rest) = foldBe (acc * 256 + byte.toNat) rest := rfl
    rw [next] at fits ⊢
    have acc_fits : acc < 2 ^ 64 := by omega
    have first_fits : acc * 16 + byte.toNat / 16 < 2 ^ 64 := by omega
    simp only [Base16.chars, List.flatMap_cons, Base16.ascii, List.map_cons, List.cons_append, List.nil_append,
      List.foldlM_cons] at ih ⊢
    -- the high digit, then the low one
    rw [from_str_radix_step_digit (to_digit_upper_digit _ high)
        (by rw [UInt64.toNat_ofNat_of_lt' acc_fits]; omega),
      except_ok_bind, UInt64.toNat_ofNat_of_lt' acc_fits,
      from_str_radix_step_digit (to_digit_upper_digit _ low)
        (by rw [UInt64.toNat_ofNat_of_lt' first_fits]; omega),
      except_ok_bind, UInt64.toNat_ofNat_of_lt' first_fits,
      show (acc * 16 + byte.toNat / 16) * 16 + byte.toNat % 16 = acc * 256 + byte.toNat by omega]
    exact ih _ fits

theorem Uint64.try_into_u64_from (n : UInt64) : (Uint64.«from» n).tryIntoU64 = .ok n := by
  have nonempty : UInt64.toBeBytes n ≠ [] := by
    intro empty
    simpa [UInt64.toBeBytes] using congrArg List.length empty
  obtain ⟨first, rest, split⟩ := List.exists_cons_of_ne_nil nonempty
  have text := utf8_ofList_ascii _ (upper_ascii (UInt64.toBeBytes n))
  -- the first digit is a digit, so no sign is taken off
  have digits_start : (Base16.ascii ((Base16.chars (UInt64.toBeBytes n)).map Char.toUpper)).head? ≠ some 0x2b := by
    rw [split]
    have high : first.toNat / 16 < 16 := by have := first.toNat_lt; omega
    have digit := to_digit_upper_digit _ high
    have sign : toDigit 16 0x2b = none := by decide
    simp only [Base16.chars, List.flatMap_cons, List.map_append, List.map_cons, Base16.ascii, List.cons_append,
      List.head?_cons, ne_eq, Option.some.injEq]
    intro plus
    rw [plus, sign] at digit
    cases digit
  have nonempty_digits : Base16.ascii ((Base16.chars (UInt64.toBeBytes n)).map Char.toUpper) ≠ [] := by
    rw [split]
    simp [Base16.chars, Base16.ascii]
  have whole : foldBe 0 (UInt64.toBeBytes n) = n.toNat := from_be_to_be_bytes n
  have parsed := foldlM_upper_digits (UInt64.toBeBytes n) 0 (by rw [whole]; exact n.toNat_lt)
  rw [whole, UInt64.ofNat_toNat] at parsed
  simp only [Uint64.«from», Uint64.tryIntoU64, Uint64.asHex, clean0x, prefixed_eq,
    strip_0x_ofList (Or.inl rfl) _ (lower_ascii _), to_uppercase_ofList, except_ok_bind, pure_bind, text,
    u64FromStrRadix, nonempty_digits, digits_start, ↓reduceIte]
  rw [show (0 : UInt64) = UInt64.ofNat 0 from rfl, parsed]
  rfl

end Integers

end Muta.Api
