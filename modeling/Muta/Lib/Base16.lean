import Mathlib

/-! Base 16 text of byte strings, as the `hex` crate writes and reads it.

`encode` writes two digits a byte, the high half first, in lowercase. `decode`
reads the bytes of a text: an even number of them, each pair two digits of either
case. The digits of `encode` are ASCII, so its text is its characters' bytes
(`toByteArray_ofList_ascii`), and `decode` reads them back in either case
(`decode_chars`).
-/

set_option autoImplicit false

namespace Muta.Base16

def digit (n : Nat) : Char := if n < 10 then Char.ofNat (48 + n) else Char.ofNat (87 + n)

def encode (bytes : List UInt8) : String :=
  String.ofList (bytes.flatMap fun byte => [digit (byte.toNat / 16), digit (byte.toNat % 16)])

example : encode [0x0a, 0xff, 0x10] = "0aff10" := by decide

def chars (bytes : List UInt8) : List Char :=
  bytes.flatMap fun byte => [digit (byte.toNat / 16), digit (byte.toNat % 16)]

theorem encode_eq_ofList (bytes : List UInt8) : encode bytes = String.ofList (chars bytes) := rfl

def ascii (text : List Char) : List UInt8 := text.map fun c => UInt8.ofNat c.toNat

theorem toByteArray_ofList_ascii (text : List Char) (small : ∀ c ∈ text, c.toNat < 128) :
    (String.ofList text).toByteArray.data.toList = ascii text := by
  rw [String.toByteArray_ofList, List.utf8Encode, List.data_toByteArray, List.toList_toArray]
  induction text with
  | nil => rfl
  | cons c rest ih =>
    have one : c.utf8Size = 1 := by
      rw [Char.utf8Size_eq_one_iff, UInt32.le_iff_toNat_le]
      exact Nat.le_of_lt_succ (small c List.mem_cons_self)
    rw [List.flatMap_cons, String.utf8EncodeChar_eq_singleton one,
      ih fun other member => small other (List.mem_cons_of_mem c member)]
    simp only [ascii, List.map_cons, List.singleton_append, List.cons.injEq, and_true]
    -- the one byte of an ASCII character is its code
    apply UInt8.toNat_inj.mp
    rw [UInt8.toNat_ofNat', UInt32.toNat_toUInt8]
    rfl

inductive FromHexError where
  | InvalidHexCharacter (c : Char) (index : Nat)
  | OddLength
  deriving DecidableEq, Repr

def value (c : UInt8) : Option Nat :=
  if 0x41 ≤ c ∧ c ≤ 0x46 then some (c.toNat - 0x41 + 10)
  else if 0x61 ≤ c ∧ c ≤ 0x66 then some (c.toNat - 0x61 + 10)
  else if 0x30 ≤ c ∧ c ≤ 0x39 then some (c.toNat - 0x30)
  else none

def val (c : UInt8) (index : Nat) : Except FromHexError Nat :=
  match value c with
  | some v => .ok v
  | none => .error (.InvalidHexCharacter (Char.ofNat c.toNat) index)

def decodePairs (index : Nat) : List UInt8 → Except FromHexError (List UInt8)
  | [] => .ok []
  | [_] => .error .OddLength
  | high :: low :: rest => do
    let byte := (← val high index) * 16 + (← val low (index + 1))
    pure (UInt8.ofNat byte :: (← decodePairs (index + 2) rest))

def decode (hex : List UInt8) : Except FromHexError (List UInt8) :=
  if hex.length % 2 ≠ 0 then .error .OddLength else decodePairs 0 hex

example : decode [0x30, 0x61, 0x46, 0x66] = .ok [0x0a, 0xff] := by decide

theorem digit_ascii : ∀ n < 16, (digit n).toNat < 128 := by decide

theorem upper_digit_ascii : ∀ n < 16, (digit n).toUpper.toNat < 128 := by decide

theorem value_digit : ∀ n < 16, value (UInt8.ofNat (digit n).toNat) = some n := by decide

theorem value_upper_digit : ∀ n < 16, value (UInt8.ofNat (digit n).toUpper.toNat) = some n := by decide

section Decode

variable (case : Char → Char) (reads : ∀ n < 16, value (UInt8.ofNat (case (digit n)).toNat) = some n)
include reads

theorem decode_pairs_chars (bytes : List UInt8) (index : Nat) :
    decodePairs index (ascii ((chars bytes).map case)) = .ok bytes := by
  induction bytes generalizing index with
  | nil => rfl
  | cons byte rest ih =>
    have below := byte.toNat_lt
    have high : byte.toNat / 16 < 16 := by omega
    have low : byte.toNat % 16 < 16 := by omega
    have whole : byte.toNat / 16 * 16 + byte.toNat % 16 = byte.toNat := by omega
    simp only [chars, List.flatMap_cons, ascii, List.map_cons, List.cons_append, List.nil_append] at ih ⊢
    simp only [decodePairs, val, reads _ high, reads _ low, ih]
    show Except.ok (UInt8.ofNat (byte.toNat / 16 * 16 + byte.toNat % 16) :: rest) = _
    rw [whole, UInt8.ofNat_toNat]

theorem decode_chars (bytes : List UInt8) : decode (ascii ((chars bytes).map case)) = .ok bytes := by
  have even : (ascii ((chars bytes).map case)).length % 2 = 0 := by
    simp [ascii, chars, List.length_flatMap]
  simp only [decode, even, ne_eq, not_true_eq_false, ↓reduceIte]
  exact decode_pairs_chars case reads bytes 0

end Decode

end Muta.Base16
