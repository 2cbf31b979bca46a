import Mathlib

/-! The operations of Rust's `str` that a parser of `/`-separated names uses, over a
string as the list of its characters.

`len` counts UTF-8 bytes, as `str::len` does. `split(sep)` is `List.splitOn`, which
also keeps the empty pieces; `comps` drops them. `rfind` gives the position of the
last occurrence of a character, counted in characters: for an ASCII separator that
cuts at the same place as the byte offset `str::rfind` returns. `parse_u64` is
`u64::from_str`: an optional `+`, at least one decimal digit, and no overflow.
-/

set_option autoImplicit false

namespace Muta.Str

def len (text : List Char) : Nat := (text.map Char.utf8Size).sum

def comps (sep : Char) (text : List Char) : List (List Char) :=
  (text.splitOn sep).filter fun comp => !comp.isEmpty

def rfind (pat : Char) : List Char → Option Nat
  | [] => none
  | c :: rest =>
    match rfind pat rest with
    | some index => some (index + 1)
    | none => if c = pat then some 0 else none

def trimStartMatches (pat : Char) (text : List Char) : List Char := text.dropWhile (· == pat)

/-- One step of the digit loop of `u64::from_str_radix` in base 10: multiply by ten
and add the digit, failing on a character that is not a digit or on overflow. -/
def digitStep (acc : UInt64) (c : Char) : Option UInt64 :=
  if c.isDigit then
    let value := 10 * acc.toNat + (c.toNat - '0'.toNat)
    if value < 2 ^ 64 then some (UInt64.ofNat value) else none
  else none

def parseDigits (digits : List Char) : Option UInt64 := List.foldlM digitStep 0 digits

/-- `u64::from_str`: an empty text, or a lone sign, is refused; a leading `+` is dropped. -/
def parseU64 : List Char → Option UInt64
  | [] => none
  | ['+'] => none
  | '+' :: digits => parseDigits digits
  | digits => parseDigits digits

def u64ToString (n : UInt64) : List Char := Nat.toDigits 10 n.toNat

/-! ### Lengths -/

@[simp] theorem len_nil : len [] = 0 := rfl

@[simp] theorem len_append (first second : List Char) :
    len (first ++ second) = len first + len second := by
  simp [len]

@[simp] theorem len_cons (c : Char) (rest : List Char) : len (c :: rest) = c.utf8Size + len rest := by
  simp [len]

/-! ### Components and the last separator -/

theorem comps_append_sep {sep : Char} (text : List Char) {last : List Char} (plain : sep ∉ last)
    (nonempty : last ≠ []) : comps sep (text ++ sep :: last) = comps sep text ++ [last] := by
  rw [comps, List.splitOn_append_cons_self, List.splitOn_eq_singleton plain, List.filter_append,
    comps]
  simp [nonempty]

theorem rfind_append_cons {pat : Char} (text : List Char) {rest : List Char} (plain : pat ∉ rest) :
    rfind pat (text ++ pat :: rest) = some text.length := by
  -- Past the last occurrence nothing matches.
  have none_after : ∀ tail : List Char, pat ∉ tail → rfind pat tail = none := by
    intro tail
    induction tail with
    | nil => intro _; rfl
    | cons c tail ih =>
      intro absent
      rw [List.mem_cons, not_or] at absent
      rw [rfind, ih absent.2, if_neg (Ne.symm absent.1)]
  induction text with
  | nil => rw [List.nil_append, rfind, none_after rest plain, if_pos rfl, List.length_nil]
  | cons c text ih => rw [List.cons_append, rfind, ih, List.length_cons]

theorem trim_start_matches_of_head {pat c : Char} (rest : List Char) (differs : c ≠ pat) :
    trimStartMatches pat (c :: rest) = c :: rest := by
  simp [trimStartMatches, differs]

/-! ### Numbers -/

theorem le_ofDigitChars (digits : List Char) (init : Nat) : init ≤ Nat.ofDigitChars 10 digits init := by
  induction digits generalizing init with
  | nil => simp [Nat.ofDigitChars]
  | cons c rest ih =>
    rw [Nat.ofDigitChars_cons]
    exact Nat.le_trans (by omega) (ih _)

theorem parse_digits_foldlM {digits : List Char} (all_digits : ∀ c ∈ digits, c.isDigit = true)
    (acc : UInt64) (fits : Nat.ofDigitChars 10 digits acc.toNat < 2 ^ 64) :
    List.foldlM digitStep acc digits = some (UInt64.ofNat (Nat.ofDigitChars 10 digits acc.toNat)) := by
  induction digits generalizing acc with
  | nil => simp [Nat.ofDigitChars]
  | cons c rest ih =>
    rw [Nat.ofDigitChars_cons] at fits
    have step_fits : 10 * acc.toNat + (c.toNat - '0'.toNat) < 2 ^ 64 :=
      Nat.lt_of_le_of_lt (le_ofDigitChars rest _) fits
    have exact : (UInt64.ofNat (10 * acc.toNat + (c.toNat - '0'.toNat))).toNat =
        10 * acc.toNat + (c.toNat - '0'.toNat) := by
      rw [UInt64.toNat_ofNat', Nat.mod_eq_of_lt step_fits]
    have rest_fits : Nat.ofDigitChars 10 rest
        (UInt64.ofNat (10 * acc.toNat + (c.toNat - '0'.toNat))).toNat < 2 ^ 64 := by
      rw [exact]; exact fits
    rw [List.foldlM_cons, digitStep, if_pos (all_digits c List.mem_cons_self)]
    simp only [if_pos step_fits, Option.bind_eq_bind, Option.bind_some]
    rw [ih (fun d member => all_digits d (List.mem_cons_of_mem c member)) _ rest_fits, exact,
      Nat.ofDigitChars_cons]

theorem parse_u64_to_string (n : UInt64) : parseU64 (u64ToString n) = some n := by
  have all_digits : ∀ c ∈ u64ToString n, c.isDigit = true := fun c member =>
    Nat.isDigit_of_mem_toDigits (by decide) (by decide) member
  have parsed : parseDigits (u64ToString n) = some n := by
    rw [parseDigits, parse_digits_foldlM all_digits 0 (by
      rw [UInt64.toNat_zero, u64ToString, Nat.ofDigitChars_ten_toDigits]; exact n.toNat_lt)]
    rw [UInt64.toNat_zero, u64ToString, Nat.ofDigitChars_ten_toDigits, UInt64.ofNat_toNat]
  -- The text starts with a digit, so no sign is stripped.
  cases text : u64ToString n with
  | nil => exact absurd text Nat.toDigits_ne_nil
  | cons c rest =>
    have digit : c.isDigit = true := all_digits c (by rw [text]; exact List.mem_cons_self)
    have not_sign : c ≠ '+' := by
      rintro rfl
      exact absurd digit (by decide)
    rw [text] at parsed
    cases rest with
    | nil => simpa [parseU64, not_sign] using parsed
    | cons d more => simpa [parseU64, not_sign] using parsed

theorem u64_to_string_digits (n : UInt64) : ∀ c ∈ u64ToString n, c.isDigit = true :=
  fun _ member => Nat.isDigit_of_mem_toDigits (by decide) (by decide) member

theorem u64_to_string_ne_nil (n : UInt64) : u64ToString n ≠ [] := Nat.toDigits_ne_nil

end Muta.Str
