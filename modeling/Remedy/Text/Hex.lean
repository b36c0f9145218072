/-!
# Hexadecimal digits

Written in lower case, read in either case. A byte is two digits.
-/

namespace Remedy.Text

def hexDigits : List Char := "0123456789abcdef".toList

def hexDigit (n : Nat) : Char := hexDigits.getD n '0'

def hexDigit? (c : Char) : Option Nat :=
  if c.isDigit then some (c.toNat - '0'.toNat)
  else if 'a' ≤ c ∧ c ≤ 'f' then some (c.toNat - 'a'.toNat + 10)
  else if 'A' ≤ c ∧ c ≤ 'F' then some (c.toNat - 'A'.toNat + 10)
  else none

/-- The value of a run of digits. -/
def ofHex? (cs : List Char) : Option Nat :=
  cs.foldl (fun n c => do
    let n ← n
    let d ← hexDigit? c
    some (16 * n + d)) (some 0)

/-- The last `width` digits of a number. -/
def hexOf (n : Nat) : Nat → List Char
  | 0 => []
  | width + 1 => hexOf (n / 16) width ++ [hexDigit (n % 16)]

def hexByte (b : UInt8) : List Char := hexOf b.toNat 2

def hexBytes (bytes : List UInt8) : String := String.ofList (bytes.flatMap hexByte)

/-- Bytes from pairs of digits. -/
def bytesOfHex? : List Char → Option (List UInt8)
  | [] => some []
  | [_] => none
  | a :: b :: rest => do
    let hi ← hexDigit? a
    let lo ← hexDigit? b
    let bytes ← bytesOfHex? rest
    some (UInt8.ofNat (16 * hi + lo) :: bytes)

theorem length_hexOf (n width : Nat) : (hexOf n width).length = width := by
  induction width generalizing n with
  | zero => rfl
  | succ width ih => simp [hexOf, ih]

theorem exists_hexDigit_of_mem_hexOf {n width : Nat} {c : Char} (h : c ∈ hexOf n width) :
    ∃ d < 16, c = hexDigit d := by
  induction width generalizing n with
  | zero => cases h
  | succ width ih =>
    rcases List.mem_append.1 h with before | last
    · exact ih before
    · exact ⟨n % 16, Nat.mod_lt _ (by decide), List.mem_singleton.1 last⟩

theorem hexDigit?_hexDigit {n : Nat} (h : n < 16) : hexDigit? (hexDigit n) = some n := by
  have : ∀ n < 16, hexDigit? (hexDigit n) = some n := by decide
  exact this n h

theorem bytesOfHex?_hexBytes (bytes : List UInt8) :
    bytesOfHex? (bytes.flatMap hexByte) = some bytes := by
  induction bytes with
  | nil => rfl
  | cons b bytes ih =>
    have hi : hexDigit? (hexDigit (b.toNat / 16 % 16)) = some (b.toNat / 16 % 16) :=
      hexDigit?_hexDigit (Nat.mod_lt _ (by decide))
    have lo : hexDigit? (hexDigit (b.toNat % 16)) = some (b.toNat % 16) :=
      hexDigit?_hexDigit (Nat.mod_lt _ (by decide))
    have sum : 16 * (b.toNat / 16 % 16) + b.toNat % 16 = b.toNat := by
      have := b.toNat_lt
      omega
    show bytesOfHex? (hexDigit (b.toNat / 16 % 16) :: hexDigit (b.toNat % 16) ::
      bytes.flatMap hexByte) = some (b :: bytes)
    unfold bytesOfHex?
    rw [hi, lo, ih]
    show some (UInt8.ofNat (16 * (b.toNat / 16 % 16) + b.toNat % 16) :: bytes) = some (b :: bytes)
    rw [sum, UInt8.ofNat_toNat]

end Remedy.Text
