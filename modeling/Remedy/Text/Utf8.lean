/-!
# Bytes as text

Bytes that are not text are replaced, one replacement character for each longest piece that could
have begun a character.
-/

namespace Remedy.Text

/-- The bytes that may follow a lead byte, place by place. -/
def tails (lead : UInt8) : List (UInt8 × UInt8) :=
  if lead < 0xC2 then []
  else if lead < 0xE0 then [(0x80, 0xBF)]
  else if lead = 0xE0 then [(0xA0, 0xBF), (0x80, 0xBF)]
  else if lead = 0xED then [(0x80, 0x9F), (0x80, 0xBF)]
  else if lead < 0xF0 then [(0x80, 0xBF), (0x80, 0xBF)]
  else if lead = 0xF0 then [(0x90, 0xBF), (0x80, 0xBF), (0x80, 0xBF)]
  else if lead < 0xF4 then [(0x80, 0xBF), (0x80, 0xBF), (0x80, 0xBF)]
  else if lead = 0xF4 then [(0x80, 0x8F), (0x80, 0xBF), (0x80, 0xBF)]
  else []

/-- The bits that a lead byte contributes. -/
def leadBits (lead : UInt8) : Nat :=
  if lead < 0xE0 then lead.toNat % 32 else if lead < 0xF0 then lead.toNat % 16
  else lead.toNat % 8

/-- How many of the bytes may follow, one for each place. -/
def matching : List (UInt8 × UInt8) → List UInt8 → Nat
  | (lo, hi) :: places, b :: bs => if lo ≤ b ∧ b ≤ hi then matching places bs + 1 else 0
  | _, _ => 0

/-- One character, or none when the bytes begin no character, and the number of bytes that are taken
after the first. -/
def decodeOne (lead : UInt8) (rest : List UInt8) : Option Char × Nat :=
  if lead < 0x80 then (some (Char.ofNat lead.toNat), 0)
  else
    let places := tails lead
    let n := matching places rest
    if !places.isEmpty && n = places.length then
      (some (Char.ofNat ((rest.take n).foldl (fun v b => v * 64 + b.toNat % 64) (leadBits lead))),
        n)
    else (none, n)

/-- Decode, with `stand` for every piece that is no character, skipping the bytes that belong to the
character before. -/
def decodeFrom (stand : List Char) : Nat → List UInt8 → List Char
  | _, [] => []
  | skip + 1, _ :: rest => decodeFrom stand skip rest
  | 0, lead :: rest =>
    let (c, n) := decodeOne lead rest
    c.elim stand ([·]) ++ decodeFrom stand n rest

def ofBytes (bytes : List UInt8) : String := String.ofList (decodeFrom ['\uFFFD'] 0 bytes)

/-- Whether bytes are text as they are. -/
def bytes? (bytes : List UInt8) : Option String := String.fromUTF8? ⟨bytes.toArray⟩

def toBytes (s : String) : List UInt8 := s.toUTF8.data.toList

theorem bytes?_toBytes (s : String) : bytes? (toBytes s) = some s := by
  have same : (⟨(toBytes s).toArray⟩ : ByteArray) = s.toUTF8 := by simp [toBytes]
  rw [bytes?, same]
  exact dif_pos s.isValidUTF8

end Remedy.Text
