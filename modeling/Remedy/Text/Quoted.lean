import Remedy.Text.Blank
import Remedy.Text.Extender
import Remedy.Text.Hex
import Remedy.Text.Unassigned

/-!
# Text in quotes

Between quotes a reader sees every character as it is, or else by its number. By number are shown
controls, white space other than the space, characters without a shape, marks that join the
character before them, private use, and code points without a character.
-/

namespace Remedy.Text

def controls : Ranges := [(0x0000, 0x001F), (0x007F, 0x009F)]

/-- The general category Cf, as of Unicode 17. -/
def formats : Ranges :=
  [(0x00AD, 0x00AD), (0x0600, 0x0605), (0x061C, 0x061C), (0x06DD, 0x06DD), (0x070F, 0x070F),
    (0x0890, 0x0891), (0x08E2, 0x08E2), (0x180E, 0x180E), (0x200B, 0x200F), (0x202A, 0x202E),
    (0x2060, 0x2064), (0x2066, 0x206F), (0xFEFF, 0xFEFF), (0xFFF9, 0xFFFB), (0x110BD, 0x110BD),
    (0x110CD, 0x110CD), (0x13430, 0x1343F), (0x1BCA0, 0x1BCA3), (0x1D173, 0x1D17A),
    (0xE0001, 0xE0001), (0xE0020, 0xE007F)]

def privateUse : Ranges := [(0xE000, 0xF8FF), (0xF0000, 0xFFFFD), (0x100000, 0x10FFFD)]

/-- Letters that only hold the place of another. -/
def fillers : Ranges := [(0x115F, 0x1160), (0x3164, 0x3164), (0xFFA0, 0xFFA0)]

/-- Extenders that take a place of their own: the sound marks of half width. -/
def spacingExtenders : Ranges := [(0xFF9E, 0xFF9F)]

/-- Whether a character joins the one before it. -/
def joins (c : Char) : Bool := extenders.holds c && !spacingExtenders.holds c

/-- Whether a character is shown by its number. -/
def isHidden (c : Char) : Bool :=
  c != ' ' && (isBlank c || controls.holds c || formats.holds c || fillers.holds c || joins c
    || privateUse.holds c || unassigned.holds c)

/-- A number in hexadecimal without zeros in front. -/
def shortHex (n : Nat) : List Char :=
  match (hexOf n 6).dropWhile (· == '0') with
  | [] => ['0']
  | ds => ds

def shown (c : Char) : List Char :=
  match c with
  | '"' => ['\\', '"']
  | '\\' => ['\\', '\\']
  | '\n' => ['\\', 'n']
  | '\r' => ['\\', 'r']
  | '\t' => ['\\', 't']
  | '\x00' => ['\\', '0']
  | c => if isHidden c then ['\\', 'u', '\x7b'] ++ shortHex c.toNat ++ ['\x7d'] else [c]

def quoted (s : String) : String := String.ofList ('"' :: s.toList.flatMap shown ++ ['"'])

end Remedy.Text
