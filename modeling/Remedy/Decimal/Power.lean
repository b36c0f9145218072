/-!
# Powers

Powers of two and of ten, and the largest values of words.
-/

namespace Remedy.Decimal

def twoTo (n : Nat) : Nat := Nat.pow 2 n

def tenTo (n : Nat) : Nat := Nat.pow 10 n

def maxWord32 : Nat := 4294967295

def maxWord64 : Nat := 18446744073709551615

/-- The magnitude of the least signed integer of 64 bits. -/
def maxMagnitude64 : Nat := 9223372036854775808

end Remedy.Decimal
