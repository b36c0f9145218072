import Remedy.Time.Calendar

/-!
# Instants

A second since the start of 1970 in coordinated time, and nanoseconds in it. A leap second is
counted to the second before it, with a thousand million nanoseconds and more. Years reach from
-262143 to 262142; arithmetic that leaves them has no result.
-/

namespace Remedy.Time

def nanosPerSecond : Nat := 1000000000
def secondsPerDay : Nat := 86400

structure Instant where
  second : Int
  nano : Nat
deriving DecidableEq

namespace Instant

/-- The first second that can be represented. -/
def firstSecond : Int := (⟨-262143, 1, 1⟩ : Date).dayNumber * secondsPerDay

/-- The last second that can be represented. -/
def lastSecond : Int := ((⟨262142, 12, 31⟩ : Date).dayNumber + 1) * secondsPerDay - 1

def earliest : Instant := ⟨firstSecond, 0⟩

def inRange (t : Instant) : Bool := firstSecond ≤ t.second && t.second ≤ lastSecond

/-- Earlier, or at the same time. -/
def before (a b : Instant) : Bool :=
  a.second < b.second || (a.second == b.second && a.nano ≤ b.nano)

instance : LE Instant := ⟨fun a b => a.before b = true⟩

instance (a b : Instant) : Decidable (a ≤ b) := inferInstanceAs (Decidable (a.before b = true))

instance : LT Instant := ⟨fun a b => ¬ b ≤ a⟩

instance (a b : Instant) : Decidable (a < b) := inferInstanceAs (Decidable (¬ b ≤ a))

theorem le_iff {a b : Instant} :
    a ≤ b ↔ a.second < b.second ∨ a.second = b.second ∧ a.nano ≤ b.nano := by
  change a.before b = true ↔ _
  simp [before]

theorem le_refl (a : Instant) : a ≤ a := le_iff.2 (.inr ⟨rfl, Nat.le_refl _⟩)

theorem le_trans {a b c : Instant} (hab : a ≤ b) (hbc : b ≤ c) : a ≤ c := by
  rw [le_iff] at *
  omega

theorem lt_of_le_of_lt {a b c : Instant} (hab : a ≤ b) (hbc : b < c) : a < c :=
  fun hca => hbc (le_trans hca hab)

theorem lt_of_lt_of_le {a b c : Instant} (hab : a < b) (hbc : b ≤ c) : a < c :=
  fun hca => hab (le_trans hbc hca)

/-- Move by a signed number of nanoseconds. Inside a leap second a short step stays in it; a longer
one leaves it as if it were the second before or the second after. -/
def shift? (t : Instant) (nanos : Int) : Option Instant :=
  let steps : Int := Int.tdiv nanos nanosPerSecond
  let part : Int := Int.tmod nanos nanosPerSecond
  let leap : Bool := nanosPerSecond ≤ t.nano
  let escapes : Bool := 0 < steps || (0 < part && 2 * nanosPerSecond ≤ t.nano + part)
  if leap && !escapes && !(steps < 0) then some ⟨t.second, (t.nano + part).toNat⟩
  else
    let second : Int := if leap && !escapes then t.second + 1 else t.second
    let nano : Int := (if leap then (t.nano : Int) - nanosPerSecond else t.nano) + part
    let moved : Instant :=
      ⟨second + steps + nano / nanosPerSecond, (nano % nanosPerSecond).toNat⟩
    if moved.inRange then some moved else none

/-- An instant of the calendar that is not inside a leap second. -/
def IsOrdinary (t : Instant) : Prop := t.inRange = true ∧ t.nano < nanosPerSecond

instance (t : Instant) : Decidable t.IsOrdinary :=
  inferInstanceAs (Decidable (t.inRange = true ∧ t.nano < nanosPerSecond))

theorem inRange_iff {t : Instant} :
    t.inRange = true ↔ firstSecond ≤ t.second ∧ t.second ≤ lastSecond := by
  simp [inRange]

/-- Whole seconds are taken from an ordinary instant without touching its nanoseconds. -/
theorem shift?_seconds {t : Instant} (h : t.nano < nanosPerSecond) (seconds : Nat) :
    t.shift? (-(seconds * nanosPerSecond : Nat)) =
      if (⟨t.second - seconds, t.nano⟩ : Instant).inRange then some ⟨t.second - seconds, t.nano⟩
      else none := by
  have hpos : (nanosPerSecond : Int) ≠ 0 := by decide
  have hdiv : Int.tdiv (-(seconds * nanosPerSecond : Nat) : Int) nanosPerSecond = -seconds := by
    rw [Int.natCast_mul, ← Int.neg_mul, Int.mul_tdiv_cancel _ hpos]
  have hmod : Int.tmod (-(seconds * nanosPerSecond : Nat) : Int) nanosPerSecond = 0 := by
    rw [Int.natCast_mul, ← Int.neg_mul, Int.mul_tmod_left]
  have hleap : ¬ nanosPerSecond ≤ t.nano := Nat.not_le.2 h
  have hlt : (t.nano : Int) < nanosPerSecond := Int.ofNat_lt.2 h
  have hnano : (t.nano : Int) / nanosPerSecond = 0 := Int.ediv_eq_zero_of_lt (by omega) hlt
  have hrest : (t.nano : Int) % nanosPerSecond = t.nano := Int.emod_eq_of_lt (by omega) hlt
  have hsecond : t.second + -(seconds : Int) = t.second - seconds := by omega
  simp only [shift?, hdiv, hmod]
  simp [hleap, hnano, hrest, hsecond]

end Instant

end Remedy.Time
