import Remedy.Time.Calendar

/-!
# Days and dates

Every day has a date of the calendar, and the date has the number of the day.
-/

namespace Remedy.Time

/-- The day of an era on which its year `y` begins, in March. -/
def yearStart (y : Nat) : Nat := 365 * y + y / 4 - y / 100 + y / 400

/-- The days of an era up to a day without the leap days among them. -/
def plainDays (e : Nat) : Nat := e - e / 1460 + e / 36524 - e / 146096

theorem plainDays_mono {a b : Nat} (le : a ≤ b) (short : b < 146097) :
    plainDays a ≤ plainDays b := by
  have first : a - a / 1460 ≤ b - b / 1460 := by omega
  have second : a / 36524 ≤ b / 36524 := by omega
  unfold plainDays
  omega

theorem plainDays_yearStart : ∀ y < 400, 365 * y ≤ plainDays (yearStart y) ∧
    plainDays (yearStart (y + 1) - 1) < 365 * (y + 1) := by decide +kernel

theorem yearStart_bounds {e y : Nat} (short : e < 146097) (hy : y = plainDays e / 365) :
    y < 400 ∧ yearStart y ≤ e ∧ e < yearStart (y + 1) := by
  have most : plainDays e ≤ plainDays 146096 := plainDays_mono (by omega) (by omega)
  have last : plainDays 146096 = 145999 := by decide
  have era : y < 400 := by omega
  refine ⟨era, ?_, ?_⟩
  · apply Nat.le_of_not_lt
    intro early
    have pos : 0 < y := by
      apply Nat.pos_of_ne_zero
      intro zero
      simp [zero, yearStart] at early
    obtain ⟨-, before⟩ := plainDays_yearStart (y - 1) (by omega)
    have same : y - 1 + 1 = y := by omega
    rw [same] at before
    have le : plainDays e ≤ plainDays (yearStart y - 1) := plainDays_mono (by omega) (by
      unfold yearStart; omega)
    omega
  · apply Nat.lt_of_not_le
    intro late
    by_cases final : y + 1 < 400
    · obtain ⟨after, -⟩ := plainDays_yearStart (y + 1) final
      have le := plainDays_mono late short
      omega
    · have same : y + 1 = 400 := by omega
      rw [same] at late
      have : yearStart 400 = 146097 := by decide
      omega

/-- The month of a day of a year that begins in March, counted from March. -/
def monthOf (d : Nat) : Nat := (5 * d + 2) / 153

/-- The number in the calendar of a month that is counted from March. -/
def calendarMonth (m : Nat) : Nat := if m < 10 then m + 3 else m - 9

theorem calendarMonth_spec {m : Nat} (h : m ≤ 11) :
    (calendarMonth m + 9) % 12 = m ∧ 1 ≤ calendarMonth m ∧ calendarMonth m ≤ 12 := by
  unfold calendarMonth
  split <;> omega

/-- Months from March on have their lengths in every year; only the last one may have a leap day. -/
theorem daysBeforeMonth_succ {m : Nat} (h : m < 11) (y : Int) :
    daysBeforeMonth (m + 1) = daysBeforeMonth m + monthLength y (calendarMonth m) := by
  match m, h with
  | 0, _ | 1, _ | 2, _ | 3, _ | 4, _ | 5, _ | 6, _ | 7, _ | 8, _ | 9, _ | 10, _ => rfl

theorem monthOf_bounds {d : Nat} (short : d < 366) : monthOf d ≤ 11 ∧
    daysBeforeMonth (monthOf d) ≤ d ∧ d < daysBeforeMonth (monthOf d + 1) := by
  unfold monthOf daysBeforeMonth
  omega

/-- A day of a year that begins in March is one of the days of its month. Days from January on are
in the next year of the calendar. -/
theorem lt_monthLength {y : Int} {d : Nat} (short : d < 366)
    (leap : d = 365 → isLeapYear (y + 1) = true) :
    let month := calendarMonth (monthOf d)
    d - daysBeforeMonth (monthOf d) < monthLength (if month ≤ 2 then y + 1 else y) month := by
  obtain ⟨most, before, after⟩ := monthOf_bounds short
  by_cases early : monthOf d < 11
  · intro month
    have next : daysBeforeMonth (monthOf d + 1) = daysBeforeMonth (monthOf d) +
        monthLength (if month ≤ 2 then y + 1 else y) month := daysBeforeMonth_succ early _
    omega
  · have final : monthOf d = 11 := by omega
    have days : daysBeforeMonth 11 = 337 := rfl
    rw [final, days]
    change d - 337 < (if isLeapYear (y + 1) then 29 else 28)
    by_cases leapDay : d = 365
    · rw [leap leapDay, if_pos rfl]
      omega
    · split <;> omega

theorem isLeapYear_iff {y : Int} :
    isLeapYear y = true ↔ y % 4 = 0 ∧ (y % 100 ≠ 0 ∨ y % 400 = 0) := by
  simp [isLeapYear]

theorem yearAndDay_spec (n : Int) :
    let (y, d) := yearAndDay n
    365 * y + y / 4 - y / 100 + y / 400 + d = n ∧ d < 366 ∧
      (d = 365 → isLeapYear (y + 1) = true) := by
  have short : (n % 146097).toNat < 146097 := by omega
  have whole : n = 146097 * (n / 146097) + (n % 146097).toNat := by omega
  obtain ⟨era, start, next⟩ := yearStart_bounds short rfl
  change let y : Int := n / 146097 * 400 + ((plainDays (n % 146097).toNat / 365 : Nat) : Int)
    let d := (n % 146097).toNat - (365 * (plainDays (n % 146097).toNat / 365) +
      plainDays (n % 146097).toNat / 365 / 4 - plainDays (n % 146097).toNat / 365 / 100)
    365 * y + y / 4 - y / 100 + y / 400 + d = n ∧ d < 366 ∧ (d = 365 → isLeapYear (y + 1) = true)
  generalize (n % 146097).toNat = e at *
  generalize n / 146097 = c at *
  generalize plainDays e / 365 = y at *
  intro year d
  have quarter : year / 4 = c * 100 + (y / 4 : Nat) := by omega
  have century : year / 100 = c * 4 + (y / 100 : Nat) := by omega
  have cycle : year / 400 = c := by omega
  have inEra : y / 400 = 0 := by omega
  have fourth : (y + 1) / 4 = y / 4 ∨ (y + 1) / 4 = y / 4 + 1 ∧ (year + 1) % 4 = 0 := by omega
  have hundredth : (y + 1) / 100 = y / 100 + 1 ∨
      (y + 1) / 100 = y / 100 ∧ (year + 1) % 100 ≠ 0 := by
    omega
  have end_ : (y + 1) / 400 = 0 ∨ (y + 1) / 400 = 1 ∧ (year + 1) % 400 = 0 ∧
      (y + 1) / 100 = y / 100 + 1 := by omega
  simp only [yearStart, inEra] at start next
  refine ⟨by omega, ?_, fun last => ?_⟩
  · rcases fourth with fourth | ⟨fourth, -⟩ <;> rcases end_ with end_ | ⟨end_, -, same⟩ <;> omega
  · rw [isLeapYear_iff]
    rcases fourth with fourth | ⟨fourth, by4⟩
    · omega
    · refine ⟨by4, ?_⟩
      rcases end_ with end_ | ⟨-, by400, -⟩
      · rcases hundredth with hundredth | ⟨-, by100⟩
        · omega
        · exact .inl by100
      · exact .inr by400

theorem Date.ofDayNumber_spec (n : Int) :
    (Date.ofDayNumber n).isValid = true ∧ (Date.ofDayNumber n).dayNumber = n := by
  have spec := yearAndDay_spec (n + 719468)
  unfold Date.ofDayNumber
  generalize yearAndDay (n + 719468) = yd at spec
  obtain ⟨y, d⟩ := yd
  obtain ⟨number, short, leap⟩ := spec
  obtain ⟨most, before, -⟩ := monthOf_bounds short
  obtain ⟨again, least, last⟩ := calendarMonth_spec most
  have inMonth := lt_monthLength short leap
  change (let m := monthOf d; let month := calendarMonth m
    let date : Date := ⟨if month ≤ 2 then y + 1 else y, month, d - daysBeforeMonth m + 1⟩
    date.isValid = true ∧ date.dayNumber = n)
  generalize monthOf d = m at *
  intro m' month date
  constructor
  · simp only [Date.isValid, Bool.and_eq_true, decide_eq_true_eq]
    exact ⟨⟨⟨least, last⟩, Nat.le_add_left 1 _⟩, inMonth⟩
  · have year : (if month ≤ 2 then date.year - 1 else date.year) = y := by
      show (if month ≤ 2 then (if month ≤ 2 then y + 1 else y) - 1
        else if month ≤ 2 then y + 1 else y) = y
      split <;> omega
    have inYear : (month + 9) % 12 = m := again
    unfold Date.dayNumber
    simp only [show date.month = month from rfl, show date.day = d - daysBeforeMonth m + 1 from rfl,
      year, inYear]
    omega

end Remedy.Time
