import Remedy.Proofs.Decimal.Numerals
import Remedy.Proofs.Time.Days
import Remedy.Time.Rfc3339

/-!
# Times and their text

A time that a clock can show reads back from its text, and only such times are read from any text.
-/

namespace Remedy.Time

open Text Decimal

/-! ## Digits in a row -/

theorem isDigit_of_mem_padded {width n : Nat} {c : Char} (h : c ∈ padded width n) :
    c.isDigit = true := by
  rcases List.mem_append.1 h with zero | digit
  · rw [List.eq_of_mem_replicate zero]
    rfl
  · exact isDigit_of_mem_numeral digit

theorem length_padded {width n : Nat} (pos : 0 < width) (short : n < 10 ^ width) :
    (padded width n).length = width := by
  have fits : (toString n).toList.length ≤ width := length_numeral_le pos short
  simp only [padded, List.length_append, List.length_replicate]
  omega

theorem ofDigits_padded (width n : Nat) : ofDigits (padded width n) = n := by
  simp [ofDigits_eq, padded, Nat.ofDigitChars_append]

/-- Padded digits as a first digit and more. -/
theorem exists_padded_eq_cons (width n : Nat) :
    ∃ d ds, padded width n = d :: ds ∧ d.isDigit = true := by
  cases text : padded width n with
  | nil =>
    have none : (toString n).toList = [] := (List.append_eq_nil_iff.1 text).2
    exact absurd none (numeral_ne_nil n)
  | cons d ds =>
    have among : d ∈ padded width n := by simp [text]
    exact ⟨d, ds, rfl, isDigit_of_mem_padded among⟩

theorem trimLeft_padded (width n : Nat) (rest : List Char) :
    trimLeft (padded width n ++ rest) = padded width n ++ rest := by
  obtain ⟨d, ds, text, digit⟩ := exists_padded_eq_cons width n
  rw [text]
  exact trimLeft_cons _ (isBlank_of_isDigit digit)

theorem upTo?_padded {width n : Nat} (pos : 0 < width) (short : n < 10 ^ width)
    (rest : List Char) : upTo? width (padded width n ++ rest) = some (n, rest) := by
  have length := length_padded pos short
  have digits : (padded width n).takeWhile Char.isDigit = padded width n := by
    have all : ∀ c ∈ padded width n, c.isDigit = true := fun c => isDigit_of_mem_padded
    simpa using all
  have some_ : (padded width n).isEmpty = false := by
    obtain ⟨d, ds, text, -⟩ := exists_padded_eq_cons width n
    rw [text]
    rfl
  have taken : (padded width n ++ rest).take width = padded width n := by
    rw [List.take_append_of_le_length (Nat.le_of_eq length.symm)]
    exact List.take_of_length_le (Nat.le_of_eq length)
  simp [upTo?, trimLeft_padded, taken, digits, some_, ofDigits_padded]

theorem after?_cons {c : Char} (h : isBlank c = false) (rest : List Char) :
    after? c (c :: rest) = some rest := by
  simp [after?, trimLeft_cons rest h]

/-! ## The parts of a time -/

theorem signedYear?_padded (n : Nat) {rest : List Char} (stops : Stops rest) :
    year?.signedYear? (padded 4 n ++ rest) = some (n, rest) := by
  obtain ⟨d, ds, text, -⟩ := exists_padded_eq_cons 4 n
  have some_ : (padded 4 n).isEmpty = false := by simp [text]
  simp [year?.signedYear?, spanDigits_append (fun c => isDigit_of_mem_padded) stops, some_,
    ofDigits_padded]

theorem year?_yearText (y : Int) {rest : List Char} (stops : Stops rest) :
    year? (yearText y ++ rest) = some (y, rest) := by
  unfold yearText
  split
  · next plain =>
    obtain ⟨d, ds, text, digit⟩ := exists_padded_eq_cons 4 y.toNat
    have minus : d ≠ '-' := by rintro rfl; simp at digit
    have plus : d ≠ '+' := by rintro rfl; simp at digit
    have short : y.toNat < 10 ^ 4 := by omega
    have value := upTo?_padded (by decide) short rest
    rw [text, List.cons_append] at value ⊢
    unfold year?
    rw [trimLeft_cons _ (isBlank_of_isDigit digit)]
    split
    · next same => cases same; exact absurd rfl minus
    · next same => cases same; exact absurd rfl plus
    · have whole : (y.toNat : Int) = y := Int.toNat_of_nonneg plain.1
      simp only [value, Option.map_some, whole]
  · next signed =>
    have value := signedYear?_padded y.natAbs stops
    rw [List.cons_append, year?]
    by_cases negative : y < 0
    · have whole : -(y.natAbs : Int) = y := by omega
      rw [if_pos negative, trimLeft_cons _ (by decide)]
      simp only [value, Option.map_some, whole]
    · have whole : (y.natAbs : Int) = y := by omega
      rw [if_neg negative, trimLeft_cons _ (by decide)]
      simp only [value, Option.map_some, whole]

/-- The text of a date. -/
def dateText (d : Date) : List Char :=
  yearText d.year ++ '-' :: padded 2 d.month ++ '-' :: padded 2 d.day

/-- The text of a time of day. -/
def clockText (hour minute second nano : Nat) : List Char :=
  padded 2 hour ++ ':' :: padded 2 minute ++ ':' :: padded 2 second ++ fractionText nano

theorem date?_dateText {d : Date} (valid : d.isValid = true) (rest : List Char) :
    date? (dateText d ++ rest) = some (d, rest) := by
  have bounds : d.month < 10 ^ 2 ∧ d.day < 10 ^ 2 := by
    simp only [Date.isValid, Bool.and_eq_true, decide_eq_true_eq] at valid
    have month : monthLength d.year d.month ≤ 31 := by
      unfold monthLength
      split <;> (try split) <;> decide
    omega
  obtain ⟨month, day⟩ := bounds
  have dash : isBlank '-' = false := by decide
  have stops (cs : List Char) : Stops ('-' :: cs) := .cons (by decide)
  simp [date?, dateText, year?_yearText d.year (stops _), after?_cons dash,
    upTo?_padded (by decide : 0 < 2) month, upTo?_padded (by decide : 0 < 2) day, valid]

theorem fraction?_fractionText {nano : Nat} (short : nano < nanosPerSecond) {c : Char}
    (other : c.isDigit = false) (after : c ≠ '.') (rest : List Char) :
    fraction? (fractionText nano ++ c :: rest) = some (nano, c :: rest) := by
  have places : ∀ width k : Nat, 0 < width → width ≤ 9 → k < 10 ^ width →
      fraction? ('.' :: padded width k ++ c :: rest) =
        some (k * 10 ^ (9 - width), c :: rest) := by
    intro width k pos most small
    have length := length_padded pos small
    have kept : (padded width k).take 9 = padded width k :=
      List.take_of_length_le (by omega)
    obtain ⟨d, ds, text, -⟩ := exists_padded_eq_cons width k
    have some_ : (padded width k).isEmpty = false := by simp [text]
    simp [fraction?, spanDigits_append (fun c => isDigit_of_mem_padded) (Stops.cons other),
      kept, some_, ofDigits_padded, length, tenTo]
  unfold nanosPerSecond at short
  unfold fractionText
  by_cases zero : nano = 0
  · rw [if_pos zero, zero, List.nil_append, fraction?]
    intro rest' same
    exact after (List.cons.inj same).1
  rw [if_neg zero]
  by_cases milli : nano % 1000000 = 0
  · have value : nano / 1000000 * 10 ^ (9 - 3) = nano := by omega
    rw [if_pos milli, places 3 _ (by decide) (by decide) (by omega), value]
  rw [if_neg milli]
  by_cases micro : nano % 1000 = 0
  · have value : nano / 1000 * 10 ^ (9 - 6) = nano := by omega
    rw [if_pos micro, places 6 _ (by decide) (by decide) (by omega), value]
  · rw [if_neg micro, places 9 _ (by decide) (by decide) (by omega)]
    simp

/-- A time that a clock can show: in the calendar, and in a leap second only at
the end of a minute. -/
structure Instant.OnClock (t : Instant) : Prop where
  inRange : t.inRange = true
  short : t.nano < 2 * nanosPerSecond
  leap : nanosPerSecond ≤ t.nano → t.second % 60 = 59

theorem clockTime?_clockText {hour minute second nano : Nat} (h : hour < 24) (m : minute < 60)
    (s : second ≤ 60) (n : nano < nanosPerSecond) (rest : List Char) :
    clockTime? (clockText hour minute second nano ++ 'Z' :: rest) =
      some (if second = 60 then (hour * 3600 + minute * 60 + 59, nano + nanosPerSecond)
        else (hour * 3600 + minute * 60 + second, nano), 'Z' :: rest) := by
  have colon : isBlank ':' = false := by decide
  have fits : ¬ (23 < hour ∨ 59 < minute ∨ 60 < second) := by omega
  simp [clockTime?, clockText, after?_cons colon,
    upTo?_padded (by decide : 0 < 2) (by omega : hour < 10 ^ 2),
    upTo?_padded (by decide : 0 < 2) (by omega : minute < 10 ^ 2),
    upTo?_padded (by decide : 0 < 2) (by omega : second < 10 ^ 2),
    fraction?_fractionText n (by decide : 'Z'.isDigit = false) (by decide) rest, fits]
  split <;> rfl

theorem Instant.toList_text (t : Instant) :
    let inDay := (t.second % secondsPerDay).toNat
    t.text.toList = dateText (Date.ofDayNumber (t.second / secondsPerDay)) ++
      'T' :: (clockText (inDay / 3600) (inDay / 60 % 60) (inDay % 60 + t.nano / nanosPerSecond)
        (t.nano % nanosPerSecond) ++ ['Z']) := by
  simp [Instant.text, dateText, clockText]

/-- A time that a clock can show reads back from its text. -/
theorem Instant.ofText?_text {t : Instant} (shown : t.OnClock) :
    Instant.ofText? t.text = some t := by
  obtain ⟨within, short, leap⟩ := shown
  obtain ⟨valid, number⟩ := Date.ofDayNumber_spec (t.second / secondsPerDay)
  have text := t.toList_text
  generalize Date.ofDayNumber (t.second / secondsPerDay) = date at valid number text
  obtain ⟨inDay, isInDay⟩ : ∃ n, n = (t.second % secondsPerDay).toNat := ⟨_, rfl⟩
  rw [← isInDay] at text
  unfold secondsPerDay nanosPerSecond at *
  have hour : inDay / 3600 < 24 := by omega
  have minute : inDay / 60 % 60 < 60 := by omega
  have second : inDay % 60 + t.nano / 1000000000 ≤ 60 := by omega
  have nano : t.nano % 1000000000 < nanosPerSecond := by
    unfold nanosPerSecond
    omega
  have clock := clockTime?_clockText hour minute second nano []
  have offset : offset? ['Z'] = some (0, []) := rfl
  have time : (if inDay % 60 + t.nano / 1000000000 = 60
      then (inDay / 3600 * 3600 + inDay / 60 % 60 * 60 + 59, t.nano % 1000000000 + nanosPerSecond)
      else (inDay / 3600 * 3600 + inDay / 60 % 60 * 60 + (inDay % 60 + t.nano / 1000000000),
        t.nano % 1000000000)) = (inDay, t.nano) := by
    unfold nanosPerSecond
    split <;> rw [Prod.mk.injEq] <;> omega
  have back : date.dayNumber * ((86400 : Nat) : Int) + inDay = t.second := by omega
  rw [time] at clock
  rw [Instant.ofText?, text, date?_dateText valid]
  simp only [Option.bind_eq_bind, Option.bind_some, clock, offset, secondsPerDay, back,
    Int.sub_zero, within]
  rfl

/-! ## Only such times are read -/

theorem fraction?_lt {cs rest : List Char} {nano : Nat} (h : fraction? cs = some (nano, rest)) :
    nano < nanosPerSecond := by
  unfold fraction? at h
  split at h
  · next digits =>
    simp only at h
    split at h
    · cases h
    · obtain ⟨rfl, -⟩ := Prod.mk.inj (Option.some.inj h)
      have short : ((spanDigits digits).1.take 9).length ≤ 9 := List.length_take_le ..
      have all : ∀ d ∈ (spanDigits digits).1.take 9, d.isDigit = true := fun d among =>
        isDigit_of_mem_spanDigits (List.mem_of_mem_take among)
      have bound := ofDigits_lt all
      generalize (spanDigits digits).1.take 9 = kept at short bound
      calc ofDigits kept * tenTo (9 - kept.length)
          < 10 ^ kept.length * 10 ^ (9 - kept.length) :=
            Nat.mul_lt_mul_of_pos_right bound (Nat.pow_pos (by decide))
        _ = nanosPerSecond := by
          rw [← Nat.pow_add, Nat.add_sub_cancel' short]
          rfl
  · cases h
    decide

theorem clockTime?_image {cs rest : List Char} {inDay nano : Nat}
    (h : clockTime? cs = some ((inDay, nano), rest)) :
    nano < 2 * nanosPerSecond ∧ (nanosPerSecond ≤ nano → inDay % 60 = 59) := by
  simp only [clockTime?, Option.bind_eq_bind, Option.bind_eq_some_iff] at h
  obtain ⟨⟨hour, _⟩, -, _, -, ⟨minute, _⟩, -, _, -, ⟨second, _⟩, -, ⟨part, _⟩, fraction, h⟩ := h
  have short := fraction?_lt fraction
  simp only at h
  split at h
  · cases h
  · split at h
    · obtain ⟨⟨rfl, rfl⟩, -⟩ := by simpa using h
      omega
    · obtain ⟨⟨rfl, rfl⟩, -⟩ := by simpa using h
      omega

/-- Hours and minutes after the sign of an offset. -/
def hoursAndMinutes? (sign : Int) (cs : List Char) : Option (Int × List Char) := do
  let (hours, rest) ← offset?.pair? cs
  let (minutes, rest) ← offset?.pair? (rest.dropWhile fun c => c == ':' || isBlank c)
  if 59 < minutes ∨ 23 < hours then none
  else some (sign * (hours * 3600 + minutes * 60 : Nat), rest)

theorem hoursAndMinutes?_image {sign ahead : Int} {cs rest : List Char}
    (h : hoursAndMinutes? sign cs = some (ahead, rest)) : ahead % 60 = 0 := by
  simp only [hoursAndMinutes?, Option.bind_eq_bind, Option.bind_eq_some_iff] at h
  obtain ⟨⟨hours, _⟩, -, ⟨minutes, _⟩, -, h⟩ := h
  simp only at h
  split at h
  · cases h
  · cases h
    have whole : sign * ((hours * 3600 + minutes * 60 : Nat) : Int) =
        60 * (sign * (hours * 60 + minutes : Nat)) := by
      rw [Int.mul_left_comm]
      congr 1
      omega
    rw [whole]
    exact Int.mul_emod_right 60 _

theorem offset?_image {cs rest : List Char} {ahead : Int} (h : offset? cs = some (ahead, rest)) :
    ahead % 60 = 0 := by
  unfold offset? at h
  simp only [Option.bind_eq_bind, Option.pure_def] at h
  generalize trimLeft cs = cs at h
  split at h
  · cases h
    rfl
  · cases h
    rfl
  · split at h
    · cases h
      rfl
    · split at h
      · exact hoursAndMinutes?_image h
      · exact hoursAndMinutes?_image h
      · exact hoursAndMinutes?_image h
      · cases h
  · split at h
    · exact hoursAndMinutes?_image h
    · exact hoursAndMinutes?_image h
    · exact hoursAndMinutes?_image h
    · cases h

theorem Instant.onClock_of_ofText? {s : String} {t : Instant} (h : Instant.ofText? s = some t) :
    t.OnClock := by
  simp only [Instant.ofText?, Option.bind_eq_bind, Option.bind_eq_some_iff] at h
  obtain ⟨⟨date, _⟩, -, h⟩ := h
  split at h
  case h_4 => cases h
  all_goals
    simp only [Option.bind_some, Option.bind_eq_some_iff] at h
    obtain ⟨⟨⟨inDay, nano⟩, _⟩, clock, ⟨ahead, _⟩, offset, h⟩ := h
    obtain ⟨short, leap⟩ := clockTime?_image clock
    have minutes := offset?_image offset
    split at h
    · next inside =>
      simp only [Bool.and_eq_true] at inside
      cases h
      refine ⟨inside.2, short, fun late => ?_⟩
      have last := leap late
      simp only [secondsPerDay]
      omega
    · cases h

end Remedy.Time
