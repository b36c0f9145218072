import Remedy.Json.Printer
import Remedy.Json.Raw
import Remedy.Proofs.Decimal.Numerals
import Remedy.Proofs.Text.Identifiers

/-!
# Strings and numbers in JSON text

A written string reads back, whatever characters it has. A written integer of 64 bits reads back,
and so does a double whose text alone reads back. In both cases the reader stops where the text
ends.
-/

namespace Remedy.Json.Raw

/-! ## Strings -/

theorem join_unit {n : Nat} (low : n < 0xD800) (ps : List Piece) :
    join (.unit n :: ps) = (join ps).map (Char.ofNat n :: ·) := by
  have notHigh : ¬ (0xD800 ≤ n ∧ n < 0xDC00) := by omega
  have notLow : ¬ (0xDC00 ≤ n ∧ n < 0xE000) := by omega
  have notHalf : ¬ (0xD800 ≤ n ∧ n < 0xE000) := by omega
  cases ps with
  | nil => simp [join, notHalf]
  | cons p ps =>
    cases p with
    | char c => simp [join, notHalf]
    | unit m => rw [join, if_neg notHigh, if_neg notLow]

theorem hexUnit?_hexOf {n : Nat} (small : n < 16 ^ 4) :
    ∃ a b c d, Text.hexOf n 4 = [a, b, c, d] ∧ hexUnit? a b c d = some n := by
  have value := Text.ofHex?_hexOf n 4
  rw [Nat.mod_eq_of_lt small] at value
  exact ⟨_, _, _, _, rfl, value⟩

theorem pieces_plain {c : Char} (quote : c ≠ '"') (backslash : c ≠ '\\') (plain : ¬ c < ' ')
    (rest : List Char) :
    pieces (c :: rest) = (pieces rest).map fun (ps, after) => (.char c :: ps, after) := by
  rw [pieces]
  · simp [backslash, plain]
    cases pieces rest <;> rfl
  all_goals simp_all

/-- A written character is read as one piece, and the piece is the character. -/
theorem exists_piece_of_escaped (c : Char) :
    ∃ p : Piece, (∀ ps, join (p :: ps) = (join ps).map (c :: ·)) ∧
      ∀ rest, pieces (escaped c ++ rest) =
        (pieces rest).map fun (ps, after) => (p :: ps, after) := by
  unfold escaped
  split
  case h_8 quote backslash b f n r t =>
    split
    · next control =>
      have low : c.toNat < 32 := control
      obtain ⟨h, i, j, k, digits, value⟩ := hexUnit?_hexOf (n := c.toNat) (by omega)
      refine ⟨.unit c.toNat, fun ps => ?_, fun rest => ?_⟩
      · rw [join_unit (by omega), Char.ofNat_toNat]
      · simp only [digits, List.cons_append, List.nil_append, pieces, value, Option.bind_eq_bind,
          Option.bind_some]
        cases pieces rest <;> rfl
    · next plain =>
      refine ⟨.char c, fun ps => rfl, fun rest => ?_⟩
      exact pieces_plain quote backslash plain rest
  all_goals
    refine ⟨.char _, fun ps => rfl, fun rest => ?_⟩
    simp only [List.cons_append, List.nil_append]
    rw [pieces]
    · simp [escape?]
      cases pieces rest <;> rfl
    all_goals simp

theorem string_quoted (s : String) (rest : List Char) :
    string (s.toList.flatMap escaped ++ '"' :: rest) = some (some s, rest) := by
  have read : ∀ cs : List Char, ∃ ps,
      pieces (cs.flatMap escaped ++ '"' :: rest) = some (ps, rest) ∧ join ps = some cs := by
    intro cs
    induction cs with
    | nil => exact ⟨[], by simp [pieces], rfl⟩
    | cons c cs ih =>
      obtain ⟨ps, later, joined⟩ := ih
      obtain ⟨p, joins, reads⟩ := exists_piece_of_escaped c
      refine ⟨p :: ps, ?_, ?_⟩
      · rw [List.flatMap_cons, List.append_assoc, reads, later]
        rfl
      · rw [joins, joined]
        rfl
  obtain ⟨ps, read, joined⟩ := read s.toList
  simp [string, read, joined]

theorem toList_quoted (s : String) :
    (quoted s).toList = '"' :: (s.toList.flatMap escaped ++ ['"']) := by
  simp [quoted]

/-! ## Numbers -/

/-- What stands in front does not go on with a number. -/
def Ends (cs : List Char) : Prop :=
  ∀ c ∈ cs.head?, c.isDigit = false ∧ c ≠ '.' ∧ c ≠ 'e' ∧ c ≠ 'E'

theorem Ends.nil : Ends [] := by simp [Ends]

theorem Ends.stops {cs : List Char} (h : Ends cs) : Decimal.Stops cs := fun c front => (h c front).1

/-- A fraction, if there is one. -/
def fractionDigits : List Char → Option (List Char × List Char)
  | '.' :: r =>
    let (ds, rest) := Decimal.spanDigits r
    if ds.isEmpty then none else some (ds, rest)
  | r => some ([], r)

/-- A number after its sign. -/
def unsigned (negative : Bool) (cs : List Char) : Option (Raw × List Char) := do
  let (whole, rest) := Decimal.spanDigits cs
  if whole.isEmpty || (whole.length != 1 && whole.head? == some '0') then none
  let (fraction, rest) ← fractionDigits rest
  let (e, rest) ← exponent rest
  some (((number? negative whole fraction e).map num).getD void, rest)

/-- Whether a number has a sign, and what follows it. -/
def signOf : List Char → Bool × List Char
  | '-' :: rest => (true, rest)
  | rest => (false, rest)

theorem number_eq (cs : List Char) : number cs = unsigned (signOf cs).1 (signOf cs).2 := by
  unfold number
  split
  next negative rest same =>
    have sign : signOf cs = (negative, rest) := same
    rw [sign]
    unfold unsigned
    simp only []
    obtain ⟨whole, left⟩ := Decimal.spanDigits rest
    split
    · rfl
    · split
      · next r same =>
        obtain rfl : left = '.' :: r := same
        simp only [fractionDigits]
        split <;> rfl
      · next other =>
        rw [fractionDigits]
        exact other

/-- Text that does not go on with a number leaves what is read of a fraction as it is. -/
theorem fractionDigits_append {cs rest : List Char} (ends : Ends rest) {ds after : List Char}
    (h : fractionDigits cs = some (ds, after)) :
    fractionDigits (cs ++ rest) = some (ds, after ++ rest) := by
  unfold fractionDigits at h
  split at h
  · next r =>
    simp only at h
    split at h
    · cases h
    · next some_ =>
      cases h
      simp [fractionDigits, Decimal.spanDigits_append_right ends.stops, some_]
  · next other =>
    cases h
    rw [fractionDigits]
    intro r same
    cases cs with
    | nil => exact (ends '.' (by rw [List.nil_append] at same; rw [same]; rfl)).2.1 rfl
    | cons c cs =>
      rw [List.cons_append] at same
      exact other cs (by rw [(List.cons.inj same).1])

/-- The sign of an exponent, and what follows it. -/
def exponentSign : List Char → Int × List Char
  | '-' :: rest => (-1, rest)
  | '+' :: rest => (1, rest)
  | rest => (1, rest)

theorem exponent_cons (c : Char) (cs : List Char) :
    exponent (c :: cs) =
      if c == 'e' || c == 'E' then
        let (ds, rest) := Decimal.spanDigits (exponentSign cs).2
        if ds.isEmpty then none
        else some (some ((exponentSign cs).1 * Decimal.ofDigits ds), rest)
      else some (none, c :: cs) := rfl

theorem exponentSign_append {cs : List Char} (some_ : cs ≠ []) (rest : List Char) :
    exponentSign (cs ++ rest) = ((exponentSign cs).1, (exponentSign cs).2 ++ rest) := by
  cases cs with
  | nil => exact absurd rfl some_
  | cons c cs =>
    by_cases minus : c = '-'
    · subst minus
      rfl
    · by_cases plus : c = '+'
      · subst plus
        rfl
      · simp [exponentSign, minus, plus]

theorem exponent_append {cs rest : List Char} (ends : Ends rest) {e : Option Int}
    {after : List Char}
    (h : exponent cs = some (e, after)) : exponent (cs ++ rest) = some (e, after ++ rest) := by
  cases cs with
  | nil =>
    cases h
    cases rest with
    | nil => rfl
    | cons c rest =>
      obtain ⟨-, -, small, large⟩ := ends c rfl
      simp [exponent_cons, small, large]
  | cons c cs =>
    rw [exponent_cons] at h
    rw [List.cons_append, exponent_cons]
    by_cases letter : (c == 'e' || c == 'E') = true
    · rw [if_pos letter] at h ⊢
      simp only at h
      split at h
      · cases h
      · next some_ =>
        have digits : cs ≠ [] := by
          rintro rfl
          exact some_ rfl
        cases h
        simp [exponentSign_append digits, Decimal.spanDigits_append_right ends.stops, some_]
    · rw [if_neg letter] at h ⊢
      cases h
      rfl

theorem unsigned_append {cs rest : List Char} (ends : Ends rest) {negative : Bool} {r : Raw}
    {after : List Char} (h : unsigned negative cs = some (r, after)) :
    unsigned negative (cs ++ rest) = some (r, after ++ rest) := by
  unfold unsigned at h ⊢
  rw [Decimal.spanDigits_append_right ends.stops]
  simp only [Option.bind_eq_bind] at h ⊢
  split at h
  · cases h
  · next form =>
    obtain ⟨⟨fraction, left⟩, read, h⟩ := Option.bind_eq_some_iff.1 h
    obtain ⟨⟨e, left'⟩, read', h⟩ := Option.bind_eq_some_iff.1 h
    cases h
    rw [if_neg form, fractionDigits_append ends read, Option.bind_some, exponent_append ends read']
    rfl

theorem signOf_append {cs : List Char} (some_ : cs ≠ []) (rest : List Char) :
    signOf (cs ++ rest) = ((signOf cs).1, (signOf cs).2 ++ rest) := by
  cases cs with
  | nil => exact absurd rfl some_
  | cons c cs =>
    by_cases minus : c = '-'
    · subst minus
      rfl
    · simp [signOf, minus]

/-- A number that ends with its text is read in front of whatever does not go on with it. -/
theorem number_append {cs rest : List Char} (ends : Ends rest) {r : Raw} {after : List Char}
    (h : number cs = some (r, after)) : number (cs ++ rest) = some (r, after ++ rest) := by
  have some_ : cs ≠ [] := by
    rintro rfl
    cases h
  rw [number_eq] at h ⊢
  rw [signOf_append some_]
  exact unsigned_append ends h

/-- Digits and nothing else are an integer, when it has 64 bits. -/
theorem unsigned_numeral {negative : Bool} {n : Nat} {rest : List Char} (ends : Ends rest) :
    unsigned negative (Decimal.numeral n ++ rest) =
      some (((number? negative (Decimal.numeral n) [] none).map num).getD void, rest) := by
  have form : ¬ ((Decimal.numeral n).isEmpty || ((Decimal.numeral n).length != 1 &&
      (Decimal.numeral n).head? == some '0')) = true := by
    have some_ : (Decimal.numeral n).isEmpty = false :=
      List.isEmpty_eq_false_iff.2 (Decimal.numeral_ne_nil n)
    rcases Nat.eq_zero_or_pos n with rfl | pos
    · decide
    · simp [some_, Decimal.head?_numeral pos]
  have noFraction : fractionDigits rest = some ([], rest) := by
    have none_ : fractionDigits [] = some ([], []) := rfl
    exact fractionDigits_append ends none_
  have noExponent : exponent rest = some (none, rest) := by
    have none_ : exponent [] = some (none, []) := rfl
    exact exponent_append ends none_
  unfold unsigned
  rw [Decimal.spanDigits_append (fun _ => Decimal.isDigit_of_mem_numeral) ends.stops]
  simp only [if_neg form, noFraction, noExponent, Option.bind_eq_bind, Option.bind_some]

/-- An integer is of 64 bits when it fits the signed or the unsigned ones. -/
def IsWord (i : Int) : Prop := -(Decimal.maxMagnitude64 : Int) ≤ i ∧ i ≤ Decimal.maxWord64

theorem number_int {i : Int} (word : IsWord i) {rest : List Char} (ends : Ends rest) :
    number ((toString i).toList ++ rest) = some (num (.int i), rest) := by
  obtain ⟨least, most⟩ := word
  rw [Decimal.toList_toString_int, number_eq]
  split
  · next plain =>
    have sign : signOf (Decimal.numeral i.natAbs ++ rest) =
        (false, Decimal.numeral i.natAbs ++ rest) := by
      cases digits : Decimal.numeral i.natAbs with
      | nil => exact absurd digits (Decimal.numeral_ne_nil _)
      | cons d ds =>
        have among : d ∈ Decimal.numeral i.natAbs := by simp [digits]
        have digit := Decimal.isDigit_of_mem_numeral among
        have other : d ≠ '-' := by
          rintro rfl
          simp at digit
        simp [signOf, other]
    have fits : i.natAbs ≤ Decimal.maxWord64 := by omega
    have value : (i.natAbs : Int) = i := by omega
    have number : number? false (Decimal.numeral i.natAbs) [] none = some (.int i.natAbs) := by
      rw [number?, Decimal.ofDigits_numeral]
      exact if_pos fits
    rw [sign, unsigned_numeral ends, number, value]
    rfl
  · next negative =>
    have fits : 0 < i.natAbs ∧ i.natAbs ≤ Decimal.maxMagnitude64 := by omega
    have value : -(i.natAbs : Int) = i := by omega
    have number : number? true (Decimal.numeral i.natAbs) [] none = some (.int (-i.natAbs)) := by
      rw [number?, Decimal.ofDigits_numeral]
      exact if_pos fits
    rw [List.cons_append]
    show unsigned true (Decimal.numeral i.natAbs ++ rest) = _
    rw [unsigned_numeral ends, number, value]
    rfl

end Remedy.Json.Raw

namespace Remedy.Json

/-- A number that its text gives back: an integer of 64 bits, or a double that is finite and whose
digits are read as the double itself. -/
def Number.Legible : Number → Prop
  | .int i => Raw.IsWord i
  | .real x => x.isFinite = true ∧
    Raw.number (Decimal.point x).toList = some (.num (.real x), [])

theorem number_text {n : Number} (legible : n.Legible) {rest : List Char} (ends : Raw.Ends rest) :
    Raw.number (n.text.toList ++ rest) = some (.num n, rest) := by
  cases n with
  | int i => exact Raw.number_int legible ends
  | real x =>
    obtain ⟨finite, read⟩ := legible
    have text : Number.text (.real x) = Decimal.point x := if_pos finite
    rw [text]
    exact Raw.number_append ends read

/-- A number begins with a digit or a minus sign. -/
theorem exists_text_eq_cons {n : Number} (legible : n.Legible) :
    ∃ c cs, n.text.toList = c :: cs ∧ (c.isDigit = true ∨ c = '-') := by
  have read := number_text legible Raw.Ends.nil
  rw [List.append_nil, Raw.number_eq] at read
  cases text : n.text.toList with
  | nil =>
    rw [text] at read
    cases read
  | cons c cs =>
    refine ⟨c, cs, rfl, ?_⟩
    by_cases minus : c = '-'
    · exact .inr minus
    cases digit : c.isDigit with
    | true => exact .inl rfl
    | false =>
      have sign : Raw.signOf (c :: cs) = (false, c :: cs) := by simp [Raw.signOf, minus]
      have none_ : Decimal.spanDigits (c :: cs) = ([], c :: cs) :=
        Decimal.spanDigits_append (List.forall_mem_nil _) (.cons digit)
      rw [text, sign] at read
      simp [Raw.unsigned, none_] at read

end Remedy.Json
