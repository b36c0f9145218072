import Remedy.Text.Ranges

/-!
# White space

The Unicode property White_Space, as ranges of code points, and the text that is left when it is
taken off both ends. A text is blank when nothing is left.
-/

namespace Remedy.Text

/-- The property White_Space. -/
def blankRanges : Ranges :=
  [(0x09, 0x0D), (0x20, 0x20), (0x85, 0x85), (0xA0, 0xA0), (0x1680, 0x1680), (0x2000, 0x200A),
    (0x2028, 0x2029), (0x202F, 0x202F), (0x205F, 0x205F), (0x3000, 0x3000)]

def isBlank (c : Char) : Bool := blankRanges.holds c

/-- Take off the blanks in front. -/
def trimLeft (cs : List Char) : List Char := cs.dropWhile isBlank

/-- Take off the blanks at the end. -/
def trimRight (cs : List Char) : List Char := (trimLeft cs.reverse).reverse

def trimChars (cs : List Char) : List Char := trimRight (trimLeft cs)

/-- The text between the first and the last character that is not blank. -/
def trim (s : String) : String := String.ofList (trimChars s.toList)

/-- The trimmed text, when there is any. -/
def trimmed? (s : String) : Option String :=
  if trim s = "" then none else some (trim s)

theorem isBlank_of_isDigit {c : Char} (h : c.isDigit = true) : isBlank c = false := by
  simp only [Char.isDigit, Bool.and_eq_true, decide_eq_true_eq] at h
  have low : 48 ≤ c.toNat := h.1
  have high : c.toNat ≤ 57 := h.2
  simp only [isBlank, blankRanges, Ranges.holds, List.any_cons, List.any_nil, Bool.or_false,
    Bool.or_eq_false_iff, Bool.and_eq_false_iff, decide_eq_false_iff_not]
  omega

theorem trimLeft_cons {c : Char} (cs : List Char) (h : isBlank c = false) :
    trimLeft (c :: cs) = c :: cs := by
  simp [trimLeft, h]

theorem trimLeft_of_visible {cs : List Char} (h : ∀ c ∈ cs, isBlank c = false) :
    trimLeft cs = cs := by
  cases cs with
  | nil => rfl
  | cons c cs => exact trimLeft_cons cs (h c List.mem_cons_self)

/-- A text without white space stays as it is. -/
theorem trim_of_visible {s : String} (h : ∀ c ∈ s.toList, isBlank c = false) : trim s = s := by
  have back : ∀ c ∈ s.toList.reverse, isBlank c = false := fun c among =>
    h c (List.mem_reverse.1 among)
  rw [trim, trimChars, trimLeft_of_visible h, trimRight, trimLeft_of_visible back,
    List.reverse_reverse, String.ofList_toList]

theorem trimmed?_eq_some {s t : String} : trimmed? s = some t ↔ t = trim s ∧ t ≠ "" := by
  unfold trimmed?
  split
  · next h => simp [h]
  · next h => exact ⟨fun e => by cases e; exact ⟨rfl, h⟩, fun e => by rw [e.1]⟩

end Remedy.Text
