import NCBlock.Proofs.Text.Capital
import NCBlock.Text.Numeral
import NCBlock.Text.WordCharacter

/-!
How the classes of characters lie to each other: digits are word characters,
and blanks are neither.
-/

namespace NCBlock

set_option maxRecDepth 10000 in
theorem digitRanges_within : rangesWithin digitRanges wordCharacterRanges = true := by
  decide +kernel

set_option maxRecDepth 10000 in
theorem wordCharacterRanges_rise : startsRise wordCharacterRanges = true := by decide +kernel

set_option maxRecDepth 10000 in
theorem blankRanges_disjoint_words :
    Stride.disjoint (blankRanges.map .ofRange) (wordCharacterRanges.map .ofRange) = true := by
  decide +kernel

theorem isWordCharacter_of_isDecimalDigit {c : Char} (h : isDecimalDigit c = true) :
    isWordCharacter c = true :=
  inRanges_of_within digitRanges_within wordCharacterRanges_rise h

theorem not_isWordCharacter_of_isBlank {c : Char} (h : isBlank c = true) :
    isWordCharacter c = false :=
  not_inRanges_of_disjoint blankRanges_disjoint_words h

theorem not_isBlank_of_isDecimalDigit {c : Char} (h : isDecimalDigit c = true) :
    isBlank c = false := by
  rw [← Bool.not_eq_true]
  intro hblank
  have hword := isWordCharacter_of_isDecimalDigit h
  rw [not_isWordCharacter_of_isBlank hblank] at hword
  cases hword

theorem not_isDecimalDigit_of_isBlank {c : Char} (h : isBlank c = true) :
    isDecimalDigit c = false := by
  rw [← Bool.not_eq_true]
  intro hdigit
  rw [not_isBlank_of_isDecimalDigit hdigit] at h
  cases h

theorem isBlank_of_isLineControl {c : Char} (h : isLineControl c = true) : isBlank c = true := by
  simp only [isLineControl, Bool.or_eq_true, decide_eq_true_eq] at h
  rcases h with (rfl | rfl) | rfl <;> decide

end NCBlock
