import BoxDiagram.Text.Char
import Mathlib

namespace BoxDiagram.Text

/-!
# Blanks among the characters

The classes of characters are given by ranges of code points, and the ranges of blanks
overlap with no range of letters or digits.  So a blank ends every word and every number.
-/

/-- The letters and digits of ASCII stand between the first digit and the last letter. -/
theorem toNat_of_isAlphanum
    {char : Char}
    (isLetter : char.isAlphanum = true) :
    48 ≤ char.toNat ∧ char.toNat ≤ 122 := by
  have firstDigit : '0'.val.toNat = 48 := rfl
  have lastDigit : '9'.val.toNat = 57 := rfl
  have firstUpper : 'A'.val.toNat = 65 := rfl
  have lastUpper : 'Z'.val.toNat = 90 := rfl
  have firstLower : 'a'.val.toNat = 97 := rfl
  have lastLower : 'z'.val.toNat = 122 := rfl
  simp only [Char.isAlphanum, Char.isAlpha, Char.isUpper, Char.isLower, Char.isDigit,
    Bool.or_eq_true, Bool.and_eq_true, decide_eq_true_eq, ge_iff_le,
    UInt32.le_iff_toNat_le] at isLetter
  rw [Char.toNat]
  omega

/-- No letter or digit of ASCII is a blank. -/
theorem isAlphanum_eq_false_of_isBlank
    {char : Char}
    (blank : isBlank char = true) :
    char.isAlphanum = false := by
  have apart : ∀ blanks ∈ blankRanges, blanks.2 < 48 ∨ 122 < blanks.1 := by
    decide
  obtain ⟨blanks, isRange, inside⟩ := List.any_eq_true.mp blank
  have outside := apart blanks isRange
  simp only [Bool.and_eq_true, decide_eq_true_eq] at inside
  by_contra isLetter
  have := toNat_of_isAlphanum (eq_true_of_ne_false isLetter)
  omega

/-- No letter or digit of any script is a blank. -/
theorem isAlphanumeric_eq_false_of_isBlank
    {char : Char}
    (blank : isBlank char = true) :
    isAlphanumeric char = false := by
  have apart :
      ∀ blanks ∈ blankRanges, ∀ letters ∈ alphanumericRanges,
        blanks.2 < letters.1 ∨ letters.2 < blanks.1 := by
    decide +kernel
  rw [isAlphanumeric]
  split
  · exact isAlphanum_eq_false_of_isBlank blank
  · obtain ⟨blanks, isRange, inside⟩ := List.any_eq_true.mp blank
    rw [List.any_eq_false]
    intro letters isLetters
    have outside := apart blanks isRange letters isLetters
    simp only [Bool.and_eq_true, decide_eq_true_eq] at inside ⊢
    omega

/-- No blank is part of a word. -/
theorem isWordChar_eq_false_of_isBlank
    {char : Char}
    (blank : isBlank char = true) :
    isWordChar char = false := by
  have notUnderscore : char ≠ '_' := by
    rintro rfl
    exact absurd blank (by decide)
  simp [isWordChar, isAlphanumeric_eq_false_of_isBlank blank, notUnderscore]

/-- No blank is a digit. -/
theorem isDigit_eq_false_of_isBlank
    {char : Char}
    (blank : isBlank char = true) :
    char.isDigit = false :=
  (Bool.or_eq_false_iff.mp (isAlphanum_eq_false_of_isBlank blank)).2

end BoxDiagram.Text
