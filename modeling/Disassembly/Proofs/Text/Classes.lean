import Disassembly.Proofs.Text.Words
import Disassembly.Text.Alphanumeric
import Disassembly.Text.Decimal

/-!
How the classes of characters lie to each other. No letter and no number is blank, every decimal
digit is a number, and inside ASCII the decimal digits are the ten usual ones.
-/

namespace Disassembly.Text

/-- A text of one class holds no character outside it. -/
theorem notMem_of_class {holds : Char → Bool} {text : List Char} {mark : Char}
    (within : ∀ character ∈ text, holds character = true) (outside : holds mark = false) :
    mark ∉ text := by
  intro member
  rw [within mark member] at outside
  cases outside

theorem isBlank_of_isAlphanumeric {character : Char}
    (alphanumeric : isAlphanumeric character = true) : isBlank character = false := by
  unfold isAlphanumeric at alphanumeric
  split at alphanumeric
  · exact isBlank_of_isAlphanum alphanumeric
  · have apart : alphanumericRanges.isApartFrom blankRanges = true := by decide +kernel
    exact Ranges.has_eq_false_of_isApartFrom apart alphanumeric

theorem isDigit_of_isDecimal {character : Char} (decimal : isDecimal character = true)
    (ascii : character.toNat < 0x80) : character.isDigit = true := by
  obtain ⟨range, member, lower, upper⟩ := (Ranges.has_iff _ _).mp decimal
  have firstOrBeyond : ∀ range ∈ decimalRanges, range = (0x30, 0x39) ∨ 0x80 ≤ range.1 := by decide
  rcases firstOrBeyond range member with rfl | beyond
  · simp only [Char.isDigit, Bool.and_eq_true, decide_eq_true_eq]
    exact ⟨lower, upper⟩
  · omega

theorem isLower_eq_false_of_isDecimal {character : Char} (decimal : isDecimal character = true) :
    character.isLower = false := by
  apply Bool.eq_false_iff.mpr
  intro lower
  simp only [Char.isLower, Bool.and_eq_true, decide_eq_true_eq] at lower
  have above : 0x61 ≤ character.toNat := lower.1
  have below : character.toNat ≤ 0x7a := lower.2
  have digit := isDigit_of_isDecimal decimal (by omega)
  simp only [Char.isDigit, Bool.and_eq_true, decide_eq_true_eq] at digit
  have belowLetters : character.toNat ≤ 0x39 := digit.2
  omega

theorem isAlphanumeric_of_isDecimal {character : Char} (decimal : isDecimal character = true) :
    isAlphanumeric character = true := by
  unfold isAlphanumeric
  split
  · rename_i ascii
    simp [Char.isAlphanum, isDigit_of_isDecimal decimal ascii]
  · have within : decimalRanges.isWithin alphanumericRanges = true := by decide +kernel
    exact Ranges.has_of_isWithin within decimal

end Disassembly.Text
