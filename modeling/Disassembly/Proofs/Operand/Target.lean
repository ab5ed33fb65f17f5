import Disassembly.Operand
import Disassembly.Proofs.Text.Words

/-!
The address a jump goes to. What is taken for an address always has a value: that of its
hexadecimal digits, whether they are marked with `0x` or not and whether a line feed follows them or
not. No other reading of numerals is met, so signs, underscores and capital letters never count.
-/

namespace Disassembly.Operand

open Text

theorem isAlphanum_of_isHexDigit {digit : Char} (isHex : isHexDigit digit = true) :
    digit.isAlphanum = true := by
  simp only [isHexDigit, Bool.or_eq_true, Bool.and_eq_true, decide_eq_true_eq] at isHex
  rcases isHex with ⟨lower, upper⟩ | ⟨lower, upper⟩
  · have isDigit : digit.isDigit = true := by
      simp only [Char.isDigit, Bool.and_eq_true, decide_eq_true_eq]
      exact ⟨lower, upper⟩
    simp [Char.isAlphanum, isDigit]
  · have isLower : digit.isLower = true := by
      simp only [Char.isLower, Bool.and_eq_true, decide_eq_true_eq]
      have letter : 'f' ≤ 'z' := by decide
      exact ⟨lower, Char.le_trans upper letter⟩
    simp [Char.isAlphanum, Char.isAlpha, isLower]

theorem digitValue?_of_isHexDigit {digit : Char} (isHex : isHexDigit digit = true) :
    digitValue? digit = some (hexDigitValue digit) := by
  simp only [isHexDigit, Bool.or_eq_true, Bool.and_eq_true, decide_eq_true_eq] at isHex
  rcases isHex with ⟨lower, upper⟩ | ⟨lower, upper⟩
  · simp [digitValue?, hexDigitValue, lower, upper]
  · have above : ¬digit ≤ '9' := by
      intro below
      have crossed : 'a' ≤ '9' := Char.le_trans lower below
      exact absurd crossed (by decide)
    simp [digitValue?, hexDigitValue, lower, upper, above]

theorem ne_of_isHexDigit {digit other : Char} (isHex : isHexDigit digit = true)
    (outside : isHexDigit other = false) : digit ≠ other := by
  rintro rfl
  rw [isHex] at outside
  exact Bool.noConfusion outside

theorem readDigits_eq_foldl (value : Nat) {digits : List Char}
    (areHex : ∀ digit ∈ digits, isHexDigit digit = true) :
    readDigits value digits =
      some (digits.foldl (fun value digit => 16 * value + hexDigitValue digit) value) := by
  induction digits generalizing value with
  | nil => rfl
  | cons digit rest induction =>
      obtain ⟨isHex, later⟩ := List.forall_mem_cons.mp areHex
      have plain : digit ≠ '_' := ne_of_isHexDigit isHex (by decide)
      have step : readDigits value (digit :: rest) =
          readDigits (16 * value + hexDigitValue digit) rest := by
        simp [readDigits, plain, digitValue?_of_isHexDigit isHex]
      rw [step, induction _ later, List.foldl_cons]

/-- A numeral is its digits, perhaps with the mark in front. -/
theorem withoutHexMark_cases (text : List Char) :
    text = '0' :: 'x' :: withoutHexMark text ∨ text = withoutHexMark text := by
  unfold withoutHexMark
  split
  · exact .inl rfl
  · exact .inr rfl

/-- Digits without a mark stay as they are: the letter of the mark is none of them. -/
theorem withoutHexMark_of_areHex {digits : List Char}
    (areHex : ∀ digit ∈ digits, isHexDigit digit = true) : withoutHexMark digits = digits := by
  rcases withoutHexMark_cases digits with marked | unmarked
  · have member : 'x' ∈ digits := by
      rw [marked]
      simp
    exact absurd (areHex 'x' member) (by decide)
  · exact unmarked.symm

theorem isHexNumeral_iff (text : List Char) :
    isHexNumeral text = true ↔
      withoutHexMark text ≠ [] ∧ ∀ digit ∈ withoutHexMark text, isHexDigit digit = true := by
  simp [isHexNumeral]

/-- Besides digits a numeral holds at most the letter of the mark. -/
theorem isHexDigit_or_of_isHexNumeral {text : List Char} (numeral : isHexNumeral text = true) :
    ∀ character ∈ text, isHexDigit character = true ∨ character = 'x' := by
  have areHex := ((isHexNumeral_iff text).mp numeral).2
  intro character member
  rcases withoutHexMark_cases text with marked | unmarked
  · rw [marked] at member
    rcases List.mem_cons.mp member with rfl | member
    · exact .inl (by decide)
    · rcases List.mem_cons.mp member with mark | member
      · exact .inr mark
      · exact .inl (areHex character member)
  · rw [unmarked] at member
    exact .inl (areHex character member)

theorem isAlphanum_of_isHexNumeral {text : List Char} (numeral : isHexNumeral text = true) :
    ∀ character ∈ text, character.isAlphanum = true := by
  intro character member
  rcases isHexDigit_or_of_isHexNumeral numeral character member with digit | rfl
  · exact isAlphanum_of_isHexDigit digit
  · decide

/-- The two ways of passing over the mark agree on numerals. -/
theorem afterMark_of_isHexNumeral {text : List Char} (numeral : isHexNumeral text = true) :
    afterMark text = withoutHexMark text := by
  obtain ⟨filled, areHex⟩ := (isHexNumeral_iff text).mp numeral
  unfold withoutHexMark at filled areHex ⊢
  split at filled
  · rename_i digits
    obtain ⟨digit, rest, rfl⟩ := List.exists_cons_of_ne_nil filled
    have isHex : isHexDigit digit = true := areHex digit List.mem_cons_self
    have plain : digit ≠ '_' := ne_of_isHexDigit isHex (by decide)
    simp [afterMark, plain]
  · rename_i unmarked
    unfold afterMark
    split
    · rename_i mark rest
      have isHex : isHexDigit mark = true := areHex mark (by simp)
      have small : mark ≠ 'x' := ne_of_isHexDigit isHex (by decide)
      have large : mark ≠ 'X' := ne_of_isHexDigit isHex (by decide)
      simp [small, large]
    · rfl

theorem readMagnitude_of_isHexNumeral {text : List Char} (numeral : isHexNumeral text = true) :
    readMagnitude text = some (readHex (withoutHexMark text)) := by
  obtain ⟨filled, areHex⟩ := (isHexNumeral_iff text).mp numeral
  rw [readMagnitude, afterMark_of_isHexNumeral numeral]
  obtain ⟨digit, rest, shape⟩ := List.exists_cons_of_ne_nil filled
  rw [shape] at areHex ⊢
  obtain ⟨isHex, later⟩ := List.forall_mem_cons.mp areHex
  have value : digitValue? digit = some (hexDigitValue digit) := digitValue?_of_isHexDigit isHex
  simp only [value, Option.bind_some, readDigits_eq_foldl _ later]
  simp [readHex]

theorem strip_eq_withoutFinalLineFeed {operand : List Char} (form : isAddressForm operand = true) :
    strip operand = withoutFinalLineFeed operand := by
  have alphanumeric := isAlphanum_of_isHexNumeral form
  have trimmed : Trimmed (withoutFinalLineFeed operand) := by
    constructor
    · intro character member
      exact isBlank_of_isAlphanum (alphanumeric character (List.mem_of_mem_head? member))
    · intro character member
      exact isBlank_of_isAlphanum (alphanumeric character (List.mem_of_getLast? member))
  unfold withoutFinalLineFeed at trimmed ⊢
  split at trimmed
  · rename_i ended
    have whole : operand = operand.dropLast ++ ['\n'] :=
      (List.dropLast_append_getLast? '\n' ended).symm
    rw [if_pos ended]
    conv_lhs => rw [whole]
    exact strip_append_blank trimmed (by decide)
  · rename_i plain
    rw [if_neg plain]
    exact strip_of_trimmed trimmed

/-- The value of an address is that of its hexadecimal digits. -/
theorem readInteger_of_isAddressForm {operand : List Char} (form : isAddressForm operand = true) :
    readInteger operand = some (readHex (withoutHexMark (withoutFinalLineFeed operand)) : Int) := by
  have alphanumeric := isAlphanum_of_isHexNumeral form
  have value := readMagnitude_of_isHexNumeral form
  unfold readInteger
  rw [strip_eq_withoutFinalLineFeed form]
  -- A sign is no letter and no digit.
  split
  · rename_i minus
    exact absurd (alphanumeric '-' (by simp [minus])) (by decide)
  · rename_i plus
    exact absurd (alphanumeric '+' (by simp [plus])) (by decide)
  · rw [value]
    rfl

theorem isAddressForm_of_isAddress {family : Family} {mnemonic : Option (List Char)}
    {operand : List Char} (address : isAddress family mnemonic operand = true) :
    isAddressForm operand = true := by
  cases family with
  | x86 => exact (Bool.and_eq_true_iff.mp address).2
  | arm => exact (Bool.and_eq_true_iff.mp address).2

theorem jumpTarget_of_isAddress {family : Family} {mnemonic operand : List Char}
    (address : isAddress family (some mnemonic) operand = true) :
    jumpTarget family mnemonic operand =
      some (readHex (withoutHexMark (withoutFinalLineFeed operand)) : Int) := by
  rw [jumpTarget, if_pos address, readInteger_of_isAddressForm (isAddressForm_of_isAddress address)]

theorem isAddress_of_jumpTarget {family : Family} {mnemonic operand : List Char} {address : Int}
    (goes : jumpTarget family mnemonic operand = some address) :
    isAddress family (some mnemonic) operand = true := by
  unfold jumpTarget at goes
  split at goes
  · rename_i isAddress
    exact isAddress
  · cases goes

end Disassembly.Operand
