import Disassembly.Proofs.Operand.Categories
import Disassembly.Proofs.Text.Hexadecimal

/-!
How an operand spells the address a jump goes to. Two grammars meet here: the form by which an
operand is taken for an address, and the numerals that the reader of integers accepts. Every operand
of that form is such a numeral, so its reading never fails, and the value is that of the digits in
base sixteen. The mark in front, a line feed at the end and zeros before the other digits change
nothing, and digits that look like the mark of another base are digits like the others.
-/

namespace Disassembly.Operand

open Text

def numberOf (digits : List Char) : Nat := Nat.ofDigits 16 (digits.reverse.map hexDigitValue)

/-- The operand is written with these digits, perhaps behind `0x`, perhaps with a line feed at the
end. -/
structure Spells (operand digits : List Char) : Prop where
  filled : digits ≠ []
  areHex : ∀ digit ∈ digits, isHexDigit digit = true
  written : ∃ mark ∈ [[], ['0', 'x']], WrittenAs operand (mark ++ digits)

def Denotes (operand : List Char) (number : Nat) : Prop :=
  ∃ digits, Spells operand digits ∧ numberOf digits = number

/-! Spelled numbers and the form of an address. -/

section Form

variable {operand digits : List Char}

theorem withoutHexMark_append {mark : List Char} (isMark : mark ∈ [[], ['0', 'x']])
    (areHex : ∀ digit ∈ digits, isHexDigit digit = true) :
    withoutHexMark (mark ++ digits) = digits := by
  rcases List.mem_pair.mp isMark with unmarked | marked
  · rw [unmarked, List.nil_append, withoutHexMark_of_areHex areHex]
  · rw [marked]
    rfl

theorem Spells.digits_eq (spells : Spells operand digits) :
    withoutHexMark (withoutFinalLineFeed operand) = digits := by
  rcases spells.written with ⟨mark, isMark, written⟩
  have unmarked := withoutHexMark_append isMark spells.areHex
  have numeral : isHexNumeral (mark ++ digits) = true := by
    rw [isHexNumeral_iff, unmarked]
    exact ⟨spells.filled, spells.areHex⟩
  rw [written.withoutFinalLineFeed_eq (Arm.lineFeed_notMem_of_isHexNumeral numeral), unmarked]

theorem Spells.isAddressForm (spells : Spells operand digits) : isAddressForm operand = true := by
  apply (isHexNumeral_iff _).mpr
  rw [spells.digits_eq]
  exact ⟨spells.filled, spells.areHex⟩

theorem spells_of_isAddressForm (form : isAddressForm operand = true) :
    Spells operand (withoutHexMark (withoutFinalLineFeed operand)) := by
  rcases (isHexNumeral_iff _).mp form with ⟨filled, areHex⟩
  constructor
  case filled => exact filled
  case areHex => exact areHex
  case written =>
    have written := writtenAs_withoutFinalLineFeed operand
    rcases withoutHexMark_cases (withoutFinalLineFeed operand) with marked | unmarked
    · refine ⟨['0', 'x'], by simp, ?_⟩
      rw [marked] at written
      exact written
    · refine ⟨[], by simp, ?_⟩
      rw [unmarked] at written
      exact written

/-- The reader of integers gives the number that an operand spells, so it is the only one. -/
theorem Denotes.readInteger_eq {number : Nat} (denotes : Denotes operand number) :
    readInteger operand = some (number : Int) := by
  rcases denotes with ⟨digits, spells, value⟩
  rw [readInteger_of_isAddressForm spells.isAddressForm, spells.digits_eq, readHex_eq_ofDigits]
  exact congrArg (fun number : Nat => some (number : Int)) value

theorem exists_denotes_of_isAddressForm (form : isAddressForm operand = true) :
    ∃ number, Denotes operand number :=
  ⟨_, _, spells_of_isAddressForm form, rfl⟩

theorem numberOf_zeros (count : Nat) (digits : List Char) :
    numberOf (List.replicate count '0' ++ digits) = numberOf digits := by
  have padded : padLeft (count + digits.length) '0' digits =
      List.replicate count '0' ++ digits := by
    rw [padLeft, Nat.add_sub_cancel]
  have same := readHex_padLeft (count + digits.length) digits
  rwa [padded, readHex_eq_ofDigits, readHex_eq_ofDigits] at same

end Form

/-! Jumps. -/

section Jumps

variable {family : Family} {mnemonic operand : List Char}

theorem isAddress_iff (family : Family) (mnemonic : Option (List Char)) (operand : List Char) :
    isAddress family mnemonic operand = true ↔
      isJump family mnemonic = true ∧ ∃ number, Denotes operand number := by
  have form : isAddressForm operand = true ↔ ∃ number, Denotes operand number := by
    constructor
    · exact exists_denotes_of_isAddressForm
    · intro ⟨number, digits, spells, _⟩
      exact spells.isAddressForm
  rw [← form]
  cases family with
  | x86 => exact Bool.and_eq_true_iff
  | arm => exact Bool.and_eq_true_iff

theorem jumpTarget_of_denotes (address : isAddress family (some mnemonic) operand = true)
    {number : Nat} (denotes : Denotes operand number) :
    jumpTarget family mnemonic operand = some (number : Int) := by
  rw [jumpTarget, if_pos address, denotes.readInteger_eq]

structure Unreadable where
  text : List Char

def readOrRefuse (text : List Char) : Except Unreadable Int :=
  match readInteger text with
  | some value => .ok value
  | none => .error ⟨text⟩

/-- The address a jump goes to, where what is taken for an address and cannot be read ends the
work. -/
def attemptTarget (family : Family) (mnemonic operand : List Char) :
    Except Unreadable (Option Int) :=
  if isAddress family (some mnemonic) operand then (readOrRefuse operand).map some else .ok none

/-- No text that is taken for an address is refused. -/
theorem attemptTarget_eq (family : Family) (mnemonic operand : List Char) :
    attemptTarget family mnemonic operand = .ok (jumpTarget family mnemonic operand) := by
  rw [attemptTarget, jumpTarget]
  by_cases address : isAddress family (some mnemonic) operand = true
  · rcases ((isAddress_iff family (some mnemonic) operand).mp address).2 with ⟨number, denotes⟩
    rw [if_pos address, if_pos address, readOrRefuse, denotes.readInteger_eq]
    rfl
  · rw [if_neg address, if_neg address]

end Jumps

end Disassembly.Operand
