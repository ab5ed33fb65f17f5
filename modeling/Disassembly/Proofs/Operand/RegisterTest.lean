import Disassembly.Operand.Arm
import Disassembly.Proofs.Text.Classes

/-!
What the register test of the ARM family recognises. The name of a register is a letter for its bank
with decimal digits of any script, or one of eight fixed names; an operand passes the test if such a
name stands in front and neither a digit nor a small letter of ASCII follows. The test goes back
over the digits where something else follows, so it may find more than one name in an operand.
-/

namespace Disassembly.Operand.Arm

open Text

inductive IsRegisterName : List Char → Prop
  | numbered (bank : Char) (digits : List Char) (isBank : bank ∈ numberedBanks)
      (filled : digits ≠ []) (decimal : ∀ digit ∈ digits, isDecimal digit = true) :
      IsRegisterName (bank :: digits)
  | named (name : List Char) (known : name ∈ namedRegisters) : IsRegisterName name

/-- The operand is a register name and a rest before which a name may stop. -/
structure Recognises (operand name rest : List Char) : Prop where
  cut : operand = name ++ rest
  isName : IsRegisterName name
  stops : isNameEnd rest = true

theorem numberEnds_append {digits rest : List Char} (filled : digits ≠ [])
    (decimal : ∀ digit ∈ digits, isDecimal digit = true) (stops : isNameEnd rest = true) :
    numberEnds (digits ++ rest) = true := by
  induction digits with
  | nil => exact absurd rfl filled
  | cons digit later induction =>
      rcases List.forall_mem_cons.mp decimal with ⟨here, behind⟩
      rw [List.cons_append, numberEnds, here, Bool.true_and, Bool.or_eq_true]
      by_cases last : later = []
      · rw [last, List.nil_append]
        exact .inl stops
      · exact .inr (induction last behind)

theorem exists_digits_of_numberEnds {text : List Char} (ends : numberEnds text = true) :
    ∃ digits rest, text = digits ++ rest ∧ digits ≠ [] ∧
      (∀ digit ∈ digits, isDecimal digit = true) ∧ isNameEnd rest = true := by
  induction text with
  | nil => cases ends
  | cons digit later induction =>
      rw [numberEnds, Bool.and_eq_true, Bool.or_eq_true] at ends
      rcases ends with ⟨decimal, stops | goesOn⟩
      · exact ⟨[digit], later, rfl, by simp, by simpa using decimal, stops⟩
      · rcases induction goesOn with ⟨digits, rest, cut, _, areDecimal, stops⟩
        refine ⟨digit :: digits, rest, by rw [cut, List.cons_append], by simp, ?_, stops⟩
        exact List.forall_mem_cons.mpr ⟨decimal, areDecimal⟩

theorem namedRegisters_ne_nil : ∀ name ∈ namedRegisters, name ≠ [] := by decide

theorem startsWithRegister_of_recognises {operand name rest : List Char}
    (recognises : Recognises operand name rest) : startsWithRegister operand = true := by
  rcases recognises with ⟨rfl, isName, stops⟩
  cases isName with
  | numbered bank digits isBank filled decimal =>
      rw [List.cons_append, startsWithRegister, numberEnds_append filled decimal stops,
        List.contains_iff_mem.mpr isBank]
      rfl
  | named name known =>
      rcases List.exists_cons_of_ne_nil (namedRegisters_ne_nil name known) with
        ⟨letter, letters, shape⟩
      have front : name.isPrefixOf (name ++ rest) = true :=
        List.isPrefixOf_iff_prefix.mpr (List.prefix_append name rest)
      have found : (namedRegisters.any fun known =>
          known.isPrefixOf (name ++ rest) && isNameEnd ((name ++ rest).drop known.length)) = true := by
        apply List.any_eq_true.mpr
        refine ⟨name, known, ?_⟩
        rw [front, List.drop_left, stops]
        rfl
      rw [shape, List.cons_append] at found ⊢
      rw [startsWithRegister, found, Bool.or_true]

theorem exists_recognises_of_startsWithRegister {operand : List Char}
    (starts : startsWithRegister operand = true) : ∃ name rest, Recognises operand name rest := by
  cases operand with
  | nil => cases starts
  | cons bank text =>
      simp only [startsWithRegister, Bool.or_eq_true, Bool.and_eq_true, List.contains_iff_mem,
        List.any_eq_true, List.isPrefixOf_iff_prefix] at starts
      rcases starts with ⟨isBank, ends⟩ | ⟨name, known, ⟨rest, cut⟩, stops⟩
      · rcases exists_digits_of_numberEnds ends with ⟨digits, rest, cut, filled, decimal, stops⟩
        refine ⟨bank :: digits, rest, ?_, .numbered bank digits isBank filled decimal, stops⟩
        rw [cut, List.cons_append]
      · rw [← cut, List.drop_left] at stops
        exact ⟨name, rest, cut.symm, .named name known, stops⟩

theorem startsWithRegister_iff (operand : List Char) :
    startsWithRegister operand = true ↔ ∃ name rest, Recognises operand name rest := by
  constructor
  · exact exists_recognises_of_startsWithRegister
  · intro ⟨name, rest, recognises⟩
    exact startsWithRegister_of_recognises recognises

theorem IsRegisterName.alphanumeric {name : List Char} (isName : IsRegisterName name) :
    ∀ character ∈ name, isAlphanumeric character = true := by
  cases isName with
  | numbered bank digits isBank filled decimal =>
      have banks : ∀ bank ∈ numberedBanks, isAlphanumeric bank = true := by decide
      intro character member
      rcases List.mem_cons.mp member with rfl | isDigit
      · exact banks character isBank
      · exact isAlphanumeric_of_isDecimal (decimal character isDigit)
  | named name known =>
      have names : ∀ name ∈ namedRegisters, ∀ letter ∈ name,
          isAlphanumeric letter = true := by decide
      exact names name known

/-- Every register name begins with a small letter of ASCII. -/
theorem IsRegisterName.exists_letter {name : List Char} (isName : IsRegisterName name) :
    ∃ letter rest, name = letter :: rest ∧ letter.isLower = true := by
  cases isName with
  | numbered bank digits isBank filled decimal =>
      have banks : ∀ bank ∈ numberedBanks, bank.isLower = true := by decide
      exact ⟨bank, digits, rfl, banks bank isBank⟩
  | named name known =>
      have names : ∀ name ∈ namedRegisters, ∀ letter ∈ name, letter.isLower = true := by decide
      rcases List.exists_cons_of_ne_nil (namedRegisters_ne_nil name known) with
        ⟨letter, rest, shape⟩
      refine ⟨letter, rest, shape, names name known letter ?_⟩
      rw [shape]
      exact List.mem_cons_self

end Disassembly.Operand.Arm
