import Disassembly.Proofs.Operand.RegisterName

/-!
Taking a register's name out of an operand is a projection onto the texts of letters and numbers.
Brackets may be missing, reversed or nested: each step takes a part of the text in one piece, so the
name is a part of the operand too. A text of letters and numbers has nothing that any of the steps
would remove. Nothing is said about whether a name is that of an existing register.
-/

namespace Disassembly.Operand

open Text

/-! Each step takes a part in one piece. -/

theorem enclosed_isInfix (opening closing : Char) (text : List Char) :
    enclosed opening closing text <:+: text := by
  unfold enclosed
  split
  · have front : text.takeWhile (· != closing) <+: text := List.takeWhile_prefix _
    have inside : ((text.takeWhile (· != closing)).dropWhile (· != opening)).tail <:+
        text.takeWhile (· != closing) :=
      (List.tail_suffix _).trans (List.dropWhile_suffix _)
    exact inside.isInfix.trans front.isInfix
  · exact List.infix_refl text

theorem leadingName_isInfix (text : List Char) : leadingName text <:+: text :=
  (List.takeWhile_prefix isAlphanumeric).isInfix

theorem X86.without_isInfix (sigil : Char) (text : List Char) : without sigil text <:+: text := by
  cases text with
  | nil => exact List.infix_refl []
  | cons first rest =>
      rw [without]
      split
      · exact (List.suffix_cons first rest).isInfix
      · exact List.infix_refl (first :: rest)

theorem X86.registerName_isInfix (operand : List Char) : registerName operand <:+: operand := by
  rw [registerName]
  apply (leadingName_isInfix _).trans
  apply (without_isInfix '%' _).trans
  apply (without_isInfix '*' _).trans
  apply (enclosed_isInfix '[' ']' _).trans
  exact enclosed_isInfix '(' ')' operand

theorem Arm.registerName_isInfix (operand : List Char) : registerName operand <:+: operand := by
  rw [registerName]
  apply (leadingName_isInfix _).trans
  apply (strip_within _).trans
  apply (enclosed_isInfix '\x7b' '\x7d' _).trans
  exact enclosed_isInfix '[' ']' operand

theorem registerName_isInfix (family : Family) (operand : List Char) :
    registerName family operand <:+: operand := by
  cases family with
  | x86 => exact X86.registerName_isInfix operand
  | arm => exact Arm.registerName_isInfix operand

/-! Every name is made of letters and numbers, and such a text is a name already. -/

theorem isAlphanumeric_of_mem_registerName {family : Family} {operand : List Char} :
    ∀ character ∈ registerName family operand, isAlphanumeric character = true := by
  intro character member
  cases family with
  | x86 => exact List.mem_takeWhile_imp member
  | arm => exact List.mem_takeWhile_imp member

section Bare

variable {register decoration : List Char}

theorem X86.registerName_of_decorated (decorated : Decorated register decoration) :
    registerName (register ++ decoration) = register := by
  have signs := registerName_behind_signs decorated (by decide : FreeOf ['(', '['] [])
  rw [List.nil_append] at signs
  rw [signs, leadingName_bare decorated]

theorem Arm.registerName_of_decorated (decorated : Decorated register decoration) :
    registerName (register ++ decoration) = register := by
  have square := enclosed_of_no_opening ']' (decorated.notMem (by decide : '[' ∈ brackets))
  have braces := enclosed_of_no_opening '\x7d' (decorated.notMem (by decide : '\x7b' ∈ brackets))
  have noBlanks : ∀ character ∈ ([] : List Char), isBlank character = true := by simp
  have named := leadingName_behind_blanks decorated noBlanks
  rw [List.nil_append] at named
  rw [registerName, square, braces, named]

/-- A register that no brackets and no signs stand around names itself. -/
theorem registerName_of_decorated (family : Family) (decorated : Decorated register decoration) :
    registerName family (register ++ decoration) = register := by
  cases family with
  | x86 => exact X86.registerName_of_decorated decorated
  | arm => exact Arm.registerName_of_decorated decorated

end Bare

theorem registerName_nil (family : Family) : registerName family [] = [] := by
  cases family <;> rfl

theorem registerName_of_isAlphanumeric (family : Family) {name : List Char}
    (alphanumeric : ∀ character ∈ name, isAlphanumeric character = true) :
    registerName family name = name := by
  by_cases filled : name = []
  · rw [filled]
    exact registerName_nil family
  · have decorated : Decorated name [] := by
      constructor
      case filled => exact filled
      case alphanumeric => exact alphanumeric
      case stops => simp
      case bracketless => simp [FreeOf]
    have named := registerName_of_decorated family decorated
    rwa [List.append_nil] at named

/-- Whatever the operand, the name is a part of it in one piece, holds letters and numbers alone,
and gives itself when it is taken out again. The operands that are left as they are, are the texts
of letters and numbers. -/
theorem registerName_is_projection (family : Family) (operand : List Char) :
    registerName family operand <:+: operand ∧
      (∀ character ∈ registerName family operand, isAlphanumeric character = true) ∧
      registerName family (registerName family operand) = registerName family operand ∧
      (registerName family operand = operand ↔
        ∀ character ∈ operand, isAlphanumeric character = true) := by
  have alphanumeric : ∀ character ∈ registerName family operand,
      isAlphanumeric character = true := isAlphanumeric_of_mem_registerName
  constructor
  · exact registerName_isInfix family operand
  constructor
  · exact alphanumeric
  constructor
  · exact registerName_of_isAlphanumeric family alphanumeric
  · constructor
    · intro same
      rwa [same] at alphanumeric
    · exact registerName_of_isAlphanumeric family

/-- The first pair of brackets may take one of a second pair with it, which then counts no more. -/
example : registerName .x86 "](%r[8)".toList = "r".toList ∧
    registerName .arm "{[ x0}, w1]".toList = "x0".toList := by
  decide

end Disassembly.Operand
