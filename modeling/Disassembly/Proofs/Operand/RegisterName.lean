import Disassembly.Operand
import Disassembly.Proofs.Operand.RegisterTest

/-!
Which register an operand names. What an addressing form puts around a register does not matter: the
displacement in front, index and scale behind the name, and whatever follows the closing bracket. A
bare register of the ARM family names itself, together with all letters and numbers that follow it,
as long as no pair of square brackets and no pair of braces stands anywhere in the operand.
-/

namespace Disassembly.Operand

open Text

/-! The name in front of a text. -/

theorem leadingName_append {name rest : List Char}
    (alphanumeric : ∀ character ∈ name, isAlphanumeric character = true)
    (stops : ∀ character ∈ rest.head?, isAlphanumeric character = false) :
    leadingName (name ++ rest) = name :=
  LongestRun.takeWhile_eq ⟨rfl, alphanumeric, stops⟩

theorem leadingName_append_blanks (text : List Char) {blanks : List Char}
    (areBlank : ∀ character ∈ blanks, isBlank character = true) :
    leadingName (text ++ blanks) = leadingName text := by
  have run := longestRun_takeWhile isAlphanumeric text
  rw [leadingName, leadingName]
  generalize text.takeWhile isAlphanumeric = name at run ⊢
  generalize text.dropWhile isAlphanumeric = rest at run
  rw [run.cut, List.append_assoc]
  apply leadingName_append run.within
  intro character member
  cases rest with
  | nil =>
      apply Bool.eq_false_iff.mpr
      intro alphanumeric
      have blank := areBlank character (List.mem_of_mem_head? member)
      rw [isBlank_of_isAlphanumeric alphanumeric] at blank
      cases blank
  | cons first more => exact run.stop character member

theorem leadingName_stripRight (text : List Char) :
    leadingName (stripRight text) = leadingName text := by
  have whole : stripRight text ++ text.rtakeWhile isBlank = text :=
    List.rdropWhile_append_rtakeWhile
  conv_rhs => rw [← whole]
  apply Eq.symm
  apply leadingName_append_blanks
  intro character member
  exact List.mem_rtakeWhile_imp member

/-- Blanks around a text do not change the name in front of it. -/
theorem leadingName_strip {blanks text : List Char}
    (areBlank : ∀ character ∈ blanks, isBlank character = true)
    (starts : ∀ character ∈ text.head?, isBlank character = false) :
    leadingName (strip (blanks ++ text)) = leadingName text := by
  have left : stripLeft (blanks ++ text) = text :=
    LongestRun.dropWhile_eq ⟨rfl, areBlank, starts⟩
  rw [strip, left, leadingName_stripRight]

/-! The part between brackets. -/

section Enclosed

variable {opening closing mark : Char} {text front inside : List Char}

theorem longestRun_before (rest : List Char) (absent : mark ∉ front) :
    LongestRun (· != mark) (front ++ mark :: rest) front (mark :: rest) := by
  constructor
  · rfl
  · intro character member
    rw [bne_iff_ne]
    intro same
    rw [same] at member
    exact absent member
  · intro character member
    rw [List.head?_cons, Option.mem_some_iff] at member
    rw [member, bne_self_eq_false]

theorem enclosed_of_notMem (missing : ¬(opening ∈ text ∧ closing ∈ text)) :
    enclosed opening closing text = text := by
  unfold enclosed
  apply if_neg
  rwa [Bool.and_eq_true, List.contains_iff_mem, List.contains_iff_mem]

theorem enclosed_of_no_opening (closing : Char) (absent : opening ∉ text) :
    enclosed opening closing text = text :=
  enclosed_of_notMem fun both => absent both.1

/-- Between the first two brackets stands what is enclosed, whatever comes behind them. -/
theorem enclosed_append (rest : List Char) (frontOpening : opening ∉ front)
    (upToClosing : closing ∉ front ++ opening :: inside) :
    enclosed opening closing (front ++ opening :: (inside ++ closing :: rest)) = inside := by
  have both : ((front ++ opening :: (inside ++ closing :: rest)).contains opening &&
      (front ++ opening :: (inside ++ closing :: rest)).contains closing) = true := by simp
  have cut : front ++ opening :: (inside ++ closing :: rest) =
      (front ++ opening :: inside) ++ closing :: rest := by simp
  rw [enclosed, if_pos both, cut, (longestRun_before rest upToClosing).takeWhile_eq,
    (longestRun_before inside frontOpening).dropWhile_eq, List.tail_cons]

end Enclosed

/-! Addressing forms. -/

def FreeOf (marks text : List Char) : Prop := ∀ mark ∈ marks, mark ∉ text

instance (marks text : List Char) : Decidable (FreeOf marks text) :=
  inferInstanceAs (Decidable (∀ mark ∈ marks, mark ∉ text))

theorem FreeOf.of_subset {marks fewer text : List Char} (free : FreeOf marks text)
    (subset : ∀ mark ∈ fewer, mark ∈ marks) : FreeOf fewer text := by
  intro mark member
  exact free mark (subset mark member)

def brackets : List Char := ['(', ')', '[', ']', '\x7b', '\x7d']

/-- The name of a register and what decorates it inside the brackets of an addressing form. -/
structure Decorated (register decoration : List Char) : Prop where
  filled : register ≠ []
  alphanumeric : ∀ character ∈ register, isAlphanumeric character = true
  stops : ∀ character ∈ decoration.head?, isAlphanumeric character = false
  bracketless : FreeOf brackets decoration

section Forms

variable {register decoration displacement : List Char}

theorem Decorated.leadingName_eq (decorated : Decorated register decoration) :
    leadingName (register ++ decoration) = register :=
  leadingName_append decorated.alphanumeric decorated.stops

theorem Decorated.notMem (decorated : Decorated register decoration) {bracket : Char}
    (isBracket : bracket ∈ brackets) : bracket ∉ register ++ decoration := by
  have notName : ∀ bracket ∈ brackets, isAlphanumeric bracket = false := by decide
  intro member
  rcases List.mem_append.mp member with inRegister | inDecoration
  · exact notMem_of_class decorated.alphanumeric (notName bracket isBracket) inRegister
  · exact decorated.bracketless bracket isBracket inDecoration

theorem Decorated.head (decorated : Decorated register decoration) :
    ∀ character ∈ (register ++ decoration).head?, isAlphanumeric character = true := by
  rcases List.exists_cons_of_ne_nil decorated.filled with ⟨first, letters, shape⟩
  intro character member
  apply decorated.alphanumeric
  rw [shape, List.cons_append, List.head?_cons, Option.mem_some_iff] at member
  rw [shape, member]
  exact List.mem_cons_self

theorem Decorated.notMem_behind (decorated : Decorated register decoration) {bracket : Char}
    {lead : List Char} (isBracket : bracket ∈ brackets) (inLead : bracket ∉ lead) :
    bracket ∉ lead ++ (register ++ decoration) := by
  intro member
  rcases List.mem_append.mp member with inFront | inside
  · exact inLead inFront
  · exact decorated.notMem isBracket inside

/-- A decorated register is found between its brackets, with what leads to it inside them. -/
theorem Decorated.enclosed_eq (decorated : Decorated register decoration) (opening closing : Char)
    (lead rest : List Char) (isClosing : closing ∈ brackets) (leadFree : closing ∉ opening :: lead)
    (free : FreeOf [opening, closing] displacement) :
    enclosed opening closing
        (displacement ++ opening :: (lead ++ (register ++ decoration) ++ closing :: rest)) =
      lead ++ (register ++ decoration) := by
  apply enclosed_append rest (free opening (by simp))
  rw [← List.cons_append, ← List.append_assoc]
  apply decorated.notMem_behind isClosing
  intro member
  rcases List.mem_append.mp member with inFront | inLead
  · exact free closing (by simp) inFront
  · exact leadFree inLead

/-- A bracket of another kind is nowhere in the form if it is not around it. -/
theorem Decorated.notMem_form (decorated : Decorated register decoration)
    {opening closing bracket : Char} {lead rest : List Char} (isBracket : bracket ∈ brackets)
    (other : bracket ∉ [opening, closing]) (inFront : bracket ∉ displacement)
    (inLead : bracket ∉ lead) (behind : bracket ∉ rest) :
    bracket ∉ displacement ++ opening :: (lead ++ (register ++ decoration) ++ closing :: rest) := by
  have inside := decorated.notMem_behind isBracket inLead
  simp only [List.mem_cons, List.not_mem_nil, or_false, not_or] at other
  intro member
  rcases List.mem_append.mp member with before | member
  · exact inFront before
  · rcases List.mem_cons.mp member with same | member
    · exact other.1 same
    · rcases List.mem_append.mp member with within | member
      · exact inside within
      · rcases List.mem_cons.mp member with same | after
        · exact other.2 same
        · exact behind after

namespace X86

/-- An alphanumeric front is neither the mark of an indirection nor the sigil of a register. -/
theorem without_register (decorated : Decorated register decoration) {sign : Char}
    (isSign : sign ∈ ['*', '%']) :
    without sign (register ++ decoration) = register ++ decoration := by
  have notName : ∀ sign ∈ ['*', '%'], isAlphanumeric sign = false := by decide
  have head := decorated.head
  cases shape : register ++ decoration with
  | nil => rfl
  | cons first rest =>
      rw [shape] at head
      have other : first ≠ sign := by
        intro same
        have alphanumeric := head first rfl
        rw [same, notName sign isSign] at alphanumeric
        cases alphanumeric
      rw [without, if_neg other]

theorem leadingName_bare (decorated : Decorated register decoration) :
    leadingName (without '%' (without '*' (register ++ decoration))) = register := by
  rw [without_register decorated (by decide), without_register decorated (by decide),
    decorated.leadingName_eq]

theorem leadingName_sigil (decorated : Decorated register decoration) :
    leadingName (without '%' ('%' :: (register ++ decoration))) = register := by
  rw [without, if_pos rfl, decorated.leadingName_eq]

theorem without_indirection (rest : List Char) : without '*' ('%' :: rest) = '%' :: rest := by
  rw [without, if_neg (by decide)]

theorem registerName_in_parentheses (decorated : Decorated register decoration)
    (rest : List Char) (free : FreeOf ['(', ')'] displacement) :
    registerName (displacement ++ '(' :: '%' :: (register ++ decoration ++ ')' :: rest)) =
      register := by
  have parentheses : enclosed '(' ')'
      (displacement ++ '(' :: '%' :: (register ++ decoration ++ ')' :: rest)) =
        '%' :: (register ++ decoration) :=
    decorated.enclosed_eq '(' ')' ['%'] rest (by decide) (by decide) free
  have noSquare : '[' ∉ ['%'] ++ (register ++ decoration) :=
    decorated.notMem_behind (by decide) (by decide)
  have square : enclosed '[' ']' ('%' :: (register ++ decoration)) =
      '%' :: (register ++ decoration) := enclosed_of_no_opening ']' noSquare
  rw [registerName, parentheses, square, without_indirection, leadingName_sigil decorated]

/-- Signs in front of the register leave it without brackets, so that only the signs are removed. -/
theorem registerName_behind_signs (decorated : Decorated register decoration) {signs : List Char}
    (free : FreeOf ['(', '['] signs) :
    registerName (signs ++ (register ++ decoration)) =
      leadingName (without '%' (without '*' (signs ++ (register ++ decoration)))) := by
  have parentheses := enclosed_of_no_opening ')'
    (decorated.notMem_behind (by decide) (free '(' (by decide)))
  have square := enclosed_of_no_opening ']'
    (decorated.notMem_behind (by decide) (free '[' (by decide)))
  rw [registerName, parentheses, square]

theorem registerName_of_sigil (decorated : Decorated register decoration) :
    registerName ('%' :: (register ++ decoration)) = register := by
  have signs := registerName_behind_signs decorated (by decide : FreeOf ['(', '['] ['%'])
  rw [List.singleton_append] at signs
  rw [signs, without_indirection, leadingName_sigil decorated]

theorem registerName_of_indirection (decorated : Decorated register decoration) :
    registerName ('*' :: '%' :: (register ++ decoration)) = register := by
  have signs := registerName_behind_signs decorated (by decide : FreeOf ['(', '['] ['*', '%'])
  rw [List.cons_append, List.singleton_append] at signs
  rw [signs, without, if_pos rfl, leadingName_sigil decorated]

theorem registerName_in_square_brackets (decorated : Decorated register decoration)
    {rest : List Char} (free : FreeOf ['(', ')', '[', ']'] displacement)
    (restFree : FreeOf ['(', ')'] rest) :
    registerName (displacement ++ '[' :: (register ++ decoration ++ ']' :: rest)) = register := by
  have noParenthesis : '(' ∉ displacement ++ '[' :: (register ++ decoration ++ ']' :: rest) :=
    decorated.notMem_form (by decide) (by decide) (free '(' (by decide)) List.not_mem_nil
      (restFree '(' (by decide))
  have parentheses := enclosed_of_no_opening ')' noParenthesis
  have square : enclosed '[' ']'
      (displacement ++ '[' :: (register ++ decoration ++ ']' :: rest)) = register ++ decoration :=
    decorated.enclosed_eq '[' ']' [] rest (by decide) (by decide) (free.of_subset (by decide))
  rw [registerName, parentheses, square, leadingName_bare decorated]

end X86

namespace Arm

variable {blanks : List Char}

theorem bracket_notMem_blanks (areBlank : ∀ character ∈ blanks, isBlank character = true)
    {bracket : Char} (isBracket : bracket ∈ brackets) : bracket ∉ blanks := by
  have visible : ∀ bracket ∈ brackets, isBlank bracket = false := by decide
  exact notMem_of_class areBlank (visible bracket isBracket)

theorem leadingName_behind_blanks (decorated : Decorated register decoration)
    (areBlank : ∀ character ∈ blanks, isBlank character = true) :
    leadingName (strip (blanks ++ (register ++ decoration))) = register := by
  rw [leadingName_strip areBlank, decorated.leadingName_eq]
  intro character member
  exact isBlank_of_isAlphanumeric (decorated.head character member)

theorem registerName_in_square_brackets (decorated : Decorated register decoration)
    (areBlank : ∀ character ∈ blanks, isBlank character = true) (rest : List Char)
    (free : FreeOf ['[', ']'] displacement) :
    registerName (displacement ++ '[' :: (blanks ++ (register ++ decoration) ++ ']' :: rest)) =
      register := by
  have blankFree : ∀ bracket ∈ brackets, bracket ∉ blanks :=
    fun _ isBracket => bracket_notMem_blanks areBlank isBracket
  have square := decorated.enclosed_eq '[' ']' blanks rest (by decide)
    (by simp [blankFree ']' (by decide)]) free
  have braces := enclosed_of_no_opening '\x7d'
    (decorated.notMem_behind (by decide) (blankFree '\x7b' (by decide)))
  rw [registerName, square, braces, leadingName_behind_blanks decorated areBlank]

theorem registerName_in_braces (decorated : Decorated register decoration)
    (areBlank : ∀ character ∈ blanks, isBlank character = true) {rest : List Char}
    (free : FreeOf ['[', ']', '\x7b', '\x7d'] displacement) (restFree : FreeOf ['[', ']'] rest) :
    registerName
        (displacement ++ '\x7b' :: (blanks ++ (register ++ decoration) ++ '\x7d' :: rest)) =
      register := by
  have blankFree : ∀ bracket ∈ brackets, bracket ∉ blanks :=
    fun _ isBracket => bracket_notMem_blanks areBlank isBracket
  have noSquare : '[' ∉
      displacement ++ '\x7b' :: (blanks ++ (register ++ decoration) ++ '\x7d' :: rest) :=
    decorated.notMem_form (by decide) (by decide) (free '[' (by decide))
      (blankFree '[' (by decide)) (restFree '[' (by decide))
  have square := enclosed_of_no_opening ']' noSquare
  have braces := decorated.enclosed_eq '\x7b' '\x7d' blanks rest (by decide)
    (by simp [blankFree '\x7d' (by decide)]) (free.of_subset (by decide))
  rw [registerName, square, braces, leadingName_behind_blanks decorated areBlank]

end Arm

/-- The register of every addressing form is the one inside its first brackets, or the one behind
the sigil, whatever decorates it and whatever stands around the brackets. -/
theorem registerName_of_addressing_forms (decorated : Decorated register decoration) :
    (∀ displacement rest, FreeOf ['(', ')', '[', ']'] displacement →
      registerName .x86
        (displacement ++ '(' :: '%' :: (register ++ decoration ++ ')' :: rest)) = register) ∧
    (∀ displacement rest, FreeOf ['(', ')', '[', ']'] displacement → FreeOf ['(', ')'] rest →
      registerName .x86
        (displacement ++ '[' :: (register ++ decoration ++ ']' :: rest)) = register) ∧
    registerName .x86 ('%' :: (register ++ decoration)) = register ∧
    registerName .x86 ('*' :: '%' :: (register ++ decoration)) = register ∧
    (∀ displacement blanks rest, FreeOf ['[', ']', '\x7b', '\x7d'] displacement →
      (∀ character ∈ blanks, isBlank character = true) →
        registerName .arm
          (displacement ++ '[' :: (blanks ++ (register ++ decoration) ++ ']' :: rest)) =
            register) ∧
    (∀ displacement blanks rest, FreeOf ['[', ']', '\x7b', '\x7d'] displacement →
      (∀ character ∈ blanks, isBlank character = true) → FreeOf ['[', ']'] rest →
        registerName .arm
          (displacement ++ '\x7b' :: (blanks ++ (register ++ decoration) ++ '\x7d' :: rest)) =
            register) := by
  constructor
  · intro displacement rest free
    exact X86.registerName_in_parentheses decorated rest (free.of_subset (by decide))
  constructor
  · intro displacement rest free restFree
    exact X86.registerName_in_square_brackets decorated free restFree
  constructor
  · exact X86.registerName_of_sigil decorated
  constructor
  · exact X86.registerName_of_indirection decorated
  constructor
  · intro displacement blanks rest free areBlank
    exact Arm.registerName_in_square_brackets decorated areBlank rest (free.of_subset (by decide))
  · intro displacement blanks rest free areBlank restFree
    exact Arm.registerName_in_braces decorated areBlank free restFree

/-- The base of an indexed operand is found behind its displacement. -/
theorem registerName_indexed :
    Decorated "rsp".toList ",%rbx,4".toList ∧
      registerName .x86 "0x8(%rsp,%rbx,4)".toList = "rsp".toList := by
  have decorated : Decorated "rsp".toList ",%rbx,4".toList :=
    ⟨by decide, by decide, by decide, by decide⟩
  constructor
  · exact decorated
  · exact (registerName_of_addressing_forms decorated).1 "0x8".toList [] (by decide)

end Forms

/-! Bare registers of the ARM family. -/

theorem leadingName_append_name {name : List Char} (rest : List Char)
    (alphanumeric : ∀ character ∈ name, isAlphanumeric character = true) :
    leadingName (name ++ rest) = name ++ leadingName rest :=
  List.takeWhile_append_of_pos alphanumeric

theorem leadingName_eq_nil_iff (text : List Char) :
    leadingName text = [] ↔ ∀ character ∈ text.head?, isAlphanumeric character = false := by
  cases text with
  | nil => simp [leadingName]
  | cons first rest => simp [leadingName, List.takeWhile_cons]

/-- Where no brackets are found, an operand that starts with a register loses nothing in front. -/
theorem Arm.registerName_eq_leadingName {operand : List Char}
    (starts : Arm.startsWithRegister operand = true)
    (noSquare : ¬('[' ∈ operand ∧ ']' ∈ operand))
    (noBraces : ¬('\x7b' ∈ operand ∧ '\x7d' ∈ operand)) :
    Arm.registerName operand = leadingName operand := by
  rcases Arm.exists_recognises_of_startsWithRegister starts with ⟨name, rest, cut, isName, _⟩
  rcases isName.exists_letter with ⟨letter, letters, shape, _⟩
  have visible : ∀ character ∈ operand.head?, isBlank character = false := by
    intro character member
    rw [cut, shape, List.cons_append, List.head?_cons, Option.mem_some_iff] at member
    apply isBlank_of_isAlphanumeric
    apply isName.alphanumeric
    rw [shape, member]
    exact List.mem_cons_self
  have noBlanks : ∀ character ∈ ([] : List Char), isBlank character = true := by simp
  have kept : leadingName (strip operand) = leadingName operand := leadingName_strip noBlanks visible
  rw [Arm.registerName, enclosed_of_notMem noSquare, enclosed_of_notMem noBraces, kept]

/-- An operand that starts with the name of a register, and holds no pair of square brackets and no
pair of braces, names all letters and numbers in front. They are the name that the register test
recognises, unless that test stops before a letter or a number that is no small letter and no digit
of ASCII. -/
theorem registerName_of_startsWithRegister {operand : List Char}
    (starts : Arm.startsWithRegister operand = true)
    (noSquare : ¬('[' ∈ operand ∧ ']' ∈ operand))
    (noBraces : ¬('\x7b' ∈ operand ∧ '\x7d' ∈ operand)) :
    registerName .arm operand = leadingName operand ∧
      ∀ name rest, Arm.Recognises operand name rest →
        name <+: registerName .arm operand ∧
          (registerName .arm operand = name ↔
            ∀ character ∈ rest.head?, isAlphanumeric character = false) := by
  have named : registerName .arm operand = leadingName operand :=
    Arm.registerName_eq_leadingName starts noSquare noBraces
  constructor
  · exact named
  · intro name rest ⟨cut, isName, _⟩
    rw [named, cut, leadingName_append_name rest isName.alphanumeric]
    constructor
    · exact List.prefix_append name _
    · rw [List.append_right_eq_self, leadingName_eq_nil_iff]

/-- The arrangement of a vector is no part of its name. -/
theorem registerName_with_arrangement :
    Arm.startsWithRegister "v0.16b".toList = true ∧
      registerName .arm "v0.16b".toList = leadingName "v0.16b".toList ∧
      Arm.Recognises "v0.16b".toList "v0".toList ".16b".toList ∧
      registerName .arm "v0.16b".toList = "v0".toList := by
  have starts : Arm.startsWithRegister "v0.16b".toList = true := by decide
  have recognises : Arm.Recognises "v0.16b".toList "v0".toList ".16b".toList :=
    ⟨by decide, .numbered 'v' ['0'] (by decide) (by decide) (by decide), by decide⟩
  rcases registerName_of_startsWithRegister starts (by decide) (by decide) with ⟨named, told⟩
  exact ⟨starts, named, recognises, (told _ _ recognises).2.mpr (by decide)⟩

/-- With a pair of square brackets behind it the register is lost: the index of the lane is named
in its place. And a capital letter belongs to the name, though the register test stops before it. -/
theorem lane_index_hides_register :
    Arm.startsWithRegister "v0.s[1]".toList = true ∧
      leadingName "v0.s[1]".toList = "v0".toList ∧
      registerName .arm "v0.s[1]".toList = "1".toList ∧
      Arm.Recognises "x8A".toList "x8".toList "A".toList ∧
      registerName .arm "x8A".toList = "x8A".toList := by
  have recognises : Arm.Recognises "x8A".toList "x8".toList "A".toList :=
    ⟨by decide, .numbered 'x' ['8'] (by decide) (by decide) (by decide), by decide⟩
  exact ⟨by decide, by decide, by decide, recognises, by decide⟩

end Disassembly.Operand
