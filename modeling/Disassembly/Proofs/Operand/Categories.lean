import Disassembly.Proofs.Operand.RegisterTest
import Disassembly.Proofs.Operand.Target

/-!
Which of constant, address and register an operand is at once. In the x86 family it is always
exactly one of them, whatever the mnemonic. In the ARM family it is at least one, and the two ways
of being two at once are known exactly: an immediate that holds a bracket or a brace counts as a
register too, and so does a jump's address that reads like the name of a register, such as `b10`.
Numerals in other scripts, signs and final line feeds make no further overlap.
-/

namespace Disassembly.Operand

open Text

/-- The operand is a text, or that text with one line feed behind it. -/
def WrittenAs (operand text : List Char) : Prop := operand = text ∨ operand = text ++ ['\n']

theorem writtenAs_withoutFinalLineFeed (operand : List Char) :
    WrittenAs operand (withoutFinalLineFeed operand) := by
  unfold withoutFinalLineFeed
  split
  · rename_i ended
    exact .inr (List.dropLast_append_getLast? '\n' ended).symm
  · exact .inl rfl

theorem WrittenAs.withoutFinalLineFeed_eq {operand text : List Char}
    (written : WrittenAs operand text) (plain : '\n' ∉ text) :
    withoutFinalLineFeed operand = text := by
  rcases written with same | ended
  · have noEnd : operand.getLast? ≠ some '\n' := by
      intro ended
      apply plain
      rw [← same]
      exact List.mem_of_getLast? ended
    rw [withoutFinalLineFeed, if_neg noEnd, same]
  · rw [withoutFinalLineFeed, ended, List.getLast?_concat, if_pos rfl, List.dropLast_concat]

theorem WrittenAs.mem {operand text : List Char} (written : WrittenAs operand text)
    {character : Char} (member : character ∈ operand) : character ∈ text ∨ character = '\n' := by
  rcases written with rfl | rfl
  · exact .inl member
  · simpa using member

theorem WrittenAs.mem_of_mem {operand text : List Char} (written : WrittenAs operand text)
    {character : Char} (member : character ∈ text) : character ∈ operand := by
  rcases written with rfl | rfl
  · exact member
  · exact List.mem_append_left _ member

theorem isAlphanum_of_isAddressForm {operand : List Char} (form : isAddressForm operand = true) :
    ∀ character ∈ operand, character.isAlphanum = true ∨ character = '\n' := by
  intro character member
  rcases (writtenAs_withoutFinalLineFeed operand).mem member with inside | lineFeed
  · exact .inl (isAlphanum_of_isHexNumeral form character inside)
  · exact .inr lineFeed

/-- Only a jump has addresses, and a jump has no constants. -/
theorem not_isConstant_of_isAddress {family : Family} {mnemonic : Option (List Char)}
    {operand : List Char} (address : isAddress family mnemonic operand = true) :
    isConstant family mnemonic operand = false := by
  cases family with
  | x86 =>
      have jump : X86.isJump mnemonic = true := (Bool.and_eq_true_iff.mp address).1
      simp [isConstant, X86.isConstant, jump]
  | arm =>
      have jump : Arm.isJump mnemonic = true := (Bool.and_eq_true_iff.mp address).1
      simp [isConstant, Arm.isConstant, jump]

namespace X86

theorem withoutDollar_cases (text : List Char) :
    text = '$' :: withoutDollar text ∨ text = withoutDollar text := by
  unfold withoutDollar
  split
  · exact .inl rfl
  · exact .inr rfl

theorem withoutHexLetter_cases (text : List Char) :
    text = withoutHexLetter text ++ ['h'] ∨ text = withoutHexLetter text := by
  unfold withoutHexLetter
  split
  · rename_i ended
    exact .inl (List.dropLast_append_getLast? 'h' ended).symm
  · exact .inr rfl

theorem isAlphanum_of_isConstantForm {operand : List Char}
    (form : isConstantForm operand = true) :
    ∀ character ∈ operand, character.isAlphanum = true ∨ character = '$' ∨ character = '\n' := by
  have digits := isAlphanum_of_isHexNumeral form
  have numeral : ∀ character ∈ withoutDollar (withoutFinalLineFeed operand),
      character.isAlphanum = true := by
    intro character member
    rcases withoutHexLetter_cases (withoutDollar (withoutFinalLineFeed operand)) with
      lettered | plain
    · rw [lettered] at member
      rcases List.mem_append.mp member with inside | letter
      · exact digits character inside
      · rw [List.mem_singleton.mp letter]
        decide
    · rw [plain] at member
      exact digits character member
  intro character member
  rcases (writtenAs_withoutFinalLineFeed operand).mem member with inside | lineFeed
  · rcases withoutDollar_cases (withoutFinalLineFeed operand) with marked | plain
    · rw [marked] at inside
      rcases List.mem_cons.mp inside with dollar | inside
      · exact .inr (.inl dollar)
      · exact .inl (numeral character inside)
    · rw [plain] at inside
      exact .inl (numeral character inside)
  · exact .inr (.inr lineFeed)

theorem mem_of_opensWithSigil {operand : List Char} (opens : opensWithSigil operand = true) :
    '(' ∈ operand := by
  induction operand with
  | nil => cases opens
  | cons first rest induction =>
      simp only [opensWithSigil, Bool.or_eq_true, Bool.and_eq_true, decide_eq_true_eq] at opens
      rcases opens with ⟨here, _⟩ | later
      · rw [here]
        exact List.mem_cons_self
      · exact List.mem_cons_of_mem _ (induction later)

/-- A register shows by one of three signs. -/
theorem exists_sign_of_showsRegister {operand : List Char}
    (shows : showsRegister operand = true) : ∃ sign ∈ ['%', '(', '['], sign ∈ operand := by
  simp only [showsRegister, Bool.or_eq_true, List.isPrefixOf_iff_prefix,
    List.contains_iff_mem] at shows
  rcases shows with (sigil | parenthesis) | bracket
  · exact ⟨'%', by decide, sigil.mem List.mem_cons_self⟩
  · exact ⟨'(', by decide, mem_of_opensWithSigil parenthesis⟩
  · exact ⟨'[', by decide, bracket⟩

theorem showsRegister_eq_false {operand : List Char} (plain : ∀ character ∈ operand,
      character.isAlphanum = true ∨ character = '$' ∨ character = '\n') :
    showsRegister operand = false := by
  apply Bool.eq_false_iff.mpr
  intro shows
  rcases exists_sign_of_showsRegister shows with ⟨sign, isSign, member⟩
  have notSign : ∀ sign ∈ ['%', '(', '['],
      ¬(sign.isAlphanum = true ∨ sign = '$' ∨ sign = '\n') := by decide
  exact notSign sign isSign (plain sign member)

/-- A register is what is neither a constant nor an address. -/
theorem isRegister_eq (mnemonic : Option (List Char)) (operand : List Char) :
    isRegister mnemonic operand =
      (!isConstant mnemonic operand && !isAddress mnemonic operand) := by
  unfold isRegister
  cases shows : showsRegister operand with
  | false => rw [Bool.false_or]
  | true =>
      have noConstant : isConstantForm operand = false := by
        apply Bool.eq_false_iff.mpr
        intro form
        rw [showsRegister_eq_false (isAlphanum_of_isConstantForm form)] at shows
        cases shows
      have noAddress : isAddressForm operand = false := by
        apply Bool.eq_false_iff.mpr
        intro form
        have plain : ∀ character ∈ operand,
            character.isAlphanum = true ∨ character = '$' ∨ character = '\n' :=
          fun character member => (isAlphanum_of_isAddressForm form character member).imp_right .inr
        rw [showsRegister_eq_false plain] at shows
        cases shows
      simp [isConstant, isAddress, noConstant, noAddress]

end X86

namespace Arm

def IsBracketedImmediate (operand : List Char) : Prop :=
  ∃ value, value ≠ [] ∧ '\n' ∉ value ∧ WrittenAs operand ('#' :: value) ∧
    ('[' ∈ value ∨ '\x7b' ∈ value)

def IsRegisterNumeral (operand : List Char) : Prop :=
  ∃ bank digits, bank ∈ ['b', 'd'] ∧ digits ≠ [] ∧ (∀ digit ∈ digits, digit.isDigit = true) ∧
    WrittenAs operand (bank :: digits)

theorem showsRegister_iff (operand : List Char) :
    showsRegister operand = true ↔
      startsWithRegister operand = true ∨ '[' ∈ operand ∨ '\x7b' ∈ operand := by
  simp only [showsRegister, Bool.or_eq_true, List.contains_iff_mem, or_assoc]

theorem startsWithRegister_eq_false {first : Char} {rest : List Char}
    (notLower : first.isLower = false) : startsWithRegister (first :: rest) = false := by
  apply Bool.eq_false_iff.mpr
  intro starts
  rcases (startsWithRegister_iff _).mp starts with ⟨name, behind, cut, isName, _⟩
  rcases isName.exists_letter with ⟨letter, letters, rfl, lower⟩
  rw [(List.cons.inj cut).1, lower] at notLower
  cases notLower

theorem startsWithRegister_eq_false_of_writtenAs {operand rest : List Char} {first : Char}
    (written : WrittenAs operand (first :: rest)) (notLower : first.isLower = false) :
    startsWithRegister operand = false := by
  rcases written with same | ended
  · rw [same, startsWithRegister_eq_false notLower]
  · rw [ended, List.cons_append, startsWithRegister_eq_false notLower]

theorem exists_value_of_isImmediate {text : List Char} (immediate : isImmediate text = true) :
    ∃ value, text = '#' :: value ∧ value ≠ [] ∧ '\n' ∉ value := by
  unfold isImmediate at immediate
  split at immediate
  · rename_i value
    refine ⟨value, rfl, ?_⟩
    simpa [List.forall_mem_ne'] using immediate
  · cases immediate

theorem withoutMinus_cases (text : List Char) :
    text = '-' :: withoutMinus text ∨ text = withoutMinus text := by
  unfold withoutMinus
  split
  · exact .inl rfl
  · exact .inr rfl

theorem isNumeral_cases {text : List Char} (numeral : isNumeral text = true) :
    (∃ digits, withoutMinus text = '0' :: 'x' :: digits ∧
        ∀ digit ∈ digits, isHexDigit digit = true) ∨
      ∀ digit ∈ withoutMinus text, isDecimal digit = true := by
  unfold isNumeral at numeral
  split at numeral
  · rename_i digits shape
    rw [Bool.and_eq_true, List.all_eq_true] at numeral
    exact .inl ⟨digits, shape, numeral.2⟩
  · rw [Bool.and_eq_true, List.all_eq_true] at numeral
    exact .inr numeral.2

/-- A numeral begins with a digit or a minus sign. -/
theorem isLower_eq_false_of_isNumeral {first : Char} {rest : List Char}
    (numeral : isNumeral (first :: rest) = true) : first.isLower = false := by
  rcases withoutMinus_cases (first :: rest) with marked | plain
  · rw [(List.cons.inj marked).1]
    decide
  · rcases isNumeral_cases numeral with ⟨digits, shape, _⟩ | decimal
    · rw [← plain] at shape
      rw [(List.cons.inj shape).1]
      decide
    · rw [← plain] at decimal
      exact isLower_eq_false_of_isDecimal (decimal first List.mem_cons_self)

theorem notMem_of_isNumeral {text : List Char} (numeral : isNumeral text = true) {sign : Char}
    (isSign : sign ∈ ['[', '\x7b']) : sign ∉ text := by
  have signs : ∀ sign ∈ ['[', '\x7b'], sign ∉ ['-', '0', 'x'] ∧ isHexDigit sign = false ∧
      isDecimal sign = false := by decide
  rcases signs sign isSign with ⟨apart, notHex, notDecimal⟩
  simp only [List.mem_cons, List.not_mem_nil, or_false, not_or] at apart
  have notInside : sign ∉ withoutMinus text := by
    rcases isNumeral_cases numeral with ⟨digits, shape, hex⟩ | decimal
    · rw [shape]
      apply List.not_mem_cons_of_ne_of_not_mem apart.2.1
      apply List.not_mem_cons_of_ne_of_not_mem apart.2.2
      exact notMem_of_class hex notHex
    · exact notMem_of_class decimal notDecimal
  rcases withoutMinus_cases text with marked | plain
  · rw [marked]
    exact List.not_mem_cons_of_ne_of_not_mem apart.1 notInside
  · rw [plain]
    exact notInside

theorem showsRegister_eq_false_of_isNumeral {operand text : List Char}
    (written : WrittenAs operand text) (numeral : isNumeral text = true) :
    showsRegister operand = false := by
  have signless : ∀ sign ∈ ['[', '\x7b'], sign ∉ operand := by
    intro sign isSign member
    rcases written.mem member with inside | lineFeed
    · exact notMem_of_isNumeral numeral isSign inside
    · exact absurd (lineFeed ▸ isSign) (by decide)
  apply Bool.eq_false_iff.mpr
  intro shows
  rcases (showsRegister_iff operand).mp shows with starts | bracket | brace
  · cases text with
    | nil => cases numeral
    | cons first rest =>
        have notLower := isLower_eq_false_of_isNumeral numeral
        rw [startsWithRegister_eq_false_of_writtenAs written notLower] at starts
        cases starts
  · exact signless '[' (by decide) bracket
  · exact signless '\x7b' (by decide) brace

theorem isConstantForm_and_showsRegister_iff (operand : List Char) :
    isConstantForm operand = true ∧ showsRegister operand = true ↔
      IsBracketedImmediate operand := by
  constructor
  · intro ⟨form, shows⟩
    have written := writtenAs_withoutFinalLineFeed operand
    rcases Bool.or_eq_true_iff.mp form with immediate | numeral
    · rcases exists_value_of_isImmediate immediate with ⟨value, shape, filled, plain⟩
      rw [shape] at written
      refine ⟨value, filled, plain, written, ?_⟩
      have inValue : ∀ sign ∈ ['[', '\x7b'], sign ∈ operand → sign ∈ value := by
        intro sign isSign member
        have notMark : ∀ sign ∈ ['[', '\x7b'], sign ≠ '#' ∧ sign ≠ '\n' := by decide
        rcases notMark sign isSign with ⟨notNumber, notLineFeed⟩
        have inText := (written.mem member).resolve_right notLineFeed
        exact (List.mem_cons.mp inText).resolve_left notNumber
      rcases (showsRegister_iff operand).mp shows with starts | bracket | brace
      · rw [startsWithRegister_eq_false_of_writtenAs written (by decide)] at starts
        cases starts
      · exact .inl (inValue '[' (by decide) bracket)
      · exact .inr (inValue '\x7b' (by decide) brace)
    · rw [showsRegister_eq_false_of_isNumeral written numeral] at shows
      cases shows
  · intro ⟨value, filled, plain, written, bracketed⟩
    constructor
    · have text : withoutFinalLineFeed operand = '#' :: value :=
        written.withoutFinalLineFeed_eq (by simpa using plain)
      have immediate : isImmediate ('#' :: value) = true := by
        simpa [isImmediate, filled, List.forall_mem_ne'] using plain
      rw [isConstantForm, text, immediate, Bool.true_or]
    · apply (showsRegister_iff operand).mpr
      rcases bracketed with bracket | brace
      · exact .inr (.inl (written.mem_of_mem (List.mem_cons_of_mem _ bracket)))
      · exact .inr (.inr (written.mem_of_mem (List.mem_cons_of_mem _ brace)))

theorem isHexDigit_of_isDigit {digit : Char} (decimal : digit.isDigit = true) :
    isHexDigit digit = true := by
  simp only [Char.isDigit, Bool.and_eq_true, decide_eq_true_eq] at decimal
  simp only [isHexDigit, Bool.or_eq_true, Bool.and_eq_true, decide_eq_true_eq]
  exact .inl ⟨decimal.1, decimal.2⟩

theorem toNat_lt_of_isHexDigit {digit : Char} (hex : isHexDigit digit = true) :
    digit.toNat < 0x80 := by
  simp only [isHexDigit, Bool.or_eq_true, Bool.and_eq_true, decide_eq_true_eq] at hex
  rcases hex with ⟨_, upper⟩ | ⟨_, upper⟩
  · have bound : digit.toNat ≤ '9'.toNat := upper
    exact Nat.lt_of_le_of_lt bound (by decide)
  · have bound : digit.toNat ≤ 'f'.toNat := upper
    exact Nat.lt_of_le_of_lt bound (by decide)

/-- A name does not stop before a character of a hexadecimal numeral. -/
theorem isNameEnd_eq_false {first : Char} {rest : List Char}
    (goesOn : isHexDigit first = true ∨ first = 'x') : isNameEnd (first :: rest) = false := by
  have kind : first.isDigit = true ∨ first.isLower = true := by
    rcases goesOn with hex | mark
    · simp only [isHexDigit, Bool.or_eq_true, Bool.and_eq_true, decide_eq_true_eq] at hex
      rcases hex with ⟨lower, upper⟩ | ⟨lower, upper⟩
      · left
        simp only [Char.isDigit, Bool.and_eq_true, decide_eq_true_eq]
        exact ⟨lower, upper⟩
      · right
        simp only [Char.isLower, Bool.and_eq_true, decide_eq_true_eq]
        exact ⟨lower, Char.le_trans upper (by decide)⟩
    · rw [mark]
      decide
  rcases kind with digit | lower
  · simp [isNameEnd, digit]
  · simp [isNameEnd, lower]

theorem lineFeed_notMem_of_isHexNumeral {text : List Char} (numeral : isHexNumeral text = true) :
    '\n' ∉ text :=
  notMem_of_class (isAlphanum_of_isHexNumeral numeral) (by decide)

/-- What is a hexadecimal numeral and a register name is a bank's letter with digits of ASCII. -/
theorem numbered_of_isHexNumeral {name : List Char} (isName : IsRegisterName name)
    (numeral : isHexNumeral name = true) :
    ∃ bank digits, name = bank :: digits ∧ bank ∈ ['b', 'd'] ∧ digits ≠ [] ∧
      ∀ digit ∈ digits, digit.isDigit = true := by
  rcases isName.exists_letter with ⟨letter, letters, shape, lower⟩
  have unmarked : withoutHexMark name = name := by
    rcases withoutHexMark_cases name with marked | unmarked
    · rw [shape] at marked
      rw [(List.cons.inj marked).1] at lower
      cases lower
    · exact unmarked.symm
  have areHex : ∀ character ∈ name, isHexDigit character = true := by
    have digits := ((isHexNumeral_iff name).mp numeral).2
    rwa [unmarked] at digits
  cases isName with
  | numbered bank digits isBank filled decimal =>
      have banks : ∀ bank ∈ numberedBanks, isHexDigit bank = true → bank ∈ ['b', 'd'] := by decide
      refine ⟨bank, digits, rfl, banks bank isBank (areHex bank List.mem_cons_self), filled, ?_⟩
      intro digit member
      have hex := areHex digit (List.mem_cons_of_mem _ member)
      exact isDigit_of_isDecimal (decimal digit member) (toNat_lt_of_isHexDigit hex)
  | named name known =>
      have names : ∀ name ∈ namedRegisters, name.all isHexDigit = false := by decide
      have whole := names name known
      rw [List.all_eq_true.mpr areHex] at whole
      cases whole

/-- In an operand that is an address, a name stops only at the end. -/
theorem writtenAs_name {operand name rest : List Char} (form : isAddressForm operand = true)
    (recognises : Recognises operand name rest) : WrittenAs operand name := by
  have written := writtenAs_withoutFinalLineFeed operand
  have plain := lineFeed_notMem_of_isHexNumeral form
  cases rest with
  | nil => exact .inl (by rw [recognises.cut, List.append_nil])
  | cons first more =>
      have cut := recognises.cut
      have lineFeed : first = '\n' := by
        have member : first ∈ operand := by simp [cut]
        rcases written.mem member with inside | lineFeed
        · have goesOn := isHexDigit_or_of_isHexNumeral form first inside
          have stops := recognises.stops
          rw [isNameEnd_eq_false goesOn] at stops
          cases stops
        · exact lineFeed
      rcases written with same | ended
      · apply absurd _ plain
        rw [← same, cut, lineFeed]
        simp
      · have both : withoutFinalLineFeed operand ++ '\n' :: [] = name ++ '\n' :: more := by
          rw [← ended, cut, lineFeed]
        rcases (List.append_cons_inj_of_notMem plain List.not_mem_nil).mp both with ⟨same, _, last⟩
        right
        rw [cut, lineFeed, ← last]

theorem isAddressForm_and_showsRegister_iff (operand : List Char) :
    isAddressForm operand = true ∧ showsRegister operand = true ↔ IsRegisterNumeral operand := by
  constructor
  · intro ⟨form, shows⟩
    rcases (showsRegister_iff operand).mp shows with starts | bracket | brace
    · rcases (startsWithRegister_iff operand).mp starts with ⟨name, rest, recognises⟩
      have written := writtenAs_name form recognises
      have plain : '\n' ∉ name := notMem_of_class recognises.isName.alphanumeric (by decide)
      have numeral : isHexNumeral name = true := by
        rwa [isAddressForm, written.withoutFinalLineFeed_eq plain] at form
      rcases numbered_of_isHexNumeral recognises.isName numeral with
        ⟨bank, digits, rfl, isBank, filled, areDigits⟩
      exact ⟨bank, digits, isBank, filled, areDigits, written⟩
    · exact absurd (isAlphanum_of_isAddressForm form '[' bracket) (by decide)
    · exact absurd (isAlphanum_of_isAddressForm form '\x7b' brace) (by decide)
  · intro ⟨bank, digits, isBank, filled, areDigits, written⟩
    have banks : ∀ bank ∈ ['b', 'd'], bank ∈ numberedBanks ∧ isHexDigit bank = true := by decide
    rcases banks bank isBank with ⟨numbered, hexBank⟩
    have areHex : ∀ digit ∈ bank :: digits, isHexDigit digit = true := by
      intro digit member
      rcases List.mem_cons.mp member with rfl | isDigit
      · exact hexBank
      · exact isHexDigit_of_isDigit (areDigits digit isDigit)
    have numeral : isHexNumeral (bank :: digits) = true := by
      rw [isHexNumeral_iff, withoutHexMark_of_areHex areHex]
      exact ⟨List.cons_ne_nil _ _, areHex⟩
    constructor
    · have text := written.withoutFinalLineFeed_eq (lineFeed_notMem_of_isHexNumeral numeral)
      rw [isAddressForm, text, numeral]
    · have isName : IsRegisterName (bank :: digits) := by
        apply IsRegisterName.numbered bank digits numbered filled
        intro digit member
        exact isDecimal_of_isDigit digit (areDigits digit member)
      apply (showsRegister_iff operand).mpr
      left
      apply (startsWithRegister_iff operand).mpr
      rcases written with same | ended
      · exact ⟨bank :: digits, [], by rw [same, List.append_nil], isName, rfl⟩
      · exact ⟨bank :: digits, ['\n'], ended, isName, rfl⟩

theorem isConstant_and_isRegister_iff (mnemonic : Option (List Char)) (operand : List Char) :
    isConstant mnemonic operand = true ∧ isRegister mnemonic operand = true ↔
      isJump mnemonic = false ∧ IsBracketedImmediate operand := by
  rw [← isConstantForm_and_showsRegister_iff]
  constructor
  · intro ⟨constant, register⟩
    have shows : showsRegister operand = true := by simpa [isRegister, constant] using register
    rw [isConstant, Bool.and_eq_true, Bool.not_eq_true'] at constant
    exact ⟨constant.2, constant.1, shows⟩
  · intro ⟨noJump, form, shows⟩
    constructor
    · simp [isConstant, form, noJump]
    · simp [isRegister, shows]

theorem isAddress_and_isRegister_iff (mnemonic : Option (List Char)) (operand : List Char) :
    isAddress mnemonic operand = true ∧ isRegister mnemonic operand = true ↔
      isJump mnemonic = true ∧ IsRegisterNumeral operand := by
  rw [← isAddressForm_and_showsRegister_iff]
  constructor
  · intro ⟨address, register⟩
    have shows : showsRegister operand = true := by simpa [isRegister, address] using register
    rw [isAddress, Bool.and_eq_true] at address
    exact ⟨address.1, address.2, shows⟩
  · intro ⟨jump, form, shows⟩
    constructor
    · simp [isAddress, form, jump]
    · simp [isRegister, shows]

end Arm

/-- What is neither a constant nor an address is a register. -/
theorem isConstant_or_isAddress_or_isRegister (family : Family) (mnemonic : Option (List Char))
    (operand : List Char) :
    isConstant family mnemonic operand = true ∨ isAddress family mnemonic operand = true ∨
      isRegister family mnemonic operand = true := by
  cases family with
  | x86 =>
      simp only [isConstant, isAddress, isRegister, X86.isRegister]
      grind
  | arm =>
      simp only [isConstant, isAddress, isRegister, Arm.isRegister]
      grind

/-- In the x86 family an operand is exactly one of constant, address and register. In the ARM family
it is at least one; constant and address never meet, and the other two meetings are these. -/
theorem categories_meet_exactly (mnemonic : Option (List Char)) (operand : List Char) :
    [isConstant .x86 mnemonic operand, isAddress .x86 mnemonic operand,
        isRegister .x86 mnemonic operand].count true = 1 ∧
      (isConstant .arm mnemonic operand = true ∨ isAddress .arm mnemonic operand = true ∨
        isRegister .arm mnemonic operand = true) ∧
      ¬(isConstant .arm mnemonic operand = true ∧ isAddress .arm mnemonic operand = true) ∧
      (isConstant .arm mnemonic operand = true ∧ isRegister .arm mnemonic operand = true ↔
        isJump .arm mnemonic = false ∧ Arm.IsBracketedImmediate operand) ∧
      (isAddress .arm mnemonic operand = true ∧ isRegister .arm mnemonic operand = true ↔
        isJump .arm mnemonic = true ∧ Arm.IsRegisterNumeral operand) := by
  constructor
  · have register : isRegister .x86 mnemonic operand =
        (!isConstant .x86 mnemonic operand && !isAddress .x86 mnemonic operand) :=
      X86.isRegister_eq mnemonic operand
    cases address : isAddress .x86 mnemonic operand with
    | true => simp [register, address, not_isConstant_of_isAddress address]
    | false =>
        cases constant : isConstant .x86 mnemonic operand with
        | true => simp [register, address, constant]
        | false => simp [register, address, constant]
  constructor
  · exact isConstant_or_isAddress_or_isRegister .arm mnemonic operand
  constructor
  · intro ⟨constant, address⟩
    rw [not_isConstant_of_isAddress address] at constant
    cases constant
  constructor
  · exact Arm.isConstant_and_isRegister_iff mnemonic operand
  · exact Arm.isAddress_and_isRegister_iff mnemonic operand

/-- A branch to `d31` goes to an address that is a register by its looks. -/
example : isAddress .arm (some "b".toList) "d31".toList = true ∧
    isRegister .arm (some "b".toList) "d31".toList = true := by decide

end Disassembly.Operand
