import Disassembly.Proofs.Instruction.Splitting
import Disassembly.Proofs.Line.Grammar

/-!
Printing and parsing of instructions. A printable instruction is one whose parts stand apart in its
printed form, whatever brackets it has; every instruction that is read from a line is of this kind.
Parsing its printed form gives it back, except that a last operand without a character is lost, so the
instructions that survive are exactly those without such an operand.
-/

namespace Disassembly.Instruction

open Text Line

/-- The parts of an instruction do not run into each other when they are printed. -/
structure Printable (family : Family) (instruction : Instruction) : Prop where
  address : 0 ≤ instruction.address
  margin : IsMargin instruction.margin
  prefixes : ∀ word ∈ instruction.prefixes, word ∈ knownPrefixes
  mnemonic : instruction.mnemonic ≠ [] ∧
    ∀ character ∈ instruction.mnemonic, isBodyCharacter family character = true
  other : instruction.mnemonic ∈ knownPrefixes → instruction.operands = []
  operands : ∀ operand ∈ instruction.operands, SingleSpaced operand ∧
    ∀ character ∈ operand, isBodyCharacter family character = true ∨ character = ' '
  commas : Separates (bracketDepth (instruction.prefixes.flatten ++ instruction.mnemonic))
    instruction.operands
  comment : IsComment family instruction.comment

/-- A printable instruction whose last operand, if there is one, has a character. -/
structure WellFormed (family : Family) (instruction : Instruction) : Prop
    extends Printable family instruction where
  last : instruction.operands.getLast? ≠ some []

instance (family : Family) (instruction : Instruction) :
    Decidable (Printable family instruction) :=
  decidable_of_iff (0 ≤ instruction.address ∧ IsMargin instruction.margin ∧
      (∀ word ∈ instruction.prefixes, word ∈ knownPrefixes) ∧
      (instruction.mnemonic ≠ [] ∧
        ∀ character ∈ instruction.mnemonic, isBodyCharacter family character = true) ∧
      (instruction.mnemonic ∈ knownPrefixes → instruction.operands = []) ∧
      (∀ operand ∈ instruction.operands, SingleSpaced operand ∧
        ∀ character ∈ operand, isBodyCharacter family character = true ∨ character = ' ') ∧
      Separates (bracketDepth (instruction.prefixes.flatten ++ instruction.mnemonic))
        instruction.operands ∧
      IsComment family instruction.comment)
    ⟨fun ⟨address, margin, prefixes, mnemonic, other, operands, commas, comment⟩ =>
        ⟨address, margin, prefixes, mnemonic, other, operands, commas, comment⟩,
      fun ⟨address, margin, prefixes, mnemonic, other, operands, commas, comment⟩ =>
        ⟨address, margin, prefixes, mnemonic, other, operands, commas, comment⟩⟩

instance (family : Family) (instruction : Instruction) :
    Decidable (WellFormed family instruction) :=
  decidable_of_iff (Printable family instruction ∧ instruction.operands.getLast? ≠ some [])
    ⟨fun ⟨printable, last⟩ => ⟨printable, last⟩, fun wellFormed =>
      ⟨wellFormed.toPrintable, wellFormed.last⟩⟩

theorem knownPrefix_isWord : ∀ word ∈ knownPrefixes,
    word ≠ [] ∧ ∀ character ∈ word, character.isAlphanum = true := by
  decide

theorem isWord_of_known {word : List Char} (known : word ∈ knownPrefixes) : IsWord word := by
  obtain ⟨filled, alphanumeric⟩ := knownPrefix_isWord word known
  exact ⟨filled, fun character member => isBlank_of_isAlphanum (alphanumeric character member)⟩

theorem isBodyCharacter_of_known (family : Family) {word : List Char} (known : word ∈ knownPrefixes) :
    ∀ character ∈ word, isBodyCharacter family character = true := by
  intro character member
  rw [isBodyCharacter, (knownPrefix_isWord word known).2 character member, Bool.true_or]

/-! The printed body. -/

def bodyText (instruction : Instruction) : List Char :=
  printPrefixes instruction.prefixes ++ (instruction.mnemonic ++
    (printOperands instruction.operands ++ if instruction.comment.isEmpty then [] else [' ']))

def printedLine (instruction : Instruction) : Line :=
  ⟨instruction.margin, writeAddress instruction.address, instruction.bodyText, instruction.comment⟩

theorem print_eq_text (instruction : Instruction) :
    instruction.print = instruction.printedLine.text := by
  have comment : printComment instruction.comment =
      (if instruction.comment.isEmpty then [] else [' ']) ++ instruction.comment := by
    unfold printComment
    split
    · rename_i empty
      rw [List.isEmpty_iff.mp empty]
      rfl
    · rfl
  rw [print, printCore, comment, Line.text, printedLine, bodyText]
  simp only [List.append_assoc, List.cons_append]

namespace Printable

variable {family : Family} {instruction : Instruction}

theorem mnemonic_isWord (printable : Printable family instruction) :
    IsWord instruction.mnemonic :=
  ⟨printable.mnemonic.1, fun character member =>
    isBlank_of_isBodyCharacter (printable.mnemonic.2 character member)⟩

theorem operands_singleSpaced (printable : Printable family instruction) :
    SingleSpaced (List.intercalate [','] instruction.operands) := by
  have joined : ∀ operands : List (List Char), (∀ operand ∈ operands, SingleSpaced operand) →
      SingleSpaced (List.intercalate [','] operands) := by
    intro operands spaced
    induction operands with
    | nil => exact SingleSpaced.nil
    | cons operand rest induction =>
        have first := spaced operand (by simp)
        have later := induction fun other member => spaced other (by simp [member])
        cases rest with
        | nil =>
            rw [List.intercalate_singleton]
            exact first
        | cons next rest =>
            rw [List.intercalate_cons_of_ne_nil (by simp), List.append_assoc]
            exact first.append_cons later (by decide)
  exact joined _ fun operand member => (printable.operands operand member).1

/-- The words of a printed body are the prefixes, the mnemonic and the words of the operands. -/
theorem words_bodyText (printable : Printable family instruction) :
    words instruction.bodyText = instruction.prefixes ++ instruction.mnemonic ::
      words (List.intercalate [','] instruction.operands) := by
  have isWord := printable.mnemonic_isWord
  have behind : words (instruction.mnemonic ++ (printOperands instruction.operands ++
      if instruction.comment.isEmpty then [] else [' '])) =
        instruction.mnemonic :: words (List.intercalate [','] instruction.operands) := by
    have blanks : ∀ character ∈ (if instruction.comment.isEmpty then [] else [' ']),
        isBlank character = true := by
      split <;> decide
    unfold printOperands
    split
    · rename_i none
      rw [List.isEmpty_iff.mp none, List.nil_append, words_append_blanks _ _ blanks,
        words_of_isWord isWord]
      rfl
    · rw [List.cons_append, words_word_append isWord _ (by decide), words_append_blanks _ _ blanks]
  have front : ∀ prefixes : List (List Char), (∀ word ∈ prefixes, word ∈ knownPrefixes) →
      ∀ rest, words (printPrefixes prefixes ++ rest) = prefixes ++ words rest := by
    intro prefixes known rest
    induction prefixes with
    | nil => rfl
    | cons word prefixes induction =>
        have later := induction fun other member => known other (by simp [member])
        rw [printPrefixes, List.flatMap_cons, List.append_assoc, List.append_assoc,
          List.singleton_append, words_word_append (isWord_of_known (known word (by simp))) _
            (by decide), List.cons_append, ← later, printPrefixes]
  rw [bodyText, front _ printable.prefixes, behind]

theorem split_bodyText (printable : Printable family instruction) :
    Body.split instruction.bodyText = ⟨instruction.prefixes, some instruction.mnemonic,
      withoutFinalEmpty instruction.operands⟩ := by
  have roles : Roles (words instruction.bodyText) instruction.prefixes instruction.mnemonic
      (words (List.intercalate [','] instruction.operands)) := by
    constructor
    case cut => exact printable.words_bodyText
    case known => exact printable.prefixes
    case other =>
      intro more known
      apply more
      rw [printable.other known]
      rfl
  have trimmed : (withoutFinalEmpty instruction.operands).map strip =
      withoutFinalEmpty instruction.operands := by
    rw [List.map_congr_left (g := id), List.map_id]
    intro operand member
    exact strip_of_trimmed
      (printable.operands operand (mem_of_mem_withoutFinalEmpty member)).1.toTrimmed
  rw [split_eq roles (joinWords_words printable.operands_singleSpaced) printable.commas, trimmed]

theorem bodyText_starts (printable : Printable family instruction) :
    ∃ first ∈ instruction.bodyText.head?, isBodyCharacter family first = true := by
  have start : ∀ word : List Char, word ≠ [] →
      (∀ character ∈ word, isBodyCharacter family character = true) → ∀ behind,
        ∃ first ∈ (word ++ behind).head?, isBodyCharacter family first = true := by
    intro word filled body behind
    obtain ⟨first, rest, rfl⟩ := List.exists_cons_of_ne_nil filled
    exact ⟨first, rfl, body first (by simp)⟩
  unfold bodyText
  cases prefixes : instruction.prefixes with
  | nil => exact start _ printable.mnemonic.1 printable.mnemonic.2 _
  | cons word prefixes =>
      have known := printable.prefixes word (by rw [prefixes]; simp)
      rw [printPrefixes, List.flatMap_cons, List.append_assoc, List.append_assoc]
      exact start word (isWord_of_known known).1 (isBodyCharacter_of_known family known) _

theorem mem_bodyText (printable : Printable family instruction) :
    ∀ character ∈ instruction.bodyText,
      isBodyCharacter family character = true ∨ character = ' ' := by
  have comma : isBodyCharacter family ',' = true := by cases family <;> decide
  intro character member
  rw [bodyText] at member
  rcases List.mem_append.mp member with inPrefixes | member
  · obtain ⟨word, isPrefix, inWord⟩ := List.mem_flatMap.mp inPrefixes
    rcases List.mem_append.mp inWord with inWord | isSpace
    · exact .inl
        (isBodyCharacter_of_known family (printable.prefixes word isPrefix) character inWord)
    · exact .inr (List.mem_singleton.mp isSpace)
  · rcases List.mem_append.mp member with inMnemonic | member
    · exact .inl (printable.mnemonic.2 character inMnemonic)
    · rcases List.mem_append.mp member with inOperands | last
      · unfold printOperands at inOperands
        split at inOperands
        · simp at inOperands
        · rcases List.mem_cons.mp inOperands with isSpace | inJoined
          · exact .inr isSpace
          · rcases mem_of_mem_join inJoined with isComma | ⟨operand, isOperand, inOperand⟩
            · rw [isComma]
              exact .inl comma
            · exact (printable.operands operand isOperand).2 character inOperand
      · split at last
        · simp at last
        · exact .inr (List.mem_singleton.mp last)

theorem bodyText_goesOn (printable : Printable family instruction) :
    ∀ character ∈ instruction.bodyText, continuesBody family character = true := by
  intro character member
  rcases printable.mem_bodyText character member with body | rfl
  · exact continuesBody_of_isBodyCharacter body
  · cases family <;> decide

theorem readable (printable : Printable family instruction) :
    Readable family instruction.printedLine := by
  constructor
  case margin => exact printable.margin
  case numeral =>
    obtain ⟨value, address⟩ := Int.eq_ofNat_of_zero_le printable.address
    rw [printedLine, address]
    exact ⟨writeAddress_ne_nil value, isHexDigit_of_mem_writeAddress value⟩
  case starts => exact printable.bodyText_starts
  case goesOn => exact printable.bodyText_goesOn
  case comment => exact printable.comment

/-- Parsing a printed instruction gives it back without a last operand that has no character. -/
theorem parse_print (printable : Printable family instruction) :
    parse family instruction.print =
      some { instruction with operands := withoutFinalEmpty instruction.operands } := by
  obtain ⟨value, address⟩ := Int.eq_ofNat_of_zero_le printable.address
  have sameAddress : (instruction.printedLine.address : Int) = instruction.address := by
    rw [Line.address, printedLine, address, readHex_writeAddress]
  rw [parse, print_eq_text, printable.readable.read_text, Option.map_some, Line.instruction,
    sameAddress, ofBody]
  simp only [printedLine, printable.split_bodyText, Option.getD_some]

end Printable

/-! Parsed instructions. -/

/-- What lies between two commas of words with spaces between is single-spaced once it is
stripped. -/
theorem piece_of_words {family : Family} {rest pieces : List (List Char)}
    (restWords : ∀ word ∈ rest, IsWord word ∧
      ∀ character ∈ word, isBodyCharacter family character = true)
    (joined : List.intercalate [','] pieces = joinWords rest) {piece : List Char}
    (member : piece ∈ pieces) : SingleSpaced (strip piece) ∧
      ∀ character ∈ strip piece, isBodyCharacter family character = true ∨ character = ' ' := by
  have within := piece_within_join ',' member
  rw [joined] at within
  refine ⟨(singleSpaced_joinWords rest fun word isRest => (restWords word isRest).1).strip_part
    within, fun character inPiece => ?_⟩
  have inRest := within.mem ((strip_within piece).mem inPiece)
  rcases mem_of_mem_join inRest with isSpace | ⟨word, isRest, inWord⟩
  · exact Or.inr isSpace
  · exact Or.inl ((restWords word isRest).2 character inWord)

/-- A line has a body with a word. -/
theorem words_body_ne_nil {family : Family} {line : Line} (readable : Readable family line) :
    words line.body ≠ [] := by
  intro none
  obtain ⟨first, isFirst, starts⟩ := readable.starts
  have blank := isBlank_of_words_eq_nil none first (List.mem_of_mem_head? isFirst)
  rw [isBlank_of_isBodyCharacter starts] at blank
  exact Bool.false_ne_true blank

theorem words_body_spec {family : Family} {line : Line} (readable : Readable family line) :
    ∀ word ∈ words line.body, IsWord word ∧
      ∀ character ∈ word, isBodyCharacter family character = true := by
  intro word member
  obtain ⟨isWord, inBody⟩ := mem_words_spec member
  refine ⟨isWord, fun character inWord => ?_⟩
  exact isBodyCharacter_of_continuesBody (readable.goesOn character (inBody character inWord))
    (isWord.2 character inWord)

theorem printable_of_parse {family : Family} {text : List Char} {instruction : Instruction}
    (parsed : parse family text = some instruction) : Printable family instruction := by
  obtain ⟨line, isRead, rfl⟩ := Option.map_eq_some_iff.mp parsed
  have readable := readable_of_read isRead
  have bodyWords := words_body_spec readable
  obtain ⟨prefixes, mnemonic, rest, roles⟩ := exists_roles (words_body_ne_nil readable)
  obtain ⟨pieces, _, joined, separates⟩ :=
    exists_separates (bracketDepth (prefixes.flatten ++ mnemonic)) (joinWords rest)
  have split := split_eq roles joined.symm separates
  have mnemonicWord := bodyWords mnemonic (by rw [roles.cut]; simp)
  have restWords : ∀ word ∈ rest, IsWord word ∧
      ∀ character ∈ word, isBodyCharacter family character = true :=
    fun word member => bodyWords word (by rw [roles.cut]; simp [member])
  rw [Line.instruction, ofBody, split]
  constructor
  case address => exact Int.natCast_nonneg _
  case margin => exact readable.margin
  case prefixes => exact roles.known
  case mnemonic => exact ⟨mnemonicWord.1.1, mnemonicWord.2⟩
  case other =>
    -- A known prefix is the mnemonic only as the last word, and then no operand is cut.
    intro known
    have none : rest = [] := by
      by_contra more
      exact roles.other more known
    subst none
    have empty : joinWords [] = List.intercalate [','] [] := rfl
    have alone := split_eq roles empty trivial
    rw [split] at alone
    exact congrArg Body.operands alone
  case operands =>
    intro operand member
    obtain ⟨piece, isPiece, rfl⟩ := List.mem_map.mp member
    exact piece_of_words restWords joined (mem_of_mem_withoutFinalEmpty isPiece)
  case commas => exact separates.withoutFinalEmpty.strip
  case comment => exact readable.comment

/-! The two directions. -/

/-- Parsing undoes printing on every well-formed instruction. -/
theorem parse_print_of_wellFormed (architecture : Architecture) (instruction : Instruction)
    (wellFormed : WellFormed architecture.family instruction) :
    parse architecture.family instruction.print = some instruction := by
  rw [wellFormed.toPrintable.parse_print, withoutFinalEmpty_of_last wellFormed.last]

theorem parse_print_locked_exchange :
    WellFormed Architecture.x64.family ⟨"spin: ".toList, 0x7f00004010, ["lock".toList],
      "cmpxchg".toList, ["%rcx".toList, "8(%rax,%rbx,4)".toList], "; retry".toList⟩ ∧
    parse Architecture.x64.family
      "spin: 0x0000007f00004010: lock cmpxchg %rcx,8(%rax,%rbx,4) ; retry".toList =
        some ⟨"spin: ".toList, 0x7f00004010, ["lock".toList], "cmpxchg".toList,
          ["%rcx".toList, "8(%rax,%rbx,4)".toList], "; retry".toList⟩ := by
  have wellFormed : WellFormed Architecture.x64.family ⟨"spin: ".toList, 0x7f00004010,
      ["lock".toList], "cmpxchg".toList, ["%rcx".toList, "8(%rax,%rbx,4)".toList],
      "; retry".toList⟩ := by decide
  exact ⟨wellFormed, parse_print_of_wellFormed .x64 _ wellFormed⟩

/-- A parsed instruction is parsed again from its printed form exactly if it has no operands or its
last one has a character. -/
theorem parse_print_of_parsed_iff (architecture : Architecture) (text : List Char)
    (instruction : Instruction) (parsed : parse architecture.family text = some instruction) :
    parse architecture.family instruction.print = some instruction ↔
      instruction.operands = [] ∨ instruction.operands.getLast? ≠ some [] := by
  rw [(printable_of_parse parsed).parse_print, Option.some.injEq]
  constructor
  · intro same
    have kept := congrArg Instruction.operands same
    exact Or.inr (withoutFinalEmpty_eq_iff.mp kept)
  · intro last
    have filled : instruction.operands.getLast? ≠ some [] := by
      rcases last with none | filled
      · simp [none]
      · exact filled
    rw [withoutFinalEmpty_of_last filled]

theorem parse_print_final_comma :
    parse Architecture.arm64.family "0x40: ldp x0,,".toList =
      some ⟨[], 0x40, [], "ldp".toList, ["x0".toList, []], []⟩ ∧
    (parse Architecture.arm64.family "0x0000000000000040: ldp x0,".toList =
      some ⟨[], 0x40, [], "ldp".toList, ["x0".toList, []], []⟩ ↔ False) := by
  have parsed : parse Architecture.arm64.family "0x40: ldp x0,,".toList =
      some ⟨[], 0x40, [], "ldp".toList, ["x0".toList, []], []⟩ := by decide
  exact ⟨parsed, (parse_print_of_parsed_iff .arm64 _ _ parsed).trans (by simp)⟩

end Disassembly.Instruction
