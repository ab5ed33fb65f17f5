import Disassembly.Proofs.Listing.Labelling
import Disassembly.Proofs.Reference.Bundled

/-!
Rendered listings as texts. The lines of a rendered listing, joined, are again a text that is read:
label lines are passed over, and every other line gives the instruction it was made from, its two
spaces as the margin, labels in the place of targets, and its description as the comment. Labels are
no addresses, and the jump targets that are still written lead out of the listing, so that nothing is
labelled the second time, and rendering once more gives the same lines without the label lines.
-/

namespace Disassembly.Instruction

open Text Line

/-- Operands may be replaced by others where neither holds a bracket and the new one no comma. -/
theorem Separates.map {replace : List Char → List Char} {depth : Int}
    {pieces : List (List Char)}
    (kept : ∀ piece ∈ pieces, replace piece = piece ∨
      bracketDepth piece = 0 ∧ bracketDepth (replace piece) = 0 ∧ ',' ∉ replace piece)
    (separates : Separates depth pieces) : Separates depth (pieces.map replace) := by
  induction pieces generalizing depth with
  | nil => trivial
  | cons piece rest induction =>
      obtain ⟨keeps, between, later⟩ := separates
      obtain ⟨first, others⟩ := List.forall_mem_cons.mp kept
      have sameDepth : bracketDepth (replace piece) = bracketDepth piece := by
        rcases first with same | ⟨old, new, _⟩
        · rw [same]
        · rw [old, new]
      have keepsNew : KeepsCommas depth (replace piece) := by
        rcases first with same | ⟨_, _, noComma⟩
        · rw [same]
          exact keeps
        · intro before after cut
          exact absurd (by rw [cut]; simp) noComma
      refine ⟨keepsNew, fun more => ?_, ?_⟩
      · rw [sameDepth]
        exact between (by simpa using more)
      · rw [sameDepth]
        exact induction others later

theorem join_ne_nil {operands : List (List Char)} (filled : operands ≠ [])
    (last : operands.getLast? ≠ some []) : List.intercalate [','] operands ≠ [] := by
  cases operands with
  | nil => exact absurd rfl filled
  | cons operand rest =>
      cases rest with
      | nil =>
          rw [List.intercalate_singleton]
          simpa using last
      | cons next rest =>
          rw [List.intercalate_cons_of_ne_nil (by simp)]
          simp

theorem isOneLine_print {family : Family} {instruction : Instruction}
    (printable : Printable family instruction) (margin : IsOneLine instruction.margin)
    (comment : IsOneLine instruction.comment) : IsOneLine instruction.print := by
  obtain ⟨value, address⟩ := Int.eq_ofNat_of_zero_le printable.address
  have visible : ∀ character, isBlank character = false → isLineBreak character = false :=
    fun _ => not_isLineBreak_of_not_isBlank
  rw [print_eq_text, Line.text, printedLine, address]
  simp only [IsOneLine, List.mem_append, List.mem_cons]
  rintro character (inMargin | rfl | rfl | isDigit | rfl | rfl | inBody | inComment)
  · exact margin character inMargin
  · decide
  · decide
  · exact visible _ (isBlank_of_isAlphanum
      (Operand.isAlphanum_of_isHexDigit (isHexDigit_of_mem_writeAddress value character isDigit)))
  · decide
  · decide
  · rcases printable.mem_bodyText character inBody with body | rfl
    · exact visible _ (isBlank_of_isBodyCharacter body)
    · decide
  · exact comment character inComment

/-- A printed instruction ends with a character that can be seen. -/
theorem WellFormed.print_last {family : Family} {instruction : Instruction}
    (wellFormed : WellFormed family instruction) (comment : Trimmed instruction.comment) :
    instruction.print ≠ [] ∧
      ∀ character ∈ instruction.print.getLast?, isBlank character = false := by
  have isWord := wellFormed.mnemonic_isWord
  have filled : instruction.mnemonic ++ (printOperands instruction.operands ++
      printComment instruction.comment) ≠ [] := by simp [isWord.1]
  have shape : ∃ front, instruction.print = front ++ (instruction.mnemonic ++
      (printOperands instruction.operands ++ printComment instruction.comment)) := by
    refine ⟨instruction.margin ++ '0' :: 'x' :: (writeAddress instruction.address ++
      ':' :: ' ' :: printPrefixes instruction.prefixes), ?_⟩
    simp [print, printCore]
  obtain ⟨front, shape⟩ := shape
  refine ⟨by simp [shape, isWord.1], ?_⟩
  rw [shape, List.getLast?_append_of_ne_nil _ filled]
  by_cases silent : instruction.comment = []
  · rw [silent, printComment, List.isEmpty_nil, if_pos rfl, List.append_nil]
    by_cases bare : instruction.operands = []
    · rw [bare, printOperands, List.isEmpty_nil, if_pos rfl, List.append_nil]
      intro character member
      exact isWord.2 character (List.mem_of_getLast? member)
    · have joined := join_ne_nil bare wellFormed.last
      rw [printOperands, if_neg (by simpa using bare),
        List.getLast?_append_of_ne_nil _ (List.cons_ne_nil _ _), List.getLast?_cons_of_ne_nil joined]
      exact wellFormed.operands_singleSpaced.last
  · rw [printComment, if_neg (by simpa using silent), ← List.append_assoc,
      List.getLast?_append_of_ne_nil _ (List.cons_ne_nil _ _), List.getLast?_cons_of_ne_nil silent]
    exact comment.last

end Disassembly.Instruction

namespace Disassembly.Listing

open Text Reference

/-! Lines that are read as they were joined. -/

/-- A line that keeps its place and its characters when it is joined with others and read. -/
structure IsKept (line : List Char) : Prop where
  oneLine : IsOneLine line
  filled : line ≠ []
  last : ∀ character ∈ line.getLast?, isBlank character = false

theorem sourceLines_joinLines {lines : List (List Char)} (kept : ∀ line ∈ lines, IsKept line) :
    sourceLines (joinLines lines) = lines := by
  have ended : lines.getLast? ≠ some [] := fun empty =>
    (kept [] (List.mem_of_getLast? empty)).filled rfl
  rw [sourceLines, lines_joinLines (fun line member => (kept line member).oneLine) ended,
    List.map_congr_left fun line member => stripRight_of_last (kept line member).last, List.map_id']

theorem exists_digits_of_isLabelLine {line : List Char} (isLabel : isLabelLine line = true) :
    ∃ digits, line = 'L' :: (digits ++ [':']) ∧ 4 ≤ digits.length ∧
      ∀ digit ∈ digits, digit.isDigit = true := by
  unfold isLabelLine at isLabel
  split at isLabel
  · rename_i rest
    simp only [Bool.and_eq_true, decide_eq_true_eq, List.all_eq_true] at isLabel
    obtain ⟨⟨colon, wide⟩, digits⟩ := isLabel
    exact ⟨rest.dropLast, by rw [List.dropLast_append_getLast? _ colon], wide, digits⟩
  · cases isLabel

/-- A label line is read, and holds no instruction. -/
theorem isKept_of_isLabelLine {line : List Char} (isLabel : isLabelLine line = true) :
    IsKept line ∧ ∀ family, Instruction.parse family line = none := by
  obtain ⟨digits, rfl, _, areDigits⟩ := exists_digits_of_isLabelLine isLabel
  have visible : ∀ character ∈ 'L' :: (digits ++ [':']), isBlank character = false := by
    simp only [List.mem_cons, List.mem_append, List.not_mem_nil, or_false]
    rintro character (rfl | isDigit | rfl)
    · decide
    · exact isBlank_of_isAlphanum (by simp [Char.isAlphanum, areDigits character isDigit])
    · decide
  refine ⟨⟨fun character member => not_isLineBreak_of_not_isBlank (visible character member),
    List.cons_ne_nil _ _, fun character member =>
      visible character (List.mem_of_getLast? member)⟩, fun family => ?_⟩
  have unmarked : Line.locate ('L' :: (digits ++ [':'])) = none := by
    rw [Line.locate_eq_none_iff]
    constructor
    · rintro ⟨rest, same⟩
      exact absurd (List.head_eq_of_cons_eq same) (by decide)
    · intro marked
      exact absurd (visible ' ' (marked.mem (by simp))) (by decide)
  rw [Instruction.parse, Line.read, unmarked]
  rfl

/-! Instructions that are read from their lines. -/

def descriptionComment : Option (List Char) → List Char
  | some description => if description.isEmpty then [] else "; ".toList ++ description
  | none => []

def written (listing : Listing) (instruction : Instruction) (operand : List Char) : List Char :=
  (listing.labels.forOperand listing.architecture.family instruction.mnemonic operand).getD operand

def reread (listing : Listing) (description : Option (List Char)) (instruction : Instruction) :
    Instruction :=
  ⟨[' ', ' '], instruction.address, instruction.prefixes, instruction.mnemonic,
    listing.labels.formatOperands listing.architecture.family instruction,
    descriptionComment description⟩

theorem operands_reread (listing : Listing) (description : Option (List Char))
    (instruction : Instruction) :
    (listing.reread description instruction).operands =
      instruction.operands.map (listing.written instruction) := rfl

theorem print_reread (listing : Listing) (description : Option (List Char))
    (instruction : Instruction) :
    (listing.reread description instruction).print =
      listing.instructionLine instruction ++ descriptionSuffix description := by
  have comment : Instruction.printComment (descriptionComment description) =
      descriptionSuffix description := by
    cases description with
    | none => rfl
    | some text =>
        rw [descriptionComment, descriptionSuffix]
        split <;> rfl
  rw [Instruction.print, reread, comment]
  rfl

/-- A description that stays on its line and is its own end. -/
def Fits (description : Option (List Char)) : Prop :=
  ∀ text ∈ description, Trimmed text ∧ IsOneLine text

theorem Fits.comment {description : Option (List Char)} (fits : Fits description)
    (family : Family) :
    IsOneLine (descriptionComment description) ∧ Trimmed (descriptionComment description) ∧
      Line.IsComment family (descriptionComment description) := by
  cases description with
  | none => exact ⟨by simp [descriptionComment, IsOneLine], Trimmed.nil, .inl rfl⟩
  | some text =>
      obtain ⟨trimmed, oneLine⟩ := fits text rfl
      rw [descriptionComment]
      split
      · exact ⟨by simp [IsOneLine], Trimmed.nil, .inl rfl⟩
      · rename_i filled
        have whole : IsOneLine ("; ".toList ++ text) :=
          isOneLine_append.mpr ⟨by decide, oneLine⟩
        refine ⟨whole, ⟨?_, ?_⟩, .inr ⟨⟨[';'], ?_, ' ' :: text, rfl⟩, fun lineFeed => ?_⟩⟩
        · rintro character ⟨⟩
          decide
        · rw [List.getLast?_append_of_ne_nil _ (by simpa using filled)]
          exact trimmed.last
        · cases family <;> decide
        · exact absurd (whole _ lineFeed) (by decide)

section Reread

variable {architecture : Architecture} {text : List Char} {instruction : Instruction}

theorem written_eq (operand : List Char) :
    (parse architecture text).written instruction operand =
      ((Operand.jumpTarget architecture.family instruction.mnemonic operand).bind
        (parse architecture text).labelAt?).getD operand :=
  congrArg (Option.getD · operand) (forOperand_parse instruction.mnemonic operand)

/-- An operand is written as it was, or a numeral gives way to a label. -/
theorem written_cases (member : instruction ∈ (parse architecture text).instructions)
    {operand : List Char} (isOperand : operand ∈ instruction.operands) :
    (parse architecture text).written instruction operand = operand ∨
      Operand.isHexNumeral operand = true ∧
        ∃ number, (parse architecture text).written instruction operand = Labels.name number := by
  rw [written_eq]
  cases goes : Operand.jumpTarget architecture.family instruction.mnemonic operand with
  | none => exact .inl rfl
  | some address =>
      rw [Option.bind_some]
      cases known : (parse architecture text).labelAt? address with
      | none => exact .inl rfl
      | some label =>
          exact .inr ⟨(isHexNumeral_of_jumpTarget member isOperand goes).1, labelAt?_eq_name known⟩

theorem isAlphanum_name (number : Nat) :
    ∀ character ∈ Labels.name number, character.isAlphanum = true := by
  obtain ⟨digits, shape, _, areDigits⟩ := exists_digits_of_isLabelLine (isLabelLine_name number)
  have name : Labels.name number = 'L' :: digits :=
    List.append_cancel_right (shape.trans (List.cons_append ..).symm)
  rw [name]
  rintro character (_ | ⟨_, isDigit⟩)
  · decide
  · simp [Char.isAlphanum, areDigits character isDigit]

theorem name_ne_nil (number : Nat) : Labels.name number ≠ [] := List.cons_ne_nil _ _

theorem not_isAddressForm_name (number : Nat) :
    Operand.isAddressForm (Labels.name number) = false := by
  have alphanumeric := isAlphanum_name number
  have ended : (Labels.name number).getLast? ≠ some '\n' := fun lineFeed =>
    absurd (alphanumeric '\n' (List.mem_of_getLast? lineFeed)) (by decide)
  rw [Operand.isAddressForm, Operand.withoutFinalLineFeed, if_neg ended]
  rfl

theorem singleSpaced_of_isAlphanum {word : List Char} (filled : word ≠ [])
    (alphanumeric : ∀ character ∈ word, character.isAlphanum = true) : SingleSpaced word := by
  have isWord : IsWord word :=
    ⟨filled, fun character member => isBlank_of_isAlphanum (alphanumeric character member)⟩
  have joined := singleSpaced_joinWords [word] fun other member =>
    List.mem_singleton.mp member ▸ isWord
  rwa [joinWords, List.intercalate_singleton] at joined

theorem printable_reread (member : instruction ∈ (parse architecture text).instructions)
    {description : Option (List Char)} (fits : Fits description) :
    Instruction.Printable architecture.family
      ((parse architecture text).reread description instruction) := by
  obtain ⟨source, _, parsed⟩ := mem_parse_iff.mp member
  have printable := Instruction.printable_of_parse parsed
  constructor
  case address => exact printable.address
  case margin => exact (by decide : Line.IsMargin [' ', ' '])
  case prefixes => exact printable.prefixes
  case mnemonic => exact printable.mnemonic
  case other =>
    intro known
    rw [operands_reread, printable.other known, List.map_nil]
  case operands =>
    intro written isWritten
    rw [operands_reread] at isWritten
    obtain ⟨operand, isOperand, rfl⟩ := List.mem_map.mp isWritten
    rcases written_cases member isOperand with same | ⟨_, number, same⟩
    · rw [same]
      exact printable.operands operand isOperand
    · rw [same]
      refine ⟨singleSpaced_of_isAlphanum (name_ne_nil number) (isAlphanum_name number),
        fun character inName => .inl ?_⟩
      rw [Line.isBodyCharacter, isAlphanum_name number character inName, Bool.true_or]
  case commas =>
    rw [operands_reread]
    apply printable.commas.map
    intro operand isOperand
    rcases written_cases member isOperand with same | ⟨numeral, number, same⟩
    · exact .inl same
    · right
      rw [same]
      refine ⟨Instruction.bracketDepth_of_isAlphanum (Operand.isAlphanum_of_isHexNumeral numeral),
        Instruction.bracketDepth_of_isAlphanum (isAlphanum_name number), fun comma => ?_⟩
      exact absurd (isAlphanum_name number ',' comma) (by decide)
  case comment => exact (fits.comment architecture.family).2.2

theorem wellFormed_reread (member : instruction ∈ (parse architecture text).instructions)
    (last : instruction.operands.getLast? ≠ some []) {description : Option (List Char)}
    (fits : Fits description) :
    Instruction.WellFormed architecture.family
      ((parse architecture text).reread description instruction) := by
  refine ⟨printable_reread member fits, fun empty => ?_⟩
  rw [operands_reread, List.getLast?_map] at empty
  obtain ⟨operand, isLast, same⟩ := Option.map_eq_some_iff.mp empty
  rcases written_cases member (List.mem_of_getLast? isLast) with kept | ⟨_, number, named⟩
  · rw [kept.symm.trans same] at isLast
    exact last isLast
  · exact name_ne_nil number (named.symm.trans same)

theorem isKept_line (member : instruction ∈ (parse architecture text).instructions)
    (last : instruction.operands.getLast? ≠ some []) {description : Option (List Char)}
    (fits : Fits description) :
    IsKept ((parse architecture text).instructionLine instruction ++
      descriptionSuffix description) := by
  obtain ⟨oneLine, trimmed, _⟩ := fits.comment architecture.family
  have wellFormed := wellFormed_reread member last fits
  rw [← print_reread]
  have ends := wellFormed.print_last trimmed
  have margin : IsOneLine [' ', ' '] := by decide
  exact ⟨Instruction.isOneLine_print wellFormed.toPrintable margin oneLine, ends.1, ends.2⟩

theorem parse_line (member : instruction ∈ (parse architecture text).instructions)
    (last : instruction.operands.getLast? ≠ some []) {description : Option (List Char)}
    (fits : Fits description) :
    Instruction.parse architecture.family
      ((parse architecture text).instructionLine instruction ++ descriptionSuffix description) =
        some ((parse architecture text).reread description instruction) := by
  have wellFormed := wellFormed_reread member last fits
  rw [← print_reread, wellFormed.toPrintable.parse_print,
    Instruction.withoutFinalEmpty_of_last wellFormed.last]

/-- Nothing that is written for an operand goes to an instruction of the listing. -/
theorem not_isTarget_reread (describe : Instruction → Option (List Char)) (address : Int) :
    ¬ Labels.IsTarget architecture.family
      ((parse architecture text).instructions.map fun instruction =>
        (parse architecture text).reread (describe instruction) instruction) address := by
  rintro ⟨⟨again, inAgain, sameAddress⟩, source, isSource, written, isWritten, goes⟩
  obtain ⟨target, isTarget, rfl⟩ := List.mem_map.mp inAgain
  obtain ⟨jump, isJump, rfl⟩ := List.mem_map.mp isSource
  rw [operands_reread] at isWritten
  obtain ⟨operand, isOperand, rfl⟩ := List.mem_map.mp isWritten
  have form := Operand.isAddressForm_of_isAddress (Operand.isAddress_of_jumpTarget goes)
  -- A label is no address, so the operand is written as it was, although its target has a label.
  have named : ∃ number, (parse architecture text).written jump operand = Labels.name number := by
    rcases written_cases isJump isOperand with same | ⟨_, named⟩
    · have goesBefore : Operand.jumpTarget architecture.family jump.mnemonic operand =
          some address := by
        rw [same] at goes
        exact goes
      have labelled := ((ranked_parse architecture text).labelled address).mpr
        ⟨⟨target, isTarget, sameAddress⟩, jump, isJump, operand, isOperand, goesBefore⟩
      obtain ⟨label, known⟩ := Option.isSome_iff_exists.mp labelled
      rw [written_eq, goesBefore, Option.bind_some, labelAt?, known]
      exact labelAt?_eq_name known
    · exact named
  obtain ⟨number, named⟩ := named
  rw [named, not_isAddressForm_name] at form
  cases form

theorem ofInstructions_reread (describe : Instruction → Option (List Char)) :
    Labels.ofInstructions architecture.family
      ((parse architecture text).instructions.map fun instruction =>
        (parse architecture text).reread (describe instruction) instruction) = [] := by
  rw [Labels.ofInstructions_eq, List.eq_nil_iff_forall_not_mem.mpr fun address isTarget =>
    not_isTarget_reread describe address ((Labels.mem_targets _ _ address).mp isTarget)]
  rfl

/-- Label lines are passed over, and every instruction is read from its line. -/
theorem filterMap_labelledLines {line : Instruction → List Char}
    {again : Instruction → Instruction} {instructions : List Instruction}
    (reads : ∀ instruction ∈ instructions,
      Instruction.parse architecture.family (line instruction) = some (again instruction)) :
    ((parse architecture text).labelledLines line instructions).filterMap
      (Instruction.parse architecture.family) = instructions.map again := by
  induction instructions with
  | nil => rfl
  | cons instruction rest induction =>
      obtain ⟨first, later⟩ := List.forall_mem_cons.mp reads
      rw [labelledLines_cons, List.filterMap_append, List.filterMap_cons_some first,
        induction later, labelLines_parse, List.map_cons]
      cases known : (parse architecture text).labelAt? instruction.address with
      | none => rfl
      | some label =>
          have silent := (isKept_of_isLabelLine (isLabelLine_of_labelAt? known)).2
            architecture.family
          simp [silent]

theorem isKept_of_mem_labelledLines {line : Instruction → List Char}
    {instructions : List Instruction} (kept : ∀ instruction ∈ instructions, IsKept (line instruction)) :
    ∀ written ∈ (parse architecture text).labelledLines line instructions, IsKept written := by
  intro written member
  obtain ⟨instruction, isInstruction, inBlock⟩ := List.mem_flatMap.mp member
  rcases List.mem_append.mp inBlock with isLabel | isLine
  · rw [labelLines_parse, Option.mem_toList, Option.map_eq_some_iff] at isLabel
    obtain ⟨label, known, rfl⟩ := isLabel
    exact (isKept_of_isLabelLine (isLabelLine_of_labelAt? known)).1
  · rw [List.mem_singleton.mp isLine]
    exact kept instruction isInstruction

/-- The lines of a listing give its instructions back, without labels. -/
theorem parse_joinLines_render {describe : List Char → Option (List Char)}
    (fits : ∀ mnemonic, Fits (describe mnemonic))
    (last : ∀ instruction ∈ parseInstructions architecture text,
      instruction.operands.getLast? ≠ some []) :
    parse architecture (joinLines ((parse architecture text).render describe)) =
      ⟨architecture, (parse architecture text).instructions.map fun instruction =>
        (parse architecture text).reread (describe (describedMnemonic instruction)) instruction,
        []⟩ := by
  have read : parseInstructions architecture
      (joinLines ((parse architecture text).render describe)) =
      (parse architecture text).instructions.map fun instruction =>
        (parse architecture text).reread (describe (describedMnemonic instruction)) instruction := by
    rw [render_eq_labelledLines, parseInstructions, sourceLines_joinLines]
    · apply filterMap_labelledLines
      exact fun instruction member => parse_line member (last instruction member) (fits _)
    · apply isKept_of_mem_labelledLines
      exact fun instruction member => isKept_line member (last instruction member) (fits _)
  have whole : ∀ source, parse architecture source =
      ⟨architecture, parseInstructions architecture source,
        Labels.ofInstructions architecture.family (parseInstructions architecture source)⟩ :=
    fun _ => rfl
  rw [whole (joinLines _), read, ofInstructions_reread]

end Reread

theorem formatOperands_nil (family : Family) (instruction : Instruction) :
    Labels.formatOperands [] family instruction = instruction.operands := by
  rw [Labels.formatOperands]
  conv_rhs => rw [← List.map_id instruction.operands]
  apply List.map_congr_left
  intro operand _
  rw [Labels.forOperand]
  cases Operand.jumpTarget family instruction.mnemonic operand <;> rfl

/-- Without labels a line is written as it was, and no line stands in front of it. -/
theorem instructionLines_reread (listing : Listing) {again : Listing}
    (unlabelled : again.labels = [])
    (read description : Option (List Char)) (instruction : Instruction) :
    again.instructionLines (listing.reread read instruction) description =
      [listing.instructionLine instruction ++ descriptionSuffix description] := by
  have none : again.labelLines (listing.reread read instruction) = [] := by
    rw [labelLines, labelAt?, unlabelled]
    rfl
  rw [instructionLines, none, instructionLine, unlabelled, formatOperands_nil]
  rfl

theorem render_parse_joinLines {architecture : Architecture} {text : List Char}
    {describe : List Char → Option (List Char)} (fits : ∀ mnemonic, Fits (describe mnemonic))
    (last : ∀ instruction ∈ parseInstructions architecture text,
      instruction.operands.getLast? ≠ some []) :
    (parse architecture (joinLines ((parse architecture text).render describe))).render describe =
      ((parse architecture text).render describe).filter fun line => !isLabelLine line := by
  have outside : ∀ instruction, isLabelLine ((parse architecture text).instructionLine instruction ++
      descriptionSuffix (describe (describedMnemonic instruction))) = false :=
    fun instruction => isLabelLine_of_space _
  rw [parse_joinLines_render fits last, render_eq_labelledLines (parse architecture text),
    filter_labelledLines outside, render, List.flatMap_map]
  refine Eq.trans (List.flatMap_congr fun instruction _ => ?_) List.map_eq_flatMap.symm
  exact instructionLines_reread (parse architecture text) rfl _ _ instruction

/-- A rendered listing is read back as the listing it was made from: the same instructions in the
same order, with labels written as their operands and descriptions as their comments, and no labels
of its own. Rendered once more, it gives the same lines except those of the labels. -/
theorem rendered_lines_are_read_back (architecture : Architecture) (text : List Char)
    (last : ∀ instruction ∈ parseInstructions architecture text,
      instruction.operands.getLast? ≠ some []) :
    (let listing := parse architecture text
      let again := parse architecture (joinLines listing.renderPlain)
      again.instructions = listing.instructions.map (listing.reread none) ∧ again.labels = [] ∧
        again.renderPlain = listing.renderPlain.filter fun line => !isLabelLine line) ∧
    ∃ descriptions report,
      Store.load Bundled.documents architecture.family = .ok (descriptions, report) ∧
      ∀ store : Store, store.Holds Bundled.documents →
        let listing := parse architecture text
        let describe := descriptions.describe
        let rendered := listing.renderThrough Bundled.documents store
        ∃ lines, rendered.lines = .ok lines ∧
          let again := parse architecture (joinLines lines)
          (again.instructions = listing.instructions.map fun instruction =>
            listing.reread (describe (describedMnemonic instruction)) instruction) ∧
          again.labels = [] ∧ rendered.store.Holds Bundled.documents ∧
          ∀ later : Store, later.Holds Bundled.documents →
            (again.renderThrough Bundled.documents later).lines =
              .ok (lines.filter fun line => !isLabelLine line) := by
  constructor
  · have fits : ∀ mnemonic : List Char, Fits ((fun _ => none) mnemonic) := by
      rintro mnemonic description ⟨⟩
    intro listing again
    have whole := parse_joinLines_render fits last
    exact ⟨congrArg Listing.instructions whole, congrArg Listing.labels whole,
      render_parse_joinLines fits last⟩
  · rcases Bundled.exists_load_documents architecture.family with ⟨_, loaded, _⟩
    refine ⟨_, _, loaded, ?_⟩
    intro store holds listing describe rendered
    have fits : ∀ mnemonic, Fits (describe mnemonic) :=
      fun mnemonic description found => Bundled.describe_bundled loaded found
    have found := holds.access_of_loaded loaded
    have whole := parse_joinLines_render fits last
    refine ⟨_, listing.renderThrough_lines_of_access found,
      congrArg Listing.instructions whole, congrArg Listing.labels whole,
      holds_renderThrough listing holds, ?_⟩
    intro later laterHolds
    have foundLater := laterHolds.access_of_loaded loaded
    rw [renderThrough_lines_of_access _ foundLater]
    exact congrArg Except.ok (render_parse_joinLines fits last)

/-- The jump of a loop is read back with the label in the place of its target. -/
theorem loop_is_read_back :
    let text := "0x10: dec %ecx\n0x12: jnz 0x10".toList
    (∀ instruction ∈ parseInstructions .x64 text, instruction.operands.getLast? ≠ some []) ∧
    (parse .x64 (joinLines (parse .x64 text).renderPlain)).instructions =
      (parse .x64 text).instructions.map ((parse .x64 text).reread none) ∧
    ∃ lines, ((parse .x64 text).renderThrough Bundled.documents .empty).lines = .ok lines ∧
      (parse .x64 (joinLines lines)).labels = [] := by
  intro text
  have last : ∀ instruction ∈ parseInstructions .x64 text,
      instruction.operands.getLast? ≠ some [] := by decide
  rcases rendered_lines_are_read_back .x64 text last with ⟨plain, _, _, _, described⟩
  rcases described .empty (Store.holds_empty _) with ⟨lines, rendered, _, unlabelled, _⟩
  exact ⟨last, plain.1, lines, rendered, unlabelled⟩

end Disassembly.Listing
