import Disassembly.Proofs.Instruction.RoundTrip
import Disassembly.Proofs.Labels.Numbering
import Disassembly.Proofs.Reference.Store

/-!
Labels in rendered listings. Labels are assigned when a text is parsed and looked up again when its
instructions are rendered; here the two are seen to agree. A label line stands directly in front of
the instructions at its address and nowhere else, every label that replaces an operand leads to such
a line, and every such line is the target of an operand that is printed. Jumps may go forward and
backward, addresses may repeat, and descriptions of any kind may follow on the lines.
-/

namespace Disassembly.Listing

open Text Reference

def isLabelLine : List Char → Bool
  | 'L' :: rest =>
      rest.getLast? = some ':' && 4 ≤ rest.dropLast.length && rest.dropLast.all Char.isDigit
  | _ => false

theorem isLabelLine_name (number : Nat) : isLabelLine (Labels.name number ++ [':']) = true := by
  have wide : 4 ≤ (padLeft 4 '0' (Nat.toDigits 10 number)).length := by
    rw [length_padLeft]
    exact le_max_left _ _
  have digits : ∀ digit ∈ padLeft 4 '0' (Nat.toDigits 10 number), digit.isDigit = true := by
    intro digit member
    rcases List.mem_append.mp member with zero | written
    · rw [List.eq_of_mem_replicate zero]
      decide
    · exact Nat.isDigit_of_mem_toDigits (by decide) (by decide) written
  simp only [Labels.name, List.cons_append, isLabelLine, List.getLast?_concat,
    List.dropLast_concat, wide, List.all_eq_true, decide_true, Bool.true_and]
  exact digits

theorem isLabelLine_of_space (rest : List Char) : isLabelLine (' ' :: rest) = false := rfl

/-- A part of a list that is put together from blocks lies in one of the blocks. -/
theorem exists_block {Source Part : Type} {blocks : Source → List Part} {sources : List Source}
    {front back : List Part} {part : Part}
    (cut : sources.flatMap blocks = front ++ part :: back) :
    ∃ before source after inner outer, sources = before ++ source :: after ∧
      blocks source = inner ++ part :: outer ∧ front = before.flatMap blocks ++ inner ∧
      back = outer ++ after.flatMap blocks := by
  induction sources generalizing front with
  | nil => simp at cut
  | cons first rest induction =>
      rw [List.flatMap_cons] at cut
      rcases List.append_eq_append_iff.mp cut with ⟨later, inFront, behind⟩ | ⟨here, block, behind⟩
      · obtain ⟨before, source, after, inner, outer, rfl, inBlock, rfl, tail⟩ := induction behind
        refine ⟨first :: before, source, after, inner, outer, rfl, inBlock, ?_, tail⟩
        rw [inFront, List.flatMap_cons, List.append_assoc]
      · cases here with
        | nil =>
            have atStart : rest.flatMap blocks = [] ++ part :: back := behind.symm
            obtain ⟨before, source, after, inner, outer, rfl, inBlock, empty, tail⟩ :=
              induction atStart
            refine ⟨first :: before, source, after, inner, outer, rfl, inBlock, ?_, tail⟩
            rw [List.flatMap_cons, List.append_assoc, ← empty, block, List.append_nil,
              List.append_nil]
        | cons head here =>
            obtain ⟨rfl, rfl⟩ := List.cons.inj behind
            exact ⟨[], first, rest, front, here, rfl, block, rfl, rfl⟩

/-- An instruction's line, with the given operands in the place of its own and a description behind
it. The address has sixteen columns or more; an empty description adds nothing. -/
def IsPrinted (instruction : Instruction) (written : List (List Char)) (description : List Char)
    (line : List Char) : Prop :=
  ∃ value : Nat, instruction.address = value ∧
    line = "  0x".toList ++
      List.replicate (16 - (Nat.toDigits 16 value).length) '0' ++ Nat.toDigits 16 value ++
      ": ".toList ++ instruction.prefixes.flatMap (· ++ [' ']) ++ instruction.mnemonic ++
      (if written = [] then [] else ' ' :: List.intercalate [','] written) ++
      (if description = [] then [] else " ; ".toList ++ description)

/-- What the lines of a rendered listing and its labels have to do with each other. `line` is the
line of an instruction, and `written` are the operands that stand on it. -/
structure KeepsLabels (listing : Listing) (written : Instruction → List (List Char))
    (description : Instruction → List Char) (line : Instruction → List Char)
    (lines : List (List Char)) : Prop where
  printed : ∀ instruction ∈ listing.instructions,
    IsPrinted instruction (written instruction) (description instruction) (line instruction)
  inOrder : lines.filter (fun text => !isLabelLine text) = listing.instructions.map line
  preceded : ∀ before instruction after, listing.instructions = before ++ instruction :: after →
    ∃ front back, lines = front ++ line instruction :: back ∧
      front.filter (fun text => !isLabelLine text) = before.map line ∧
      ((∃ text ∈ front.getLast?, isLabelLine text = true) ↔
        (listing.labelAt? instruction.address).isSome) ∧
      ∀ label, listing.labelAt? instruction.address = some label →
        front.getLast? = some (label ++ [':'])
  noOther : ∀ front text back, lines = front ++ text :: back → isLabelLine text = true →
    ∃ instruction ∈ listing.instructions, ∃ label,
      listing.labelAt? instruction.address = some label ∧ text = label ++ [':'] ∧
        back.head? = some (line instruction)
  complete : ∀ instruction ∈ listing.instructions,
    (written instruction).length = instruction.operands.length
  resolved : ∀ instruction ∈ listing.instructions, ∀ (place : Nat) operand replacement,
    instruction.operands[place]? = some operand →
    (written instruction)[place]? = some replacement → replacement ≠ operand →
      Operand.isHexNumeral operand = true ∧ isLabelLine (replacement ++ [':']) = true ∧
        ∃ target ∈ listing.instructions,
          target.address = readHex (Operand.withoutHexMark operand) ∧
            [replacement ++ [':'], line target] <:+: lines
  used : ∀ text ∈ lines, isLabelLine text = true → ∃ instruction ∈ listing.instructions,
    line instruction ∈ lines ∧ ∃ label ∈ written instruction, text = label ++ [':']
  once : (listing.instructions.map Instruction.address).Nodup →
    ∀ text ∈ lines, isLabelLine text = true → lines.count text = 1

/-! A text that was parsed. -/

section Parsed

variable (architecture : Architecture) (text : List Char)

theorem ranked_parse : Labels.Ranked architecture.family (parse architecture text).instructions
    (parse architecture text).labels :=
  Labels.ranked_ofInstructions _ _

variable {architecture text}

theorem labelAt?_eq_name {address : Int} {label : List Char}
    (known : (parse architecture text).labelAt? address = some label) :
    ∃ number, label = Labels.name number :=
  ⟨_, (ranked_parse architecture text).label_eq address label known⟩

theorem isLabelLine_of_labelAt? {address : Int} {label : List Char}
    (known : (parse architecture text).labelAt? address = some label) :
    isLabelLine (label ++ [':']) = true := by
  obtain ⟨number, rfl⟩ := labelAt?_eq_name known
  exact isLabelLine_name number

/-- No label of a parsed text is empty, so that each is written. -/
theorem labelLines_parse (instruction : Instruction) :
    (parse architecture text).labelLines instruction =
      (((parse architecture text).labelAt? instruction.address).map (· ++ [':'])).toList := by
  rw [labelLines]
  cases known : (parse architecture text).labelAt? instruction.address with
  | none => rfl
  | some label =>
      obtain ⟨number, rfl⟩ := labelAt?_eq_name known
      rfl

theorem forOperand_parse (mnemonic operand : List Char) :
    (parse architecture text).labels.forOperand architecture.family mnemonic operand =
      (Operand.jumpTarget architecture.family mnemonic operand).bind
        (parse architecture text).labelAt? := by
  cases target : Operand.jumpTarget architecture.family mnemonic operand with
  | none => simp only [Labels.forOperand, target, Option.bind_none]
  | some address =>
      rw [Option.bind_some, Labels.forOperand, target, Option.bind_some]
      cases known : (parse architecture text).labelAt? address with
      | none =>
          rw [labelAt?] at known
          rw [known]
      | some label =>
          obtain ⟨number, rfl⟩ := labelAt?_eq_name known
          rw [labelAt?] at known
          rw [known]
          rfl

theorem mem_parse_iff {instruction : Instruction} :
    instruction ∈ (parse architecture text).instructions ↔
      ∃ line ∈ sourceLines text,
        Instruction.parse architecture.family line = some instruction :=
  List.mem_filterMap

/-- What is taken for an address in a parsed text is a numeral from end to end. -/
theorem isHexNumeral_of_jumpTarget {instruction : Instruction}
    (member : instruction ∈ (parse architecture text).instructions) {operand : List Char}
    (isOperand : operand ∈ instruction.operands) {address : Int}
    (target : Operand.jumpTarget architecture.family instruction.mnemonic operand =
      some address) :
    Operand.isHexNumeral operand = true ∧
      address = readHex (Operand.withoutHexMark operand) := by
  obtain ⟨source, _, parsed⟩ := mem_parse_iff.mp member
  have spaced := ((Instruction.printable_of_parse parsed).operands operand isOperand).1
  have ended : operand.getLast? ≠ some '\n' := by
    intro last
    have visible := spaced.last '\n' last
    exact absurd visible (by decide)
  have whole : Operand.withoutFinalLineFeed operand = operand := by
    rw [Operand.withoutFinalLineFeed, if_neg ended]
  have isAddress := Operand.isAddress_of_jumpTarget target
  have form := Operand.isAddressForm_of_isAddress isAddress
  rw [Operand.isAddressForm, whole] at form
  rw [Operand.jumpTarget_of_isAddress isAddress, whole] at target
  exact ⟨form, (Option.some.inj target).symm⟩

/-- An operand that is written differently is written as the label of the address it gives. -/
theorem labelAt?_of_written {instruction : Instruction}
    (member : instruction ∈ (parse architecture text).instructions) {place : Nat}
    {operand replacement : List Char} (atPlace : instruction.operands[place]? = some operand)
    (isWritten : ((parse architecture text).labels.formatOperands architecture.family
      instruction)[place]? = some replacement) (different : replacement ≠ operand) :
    Operand.isHexNumeral operand = true ∧
      (parse architecture text).labelAt? (readHex (Operand.withoutHexMark operand)) =
        some replacement := by
  rw [Labels.formatOperands, List.getElem?_map, atPlace, Option.map_some, Option.some.injEq,
    forOperand_parse] at isWritten
  cases goes : Operand.jumpTarget architecture.family instruction.mnemonic operand with
  | none =>
      rw [goes] at isWritten
      exact absurd isWritten.symm different
  | some address =>
      rw [goes, Option.bind_some] at isWritten
      cases known : (parse architecture text).labelAt? address with
      | none =>
          rw [known] at isWritten
          exact absurd isWritten.symm different
      | some label =>
          rw [known, Option.getD_some] at isWritten
          rcases isHexNumeral_of_jumpTarget member (List.mem_of_getElem? atPlace) goes with
            ⟨numeral, value⟩
          exact ⟨numeral, by rw [← value, known, isWritten]⟩

/-- Where a label stands for an address, an instruction stands there. -/
theorem exists_target_of_labelAt? {address : Int} {label : List Char}
    (known : (parse architecture text).labelAt? address = some label) :
    ∃ target ∈ (parse architecture text).instructions, target.address = address := by
  have isTarget := ((ranked_parse architecture text).labelled address).mp
    (by rw [← labelAt?, known]; rfl)
  exact isTarget.1

/-- Where a label stands for an address, an operand is written as the label. -/
theorem exists_written_of_labelAt? {address : Int} {label : List Char}
    (known : (parse architecture text).labelAt? address = some label) :
    ∃ instruction ∈ (parse architecture text).instructions,
      label ∈ (parse architecture text).labels.formatOperands architecture.family instruction := by
  have isTarget := ((ranked_parse architecture text).labelled address).mp
    (by rw [← labelAt?, known]; rfl)
  rcases isTarget.2 with ⟨source, isSource, operand, isOperand, goes⟩
  refine ⟨source, isSource, List.mem_map.mpr ⟨operand, isOperand, ?_⟩⟩
  rw [forOperand_parse, goes, Option.bind_some, known, Option.getD_some]

end Parsed

/-! The lines of a parsed text. -/

section Lines

variable {architecture : Architecture} {text : List Char} {line : Instruction → List Char}

def labelledLines (listing : Listing) (line : Instruction → List Char)
    (instructions : List Instruction) : List (List Char) :=
  instructions.flatMap fun instruction => listing.labelLines instruction ++ [line instruction]

theorem labelledLines_append (listing : Listing) (line : Instruction → List Char)
    (front back : List Instruction) :
    listing.labelledLines line (front ++ back) =
      listing.labelledLines line front ++ listing.labelledLines line back :=
  List.flatMap_append

theorem labelledLines_cons (listing : Listing) (line : Instruction → List Char)
    (instruction : Instruction) (rest : List Instruction) :
    listing.labelledLines line (instruction :: rest) =
      listing.labelLines instruction ++ line instruction :: listing.labelledLines line rest := by
  rw [labelledLines, List.flatMap_cons, List.append_assoc]
  rfl

theorem render_eq_labelledLines (listing : Listing)
    (describe : List Char → Option (List Char)) :
    listing.render describe = listing.labelledLines
      (fun instruction => listing.instructionLine instruction ++
        descriptionSuffix (describe (describedMnemonic instruction)))
      listing.instructions := rfl

theorem filter_labelledLines (outside : ∀ instruction, isLabelLine (line instruction) = false)
    (instructions : List Instruction) :
    ((parse architecture text).labelledLines line instructions).filter
      (fun text => !isLabelLine text) = instructions.map line := by
  induction instructions with
  | nil => rfl
  | cons instruction rest induction =>
      rw [labelledLines_cons, List.filter_append, List.filter_cons_of_pos (by simp [outside]),
        induction, labelLines_parse, List.map_cons]
      cases known : (parse architecture text).labelAt? instruction.address with
      | none => rfl
      | some label => simp [isLabelLine_of_labelAt? known]

theorem preceded_labelledLines (outside : ∀ instruction, isLabelLine (line instruction) = false)
    (before : List Instruction) (instruction : Instruction) :
    let front := (parse architecture text).labelledLines line before ++
      (parse architecture text).labelLines instruction
    ((∃ text ∈ front.getLast?, isLabelLine text = true) ↔
      ((parse architecture text).labelAt? instruction.address).isSome) ∧
    ∀ label, (parse architecture text).labelAt? instruction.address = some label →
      front.getLast? = some (label ++ [':']) := by
  intro front
  have shape : front = (parse architecture text).labelledLines line before ++
      (((parse architecture text).labelAt? instruction.address).map (· ++ [':'])).toList := by
    rw [← labelLines_parse]
  cases known : (parse architecture text).labelAt? instruction.address with
  | none =>
      rw [known, Option.map_none, Option.toList_none, List.append_nil] at shape
      constructor
      · constructor
        · rintro ⟨last, isLast, label⟩
          rw [shape] at isLast
          rcases List.eq_nil_or_concat before with none | ⟨earlier, previous, same⟩
          · rw [none] at isLast
            cases isLast
          · rw [same, List.concat_eq_append, labelledLines_append, labelledLines_cons,
              List.getLast?_append] at isLast
            simp only [labelledLines, List.flatMap_nil, List.getLast?_concat, Option.some_or,
              Option.mem_some_iff] at isLast
            rw [← isLast, outside] at label
            cases label
        · intro labelled
          cases labelled
      · intro label same
        cases same
  | some label =>
      rw [known, Option.map_some, Option.toList_some] at shape
      have last : front.getLast? = some (label ++ [':']) := by
        rw [shape, List.getLast?_concat]
      constructor
      · refine ⟨fun _ => rfl, fun _ => ⟨_, last, isLabelLine_of_labelAt? known⟩⟩
      · intro other same
        rw [← Option.some.inj same]
        exact last

theorem noOther_labelledLines (outside : ∀ instruction, isLabelLine (line instruction) = false)
    {instructions : List Instruction} {front back : List (List Char)} {found : List Char}
    (cut : (parse architecture text).labelledLines line instructions = front ++ found :: back)
    (isLabel : isLabelLine found = true) :
    ∃ instruction ∈ instructions, ∃ label,
      (parse architecture text).labelAt? instruction.address = some label ∧
        found = label ++ [':'] ∧ back.head? = some (line instruction) := by
  obtain ⟨before, instruction, after, inner, outer, rfl, block, _, rfl⟩ := exists_block cut
  rw [labelLines_parse] at block
  refine ⟨instruction, by simp, ?_⟩
  cases known : (parse architecture text).labelAt? instruction.address with
  | none =>
      rw [known] at block
      rcases List.append_eq_cons_iff.mp block.symm with ⟨_, same⟩ | ⟨_, _, impossible⟩
      · rw [(List.cons.inj same).1, outside] at isLabel
        cases isLabel
      · simp at impossible
  | some label =>
      rw [known, Option.map_some, Option.toList_some, List.singleton_append] at block
      rcases List.append_eq_cons_iff.mp block.symm with ⟨_, same⟩ | ⟨first, _, same⟩
      · obtain ⟨rfl, rfl⟩ := List.cons.inj same
        exact ⟨label, rfl, rfl, rfl⟩
      · -- The only other line of the block is that of the instruction.
        rcases List.append_eq_cons_iff.mp same.symm with ⟨_, own⟩ | ⟨_, _, impossible⟩
        · rw [(List.cons.inj own).1, outside] at isLabel
          cases isLabel
        · simp at impossible

theorem count_labelledLines (outside : ∀ instruction, isLabelLine (line instruction) = false)
    {instructions : List Instruction}
    (distinct : (instructions.map Instruction.address).Nodup) {found : List Char}
    (member : found ∈ (parse architecture text).labelledLines line instructions)
    (isLabel : isLabelLine found = true) :
    ((parse architecture text).labelledLines line instructions).count found = 1 := by
  have labels : ((parse architecture text).labelledLines line instructions).filter isLabelLine =
      (instructions.map Instruction.address).filterMap fun address =>
        ((parse architecture text).labelAt? address).map (· ++ [':']) := by
    clear distinct member
    induction instructions with
    | nil => rfl
    | cons instruction rest induction =>
        rw [labelledLines_cons, List.filter_append, List.filter_cons_of_neg (by simp [outside]),
          induction, labelLines_parse, List.map_cons]
        cases known : (parse architecture text).labelAt? instruction.address with
        | none => simp [known]
        | some label => simp [known, isLabelLine_of_labelAt? known]
  have once : (((parse architecture text).labelledLines line instructions).filter
      isLabelLine).Nodup := by
    rw [labels]
    apply List.Nodup.filterMap _ distinct
    intro left right found leftFound rightFound
    obtain ⟨leftLabel, leftKnown, rfl⟩ := Option.map_eq_some_iff.mp leftFound
    obtain ⟨rightLabel, rightKnown, same⟩ := Option.map_eq_some_iff.mp rightFound
    rw [List.append_cancel_right same] at rightKnown
    exact (ranked_parse architecture text).distinct left right leftLabel leftKnown rightKnown
  rw [← List.count_filter isLabel]
  exact List.count_eq_one_of_mem once (List.mem_filter.mpr ⟨member, isLabel⟩)

/-- An instruction of a parsed text is printed as the law has it. -/
theorem isPrinted_instructionLine {instruction : Instruction}
    (member : instruction ∈ (parse architecture text).instructions)
    (description : List Char) :
    IsPrinted instruction
      ((parse architecture text).labels.formatOperands architecture.family instruction) description
      ((parse architecture text).instructionLine instruction ++
        descriptionSuffix (some description)) := by
  rcases mem_parse_iff.mp member with ⟨source, _, parsed⟩
  rcases Int.eq_ofNat_of_zero_le (Instruction.printable_of_parse parsed).address with
    ⟨value, address⟩
  refine ⟨value, address, ?_⟩
  have head : "  0x".toList = [' ', ' ', '0', 'x'] := rfl
  have colon : ": ".toList = [':', ' '] := rfl
  have operands : ∀ written : List (List Char), Instruction.printOperands written =
      if written = [] then [] else ' ' :: List.intercalate [','] written := by
    intro written
    simp [Instruction.printOperands]
  have suffix : descriptionSuffix (some description) =
      if description = [] then [] else " ; ".toList ++ description := by
    simp [descriptionSuffix]
  rw [instructionLine, Instruction.printCore, address, operands, suffix, head, colon,
    writeAddress_natCast, padLeft, writeHex]
  simp only [Instruction.printPrefixes, List.cons_append, List.nil_append, List.append_assoc]
  rfl

/-- The lines of a parsed text keep to its labels, whatever follows on the instructions' lines. -/
theorem keepsLabels_labelledLines (description : Instruction → List Char) :
    let listing := parse architecture text
    let line := fun instruction =>
      listing.instructionLine instruction ++ descriptionSuffix (some (description instruction))
    KeepsLabels listing (listing.labels.formatOperands architecture.family) description line
      (listing.labelledLines line listing.instructions) := by
  intro listing line
  have outside : ∀ instruction, isLabelLine (line instruction) = false :=
    fun instruction => isLabelLine_of_space _
  have preceded : ∀ before instruction after,
      listing.instructions = before ++ instruction :: after →
      listing.labelledLines line listing.instructions =
        (listing.labelledLines line before ++ listing.labelLines instruction) ++
          line instruction :: listing.labelledLines line after := by
    intro before instruction after cut
    rw [cut, labelledLines_append, labelledLines_cons, List.append_assoc]
  constructor
  case printed => exact fun instruction member => isPrinted_instructionLine member _
  case inOrder => exact filter_labelledLines outside _
  case preceded =>
    intro before instruction after cut
    refine ⟨_, _, preceded before instruction after cut, ?_,
      preceded_labelledLines outside before instruction⟩
    rw [List.filter_append, filter_labelledLines outside, labelLines_parse]
    cases known : (parse architecture text).labelAt? instruction.address with
    | none => simp
    | some label => simp [isLabelLine_of_labelAt? known]
  case noOther =>
    intro front found back cut isLabel
    exact noOther_labelledLines outside cut isLabel
  case complete => exact fun instruction _ => List.length_map _
  case resolved =>
    intro instruction member place operand replacement atPlace isWritten different
    rcases labelAt?_of_written member atPlace isWritten different with ⟨numeral, known⟩
    rcases exists_target_of_labelAt? known with ⟨target, isInstruction, same⟩
    rcases List.append_of_mem isInstruction with ⟨before, after, cut⟩
    refine ⟨numeral, isLabelLine_of_labelAt? known, target, isInstruction, same, ?_⟩
    rw [preceded before target after cut, labelLines_parse, same, known]
    exact ⟨listing.labelledLines line before, listing.labelledLines line after, by simp⟩
  case used =>
    intro found member isLabel
    rcases List.append_of_mem member with ⟨front, back, cut⟩
    rcases noOther_labelledLines outside cut isLabel with ⟨target, _, label, known, same, _⟩
    rcases exists_written_of_labelAt? known with ⟨source, isSource, isWritten⟩
    rcases List.append_of_mem isSource with ⟨before, after, cutSource⟩
    refine ⟨source, isSource, ?_, label, isWritten, same⟩
    rw [preceded before source after cutSource]
    simp
  case once =>
    intro distinct found member isLabel
    exact count_labelledLines outside distinct member isLabel

end Lines

/-- Rendered listings have no label that leads nowhere and none that nothing leads to. It does not
matter whether mnemonics are described, which documents describe them, and what the store knew
before. Only a document that is refused leaves no lines at all. -/
theorem rendered_lines_keep_labels (architecture : Architecture) (text : List Char) :
    let listing := parse architecture text
    let written := listing.labels.formatOperands architecture.family
    (∃ line, KeepsLabels listing written (fun _ => []) line listing.renderPlain) ∧
    ∀ (documents : Documents) (store : Store),
      (listing.instructions = [] ∨ store.refusal? documents architecture.family = none →
        ∃ lines description line, (listing.renderThrough documents store).lines = .ok lines ∧
          KeepsLabels listing written description line lines) ∧
      ∀ refusal, listing.instructions ≠ [] →
        store.refusal? documents architecture.family = some refusal →
          (listing.renderThrough documents store).lines = .error refusal := by
  intro listing written
  have kept : ∀ describe, ∃ description line,
      (∀ instruction, description instruction =
        (describe (describedMnemonic instruction)).getD []) ∧
      KeepsLabels listing written description line (listing.render describe) := by
    intro describe
    let description := fun instruction => (describe (describedMnemonic instruction)).getD []
    let line := fun instruction =>
      listing.instructionLine instruction ++ descriptionSuffix (some (description instruction))
    have same : ∀ found, descriptionSuffix (some (found.getD [])) = descriptionSuffix found := by
      intro found
      cases found <;> rfl
    have rendered : listing.render describe =
        listing.labelledLines line listing.instructions := by
      rw [render_eq_labelledLines]
      simp only [line, description, same]
    rw [rendered]
    exact ⟨description, line, fun _ => rfl, keepsLabels_labelledLines description⟩
  constructor
  · rcases kept fun _ => none with ⟨description, line, none, keeps⟩
    rw [funext none] at keeps
    exact ⟨line, keeps⟩
  · intro documents store
    constructor
    · intro allowed
      rcases exists_renderThrough_lines listing allowed with ⟨describe, rendered⟩
      rcases kept describe with ⟨description, line, _, keeps⟩
      exact ⟨_, description, line, rendered, keeps⟩
    · intro refusal filled refused
      exact renderThrough_lines_of_refused listing filled refused

/-- A jump to itself, with no document to describe it. -/
theorem jump_to_itself_keeps_its_label :
    let listing := parse .x64 "0x10: jmp 0x10".toList
    let lines := ["L0000:".toList, "  0x0000000000000010: jmp L0000".toList]
    Store.empty.refusal? (fun _ => .missing) .x86 = none ∧
      (listing.renderThrough (fun _ => .missing) Store.empty).lines = .ok lines ∧
      ∃ description line, KeepsLabels listing (listing.labels.formatOperands .x86) description line
        lines := by
  intro listing lines
  have allowed : Store.empty.refusal? (fun _ => .missing) .x86 = none := by decide
  have rendered : (listing.renderThrough (fun _ => .missing) Store.empty).lines = .ok lines := by
    decide +kernel
  rcases rendered_lines_keep_labels .x64 "0x10: jmp 0x10".toList with ⟨_, keeps⟩
  rcases (keeps (fun _ => .missing) Store.empty).1 (.inr allowed) with
    ⟨found, description, line, isFound, keepsLabels⟩
  cases isFound.symm.trans rendered
  exact ⟨allowed, rendered, description, line, keepsLabels⟩

/-- With a document that is refused, the same jump has no line and no label. -/
theorem jump_to_itself_is_refused :
    ((parse .x64 "0x10: jmp 0x10".toList).renderThrough (fun _ => refusedDocument)
      Store.empty).lines = .error .multiByte := by
  decide +kernel

end Disassembly.Listing
