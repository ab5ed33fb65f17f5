import Disassembly.Proofs.Labels.Numbering
import Disassembly.Proofs.Operand.Spelling

/-!
Labels and operands do not depend on how jump targets are spelled. Building labels and writing
operands read every operand that is taken for an address; done in such a way that a text which
cannot be read would end the work, they still come to an end on all instructions, with the same
outcome. One text is written for each operand: the label of the number it spells, where a jump has
such a label, and the operand itself everywhere else.
-/

namespace Disassembly.Labels

open Text Operand

/-! Work that an unreadable text would end. -/

section Attempts

variable (family : Family) (index : AddressIndex)

def noteTarget (mnemonic : List Char) (noted : List Int) (operand : List Char) :
    Except Unreadable (List Int) :=
  (attemptTarget family mnemonic operand).map fun target =>
    noted ++ (target.filter index.covers).toList

def noteTargets (noted : List Int) (instruction : Instruction) : Except Unreadable (List Int) :=
  instruction.operands.foldlM (noteTarget family index instruction.mnemonic) noted

def attemptAssign (instructions : List Instruction) : Except Unreadable Labels :=
  (instructions.foldlM (noteTargets family index) []).map fun noted => numbered 0 (ascending noted)

def attemptFormat (labels : Labels) (family : Family) (instruction : Instruction) :
    Except Unreadable (List (List Char)) :=
  instruction.operands.mapM fun operand =>
    (attemptTarget family instruction.mnemonic operand).map fun target =>
      ((target.bind labels.label?).filter fun label => !label.isEmpty).getD operand

variable {family index}

theorem noteTargets_eq (noted : List Int) (instruction : Instruction) :
    noteTargets family index noted instruction =
      .ok (noted ++ (jumpTargets family instruction).filter index.covers) := by
  have each : noteTarget family index instruction.mnemonic = fun noted operand =>
      pure (noted ++
        ((jumpTarget family instruction.mnemonic operand).filter index.covers).toList) := by
    funext noted operand
    rw [noteTarget, attemptTarget_eq]
    rfl
  rw [noteTargets, each, List.foldlM_pure, List.foldl_append_eq_append, ← List.flatMap_def,
    jumpTargets, List.filter_filterMap, List.filterMap_eq_flatMap_toList]
  rfl

/-- The targets are noted instruction by instruction, and no instruction ends the work. -/
theorem foldlM_noteTargets (instructions : List Instruction) :
    instructions.foldlM (noteTargets family index) [] =
      .ok (targets family index instructions) := by
  have each : noteTargets family index = fun noted instruction =>
      pure (noted ++ (jumpTargets family instruction).filter index.covers) := by
    funext noted instruction
    exact noteTargets_eq noted instruction
  rw [each, List.foldlM_pure, List.foldl_append_eq_append, ← List.flatMap_def, targets,
    List.filter_flatMap]
  rfl

theorem attemptAssign_eq (instructions : List Instruction) :
    attemptAssign family index instructions = .ok (assign family index instructions) := by
  rw [attemptAssign, foldlM_noteTargets]
  rfl

end Attempts

/-! What is written for an operand. -/

section Written

variable (labels : Labels) {family : Family}

theorem forOperand_eq (family : Family) (mnemonic operand : List Char) :
    labels.forOperand family mnemonic operand =
      ((jumpTarget family mnemonic operand).bind labels.label?).filter
        fun label => !label.isEmpty := by
  rw [forOperand]
  cases (jumpTarget family mnemonic operand).bind labels.label? with
  | none => rfl
  | some label =>
      rw [Option.filter_some]
      cases label with
      | nil => rfl
      | cons first rest => rfl

theorem attemptFormat_eq (family : Family) (instruction : Instruction) :
    labels.attemptFormat family instruction = .ok (labels.formatOperands family instruction) := by
  rw [attemptFormat, formatOperands]
  simp only [attemptTarget_eq, forOperand_eq]
  exact List.mapM_pure

/-- The label of the number alone decides what a jump's operand is replaced by. -/
theorem forOperand_of_denotes {mnemonic operand : List Char}
    (address : isAddress family (some mnemonic) operand = true) {number : Nat}
    (denotes : Denotes operand number) :
    labels.forOperand family mnemonic operand =
      (labels.label? (number : Int)).filter fun label => !label.isEmpty := by
  rw [forOperand_eq, jumpTarget_of_denotes address denotes, Option.bind_some]

theorem formatOperands_getElem? {instruction : Instruction} {place : Nat} {operand : List Char}
    (atPlace : instruction.operands[place]? = some operand) :
    (labels.formatOperands family instruction)[place]? =
      some ((labels.forOperand family instruction.mnemonic operand).getD operand) := by
  rw [formatOperands, List.getElem?_map, atPlace, Option.map_some]

end Written

/-- What is written for the operands of an instruction. A target without a label, or with an empty
one, is written as it is. -/
structure WritesEach (labels : Labels) (family : Family) (instruction : Instruction)
    (written : List (List Char)) : Prop where
  length : written.length = instruction.operands.length
  labelled : ∀ (place : Nat) operand number label, instruction.operands[place]? = some operand →
    isAddress family (some instruction.mnemonic) operand = true → Denotes operand number →
      labels.label? (number : Int) = some label → label ≠ [] → written[place]? = some label
  kept : ∀ (place : Nat) operand, instruction.operands[place]? = some operand →
    (∀ address label, jumpTarget family instruction.mnemonic operand = some address →
      labels.label? address = some label → label = []) → written[place]? = some operand

theorem writesEach_formatOperands (labels : Labels) (family : Family) (instruction : Instruction) :
    WritesEach labels family instruction (labels.formatOperands family instruction) := by
  constructor
  case length => exact List.length_map _
  case labelled =>
    intro place operand number label atPlace address denotes known filled
    have shown : (!label.isEmpty) = true := by simpa using filled
    rw [formatOperands_getElem? labels atPlace, forOperand_of_denotes labels address denotes, known,
      Option.filter_some, if_pos shown, Option.getD_some]
  case kept =>
    intro place operand atPlace unlabelled
    have none : labels.forOperand family instruction.mnemonic operand = none := by
      rw [forOperand_eq, Option.filter_eq_none_iff]
      intro label known
      rcases Option.bind_eq_some_iff.mp known with ⟨address, goes, labelled⟩
      rw [unlabelled address label goes labelled]
      decide
    rw [formatOperands_getElem? labels atPlace, none, Option.getD_none]

end Disassembly.Labels

namespace Disassembly.Tracker

open Text Operand

/-- Builds the labels of a tracker, unless a text that is taken for an address cannot be read. -/
def attemptLabels (tracker : Tracker) (family : Family) : Except Unreadable Tracker :=
  (Labels.attemptAssign family tracker.index tracker.instructions).map fun labels =>
    { tracker with labels := labels }

theorem attemptLabels_eq (tracker : Tracker) (family : Family) :
    tracker.attemptLabels family = .ok (tracker.buildLabels family) := by
  rw [attemptLabels, Labels.attemptAssign_eq]
  rfl

/-- Jump targets go by their value, however they are spelled. What is taken for an address is read
without fail, and its value is that of the digits in base sixteen, with zeros in front or without;
everything else has no target. So building labels and writing operands come to an end whatever the
instructions are. Each operand is written in its place, and two operands that spell one number, of
one jump or of two, are both replaced by the same label or both kept. -/
theorem jump_targets_go_by_value (family : Family) :
    (∀ mnemonic operand, isAddress family mnemonic operand = true →
      (∃ number, Denotes operand number) ∧
        ∀ number, Denotes operand number → readInteger operand = some (number : Int)) ∧
    (∀ operand digits (count : Nat), Spells operand (List.replicate count '0' ++ digits) →
      Denotes operand (numberOf digits)) ∧
    (∀ mnemonic operand,
      attemptTarget family mnemonic operand = .ok (jumpTarget family mnemonic operand) ∧
        (isAddress family (some mnemonic) operand = true → ∀ number, Denotes operand number →
          jumpTarget family mnemonic operand = some (number : Int)) ∧
        (isAddress family (some mnemonic) operand = false →
          jumpTarget family mnemonic operand = none)) ∧
    (∀ tracker : Tracker, tracker.attemptLabels family = .ok (tracker.buildLabels family)) ∧
    (∀ (labels : Labels) (instruction : Instruction),
      labels.attemptFormat family instruction = .ok (labels.formatOperands family instruction) ∧
        labels.WritesEach family instruction (labels.formatOperands family instruction)) ∧
    ∀ (labels : Labels) (first second : Instruction) (place other : Nat) left right number,
      first.operands[place]? = some left → second.operands[other]? = some right →
      isAddress family (some first.mnemonic) left = true →
      isAddress family (some second.mnemonic) right = true →
      Denotes left number → Denotes right number →
        ∃ label : Option (List Char),
          (labels.formatOperands family first)[place]? = some (label.getD left) ∧
          (labels.formatOperands family second)[other]? = some (label.getD right) := by
  constructor
  · intro mnemonic operand address
    constructor
    · exact ((isAddress_iff family mnemonic operand).mp address).2
    · intro number denotes
      exact denotes.readInteger_eq
  constructor
  · intro operand digits count spells
    exact ⟨_, spells, numberOf_zeros count digits⟩
  constructor
  · intro mnemonic operand
    constructor
    · exact attemptTarget_eq family mnemonic operand
    constructor
    · intro address number denotes
      exact jumpTarget_of_denotes address denotes
    · intro notAddress
      rw [jumpTarget, notAddress]
      rfl
  constructor
  · intro tracker
    exact tracker.attemptLabels_eq family
  constructor
  · intro labels instruction
    constructor
    · exact labels.attemptFormat_eq family instruction
    · exact labels.writesEach_formatOperands family instruction
  · intro labels first second place other left right number atPlace atOther leftAddress rightAddress
      leftDenotes rightDenotes
    have leftShown := labels.forOperand_of_denotes leftAddress leftDenotes
    have rightShown := labels.forOperand_of_denotes rightAddress rightDenotes
    refine ⟨(labels.label? (number : Int)).filter fun label => !label.isEmpty, ?_, ?_⟩
    · rw [labels.formatOperands_getElem? atPlace, leftShown]
    · rw [labels.formatOperands_getElem? atOther, rightShown]

/-- Digits that look like a binary numeral are hexadecimal, so this jump and this call go to one
address. -/
theorem jump_and_call_to_one_address :
    let jump : Instruction := ⟨[], 0, [], "jne".toList, ["%rax".toList, "0b1".toList], []⟩
    let call : Instruction := ⟨[], 4, [], "call".toList, ["0x00b1\n".toList], []⟩
    isAddress .x86 (some jump.mnemonic) "0b1".toList = true ∧
      isAddress .x86 (some call.mnemonic) "0x00b1\n".toList = true ∧
      Denotes "0b1".toList 177 ∧ Denotes "0x00b1\n".toList 177 ∧
      ∀ labels : Labels, ∃ label : Option (List Char),
        (labels.formatOperands .x86 jump)[1]? = some (label.getD "0b1".toList) ∧
        (labels.formatOperands .x86 call)[0]? = some (label.getD "0x00b1\n".toList) := by
  intro jump call
  have jumps : isAddress .x86 (some jump.mnemonic) "0b1".toList = true := by decide
  have calls : isAddress .x86 (some call.mnemonic) "0x00b1\n".toList = true := by decide
  have bare : Spells "0b1".toList "0b1".toList := ⟨by decide, by decide, [], by simp, .inl rfl⟩
  have marked : Spells "0x00b1\n".toList "00b1".toList :=
    ⟨by decide, by decide, ['0', 'x'], by simp, .inr rfl⟩
  have left : Denotes "0b1".toList 177 := ⟨_, bare, by decide⟩
  have right : Denotes "0x00b1\n".toList 177 := ⟨_, marked, by decide⟩
  rcases jump_targets_go_by_value .x86 with ⟨_, _, _, _, _, shared⟩
  refine ⟨jumps, calls, left, right, ?_⟩
  intro labels
  exact shared labels jump call 1 0 _ _ 177 rfl rfl jumps calls left right

end Disassembly.Tracker
