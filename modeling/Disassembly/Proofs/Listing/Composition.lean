import Disassembly.Proofs.Labels.Numbering
import Disassembly.Proofs.Text.Lines
import Disassembly.Listing

/-!
Listings put one after the other. The instructions of a text are found between its line breaks,
whichever breaks belong together, so that a text that ends in a break can be followed by any other:
the instructions are those of the first text and then those of the second, even where the first half
of a break ends one and the second half begins the other. More addresses may be labelled then, none
less, and labels keep their order, although their numbers may grow.
-/

namespace Disassembly.Listing

open Text

def readLine (architecture : Architecture) (line : List Char) : Option Instruction :=
  Instruction.parse architecture.family (stripRight line)

theorem parseInstructions_eq (architecture : Architecture) (text : List Char) :
    parseInstructions architecture text =
      (text.splitOnP isLineBreak).filterMap (readLine architecture) := by
  rw [parseInstructions, sourceLines, List.filterMap_map]
  exact filterMap_lines rfl text

/-- The texts behind which a new line begins. -/
def EndsLine (text : List Char) : Prop :=
  text = [] ∨ ∃ character ∈ text.getLast?, isLineBreak character = true

instance (text : List Char) : Decidable (EndsLine text) :=
  inferInstanceAs (Decidable (text = [] ∨ ∃ character ∈ text.getLast?, isLineBreak character = true))

theorem parseInstructions_append (architecture : Architecture) {front : List Char}
    (ended : EndsLine front) (back : List Char) :
    parseInstructions architecture (front ++ back) =
      parseInstructions architecture front ++ parseInstructions architecture back := by
  rcases ended with rfl | ⟨mark, last, breaks⟩
  · rfl
  · obtain ⟨before, rfl⟩ := List.getLast?_eq_some_iff.mp last
    have none : [([] : List Char)].filterMap (readLine architecture) = [] := rfl
    rw [List.append_assoc, List.singleton_append, parseInstructions_eq, parseInstructions_eq,
      parseInstructions_eq, List.splitOnP_append_cons _ _ breaks,
      List.splitOnP_append_cons _ _ breaks, List.splitOnP_nil, List.filterMap_append,
      List.filterMap_append, none, List.append_nil]

theorem labelAt?_isSome_iff {architecture : Architecture} {text : List Char} {address : Int} :
    ((parse architecture text).labelAt? address).isSome = true ↔
      Labels.IsTarget architecture.family (parseInstructions architecture text) address :=
  (Labels.ranked_ofInstructions _ _).labelled address

/-- The order of the labels of a parsed text is that of their addresses. -/
theorem number_lt_number_iff {architecture : Architecture} {text : List Char} {left right : Int}
    {leftLabel rightLabel : List Char}
    (leftKnown : (parse architecture text).labelAt? left = some leftLabel)
    (rightKnown : (parse architecture text).labelAt? right = some rightLabel) :
    Labels.number leftLabel < Labels.number rightLabel ↔ left < right :=
  (Labels.ranked_ofInstructions _ _).number_lt_number_iff leftKnown rightKnown

/-- A text whose last line has ended and any other text make the listing of both: the instructions of
the one and then of the other, all labelled addresses of either, and the labels of the first in the
order they had. -/
theorem listings_compose (architecture : Architecture) (front back : List Char)
    (ended : EndsLine front) :
    let first := parse architecture front
    let second := parse architecture back
    let whole := parse architecture (front ++ back)
    whole.instructions = first.instructions ++ second.instructions ∧
    (∀ address, (first.labelAt? address).isSome ∨ (second.labelAt? address).isSome →
      (whole.labelAt? address).isSome) ∧
    ∀ left right leftBefore rightBefore, first.labelAt? left = some leftBefore →
      first.labelAt? right = some rightBefore →
      ∃ leftAfter rightAfter, whole.labelAt? left = some leftAfter ∧
        whole.labelAt? right = some rightAfter ∧
        (Labels.number leftBefore < Labels.number rightBefore ↔
          Labels.number leftAfter < Labels.number rightAfter) := by
  intro first second whole
  have instructions : parseInstructions architecture (front ++ back) =
      parseInstructions architecture front ++ parseInstructions architecture back :=
    parseInstructions_append architecture ended back
  have labelled : ∀ address,
      (first.labelAt? address).isSome ∨ (second.labelAt? address).isSome →
        (whole.labelAt? address).isSome := by
    intro address either
    rw [labelAt?_isSome_iff, labelAt?_isSome_iff] at either
    rw [labelAt?_isSome_iff, instructions]
    rcases either with inFront | inBack
    · exact inFront.mono (List.subset_append_left _ _)
    · exact inBack.mono (List.subset_append_right _ _)
  refine ⟨instructions, labelled, ?_⟩
  intro left right leftBefore rightBefore leftKnown rightKnown
  obtain ⟨leftAfter, leftFound⟩ := Option.isSome_iff_exists.mp
    (labelled left (Or.inl (by rw [leftKnown]; rfl)))
  obtain ⟨rightAfter, rightFound⟩ := Option.isSome_iff_exists.mp
    (labelled right (Or.inl (by rw [rightKnown]; rfl)))
  refine ⟨leftAfter, rightAfter, leftFound, rightFound, ?_⟩
  exact (number_lt_number_iff leftKnown rightKnown).trans
    (number_lt_number_iff leftFound rightFound).symm

/-- The two halves of a line break fall to different texts, and a label gives way to a smaller one. -/
theorem divided_break_composes :
    let front := "0x12: dec %ecx\r\n0x14: jnz 0x12\r".toList
    let back := "\n0x10: jmp 0x10".toList
    EndsLine front ∧ ((parse .x64 front).labelAt? 0x12).isSome = true ∧
      (parse .x64 (front ++ back)).instructions =
        (parse .x64 front).instructions ++ (parse .x64 back).instructions ∧
      ((parse .x64 (front ++ back)).labelAt? 0x12).isSome = true := by
  intro front back
  have ended : EndsLine front := by decide
  have labelled : ((parse .x64 front).labelAt? 0x12).isSome = true := by decide
  obtain ⟨instructions, more, _⟩ := listings_compose .x64 front back ended
  exact ⟨ended, labelled, instructions, more 0x12 (Or.inl labelled)⟩

end Disassembly.Listing
