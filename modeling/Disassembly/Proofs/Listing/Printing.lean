import Disassembly.Proofs.Listing.Composition
import Disassembly.Proofs.Listing.Rereading

/-!
Listings printed and read again. What an instruction has from its line, the margin in front and the
comment at the end, holds no line break, since the lines of a text hold none, and no blank ends the
comment, since none ends the line. So every printed instruction keeps its place and its characters
among the others, and the listing of the printed instructions is the one they came from, labels
included.
-/

namespace Disassembly.Line

open Text

/-- A comment on one line goes on to the end of the line. -/
theorem leadingComment_of_oneLine (family : Family) {tail : List Char} (oneLine : '\n' ∉ tail) :
    leadingComment family tail = [] ∨ leadingComment family tail = tail := by
  obtain ⟨junk, ending⟩ := ending_leadingComment family tail
  by_cases marked : Marked family tail
  · rcases (ending.marked marked).2 with none | lineFeed
    · right
      conv_rhs => rw [ending.cut, none, List.append_nil]
    · obtain ⟨more, shape⟩ := List.head?_eq_some_iff.mp lineFeed
      exact absurd (by rw [ending.cut, shape]; simp) oneLine
  · exact Or.inl (ending.unmarked marked)

/-- The margin of a line is its front, and on one line the comment is the end. -/
theorem margin_and_comment_of_read {family : Family} {text : List Char} {line : Line}
    (isRead : Line.read family text = some line) (oneLine : '\n' ∉ text) :
    line.margin <+: text ∧ (line.comment = [] ∨ line.comment <:+ text) := by
  unfold Line.read at isRead
  split at isRead
  · rename_i margin after found
    have located := locate_eq_some_iff.mp found
    obtain ⟨blanks, first, rest, opening⟩ := exists_opening isRead
    rw [opening.readMarked margin] at isRead
    rw [← Option.some.inj isRead]
    have body : first :: rest <:+ text := by
      rw [located.text_eq, opening.cut]
      exact ⟨margin ++ '0' :: 'x' :: (line.digits ++ ':' :: blanks), by simp⟩
    have ends : (first :: rest).dropWhile (continuesBody family) <:+ text :=
      (List.dropWhile_suffix _).trans body
    have noBreak : '\n' ∉ (first :: rest).dropWhile (continuesBody family) :=
      fun member => oneLine (ends.mem member)
    refine ⟨⟨_, located.text_eq.symm⟩, ?_⟩
    rcases leadingComment_of_oneLine family noBreak with none | whole
    · exact Or.inl none
    · exact Or.inr (by rw [whole]; exact ends)
  · cases isRead

end Disassembly.Line

namespace Disassembly.Listing

open Text

variable {architecture : Architecture} {text : List Char} {instruction : Instruction}

/-- An instruction without an empty operand at the end is printed as it was read, on a line that
stands among others. -/
theorem printed_of_mem (member : instruction ∈ parseInstructions architecture text)
    (last : instruction.operands.getLast? ≠ some []) :
    Instruction.WellFormed architecture.family instruction ∧ IsKept instruction.print := by
  rw [parseInstructions_eq] at member
  obtain ⟨piece, isPiece, parsed⟩ := List.mem_filterMap.mp member
  have wellFormed : Instruction.WellFormed architecture.family instruction :=
    ⟨Instruction.printable_of_parse parsed, last⟩
  have oneLine : IsOneLine (stripRight piece) := by
    intro character inLine
    exact not_of_mem_splitOnP isPiece character ((stripRight_isPrefix piece).mem inLine)
  obtain ⟨line, isRead, rfl⟩ := Option.map_eq_some_iff.mp parsed
  obtain ⟨front, ends⟩ := Line.margin_and_comment_of_read isRead fun lineFeed =>
    absurd (oneLine _ lineFeed) (by decide)
  have margin : IsOneLine line.margin := fun character inMargin =>
    oneLine character (front.mem inMargin)
  have comment : IsOneLine line.comment ∧ Trimmed line.comment := by
    rcases ends with none | ends
    · rw [none]
      exact ⟨by simp [IsOneLine], Trimmed.nil⟩
    · refine ⟨fun character inComment => oneLine character (ends.mem inComment), ?_, ?_⟩
      · intro character isFirst
        rcases wellFormed.comment with none | ⟨marked, _⟩
        · have empty : line.comment = [] := none
          rw [empty] at isFirst
          cases isFirst
        · exact (Bool.or_eq_false_iff.mp (marked.stop character isFirst)).2
      · intro character isLast
        obtain ⟨before, whole⟩ := ends
        apply stripRight_last piece
        rw [← whole, List.getLast?_append, Option.mem_def.mp isLast]
        rfl
  have filled := wellFormed.print_last comment.2
  exact ⟨wellFormed, Instruction.isOneLine_print wellFormed.toPrintable margin comment.1,
    filled.1, filled.2⟩

/-- The printed instructions of a listing are read back as the same listing. -/
theorem printed_instructions_are_read_back (architecture : Architecture) (text : List Char)
    (last : ∀ instruction ∈ parseInstructions architecture text,
      instruction.operands.getLast? ≠ some []) :
    parse architecture
      (joinLines ((parse architecture text).instructions.map Instruction.print)) =
        parse architecture text := by
  have read : parseInstructions architecture
      (joinLines ((parse architecture text).instructions.map Instruction.print)) =
        parseInstructions architecture text := by
    rw [parseInstructions, sourceLines_joinLines, List.filterMap_map]
    · refine (List.filterMap_congr fun instruction member => ?_).trans List.filterMap_some
      have wellFormed := (printed_of_mem member (last instruction member)).1
      rw [Function.comp, wellFormed.toPrintable.parse_print,
        Instruction.withoutFinalEmpty_of_last wellFormed.last]
    · intro line isLine
      obtain ⟨instruction, member, rfl⟩ := List.mem_map.mp isLine
      exact (printed_of_mem member (last instruction member)).2
  rw [parse, read]
  rfl

theorem annotated_loop_is_read_back :
    let text := "loop: 0x10: lock  dec (%rcx) ; count\u2028 0x14: jnz 0x10 \r\n".toList
    (∀ instruction ∈ parseInstructions .x64 text, instruction.operands.getLast? ≠ some []) ∧
    parse .x64 (joinLines ((parse .x64 text).instructions.map Instruction.print)) =
      parse .x64 text := by
  intro text
  have last : ∀ instruction ∈ parseInstructions .x64 text,
      instruction.operands.getLast? ≠ some [] := by decide
  exact ⟨last, printed_instructions_are_read_back .x64 text last⟩

end Disassembly.Listing
