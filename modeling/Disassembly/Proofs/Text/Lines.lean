import Disassembly.Proofs.Text.Words
import Disassembly.Text.Lines

/-!
Lines and their breaks. A text without a break inside is one line, and texts of this kind are read
back from a text in which they are joined, as long as the last of them has a character. Whoever passes
over empty lines sees what lies between the breaks, so that it makes no difference which of them belong
together.
-/

namespace Disassembly.Text

def IsOneLine (text : List Char) : Prop := ∀ character ∈ text, isLineBreak character = false

instance (text : List Char) : Decidable (IsOneLine text) :=
  inferInstanceAs (Decidable (∀ character ∈ text, isLineBreak character = false))

theorem isBlank_of_isLineBreak {character : Char} (breaks : isLineBreak character = true) :
    isBlank character = true := by
  simp only [isLineBreak, Bool.or_eq_true, Bool.and_eq_true, decide_eq_true_eq, beq_iff_eq]
    at breaks
  simp only [isBlank, Ranges.has_iff, blankRanges, List.mem_cons, List.not_mem_nil, or_false,
    exists_eq_or_imp, exists_eq_left]
  omega

theorem not_isLineBreak_of_not_isBlank {character : Char} (kind : isBlank character = false) :
    isLineBreak character = false := by
  cases breaks : isLineBreak character with
  | false => rfl
  | true =>
      rw [isBlank_of_isLineBreak breaks] at kind
      cases kind

theorem isOneLine_append {left right : List Char} :
    IsOneLine (left ++ right) ↔ IsOneLine left ∧ IsOneLine right :=
  List.forall_mem_append

theorem linesAfter_cons {character : Char} (goesOn : isLineBreak character = false)
    (current rest : List Char) :
    linesAfter current (character :: rest) = linesAfter (character :: current) rest := by
  rw [linesAfter, goesOn]
  · rfl
  · rintro _ rfl
    exact absurd goesOn (by decide)

/-- A line grows by every text that does not break it. -/
theorem linesAfter_append {text : List Char} (oneLine : IsOneLine text)
    (current rest : List Char) :
    linesAfter current (text ++ rest) = linesAfter (text.reverse ++ current) rest := by
  induction text generalizing current with
  | nil => rfl
  | cons character text induction =>
      obtain ⟨goesOn, later⟩ := List.forall_mem_cons.mp oneLine
      rw [List.cons_append, linesAfter_cons goesOn, induction later, List.reverse_cons,
        List.append_assoc]
      rfl

theorem lines_append_lineFeed {text : List Char} (oneLine : IsOneLine text)
    (rest : List Char) : lines (text ++ '\n' :: rest) = text :: lines rest := by
  rw [lines, linesAfter_append oneLine, List.append_nil, linesAfter]
  · rw [if_pos (by decide), List.reverse_reverse]
    rfl
  · rintro _ ⟨⟩

theorem lines_of_isOneLine {text : List Char} (oneLine : IsOneLine text) (filled : text ≠ []) :
    lines text = [text] := by
  have whole := linesAfter_append oneLine [] []
  rw [List.append_nil, List.append_nil] at whole
  rw [lines, whole, linesAfter, List.isEmpty_reverse, List.reverse_reverse,
    if_neg (by simpa using filled)]

theorem lines_joinLines {texts : List (List Char)} (oneLine : ∀ text ∈ texts, IsOneLine text)
    (last : texts.getLast? ≠ some []) : lines (joinLines texts) = texts := by
  induction texts with
  | nil => rfl
  | cons text rest induction =>
      obtain ⟨first, later⟩ := List.forall_mem_cons.mp oneLine
      by_cases more : rest = []
      · subst more
        rw [joinLines, List.intercalate_singleton]
        exact lines_of_isOneLine first (by simpa using last)
      · rw [joinLines, List.intercalate_cons_of_ne_nil more, List.append_assoc,
          List.singleton_append, lines_append_lineFeed first]
        rw [List.getLast?_cons_of_ne_nil more] at last
        rw [← joinLines, induction later last]

/-! Lines as what lies between breaks. -/

/-- A break ends the line before it. A second one that belongs to it only adds an empty line. -/
theorem filterMap_linesAfter_break {Item : Type} {read : List Char → Option Item}
    (silent : read [] = none) {mark : Char} (breaks : isLineBreak mark = true)
    (current rest : List Char) :
    (linesAfter current (mark :: rest)).filterMap read =
      (read current.reverse).toList ++ (lines rest).filterMap read := by
  have more : ∀ later : List (List Char), (current.reverse :: later).filterMap read =
      (read current.reverse).toList ++ later.filterMap read := by
    intro later
    rw [List.filterMap_cons]
    cases read current.reverse <;> rfl
  by_cases pair : ∃ behind, mark = '\r' ∧ rest = '\n' :: behind
  · obtain ⟨behind, rfl, rfl⟩ := pair
    have empty : lines ([] ++ '\n' :: behind) = [] :: lines behind :=
      lines_append_lineFeed (by simp [IsOneLine]) behind
    rw [List.nil_append] at empty
    rw [linesAfter, more, empty, List.filterMap_cons_none silent]
    rfl
  · rw [linesAfter, if_pos breaks, more]
    · rfl
    · intro behind isReturn same
      exact pair ⟨behind, isReturn, same⟩

theorem filterMap_lines {Item : Type} {read : List Char → Option Item} (silent : read [] = none)
    (text : List Char) :
    (lines text).filterMap read = (text.splitOnP isLineBreak).filterMap read := by
  induction text using run_induction isLineBreak with
  | run run oneLine =>
      rw [List.splitOnP_eq_singleton oneLine]
      by_cases empty : run = []
      · rw [empty, List.filterMap_cons_none silent]
        rfl
      · rw [lines_of_isOneLine oneLine empty]
  | cut run mark rest oneLine breaks induction =>
      rw [lines, linesAfter_append oneLine, filterMap_linesAfter_break silent breaks, induction,
        List.splitOnP_append_cons _ _ breaks, List.splitOnP_eq_singleton oneLine,
        List.append_nil, List.reverse_reverse, List.singleton_append, List.filterMap_cons]
      cases read run <;> rfl

theorem not_of_mem_splitOnP {isMark : Char → Bool} {text piece : List Char}
    (member : piece ∈ text.splitOnP isMark) : ∀ character ∈ piece, isMark character = false := by
  induction text using run_induction isMark with
  | run run inside =>
      rw [List.splitOnP_eq_singleton inside] at member
      rw [List.mem_singleton.mp member]
      exact inside
  | cut run mark rest inside marks induction =>
      rw [List.splitOnP_append_cons _ _ marks, List.splitOnP_eq_singleton inside] at member
      rcases List.mem_append.mp member with first | later
      · rw [List.mem_singleton.mp first]
        exact inside
      · exact induction later

/-! Line feeds in the place of other breaks. -/

theorem linesAfter_break {mark : Char} (breaks : isLineBreak mark = true) (current : List Char)
    {rest : List Char} (alone : ∀ behind, mark = '\r' → rest = '\n' :: behind → False) :
    linesAfter current (mark :: rest) = current.reverse :: lines rest := by
  rw [linesAfter, if_pos breaks]
  · rfl
  · exact alone

theorem linesAfter_unifyLineFeeds (current text : List Char) :
    linesAfter current (unifyLineFeeds text) = linesAfter current text := by
  fun_induction unifyLineFeeds text generalizing current with
  | case1 => rfl
  | case2 rest induction =>
      rw [linesAfter_break (by decide) current (by rintro _ ⟨⟩), linesAfter, lines, induction]
  | case3 character rest notPair induction =>
      by_cases isReturn : character = '\r'
      · subst isReturn
        rw [if_pos rfl, linesAfter_break (by decide) current (by rintro _ ⟨⟩),
          linesAfter_break (by decide) current notPair, lines, induction, lines]
      · rw [if_neg isReturn]
        cases breaks : isLineBreak character with
        | true =>
            rw [linesAfter_break breaks current fun _ same => absurd same isReturn,
              linesAfter_break breaks current fun _ same => absurd same isReturn, lines, induction,
              lines]
        | false => rw [linesAfter_cons breaks, linesAfter_cons breaks, induction]

/-- The breaks that become line feeds end the same lines as before. -/
theorem lines_unifyLineFeeds (text : List Char) : lines (unifyLineFeeds text) = lines text :=
  linesAfter_unifyLineFeeds [] text

end Disassembly.Text
