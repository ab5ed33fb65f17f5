import Disassembly.Proofs.Line.Margin
import Disassembly.Proofs.Text.Hexadecimal
import Disassembly.Proofs.Text.Words

/-!
The grammar of instruction lines. Behind the margin and the mark stand digits, a colon, blanks and a
body that is as long as it can be; a comment follows where one of the family's markers stands, and
reaches to the line feed. A line is read exactly if it has that form, and the parts that are read make
up the line again, except for what stands behind the comment or, where there is none, behind the body.
-/

namespace Disassembly.Line

open Text

def commentMarkers : Family → List (List Char)
  | .x86 => [[';'], ['#']]
  | .arm => [[';'], ['/', '/']]

def Marked (family : Family) (text : List Char) : Prop :=
  ∃ marker ∈ commentMarkers family, marker <+: text

instance (family : Family) (text : List Char) : Decidable (Marked family text) :=
  inferInstanceAs (Decidable (∃ marker ∈ commentMarkers family, marker <+: text))

/-- What follows the mark of an address on an instruction line, up to the start of the body. -/
structure Opening (family : Family) (after digits blanks : List Char) (first : Char)
    (rest : List Char) : Prop where
  cut : after = digits ++ ':' :: (blanks ++ first :: rest)
  numeral : digits ≠ [] ∧ ∀ digit ∈ digits, isHexDigit digit = true
  separated : blanks ≠ [] ∧ ∀ blank ∈ blanks, isBlank blank = true
  starts : isBodyCharacter family first = true

/-- How the text behind a body falls into the comment and what is passed over. -/
structure Ending (family : Family) (tail comment junk : List Char) : Prop where
  cut : tail = comment ++ junk
  marked : Marked family tail → '\n' ∉ comment ∧ (junk = [] ∨ junk.head? = some '\n')
  unmarked : ¬Marked family tail → comment = []

theorem isBlank_of_isBodyCharacter {family : Family} {character : Char}
    (body : isBodyCharacter family character = true) : isBlank character = false := by
  rcases Bool.or_eq_true_iff.mp body with alphanumeric | mark
  · exact isBlank_of_isAlphanum alphanumeric
  · have marks : ∀ mark ∈ bodyMarks family, isBlank mark = false := by
      cases family <;> decide
    exact marks character (by simpa using mark)

theorem startsComment_iff (family : Family) (text : List Char) :
    startsComment family text = true ↔ Marked family text := by
  simp only [Marked]
  cases family with
  | x86 =>
      cases text with
      | nil => simp [startsComment, commentMarkers]
      | cons first rest =>
          simp only [startsComment, commentMarkers, Bool.or_eq_true, decide_eq_true_eq,
            List.mem_cons, List.not_mem_nil, or_false, exists_eq_or_imp, exists_eq_left,
            List.cons_prefix_cons, List.nil_prefix, and_true]
          exact or_congr eq_comm eq_comm
  | arm =>
      simp only [commentMarkers, List.mem_cons, List.not_mem_nil, or_false, exists_eq_or_imp,
        exists_eq_left]
      unfold startsComment
      split
      · contradiction
      · simp
      · simp
      · rename_i noSemicolon noSlashes
        simp only [Bool.false_eq_true, false_iff, not_or]
        constructor
        · rintro ⟨rest, rfl⟩
          exact noSemicolon rest rfl rfl
        · rintro ⟨rest, rfl⟩
          exact noSlashes rest rfl rfl

theorem continuesBody_of_isBodyCharacter {family : Family} {character : Char}
    (body : isBodyCharacter family character = true) : continuesBody family character = true := by
  rw [continuesBody, body, Bool.true_or]

theorem isBodyCharacter_of_continuesBody {family : Family} {character : Char}
    (body : continuesBody family character = true) (kind : isBlank character = false) :
    isBodyCharacter family character = true := by
  rwa [continuesBody, kind, Bool.or_false] at body

/-- The digits of an address end at the colon, and the blanks behind it at the body. -/
theorem Opening.readMarked {family : Family} {after digits blanks rest : List Char} {first : Char}
    (opening : Opening family after digits blanks first rest) (margin : List Char) :
    readMarked family margin after = some ⟨margin, digits,
      (first :: rest).takeWhile (continuesBody family),
      leadingComment family ((first :: rest).dropWhile (continuesBody family))⟩ := by
  have numeral : LongestRun isHexDigit after digits (':' :: (blanks ++ first :: rest)) := by
    refine ⟨opening.cut, opening.numeral.2, ?_⟩
    intro character member
    rw [← (Option.mem_some_iff.mp member : ':' = character)]
    decide
  have separation : LongestRun isBlank (blanks ++ first :: rest) blanks (first :: rest) := by
    refine ⟨rfl, opening.separated.2, ?_⟩
    intro character member
    rw [← (Option.mem_some_iff.mp member : first = character)]
    exact isBlank_of_isBodyCharacter opening.starts
  have blankFirst : (blanks ++ first :: rest).head?.any isBlank = true := by
    obtain ⟨blank, more, same⟩ := List.exists_cons_of_ne_nil opening.separated.1
    have kind := opening.separated.2 blank (by rw [same]; simp)
    rw [same, List.cons_append, List.head?_cons]
    exact kind
  rw [Line.readMarked, numeral.takeWhile_eq, numeral.dropWhile_eq]
  simp only [separation.dropWhile_eq, blankFirst, List.head?_cons, Option.any_some,
    opening.starts]
  simp [opening.numeral.1]

/-- Where a line is read, what follows its mark has the form of the grammar. -/
theorem exists_opening {family : Family} {margin after : List Char} {line : Line}
    (found : readMarked family margin after = some line) :
    ∃ blanks first rest, Opening family after line.digits blanks first rest := by
  have numeral := longestRun_takeWhile isHexDigit after
  unfold readMarked at found
  split at found
  · rename_i separated colon
    have separation := longestRun_takeWhile isBlank separated
    dsimp only at found
    split at found
    · rename_i accepted
      simp only [Bool.and_eq_true, Bool.not_eq_true', List.isEmpty_eq_false_iff] at accepted
      obtain ⟨⟨filled, blankFirst⟩, bodyFirst⟩ := accepted
      obtain ⟨first, isFirst, starts⟩ := (Option.any_eq_true _ _).mp bodyFirst
      obtain ⟨rest, content⟩ := List.head?_eq_some_iff.mp isFirst
      obtain ⟨blank, isSeparator, kind⟩ := (Option.any_eq_true _ _).mp blankFirst
      obtain ⟨more, front⟩ := List.head?_eq_some_iff.mp isSeparator
      rw [← Option.some.inj found]
      refine ⟨separated.takeWhile isBlank, first, rest, ?_, ⟨filled, numeral.within⟩,
        ⟨?_, separation.within⟩, starts⟩
      · rw [← content, ← separation.cut, ← colon]
        exact numeral.cut
      · rw [front, List.takeWhile_cons_of_pos kind]
        exact List.cons_ne_nil _ _
    · simp at found
  · simp at found

theorem ending_leadingComment (family : Family) (tail : List Char) :
    ∃ junk, Ending family tail (leadingComment family tail) junk := by
  unfold leadingComment
  split
  · rename_i starts
    have comment := longestRun_takeWhile (· != '\n') tail
    refine ⟨tail.dropWhile (· != '\n'), comment.cut, fun _ => ⟨?_, ?_⟩, ?_⟩
    · intro member
      simpa using comment.within '\n' member
    · cases junk : tail.dropWhile (· != '\n') with
      | nil => exact Or.inl rfl
      | cons first junk =>
          have stop := comment.stop first (by rw [junk]; rfl)
          exact Or.inr (by simpa using stop)
    · intro unmarked
      exact absurd ((startsComment_iff family tail).mp starts) unmarked
  · rename_i starts
    refine ⟨tail, rfl, fun marked => ?_, fun _ => rfl⟩
    exact absurd ((startsComment_iff family tail).mpr marked) starts

/-- What is passed over behind a line: nothing, or a rest from a line feed on, or, where no comment
is, a rest that neither goes on with the body nor begins a comment. -/
theorem Ending.junk_cases {family : Family} {tail comment junk : List Char}
    (ending : Ending family tail comment junk)
    (stop : ∀ character ∈ tail.head?, continuesBody family character = false) :
    junk = [] ∨ junk.head? = some '\n' ∨ comment = [] ∧ ¬Marked family junk ∧
      ∃ character ∈ junk.head?, continuesBody family character = false := by
  by_cases marked : Marked family tail
  · rcases (ending.marked marked).2 with none | lineFeed
    · exact Or.inl none
    · exact Or.inr (Or.inl lineFeed)
  · have none := ending.unmarked marked
    have same : tail = junk := by rw [ending.cut, none, List.nil_append]
    subst same
    cases tail with
    | nil => exact Or.inl rfl
    | cons first junk =>
        exact Or.inr (Or.inr ⟨none, marked, first, rfl, stop first rfl⟩)

/-! Lines that are written. -/

def IsComment (family : Family) (comment : List Char) : Prop :=
  comment = [] ∨ Marked family comment ∧ '\n' ∉ comment

instance (family : Family) (comment : List Char) : Decidable (IsComment family comment) :=
  inferInstanceAs (Decidable (comment = [] ∨ Marked family comment ∧ '\n' ∉ comment))

theorem marker_stops_body (family : Family) : ∀ marker ∈ commentMarkers family,
    '\n' ∉ marker ∧ ∃ character ∈ marker.head?, continuesBody family character = false := by
  cases family <;> decide

theorem Marked.stop {family : Family} {text : List Char} (marked : Marked family text) :
    ∀ character ∈ text.head?, continuesBody family character = false := by
  obtain ⟨marker, isMarker, more, rfl⟩ := marked
  obtain ⟨_, first, isFirst, outside⟩ := marker_stops_body family marker isMarker
  intro character member
  rw [List.head?_append, Option.mem_def.mp isFirst] at member
  rw [← (Option.mem_some_iff.mp member : first = character)]
  exact outside

theorem leadingComment_of_isComment {family : Family} {comment : List Char}
    (isComment : IsComment family comment) : leadingComment family comment = comment := by
  rcases isComment with rfl | ⟨marked, oneLine⟩
  · unfold leadingComment
    split <;> rfl
  · rw [leadingComment, if_pos ((startsComment_iff family comment).mpr marked),
      List.takeWhile_eq_self_iff]
    intro character member
    simp only [bne_iff_ne]
    rintro rfl
    exact oneLine member

theorem isComment_leadingComment (family : Family) (tail : List Char) :
    IsComment family (leadingComment family tail) := by
  unfold leadingComment
  split
  · rename_i starts
    obtain ⟨marker, isMarker, more, rfl⟩ := (startsComment_iff family tail).mp starts
    have oneLine := (marker_stops_body family marker isMarker).1
    have inside : ∀ character ∈ marker, (character != '\n') = true := by
      intro character member
      simp only [bne_iff_ne]
      rintro rfl
      exact oneLine member
    refine Or.inr ⟨⟨marker, isMarker, ?_⟩, fun member => ?_⟩
    · rw [List.takeWhile_append_of_pos inside]
      exact List.prefix_append _ _
    · simpa using List.mem_takeWhile_imp member
  · exact Or.inl rfl

structure Readable (family : Family) (line : Line) : Prop where
  margin : IsMargin line.margin
  numeral : line.digits ≠ [] ∧ ∀ digit ∈ line.digits, isHexDigit digit = true
  starts : ∃ first ∈ line.body.head?, isBodyCharacter family first = true
  goesOn : ∀ character ∈ line.body, continuesBody family character = true
  comment : IsComment family line.comment

def text (line : Line) : List Char :=
  line.margin ++ '0' :: 'x' :: (line.digits ++ ':' :: ' ' :: (line.body ++ line.comment))

theorem readable_of_read {family : Family} {text : List Char} {line : Line}
    (isRead : Line.read family text = some line) : Readable family line := by
  unfold Line.read at isRead
  split at isRead
  · rename_i margin after found
    obtain ⟨blanks, first, rest, opening⟩ := exists_opening isRead
    have body := longestRun_takeWhile (continuesBody family) (first :: rest)
    rw [opening.readMarked margin] at isRead
    rw [← Option.some.inj isRead]
    refine ⟨(locate_eq_some_iff.mp found).isMargin, opening.numeral, ⟨first, ?_, opening.starts⟩,
      body.within, isComment_leadingComment family _⟩
    rw [List.takeWhile_cons_of_pos (continuesBody_of_isBodyCharacter opening.starts)]
    rfl
  · simp at isRead

theorem Readable.read_text {family : Family} {line : Line} (readable : Readable family line) :
    Line.read family line.text = some line := by
  obtain ⟨margin, digits, body, comment⟩ := line
  obtain ⟨isMargin, numeral, ⟨first, isFirst, starts⟩, goesOn, isComment⟩ := readable
  obtain ⟨rest, rfl⟩ := List.head?_eq_some_iff.mp isFirst
  have opening : Opening family (digits ++ ':' :: ' ' :: (first :: rest ++ comment)) digits [' ']
      first (rest ++ comment) :=
    ⟨rfl, numeral, ⟨List.cons_ne_nil _ _, by decide⟩, starts⟩
  have longest : LongestRun (continuesBody family) (first :: (rest ++ comment)) (first :: rest)
      comment := by
    refine ⟨rfl, goesOn, ?_⟩
    rcases isComment with rfl | ⟨marked, _⟩
    · simp
    · exact marked.stop
  rw [Line.read, text, locate_eq_some_iff.mpr (isMargin.located _)]
  simp only [opening.readMarked margin, longest.takeWhile_eq, longest.dropWhile_eq,
    leadingComment_of_isComment isComment]

/-- Every text has no mark of an address and is not read, or it has a margin; with a margin it is
read exactly if digits, a colon, blanks and a first character of a body follow the mark. The parts
that are read are those of the text: the value of the digits, the longest body, the comment up to a
line feed. Only what is behind them is lost. -/
theorem read_follows_grammar (architecture : Architecture) (text : List Char) :
    (¬['0', 'x'] <+: text ∧ ¬[' ', '0', 'x'] <:+: text ∧ read architecture.family text = none) ∨
    ∃ margin after, Located text margin after ∧
      ((read architecture.family text).isSome = true ↔
        ∃ digits blanks first rest, Opening architecture.family after digits blanks first rest) ∧
      ∀ digits blanks first rest, Opening architecture.family after digits blanks first rest →
        ∃ line tail junk, read architecture.family text = some line ∧
          line.margin = margin ∧ line.digits = digits ∧
          line.address = Nat.ofDigits 16 (digits.reverse.map hexDigitValue) ∧
          LongestRun (continuesBody architecture.family) (first :: rest) line.body tail ∧
          Ending architecture.family tail line.comment junk ∧
          text = line.margin ++ ['0', 'x'] ++ line.digits ++ [':'] ++ blanks ++ line.body ++
            line.comment ++ junk ∧
          (junk = [] ∨ junk.head? = some '\n' ∨
            line.comment = [] ∧ ¬Marked architecture.family junk ∧
              ∃ character ∈ junk.head?, continuesBody architecture.family character = false) := by
  cases found : locate text with
  | none =>
      obtain ⟨notFront, noMark⟩ := (locate_eq_none_iff text).mp found
      exact Or.inl ⟨notFront, noMark, by rw [read, found]⟩
  | some parts =>
      obtain ⟨margin, after⟩ := parts
      have located := locate_eq_some_iff.mp found
      have marked : read architecture.family text =
          readMarked architecture.family margin after := by rw [read, found]
      refine Or.inr ⟨margin, after, located, ⟨?_, ?_⟩, ?_⟩
      · intro isRead
        obtain ⟨line, same⟩ := Option.isSome_iff_exists.mp isRead
        rw [marked] at same
        exact ⟨line.digits, exists_opening same⟩
      · rintro ⟨digits, blanks, first, rest, opening⟩
        rw [marked, opening.readMarked margin]
        rfl
      · intro digits blanks first rest opening
        have body := longestRun_takeWhile (continuesBody architecture.family) (first :: rest)
        obtain ⟨junk, ending⟩ := ending_leadingComment architecture.family
          ((first :: rest).dropWhile (continuesBody architecture.family))
        refine ⟨_, _, junk, marked.trans (opening.readMarked margin), rfl, rfl,
          readHex_eq_ofDigits digits, body, ending, ?_, ending.junk_cases body.stop⟩
        rw [located.text_eq, opening.cut]
        conv_lhs => rw [body.cut, ending.cut]
        simp only [List.append_assoc, List.cons_append, List.nil_append]

end Disassembly.Line
