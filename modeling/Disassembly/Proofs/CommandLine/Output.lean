import Disassembly.CommandLine
import Disassembly.Proofs.Listing.Rereading

/-!
What reaches the terminal. A text may hold any characters, in its margins, bodies and comments and
behind them, but a line of its listing is a label or an instruction behind two spaces, and is written
with visible characters of a body and with spaces. Margins and comments are not written at all, and
the blanks of a body, which may break lines or control a terminal, have become single spaces. So the
output of a call without descriptions has one line feed for each line and is printable otherwise.
-/

namespace Disassembly.Line

open Text

/-- The characters of bodies are visible ones of ASCII. -/
theorem bounds_of_isBodyCharacter {family : Family} {character : Char}
    (body : isBodyCharacter family character = true) :
    0x20 < character.toNat ∧ character.toNat < 0x7f := by
  rcases Bool.or_eq_true_iff.mp body with alphanumeric | mark
  · simp only [Char.isAlphanum, Char.isAlpha, Char.isUpper, Char.isLower, Char.isDigit,
      Bool.or_eq_true, Bool.and_eq_true, decide_eq_true_eq, ge_iff_le, UInt32.le_iff_toNat_le]
      at alphanumeric
    have same : character.val.toNat = character.toNat := rfl
    rw [same] at alphanumeric
    have upper : 'A'.val.toNat = 65 ∧ 'Z'.val.toNat = 90 := ⟨rfl, rfl⟩
    have lower : 'a'.val.toNat = 97 ∧ 'z'.val.toNat = 122 := ⟨rfl, rfl⟩
    have digits : '0'.val.toNat = 48 ∧ '9'.val.toNat = 57 := ⟨rfl, rfl⟩
    omega
  · have marks : ∀ mark ∈ bodyMarks family, 0x20 < mark.toNat ∧ mark.toNat < 0x7f := by
      cases family <;> decide
    exact marks character (by simpa using mark)

end Disassembly.Line

namespace Disassembly.Listing

open Text

/-- The two forms of a line: a label, or the address of an instruction and what follows it. -/
inductive LineForm : List Char → Prop where
  | label (digits : List Char) (wide : 4 ≤ digits.length)
      (decimal : ∀ digit ∈ digits, digit.isDigit = true) :
      LineForm (['L'] ++ digits ++ [':'])
  | instruction (digits : List Char) (first : Char) (rest : List Char)
      (wide : 16 ≤ digits.length) (numeral : ∀ digit ∈ digits, isHexDigit digit = true)
      (starts : first ≠ ' ') :
      LineForm ([' ', ' ', '0', 'x'] ++ digits ++ [':', ' '] ++ first :: rest)

structure IsVisible (family : Family) (character : Char) : Prop where
  body : Line.continuesBody family character = true
  visible : isBlank character = false
  ascii : character.toNat < 0x80

/-- A line that has one of the two forms and holds visible characters and spaces. -/
structure Harmless (family : Family) (line : List Char) : Prop where
  form : LineForm line
  characters : ∀ character ∈ line, character = ' ' ∨ IsVisible family character

theorem isVisible_of_isBodyCharacter {family : Family} {character : Char}
    (body : Line.isBodyCharacter family character = true) : IsVisible family character where
  body := Line.continuesBody_of_isBodyCharacter body
  visible := Line.isBlank_of_isBodyCharacter body
  ascii := Nat.lt_trans (Line.bounds_of_isBodyCharacter body).2 (by decide)

theorem isVisible_of_isAlphanum (family : Family) {character : Char}
    (alphanumeric : character.isAlphanum = true) : IsVisible family character :=
  isVisible_of_isBodyCharacter (by rw [Line.isBodyCharacter, alphanumeric, Bool.true_or])

theorem IsVisible.bounds {family : Family} {character : Char}
    (seen : IsVisible family character) : 0x20 < character.toNat ∧ character.toNat < 0x7f :=
  Line.bounds_of_isBodyCharacter (Line.isBodyCharacter_of_continuesBody seen.body seen.visible)

theorem Harmless.bounds {family : Family} {line : List Char} (harmless : Harmless family line) :
    ∀ character ∈ line, 0x20 ≤ character.toNat ∧ character.toNat < 0x7f := by
  intro character member
  rcases harmless.characters character member with rfl | seen
  · decide
  · exact ⟨Nat.le_of_lt seen.bounds.1, seen.bounds.2⟩

theorem harmless_of_isLabelLine (family : Family) {line : List Char}
    (isLabel : isLabelLine line = true) : Harmless family line := by
  obtain ⟨digits, rfl, wide, decimal⟩ := exists_digits_of_isLabelLine isLabel
  constructor
  case form => exact .label digits wide decimal
  case characters =>
    intro character member
    right
    rcases List.mem_cons.mp member with rfl | member
    · exact isVisible_of_isAlphanum family (by decide)
    · rcases List.mem_append.mp member with isDigit | isColon
      · exact isVisible_of_isAlphanum family (by simp [Char.isAlphanum, decimal character isDigit])
      · rw [List.mem_singleton.mp isColon]
        apply isVisible_of_isBodyCharacter
        cases family <;> decide

/-- The line of a printable instruction with two spaces for its margin and no comment. -/
theorem harmless_print {family : Family} {instruction : Instruction}
    (printable : Instruction.Printable family instruction)
    (margin : instruction.margin = [' ', ' ']) (comment : instruction.comment = []) :
    Harmless family instruction.print := by
  obtain ⟨value, address⟩ := Int.eq_ofNat_of_zero_le printable.address
  obtain ⟨first, isFirst, starts⟩ := printable.bodyText_starts
  obtain ⟨rest, body⟩ := List.head?_eq_some_iff.mp isFirst
  have digits := isHexDigit_of_mem_writeAddress value
  have line : instruction.print = [' ', ' ', '0', 'x'] ++ writeAddress (value : Int) ++ [':', ' '] ++
      instruction.bodyText := by
    rw [Instruction.print_eq_text, Line.text, Instruction.printedLine, address, margin, comment]
    simp
  rw [line]
  constructor
  case form =>
    rw [body]
    apply LineForm.instruction
    · rw [writeAddress_natCast, length_padLeft]
      exact Nat.le_max_left _ _
    · exact digits
    · rintro rfl
      exact absurd starts (by cases family <;> decide)
  case characters =>
    intro character member
    simp only [List.mem_append, List.mem_cons, List.not_mem_nil, or_false] at member
    rcases member with ((isMark | isDigit) | isSeparator) | inBody
    · rcases isMark with rfl | rfl | rfl | rfl
      · exact .inl rfl
      · exact .inl rfl
      · exact .inr (isVisible_of_isAlphanum family (by decide))
      · exact .inr (isVisible_of_isAlphanum family (by decide))
    · exact .inr (isVisible_of_isAlphanum family
        (Operand.isAlphanum_of_isHexDigit (digits character isDigit)))
    · rcases isSeparator with rfl | rfl
      · right
        apply isVisible_of_isBodyCharacter
        cases family <;> decide
      · exact .inl rfl
    · exact (printable.mem_bodyText character inBody).symm.imp_right isVisible_of_isBodyCharacter

theorem harmless_of_mem_renderPlain {architecture : Architecture} {text line : List Char}
    (member : line ∈ (parse architecture text).renderPlain) :
    Harmless architecture.family line := by
  obtain ⟨instruction, isInstruction, inBlock⟩ := List.mem_flatMap.mp member
  rcases List.mem_append.mp inBlock with isLabel | isLine
  · rw [labelLines_parse, Option.mem_toList, Option.map_eq_some_iff] at isLabel
    obtain ⟨label, known, rfl⟩ := isLabel
    exact harmless_of_isLabelLine _ (isLabelLine_of_labelAt? known)
  · rw [List.mem_singleton.mp isLine, ← print_reread]
    have fits : Fits none := by
      rintro description ⟨⟩
    exact harmless_print (printable_reread isInstruction fits) rfl rfl

end Disassembly.Listing

namespace Disassembly.CommandLine

open Text

def Input.text? : Input → Option (List Char)
  | .file bytes => some (fileText bytes)
  | .text content => some content
  | .missing | .directory | .denied => none

theorem run_of_text? {input : Input} {text : List Char} (readable : input.text? = some text)
    (options : Options) : run options input = runText options text := by
  cases input with
  | missing => cases readable
  | directory => cases readable
  | denied => cases readable
  | file bytes =>
      rw [← Option.some.inj readable]
      rfl
  | text content =>
      rw [← Option.some.inj readable]
      rfl

theorem output_of_unreadable {input : Input} (unreadable : input.text? = none)
    (options : Options) : (run options input).output = [] := by
  cases input with
  | missing => rfl
  | directory => rfl
  | denied => rfl
  | file bytes => cases unreadable
  | text content => cases unreadable

theorem call_of_run {arguments : List (List Char)} {options : Options}
    (understood : readArguments arguments = .run options) (surroundings : Surroundings) :
    call surroundings arguments =
      let outcome := run options (chooseInput surroundings options.input)
      .finished outcome.code outcome.output (shownNotices options outcome) := by
  rw [call, understood]

def writeLines (lines : List (List Char)) : List Char := lines.flatMap fun line => line ++ ['\n']

theorem count_writeLines {lines : List (List Char)} (unbroken : ∀ line ∈ lines, '\n' ∉ line) :
    (writeLines lines).count '\n' = lines.length := by
  induction lines with
  | nil => rfl
  | cons line rest induction =>
      obtain ⟨first, later⟩ := List.forall_mem_cons.mp unbroken
      have counted := induction later
      rw [writeLines] at counted
      rw [writeLines, List.flatMap_cons, List.count_append, List.count_append, counted,
        List.count_eq_zero_of_not_mem first, List.length_cons, List.count_singleton_self]
      omega

def plainLines (options : Options) (input : Input) : List (List Char) :=
  match input.text? with
  | some text => (Listing.parse options.architecture text).renderPlain
  | none => []

theorem output_of_plain {options : Options} (plain : options.describe = false) (input : Input) :
    (run options input).output = writeLines (plainLines options input) := by
  rw [plainLines]
  cases readable : input.text? with
  | none =>
      rw [output_of_unreadable readable]
      rfl
  | some text =>
      rw [run_of_text? readable, runText, plain]
      rfl

theorem harmless_of_mem_plainLines {options : Options} {input : Input} {line : List Char}
    (member : line ∈ plainLines options input) :
    Listing.Harmless options.architecture.family line := by
  rw [plainLines] at member
  split at member
  · exact Listing.harmless_of_mem_renderPlain member
  · cases member

/-- No text can reach the terminal with more than visible characters, spaces and the ends of its own
lines. Every line of a listing without descriptions has one of the two forms, with a mnemonic, and a
call writes each on one line of printable ASCII. -/
theorem plain_output_is_harmless :
    (∀ (architecture : Architecture) (text : List Char),
      (∀ instruction ∈ (Listing.parse architecture text).instructions,
        instruction.mnemonic ≠ []) ∧
      ∀ line ∈ (Listing.parse architecture text).renderPlain,
        Listing.Harmless architecture.family line) ∧
    ∀ (surroundings : Surroundings) (arguments : List (List Char)) (options : Options),
      readArguments arguments = .run options → options.describe = false →
      let lines := plainLines options (chooseInput surroundings options.input)
      ∃ code output notices, call surroundings arguments = .finished code output notices ∧
        output = lines.flatMap (fun line => line ++ ['\n']) ∧
        output.count '\n' = lines.length ∧
        ∀ character ∈ output, character = '\n' ∨ 0x20 ≤ character.toNat ∧ character.toNat < 0x7f := by
  constructor
  · intro architecture text
    constructor
    · intro instruction member
      obtain ⟨line, _, parsed⟩ := Listing.mem_parse_iff.mp member
      exact (Instruction.printable_of_parse parsed).mnemonic.1
    · intro line member
      exact Listing.harmless_of_mem_renderPlain member
  · intro surroundings arguments options understood plain lines
    have bounds : ∀ line ∈ lines, ∀ character ∈ line,
        0x20 ≤ character.toNat ∧ character.toNat < 0x7f :=
      fun line member => (harmless_of_mem_plainLines member).bounds
    refine ⟨_, _, _, call_of_run understood surroundings, output_of_plain plain _, ?_, ?_⟩
    · rw [output_of_plain plain]
      apply count_writeLines
      intro line member lineFeed
      exact absurd (bounds line member '\n' lineFeed) (by decide)
    · intro character member
      rw [output_of_plain plain] at member
      obtain ⟨line, isLine, inLine⟩ := List.mem_flatMap.mp member
      rcases List.mem_append.mp inLine with inside | atEnd
      · exact .inr (bounds line isLine character inside)
      · exact .inl (List.mem_singleton.mp atEnd)

/-- An escape sequence in the margin, a control for a blank in the body and a bell behind it. -/
theorem escape_sequences_are_not_written :
    let text := "\x1b[31m 0x10: b\x1f0x10\x07 ; \x1b[0m".toList
    readArguments ["--arch".toList, "arm64".toList] = .run ⟨['-'], .arm64, false, false⟩ ∧
    ∃ code output notices, call ⟨text, fun _ => .missing⟩ ["--arch".toList, "arm64".toList] =
        .finished code output notices ∧ output.count '\n' = 2 := by
  intro text
  have understood : readArguments ["--arch".toList, "arm64".toList] =
      .run ⟨['-'], .arm64, false, false⟩ := by decide
  obtain ⟨code, output, notices, finished, _, counted, _⟩ :=
    plain_output_is_harmless.2 ⟨text, fun _ => .missing⟩ _ _ understood rfl
  exact ⟨understood, code, output, notices, finished, counted.trans (by decide)⟩

end Disassembly.CommandLine
