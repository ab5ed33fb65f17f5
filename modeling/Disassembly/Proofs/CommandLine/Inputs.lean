import Disassembly.Proofs.CommandLine.Output
import Disassembly.Proofs.CommandLine.Settings
import Disassembly.Proofs.Text.Utf8

/-!
Files and standard input. A text that is read from a file comes through its bytes, and its carriage
returns have become line feeds on the way; on standard input it comes as it is. Either way the lines
are the same, and nothing else of a text is looked at, so a call leaves the same output and the same
notices. What is shown besides the output is all that `--verbose` decides.
-/

namespace Disassembly.CommandLine

open Text Reference Setting

theorem fileText_encode (text : List Char) : fileText (Utf8.encode text) = unifyLineFeeds text := by
  rw [fileText, Utf8.decodeLossy_encode]

/-- Only the lines of a text are looked at. -/
theorem runText_of_sourceLines {left right : List Char}
    (same : Listing.sourceLines left = Listing.sourceLines right) (options : Options) :
    runText options left = runText options right := by
  have instructions : Listing.parseInstructions options.architecture left =
      Listing.parseInstructions options.architecture right := by
    rw [Listing.parseInstructions, same, Listing.parseInstructions]
  have listing : Listing.parse options.architecture left =
      Listing.parse options.architecture right := by
    rw [Listing.parse, instructions, Listing.parse]
  have notices : readingNotices options.architecture left =
      readingNotices options.architecture right := by
    rw [readingNotices, same, instructions, readingNotices]
  rw [runText, listing, notices, runText]

theorem runText_unifyLineFeeds (options : Options) (text : List Char) :
    runText options (unifyLineFeeds text) = runText options text := by
  apply runText_of_sourceLines
  rw [Listing.sourceLines, lines_unifyLineFeeds, Listing.sourceLines]

def linesOf (options : Options) (text : List Char) : Except Markup.Refusal (List (List Char)) :=
  let listing := Listing.parse options.architecture text
  if options.describe then (listing.renderThrough Bundled.documents Store.empty).lines
  else .ok listing.renderPlain

/-- No bundled document is refused, so that there always are lines. -/
theorem exists_linesOf (options : Options) (text : List Char) :
    ∃ lines, linesOf options text = .ok lines := by
  rw [linesOf]
  split
  · rcases Bundled.exists_load_documents options.architecture.family with ⟨_, loaded, _⟩
    have found := (Store.holds_empty Bundled.documents).access_of_loaded loaded
    exact ⟨_, Listing.renderThrough_lines_of_access _ found⟩
  · exact ⟨_, rfl⟩

theorem runText_of_lines {options : Options} {text : List Char} {lines : List (List Char)}
    (isWritten : linesOf options text = .ok lines) :
    (runText options text).code = 0 ∧ (runText options text).output = writeLines lines := by
  rw [linesOf] at isWritten
  rw [runText]
  cases described : options.describe with
  | false =>
      rw [described] at isWritten
      cases isWritten
      exact ⟨rfl, rfl⟩
  | true =>
      simp only [described, if_true] at isWritten
      simp only [if_true, isWritten, writeLines, and_self]

/-- What a call does with a text, wherever the text is read from. -/
theorem call_of_text {arguments : List (List Char)} {options : Options} {surroundings : Surroundings}
    (understood : readArguments arguments = .run options) {text : List Char}
    (isRead : chooseInput surroundings options.input = .text text ∨
      chooseInput surroundings options.input = .file (Utf8.encode text)) :
    call surroundings arguments =
      .finished 0 (runText options text).output (shownNotices options (runText options text)) := by
  have outcome : run options (chooseInput surroundings options.input) = runText options text := by
    rcases isRead with typed | stored
    · rw [typed, run]
    · rw [stored, run, fileText_encode, runText_unifyLineFeeds]
  rcases exists_linesOf options text with ⟨lines, isWritten⟩
  have finished := (runText_of_lines isWritten).1
  rw [call_of_run understood, outcome, ← finished]

/-! Settings and the name of the input. -/

/-- Settings without the one that shows all notices. -/
def quiet (settings : List Setting) : List Setting :=
  settings.filter fun setting => setting ≠ .verbose

theorem quiet_append (before after : List Setting) :
    quiet (before ++ after) = quiet before ++ quiet after :=
  List.filter_append ..

theorem accepted_quiet {settings : List Setting}
    (accepted : ∀ setting ∈ settings, setting.Accepted) :
    ∀ setting ∈ quiet settings, setting.Accepted :=
  fun setting member => accepted setting (List.mem_of_mem_filter member)

/-- The name of the input and the showing of notices do not count for what is read and written. -/
structure SameWork (left right : Options) : Prop where
  architecture : left.architecture = right.architecture
  describe : left.describe = right.describe

theorem SameWork.runText_eq {left right : Options} (same : SameWork left right) (text : List Char) :
    runText left text = runText right text := by
  rw [runText, same.architecture, same.describe, runText]

theorem sameWork_quiet (settings : List Setting) (input other : List Char) :
    SameWork (options (quiet settings) input) (options settings other) := by
  -- Switching the notices on changes nothing that the other settings read.
  have step : ∀ (settings : List Setting) (left right : Understood),
      left.architecture = right.architecture → left.describe = right.describe →
        (applyAll left (quiet settings)).architecture = (applyAll right settings).architecture ∧
          (applyAll left (quiet settings)).describe = (applyAll right settings).describe := by
    intro settings
    induction settings with
    | nil => exact fun _ _ architecture describe => ⟨architecture, describe⟩
    | cons setting settings induction =>
        intro left right architecture describe
        cases setting with
        | verbose => exact induction left _ architecture describe
        | describe => exact induction _ _ architecture rfl
        | architecture name joined =>
            apply induction
            · simp only [apply]
              cases Architecture.ofName name
              · exact architecture
              · rfl
            · simp only [apply]
              cases Architecture.ofName name <;> exact describe
  obtain ⟨architecture, describe⟩ := step settings Understood.nothing Understood.nothing rfl rfl
  exact ⟨architecture, describe⟩

/-- A call on a file and a call on standard input with the same text and the same settings end alike,
with the lines of the listing as their output, however the breaks of the lines are written. Their
output is also that of the same calls without `--verbose`. -/
theorem file_and_standard_input_agree (before after : List Setting)
    (accepted : ∀ setting ∈ before ++ after, setting.Accepted) (name text : List Char)
    (noOption : name.head? ≠ some '-') (stored typed : Surroundings)
    (isFile : stored.file name = .file (Utf8.encode text)) (isTyped : typed.standardInput = text) :
    ∃ lines, linesOf (options (before ++ after) name) text = .ok lines ∧
      let output := lines.flatMap fun line => line ++ ['\n']
      (∃ notices,
        call stored (written before ++ name :: written after) = .finished 0 output notices ∧
        call typed (written (before ++ after)) = .finished 0 output notices ∧
        call typed (written before ++ ['-'] :: written after) = .finished 0 output notices) ∧
      (∃ notices, call stored (written (quiet before) ++ name :: written (quiet after)) =
          .finished 0 output notices ∧
        call typed (written (quiet (before ++ after))) = .finished 0 output notices) := by
  rcases exists_linesOf (options (before ++ after) name) text with ⟨lines, isWritten⟩
  refine ⟨lines, isWritten, ?_⟩
  intro output
  have readFile : chooseInput stored name = .file (Utf8.encode text) := by
    have named : name ≠ Understood.standardInput := by
      rintro rfl
      exact noOption rfl
    rw [chooseInput, if_neg named, isFile]
  have readTyped : chooseInput typed Understood.standardInput = .text text := by
    rw [chooseInput, if_pos rfl, isTyped]
  have acceptedQuiet : ∀ setting ∈ quiet before ++ quiet after, setting.Accepted := by
    rw [← quiet_append]
    exact accepted_quiet accepted
  have positional := shape_of_head noOption
  have lone : shape Understood.standardInput = .positional := by decide
  have sameQuiet := sameWork_quiet (before ++ after) name name
  have written_eq : (runText (options (before ++ after) name) text).output = output :=
    (runText_of_lines isWritten).2
  constructor
  · have onFile := call_of_text (readArguments_input accepted positional) (.inr readFile)
    have onTyped := call_of_text (readArguments_written accepted) (.inl readTyped)
    have onHyphen := call_of_text (readArguments_input accepted lone) (.inl readTyped)
    have same : SameWork (options (before ++ after) Understood.standardInput)
        (options (before ++ after) name) := ⟨rfl, rfl⟩
    rw [same.runText_eq] at onTyped onHyphen
    rw [written_eq] at onFile onTyped onHyphen
    exact ⟨_, onFile, onTyped, onHyphen⟩
  · have onFile := call_of_text (readArguments_input acceptedQuiet positional) (.inr readFile)
    have onTyped := call_of_text (readArguments_written (accepted_quiet accepted)) (.inl readTyped)
    have same := sameWork_quiet (before ++ after) Understood.standardInput name
    rw [← quiet_append, sameQuiet.runText_eq] at onFile
    rw [same.runText_eq] at onTyped
    rw [written_eq] at onFile onTyped
    exact ⟨_, onFile, onTyped⟩

/-- A mark of the byte order, a pair of breaks in one and a carriage return alone, under a name that
is normalised. -/
theorem marked_file_is_read_like_typed_text :
    let text := "\ufeff 0x10: b 0x10\r\n\r0x14: ret\r".toList
    let stored : Surroundings := ⟨[], fun _ => .file (Utf8.encode text)⟩
    let typed : Surroundings := ⟨text, fun _ => .missing⟩
    (∀ setting ∈ [.architecture " ARM-64".toList false] ++ [.verbose], Setting.Accepted setting) ∧
    ∃ notices,
      call stored ["--arch".toList, " ARM-64".toList, "l.txt".toList, "--verbose".toList] =
        .finished 0 ("L0000:\n  0x0000000000000010: b L0000\n" ++
          "  0x0000000000000014: ret\n").toList notices ∧
      call typed ["--arch".toList, " ARM-64".toList, "--verbose".toList] =
        .finished 0 ("L0000:\n  0x0000000000000010: b L0000\n" ++
          "  0x0000000000000014: ret\n").toList notices := by
  intro text stored typed
  have accepted : ∀ setting ∈ [.architecture " ARM-64".toList false] ++ [.verbose],
      Setting.Accepted setting := by
    intro setting member
    rcases List.mem_cons.mp member with rfl | isVerbose
    · exact ⟨.arm64, by decide⟩
    · rw [List.mem_singleton.mp isVerbose]
      trivial
  rcases file_and_standard_input_agree [.architecture " ARM-64".toList false] [.verbose] accepted
      "l.txt".toList text (by decide) stored typed rfl rfl with
    ⟨lines, isWritten, ⟨notices, onFile, onTyped, _⟩, _⟩
  have whole : linesOf (options [.architecture " ARM-64".toList false, .verbose]
      "l.txt".toList) text =
        .ok ["L0000:".toList, "  0x0000000000000010: b L0000".toList,
          "  0x0000000000000014: ret".toList] := by
    decide
  cases isWritten.symm.trans whole
  exact ⟨accepted, notices, onFile, onTyped⟩

end Disassembly.CommandLine
