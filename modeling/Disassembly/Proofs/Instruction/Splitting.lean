import Disassembly.Instruction.Body
import Disassembly.Proofs.Text.Words

/-!
The parts of a body, told without the pass that finds them. The words of a body are prefixes, a
mnemonic and the rest; the rest falls into operands at the commas where the count of open brackets,
taken from the start of the body, is zero. Every body with a word has such parts, and splitting finds
them, except that a last operand without a character is dropped.
-/

namespace Disassembly.Instruction

open Text

/-- Opening less closing brackets. -/
def bracketDepth (text : List Char) : Int :=
  (text.count '(' + text.count '[' : Nat) - (text.count ')' + text.count ']' : Nat)

/-- With `depth` brackets open in front, no comma of the text stands where none is open. -/
def KeepsCommas (depth : Int) (text : List Char) : Prop :=
  ∀ before after, text = before ++ ',' :: after → depth + bracketDepth before ≠ 0

/-- With `depth` brackets open in front, the commas between the pieces are those where no bracket is
open. -/
def Separates : Int → List (List Char) → Prop
  | _, [] => True
  | depth, piece :: rest =>
      KeepsCommas depth piece ∧ (rest ≠ [] → depth + bracketDepth piece = 0) ∧
        Separates (depth + bracketDepth piece) rest

structure Roles (words prefixes : List (List Char)) (mnemonic : List Char)
    (rest : List (List Char)) : Prop where
  cut : words = prefixes ++ mnemonic :: rest
  known : ∀ word ∈ prefixes, word ∈ knownPrefixes
  other : rest ≠ [] → mnemonic ∉ knownPrefixes

def withoutFinalEmpty (pieces : List (List Char)) : List (List Char) :=
  if pieces.getLast? = some [] then pieces.dropLast else pieces

@[simp] theorem bracketDepth_nil : bracketDepth [] = 0 := rfl

@[simp] theorem bracketDepth_cons (character : Char) (rest : List Char) :
    bracketDepth (character :: rest) = bracketStep character + bracketDepth rest := by
  by_cases bracket : character ∈ ['(', '[', ')', ']']
  · simp only [List.mem_cons, List.not_mem_nil, or_false] at bracket
    rcases bracket with rfl | rfl | rfl | rfl <;>
      simp [bracketDepth, bracketStep] <;> omega
  · simp only [List.mem_cons, List.not_mem_nil, or_false, not_or] at bracket
    simp [bracketDepth, bracketStep, bracket]

@[simp] theorem bracketDepth_append (left right : List Char) :
    bracketDepth (left ++ right) = bracketDepth left + bracketDepth right := by
  simp only [bracketDepth, List.count_append]
  omega

/-- The pass over a body counts the same, character by character. -/
theorem sum_map_bracketStep (text : List Char) :
    (text.map bracketStep).sum = bracketDepth text := by
  induction text with
  | nil => rfl
  | cons character rest induction =>
      rw [List.map_cons, List.sum_cons, induction, bracketDepth_cons]

/-- Characters of a class that has no bracket leave the count alone. -/
theorem bracketDepth_of_class (isInside : Char → Bool)
    (outside : ∀ bracket ∈ ['(', '[', ')', ']'], isInside bracket = false) {text : List Char}
    (inside : ∀ character ∈ text, isInside character = true) : bracketDepth text = 0 := by
  induction text with
  | nil => rfl
  | cons character rest induction =>
      obtain ⟨first, later⟩ := List.forall_mem_cons.mp inside
      have brackets : ∀ bracket ∈ ['(', '[', ')', ']'], character ≠ bracket := by
        rintro bracket member rfl
        rw [outside character member] at first
        exact Bool.false_ne_true first
      simp only [List.mem_cons, List.not_mem_nil, or_false, forall_eq_or_imp, forall_eq]
        at brackets
      simp [bracketStep, brackets, induction later]

theorem bracketDepth_blanks {blanks : List Char}
    (allBlank : ∀ character ∈ blanks, isBlank character = true) : bracketDepth blanks = 0 :=
  bracketDepth_of_class isBlank (by decide) allBlank

theorem bracketDepth_of_isAlphanum {text : List Char}
    (alphanumeric : ∀ character ∈ text, character.isAlphanum = true) : bracketDepth text = 0 :=
  bracketDepth_of_class Char.isAlphanum (by decide) alphanumeric

/-! Commas that separate and commas that do not. -/

theorem keepsCommas_nil (depth : Int) : KeepsCommas depth [] := by
  intro before after split
  simp at split

theorem keepsCommas_cons (depth : Int) (character : Char) (rest : List Char) :
    KeepsCommas depth (character :: rest) ↔
      (character = ',' → depth ≠ 0) ∧ KeepsCommas (depth + bracketStep character) rest := by
  constructor
  · intro keeps
    constructor
    · rintro rfl
      simpa using keeps [] rest rfl
    · intro before after split
      have outside := keeps (character :: before) after (by rw [split, List.cons_append])
      rwa [bracketDepth_cons, ← Int.add_assoc] at outside
  · rintro ⟨here, later⟩ before after split
    cases before with
    | nil =>
        rw [bracketDepth_nil, Int.add_zero]
        exact here (List.cons.inj split).1
    | cons first before =>
        obtain ⟨rfl, same⟩ := List.cons.inj split
        rw [bracketDepth_cons, ← Int.add_assoc]
        exact later before after same

theorem keepsCommas_append (depth : Int) (left right : List Char) :
    KeepsCommas depth (left ++ right) ↔
      KeepsCommas depth left ∧ KeepsCommas (depth + bracketDepth left) right := by
  induction left generalizing depth with
  | nil => simp [keepsCommas_nil]
  | cons first left induction =>
      rw [List.cons_append, keepsCommas_cons, keepsCommas_cons, induction, bracketDepth_cons,
        Int.add_assoc, and_assoc]

instance decidableKeepsCommas : ∀ depth text, Decidable (KeepsCommas depth text)
  | depth, [] => isTrue (keepsCommas_nil depth)
  | depth, character :: rest =>
      have := decidableKeepsCommas (depth + bracketStep character) rest
      decidable_of_iff _ (keepsCommas_cons depth character rest).symm

instance decidableSeparates : ∀ depth pieces, Decidable (Separates depth pieces)
  | _, [] => isTrue trivial
  | depth, piece :: rest =>
      have := decidableSeparates (depth + bracketDepth piece) rest
      inferInstanceAs (Decidable (_ ∧ _ ∧ _))

/-- Every text falls into pieces at the commas where no bracket is open. -/
theorem exists_separates (depth : Int) (text : List Char) :
    ∃ pieces, pieces ≠ [] ∧ List.intercalate [','] pieces = text ∧ Separates depth pieces := by
  induction text generalizing depth with
  | nil => exact ⟨[[]], by simp, by simp, keepsCommas_nil depth, by simp, trivial⟩
  | cons first text induction =>
      obtain ⟨pieces, filled, joined, separates⟩ := induction (depth + bracketStep first)
      obtain ⟨piece, rest, rfl⟩ := List.exists_cons_of_ne_nil filled
      -- The first character separates an empty piece, or it belongs to the first piece.
      by_cases outside : first = ',' ∧ depth = 0
      · rcases outside with ⟨rfl, rfl⟩
        refine ⟨[] :: piece :: rest, by simp, ?_, keepsCommas_nil 0, by simp, ?_⟩
        · rw [List.intercalate_cons_of_ne_nil filled, joined]
          rfl
        · simpa [bracketStep] using separates
      · rcases separates with ⟨keeps, between, later⟩
        refine ⟨(first :: piece) :: rest, by simp, ?_, ?_, ?_, ?_⟩
        · rw [← joined]
          cases rest <;> simp [List.intercalate_cons_cons]
        · rw [keepsCommas_cons]
          constructor
          · intro comma zero
            exact outside ⟨comma, zero⟩
          · exact keeps
        · rwa [bracketDepth_cons, ← Int.add_assoc]
        · rwa [bracketDepth_cons, ← Int.add_assoc]

theorem KeepsCommas.strip {depth : Int} {piece : List Char} (keeps : KeepsCommas depth piece) :
    KeepsCommas depth (Text.strip piece) := by
  obtain ⟨left, right, around, leftBlank, _⟩ := exists_blanks_around_strip piece
  rw [around, keepsCommas_append, keepsCommas_append, bracketDepth_blanks leftBlank,
    Int.add_zero] at keeps
  exact keeps.1.2

theorem bracketDepth_strip (piece : List Char) :
    bracketDepth (Text.strip piece) = bracketDepth piece := by
  obtain ⟨left, right, around, leftBlank, rightBlank⟩ := exists_blanks_around_strip piece
  have whole := congrArg bracketDepth around
  rw [bracketDepth_append, bracketDepth_append, bracketDepth_blanks leftBlank,
    bracketDepth_blanks rightBlank] at whole
  omega

theorem Separates.strip {depth : Int} {pieces : List (List Char)}
    (separates : Separates depth pieces) : Separates depth (pieces.map Text.strip) := by
  induction pieces generalizing depth with
  | nil => trivial
  | cons piece rest induction =>
      rcases separates with ⟨keeps, between, later⟩
      constructor
      · exact keeps.strip
      constructor
      · intro more
        rw [bracketDepth_strip]
        apply between
        intro none
        exact more (by rw [none]; rfl)
      · rw [bracketDepth_strip]
        exact induction later

theorem Separates.dropLast {depth : Int} {pieces : List (List Char)}
    (separates : Separates depth pieces) : Separates depth pieces.dropLast := by
  induction pieces generalizing depth with
  | nil => trivial
  | cons piece rest induction =>
      rcases separates with ⟨keeps, between, later⟩
      cases rest with
      | nil => trivial
      | cons next rest => exact ⟨keeps, fun _ => between (by simp), induction later⟩

/-! The final empty piece. -/

theorem withoutFinalEmpty_of_last {pieces : List (List Char)} (last : pieces.getLast? ≠ some []) :
    withoutFinalEmpty pieces = pieces := by
  rw [withoutFinalEmpty, if_neg last]

theorem withoutFinalEmpty_eq_iff {pieces : List (List Char)} :
    withoutFinalEmpty pieces = pieces ↔ pieces.getLast? ≠ some [] := by
  constructor
  · intro same last
    rw [withoutFinalEmpty, if_pos last] at same
    obtain ⟨front, rfl⟩ := List.getLast?_eq_some_iff.mp last
    have shorter := congrArg List.length same
    simp at shorter
  · exact withoutFinalEmpty_of_last

theorem withoutFinalEmpty_cons (piece : List Char) {rest : List (List Char)} (more : rest ≠ []) :
    withoutFinalEmpty (piece :: rest) = piece :: withoutFinalEmpty rest := by
  unfold withoutFinalEmpty
  rw [List.getLast?_cons_of_ne_nil more, List.dropLast_cons_of_ne_nil more]
  split <;> rfl

theorem mem_of_mem_withoutFinalEmpty {pieces : List (List Char)} {piece : List Char}
    (member : piece ∈ withoutFinalEmpty pieces) : piece ∈ pieces := by
  unfold withoutFinalEmpty at member
  split at member
  · exact List.dropLast_subset _ member
  · exact member

theorem Separates.withoutFinalEmpty {depth : Int} {pieces : List (List Char)}
    (separates : Separates depth pieces) : Separates depth (withoutFinalEmpty pieces) := by
  unfold Instruction.withoutFinalEmpty
  split
  · exact separates.dropLast
  · exact separates

/-! What the pass over a body does with a piece and with a word. -/

theorem splitOperands_piece {depth : Int} {piece : List Char} (keeps : KeepsCommas depth piece)
    (current rest : List Char) :
    splitOperands depth current (piece ++ rest) =
      splitOperands (depth + bracketDepth piece) (piece.reverse ++ current) rest := by
  induction piece generalizing depth current with
  | nil => simp
  | cons first piece induction =>
      obtain ⟨here, later⟩ := (keepsCommas_cons depth first piece).mp keeps
      -- A comma opens and closes nothing, so the count behind it is the one in front of it.
      have goesOn : ¬(first = ',' ∧ depth + bracketStep first = 0) := by
        rintro ⟨rfl, zero⟩
        exact here rfl (by simpa [bracketStep] using zero)
      rw [List.cons_append, splitOperands]
      simp only [Bool.and_eq_true, decide_eq_true_eq, if_neg goesOn]
      rw [induction later, bracketDepth_cons, List.reverse_cons, List.append_assoc, Int.add_assoc]
      rfl

theorem splitOperands_comma (current rest : List Char) :
    splitOperands 0 current (',' :: rest) =
      strip current.reverse :: splitOperands 0 [] rest := by
  rw [splitOperands]
  rfl

/-- Splitting undoes joining, but for the final empty piece and the blanks around. -/
theorem splitOperands_join {depth : Int} {pieces : List (List Char)}
    (separates : Separates depth pieces) :
    splitOperands depth [] (List.intercalate [','] pieces) =
      (withoutFinalEmpty pieces).map strip := by
  induction pieces generalizing depth with
  | nil => rfl
  | cons piece rest induction =>
      rcases separates with ⟨keeps, between, later⟩
      cases rest with
      | nil =>
          rw [List.intercalate_singleton]
          have ends := splitOperands_piece keeps [] []
          rw [List.append_nil] at ends
          rw [ends, splitOperands, List.append_nil, List.isEmpty_reverse, List.reverse_reverse]
          cases piece <;> rfl
      | cons next rest =>
          have zero := between (by simp)
          rw [zero] at later
          rw [List.intercalate_cons_of_ne_nil (by simp), List.append_assoc, List.singleton_append,
            splitOperands_piece keeps, zero, splitOperands_comma, induction later,
            withoutFinalEmpty_cons piece (List.cons_ne_nil next rest), List.append_nil,
            List.reverse_reverse, List.map_cons]

theorem splitWords_run (depth : Int) {run : List Char} (inside : ∀ character ∈ run, character ≠ ' ')
    (current rest : List Char) :
    splitWords depth current (run ++ rest) =
      splitWords (depth + bracketDepth run) (run.reverse ++ current) rest := by
  induction run generalizing depth current with
  | nil => simp
  | cons first run induction =>
      rw [List.cons_append, splitWords]
      rw [if_neg (by simpa using inside first (by simp))]
      rw [induction _ (fun character member => inside character (by simp [member])),
        bracketDepth_cons, List.reverse_cons, List.append_assoc, Int.add_assoc]
      rfl

/-- A word with a space behind it is a prefix or the mnemonic. -/
theorem splitWords_word (depth : Int) {word : List Char} (isWord : IsWord word)
    (rest : List Char) :
    splitWords depth [] (word ++ ' ' :: rest) =
      if knownPrefixes.contains word then
        let body := splitWords (depth + bracketDepth word) [] rest
        ⟨word :: body.prefixes, body.mnemonic, body.operands⟩
      else ⟨[], some word, splitOperands (depth + bracketDepth word) [] rest⟩ := by
  have space : depth + bracketDepth word + bracketStep ' ' = depth + bracketDepth word :=
    Int.add_zero _
  rw [splitWords_run depth isWord.ne_space, splitWords, if_pos (by rfl), space, List.append_nil,
    List.reverse_reverse]

theorem splitWords_last (depth : Int) {word : List Char} (isWord : IsWord word) :
    splitWords depth [] word = ⟨[], some word, []⟩ := by
  have read := splitWords_run depth isWord.ne_space [] []
  rw [List.append_nil, List.append_nil] at read
  rw [read, splitWords]
  simp [isWord.1]

/-- The pass over single-spaced words leaves the operands to the pass over what is behind the
mnemonic. -/
theorem splitWords_join (depth : Int) {words prefixes rest : List (List Char)}
    {mnemonic : List Char} (roles : Roles words prefixes mnemonic rest)
    (areWords : ∀ word ∈ words, IsWord word) :
    splitWords depth [] (joinWords words) = ⟨prefixes, some mnemonic,
      splitOperands (depth + bracketDepth (prefixes.flatten ++ mnemonic)) [] (joinWords rest)⟩ := by
  rcases roles with ⟨rfl, known, other⟩
  induction prefixes generalizing depth with
  | nil =>
      have isWord : IsWord mnemonic := areWords mnemonic (by simp)
      cases rest with
      | nil =>
          rw [List.nil_append, joinWords, List.intercalate_singleton, splitWords_last depth isWord]
          rfl
      | cons next rest =>
          have notKnown : ¬knownPrefixes.contains mnemonic = true := by
            simpa using other (List.cons_ne_nil next rest)
          rw [List.nil_append, joinWords_cons _ (List.cons_ne_nil next rest),
            splitWords_word depth isWord, if_neg notKnown]
          rfl
  | cons word prefixes induction =>
      have isWord : IsWord word := areWords word (by simp)
      have recognised : knownPrefixes.contains word = true := by
        simpa using known word (by simp)
      have later := induction (depth + bracketDepth word)
        (fun other member => known other (by simp [member]))
        (fun other member => areWords other (List.mem_cons_of_mem _ member))
      rw [List.cons_append, joinWords_cons _ (by simp), splitWords_word depth isWord,
        if_pos recognised, later, List.flatten_cons, List.append_assoc, bracketDepth_append word,
        Int.add_assoc]

/-- The parts of a body with a word, from the roles of its words and the pieces of what follows the
mnemonic. -/
theorem split_eq {text : List Char} {prefixes rest pieces : List (List Char)}
    {mnemonic : List Char} (roles : Roles (words text) prefixes mnemonic rest)
    (joined : joinWords rest = List.intercalate [','] pieces)
    (separates : Separates (bracketDepth (prefixes.flatten ++ mnemonic)) pieces) :
    Body.split text = ⟨prefixes, some mnemonic, (withoutFinalEmpty pieces).map strip⟩ := by
  rw [Body.split, strip_squeeze,
    splitWords_join 0 roles fun word member => (mem_words_spec member).1, Int.zero_add, joined,
    splitOperands_join separates]

theorem exists_roles {words : List (List Char)} (filled : words ≠ []) :
    ∃ prefixes mnemonic rest, Roles words prefixes mnemonic rest := by
  induction words with
  | nil => exact absurd rfl filled
  | cons word words induction =>
      by_cases goesOn : word ∈ knownPrefixes ∧ words ≠ []
      · obtain ⟨prefixes, mnemonic, rest, cut, known, other⟩ := induction goesOn.2
        refine ⟨word :: prefixes, mnemonic, rest, by rw [cut]; rfl, ?_, other⟩
        intro candidate member
        rcases List.mem_cons.mp member with same | later
        · rw [same]
          exact goesOn.1
        · exact known candidate later
      · exact ⟨[], word, words, rfl, by simp, fun more known => goesOn ⟨known, more⟩⟩

end Disassembly.Instruction
