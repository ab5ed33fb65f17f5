import Disassembly.Text.Blank
import Mathlib

/-!
The words of a text, which are its longest runs without a blank. A text whose runs of blanks are
squeezed and whose ends are stripped is made of its words with one space between any two; a text of
that kind is single-spaced, and is determined by its words.
-/

namespace Disassembly.Text

-- What is said of all characters in a text is decided along the text, not over the whole character
-- type, so that it can be evaluated.

instance (priority := 2000) decidableForallText (property : Char → Prop)
    [DecidablePred property] (text : List Char) :
    Decidable (∀ character ∈ text, property character) :=
  List.decidableBAll property text

instance (priority := 2000) decidableForallFound (property : Char → Prop)
    [DecidablePred property] (found : Option Char) :
    Decidable (∀ character ∈ found, property character) :=
  Option.decidableForallMem found

instance (priority := 2000) decidableExistsFound (property : Char → Prop)
    [DecidablePred property] (found : Option Char) :
    Decidable (∃ character ∈ found, property character) :=
  Option.decidableExistsMem found

/-- `run` is as much of the front of a text as is inside a class of characters. -/
structure LongestRun (inside : Char → Bool) (text run rest : List Char) : Prop where
  cut : text = run ++ rest
  within : ∀ character ∈ run, inside character = true
  stop : ∀ character ∈ rest.head?, inside character = false

theorem longestRun_takeWhile (inside : Char → Bool) (text : List Char) :
    LongestRun inside text (text.takeWhile inside) (text.dropWhile inside) := by
  refine ⟨List.takeWhile_append_dropWhile.symm, fun _ member => List.mem_takeWhile_imp member, ?_⟩
  intro character member
  have stop := List.head?_dropWhile_not inside text
  rw [Option.mem_def.mp member] at stop
  simpa using stop

theorem LongestRun.takeWhile_eq {inside : Char → Bool} {text run rest : List Char}
    (longest : LongestRun inside text run rest) : text.takeWhile inside = run := by
  rw [longest.cut, List.takeWhile_append_of_pos longest.within]
  cases rest with
  | nil => rw [List.takeWhile_nil, List.append_nil]
  | cons first rest => simp [longest.stop first rfl]

theorem LongestRun.dropWhile_eq {inside : Char → Bool} {text run rest : List Char}
    (longest : LongestRun inside text run rest) : text.dropWhile inside = rest := by
  rw [longest.cut, List.dropWhile_append_of_pos longest.within]
  cases rest with
  | nil => rfl
  | cons first rest => simp [longest.stop first rfl]

def words (text : List Char) : List (List Char) :=
  (text.splitOnP isBlank).filter fun word => !word.isEmpty

def joinWords (words : List (List Char)) : List Char := List.intercalate [' '] words

def IsWord (word : List Char) : Prop := word ≠ [] ∧ ∀ character ∈ word, isBlank character = false

structure Trimmed (text : List Char) : Prop where
  head : ∀ character ∈ text.head?, isBlank character = false
  last : ∀ character ∈ text.getLast?, isBlank character = false

/-- Spaces are the only blanks; they are inside, and no two of them stand together. -/
structure SingleSpaced (text : List Char) : Prop extends Trimmed text where
  spaces : ∀ character ∈ text, isBlank character = true → character = ' '
  apart : text.IsChain fun left right => ¬(left = ' ' ∧ right = ' ')

theorem isBlank_of_between (low high : Nat) {character : Char}
    (bounds : low ≤ character.toNat ∧ character.toNat ≤ high)
    (clear : ∀ range ∈ blankRanges, high < range.1 ∨ range.2 < low) :
    isBlank character = false := by
  have inside : Ranges.has [(low, high)] character.toNat = true :=
    (Ranges.has_iff _ _).mpr ⟨_, List.mem_singleton_self _, bounds⟩
  exact Ranges.has_eq_false_of_isApartFrom (by simpa [Ranges.isApartFrom] using clear) inside

theorem isBlank_of_isAlphanum {character : Char} (alphanumeric : character.isAlphanum = true) :
    isBlank character = false := by
  rcases Bool.or_eq_true_iff.mp alphanumeric with letter | digit
  · rcases Bool.or_eq_true_iff.mp letter with upper | lower
    · apply isBlank_of_between 65 90 _ (by decide)
      exact of_decide_eq_true upper
    · have bounds := Bool.and_eq_true_iff.mp lower
      apply isBlank_of_between 97 122 _ (by decide)
      exact ⟨of_decide_eq_true bounds.1, of_decide_eq_true bounds.2⟩
  · have bounds := Bool.and_eq_true_iff.mp digit
    apply isBlank_of_between 48 57 _ (by decide)
    exact ⟨of_decide_eq_true bounds.1, of_decide_eq_true bounds.2⟩

theorem IsWord.ne_space {word : List Char} (isWord : IsWord word) :
    ∀ character ∈ word, character ≠ ' ' := by
  rintro character member rfl
  exact absurd (isWord.2 ' ' member) (by decide)

instance (text : List Char) : Decidable (SingleSpaced text) :=
  decidable_of_iff (((∀ character ∈ text.head?, isBlank character = false) ∧
      ∀ character ∈ text.getLast?, isBlank character = false) ∧
      (∀ character ∈ text, isBlank character = true → character = ' ') ∧
      text.IsChain fun left right => ¬(left = ' ' ∧ right = ' '))
    ⟨fun ⟨⟨head, last⟩, spaces, apart⟩ => ⟨⟨head, last⟩, spaces, apart⟩,
      fun ⟨⟨head, last⟩, spaces, apart⟩ => ⟨⟨head, last⟩, spaces, apart⟩⟩

/-! Pieces joined by a mark. -/

theorem mem_of_mem_join {mark character : Char} {pieces : List (List Char)}
    (member : character ∈ List.intercalate [mark] pieces) :
    character = mark ∨ ∃ piece ∈ pieces, character ∈ piece := by
  induction pieces with
  | nil => simp at member
  | cons piece rest induction =>
      cases rest with
      | nil =>
          rw [List.intercalate_singleton] at member
          exact Or.inr ⟨piece, by simp, member⟩
      | cons next rest =>
          rw [List.intercalate_cons_of_ne_nil (by simp), List.append_assoc] at member
          rcases List.mem_append.mp member with here | behind
          · exact Or.inr ⟨piece, by simp, here⟩
          · rcases List.mem_cons.mp behind with same | later
            · exact Or.inl same
            · rcases induction later with same | ⟨other, isPiece, inOther⟩
              · exact Or.inl same
              · exact Or.inr ⟨other, List.mem_cons_of_mem _ isPiece, inOther⟩

theorem piece_within_join (mark : Char) {piece : List Char} {pieces : List (List Char)}
    (member : piece ∈ pieces) : piece <:+: List.intercalate [mark] pieces := by
  induction pieces with
  | nil => simp at member
  | cons first rest induction =>
      cases rest with
      | nil =>
          exact ⟨[], [], by simp [List.mem_singleton.mp member]⟩
      | cons next rest =>
          rw [List.intercalate_cons_of_ne_nil (by simp)]
          rcases List.mem_cons.mp member with same | later
          · rw [same, List.append_assoc]
            exact (List.prefix_append _ _).isInfix
          · exact (induction later).trans (List.suffix_append _ _).isInfix

/-! Words. -/

theorem words_nil : words [] = [] := rfl

theorem words_append_blank (front rest : List Char) {blank : Char} (isBlank : isBlank blank = true) :
    words (front ++ blank :: rest) = words front ++ words rest := by
  rw [words, List.splitOnP_append_cons _ _ isBlank, List.filter_append]
  rfl

theorem words_cons_blank (rest : List Char) {blank : Char} (isBlank : isBlank blank = true) :
    words (blank :: rest) = words rest := by
  simpa [words_nil] using words_append_blank [] rest isBlank

theorem words_of_isWord {word : List Char} (isWord : IsWord word) : words word = [word] := by
  rw [words, List.splitOnP_eq_singleton isWord.2]
  simp [isWord.1]

theorem words_word_append {word : List Char} (isWord : IsWord word) (rest : List Char)
    {blank : Char} (isBlank : isBlank blank = true) :
    words (word ++ blank :: rest) = word :: words rest := by
  rw [words_append_blank _ _ isBlank, words_of_isWord isWord, List.singleton_append]

theorem words_blanks_append (blanks text : List Char)
    (allBlank : ∀ character ∈ blanks, isBlank character = true) :
    words (blanks ++ text) = words text := by
  induction blanks with
  | nil => rfl
  | cons blank blanks induction =>
      rw [List.cons_append, words_cons_blank _ (allBlank blank (by simp))]
      exact induction fun character member => allBlank character (by simp [member])

theorem words_append_blanks (text blanks : List Char)
    (allBlank : ∀ character ∈ blanks, isBlank character = true) :
    words (text ++ blanks) = words text := by
  cases blanks with
  | nil => rw [List.append_nil]
  | cons blank blanks =>
      have none := words_blanks_append blanks []
        fun character member => allBlank character (by simp [member])
      rw [List.append_nil, words_nil] at none
      rw [words_append_blank _ _ (allBlank blank (by simp)), none, List.append_nil]

/-- A text is a run without marks, or such a run, a mark and a shorter text. -/
@[elab_as_elim]
theorem run_induction (isMark : Char → Bool) {motive : List Char → Prop}
    (run : ∀ run, (∀ character ∈ run, isMark character = false) → motive run)
    (cut : ∀ run mark rest, (∀ character ∈ run, isMark character = false) →
      isMark mark = true → motive rest → motive (run ++ mark :: rest))
    (text : List Char) : motive text := by
  have after : ∀ text front, (∀ character ∈ front, isMark character = false) →
      motive (front ++ text) := by
    intro text
    induction text with
    | nil =>
        intro front inside
        rw [List.append_nil]
        exact run front inside
    | cons first rest induction =>
        intro front inside
        cases kind : isMark first with
        | true => exact cut front first rest inside kind (induction [] (by simp))
        | false =>
            rw [← List.singleton_append, ← List.append_assoc]
            apply induction
            intro character member
            rcases List.mem_append.mp member with old | new
            · exact inside character old
            · rw [List.mem_singleton.mp new]
              exact kind
  exact after text [] (by simp)

theorem words_run {run : List Char} (inside : ∀ character ∈ run, isBlank character = false) :
    words run = if run = [] then [] else [run] := by
  split
  · rename_i empty
    rw [empty, words_nil]
  · rename_i filled
    exact words_of_isWord ⟨filled, inside⟩

theorem mem_words_spec {text word : List Char} (member : word ∈ words text) :
    IsWord word ∧ ∀ character ∈ word, character ∈ text := by
  induction text using run_induction isBlank with
  | run run inside =>
      rw [words_run inside] at member
      split at member
      · simp at member
      · rename_i filled
        rw [List.mem_singleton.mp member]
        exact ⟨⟨filled, inside⟩, fun _ inRun => inRun⟩
  | cut run blank rest inside kind induction =>
      rw [words_append_blank _ _ kind, words_run inside] at member
      rcases List.mem_append.mp member with first | later
      · split at first
        · simp at first
        · rename_i filled
          rw [List.mem_singleton.mp first]
          exact ⟨⟨filled, inside⟩, fun _ inRun => List.mem_append_left _ inRun⟩
      · obtain ⟨isWord, inRest⟩ := induction later
        exact ⟨isWord, fun character inWord => by simp [inRest character inWord]⟩

/-- A text without words is blank throughout. -/
theorem isBlank_of_words_eq_nil {text : List Char} (none : words text = []) :
    ∀ character ∈ text, isBlank character = true := by
  induction text using run_induction isBlank with
  | run run inside =>
      rw [words_run inside] at none
      split at none
      · rename_i empty
        simp [empty]
      · simp at none
  | cut run blank rest inside kind induction =>
      rw [words_append_blank _ _ kind, words_run inside] at none
      obtain ⟨noneFirst, noneLater⟩ := List.append_eq_nil_iff.mp none
      split at noneFirst
      · rename_i empty
        intro character member
        rw [empty, List.nil_append] at member
        rcases List.mem_cons.mp member with same | later
        · rw [same]
          exact kind
        · exact induction noneLater character later
      · simp at noneFirst

theorem joinWords_cons (word : List Char) {rest : List (List Char)} (more : rest ≠ []) :
    joinWords (word :: rest) = word ++ ' ' :: joinWords rest := by
  rw [joinWords, List.intercalate_cons_of_ne_nil more, List.append_assoc]
  rfl

theorem words_joinWords (list : List (List Char)) (areWords : ∀ word ∈ list, IsWord word) :
    words (joinWords list) = list := by
  induction list with
  | nil => rfl
  | cons word rest induction =>
      have isWord := areWords word (by simp)
      have later := induction fun other member => areWords other (by simp [member])
      cases rest with
      | nil =>
          rw [joinWords, List.intercalate_singleton]
          exact words_of_isWord isWord
      | cons next rest =>
          rw [joinWords_cons _ (by simp), words_word_append isWord _ (by decide), later]

/-! Stripping. -/

theorem Trimmed.nil : Trimmed [] := ⟨by simp, by simp⟩

theorem stripRight_of_last {text : List Char}
    (last : ∀ character ∈ text.getLast?, isBlank character = false) : stripRight text = text := by
  apply List.rdropWhile_eq_self_iff.mpr
  intro filled blank
  rw [last (text.getLast filled) (List.getLast?_eq_some_getLast filled)] at blank
  exact Bool.false_ne_true blank

theorem strip_of_trimmed {text : List Char} (trimmed : Trimmed text) : strip text = text := by
  have left : stripLeft text = text := by
    rw [stripLeft, List.dropWhile_eq_self_iff]
    intro filled blank
    have head := trimmed.head text[0] (by simp [List.head?_eq_getElem?])
    rw [head] at blank
    exact Bool.false_ne_true blank
  rw [strip, left]
  exact stripRight_of_last trimmed.last

theorem strip_append_blank {text : List Char} (trimmed : Trimmed text) {blank : Char}
    (kind : isBlank blank = true) : strip (text ++ [blank]) = text := by
  cases text with
  | nil => simp [strip, stripLeft, stripRight, kind]
  | cons first rest =>
      have head : isBlank first = false := trimmed.head first rfl
      have left : ∀ tail, stripLeft (first :: tail) = first :: tail := by
        intro tail
        rw [stripLeft, List.dropWhile_cons_of_neg (by simp [head])]
      have right : stripRight (first :: rest ++ [blank]) = stripRight (first :: rest) := by
        simp [stripRight, kind]
      have kept := strip_of_trimmed trimmed
      rw [strip, left] at kept
      rw [strip, List.cons_append, left, ← List.cons_append, right, kept]

/-- What stripping takes away is blank. -/
theorem exists_blanks_around_strip (text : List Char) : ∃ left right,
    text = left ++ strip text ++ right ∧ (∀ character ∈ left, isBlank character = true) ∧
      ∀ character ∈ right, isBlank character = true := by
  refine ⟨text.takeWhile isBlank, (stripLeft text).rtakeWhile isBlank, ?_, ?_, ?_⟩
  · have right : strip text ++ (stripLeft text).rtakeWhile isBlank = stripLeft text :=
      List.rdropWhile_append_rtakeWhile
    rw [List.append_assoc, right, stripLeft, List.takeWhile_append_dropWhile]
  · intro character member
    exact List.mem_takeWhile_imp member
  · intro character member
    exact List.mem_rtakeWhile_imp member

theorem strip_within (text : List Char) : strip text <:+: text := by
  obtain ⟨left, right, around, _, _⟩ := exists_blanks_around_strip text
  exact ⟨left, right, around.symm⟩

theorem stripRight_isPrefix (text : List Char) : stripRight text <+: text :=
  List.rdropWhile_prefix isBlank text

theorem stripRight_last (text : List Char) :
    ∀ character ∈ (stripRight text).getLast?, isBlank character = false := by
  intro character member
  rw [stripRight, List.getLast?_reverse] at member
  exact (longestRun_takeWhile isBlank text.reverse).stop character member

theorem trimmed_strip (text : List Char) : Trimmed (strip text) := by
  constructor
  · intro character member
    have first : character ∈ (stripLeft text).head? := by
      obtain ⟨removed, whole⟩ := stripRight_isPrefix (stripLeft text)
      rw [← whole, List.head?_append, ← strip, Option.mem_def.mp member]
      rfl
    exact (longestRun_takeWhile isBlank text).stop character first
  · exact stripRight_last (stripLeft text)

theorem words_strip (text : List Char) : words (strip text) = words text := by
  obtain ⟨left, right, around, leftBlank, rightBlank⟩ := exists_blanks_around_strip text
  have whole : words text = words (left ++ strip text ++ right) := by rw [← around]
  rw [whole, words_append_blanks _ _ rightBlank, words_blanks_append _ _ leftBlank]

/-! Squeezing. -/

theorem squeezeAfter_run {run : List Char} (inside : ∀ character ∈ run, isBlank character = false)
    (rest : List Char) : squeezeAfter false (run ++ rest) = run ++ squeezeAfter false rest := by
  induction run with
  | nil => rfl
  | cons first run induction =>
      have kind := inside first (by simp)
      have later := induction fun character member => inside character (by simp [member])
      simp [squeezeAfter, kind, later]

/-- The flag matters only for a text that starts with a blank. -/
theorem squeezeAfter_flag (afterBlank : Bool) {first : Char} (kind : isBlank first = false)
    (rest : List Char) : squeezeAfter afterBlank (first :: rest) = squeezeAfter false (first :: rest) := by
  simp [squeezeAfter, kind]

theorem words_squeezeAfter (afterBlank : Bool) (text : List Char) :
    words (squeezeAfter afterBlank text) = words text := by
  induction text using run_induction isBlank generalizing afterBlank with
  | run run inside =>
      have kept : squeezeAfter false run = run := by
        simpa [squeezeAfter] using squeezeAfter_run inside []
      cases run with
      | nil => rw [squeezeAfter]
      | cons first run => rw [squeezeAfter_flag _ (inside first (by simp)), kept]
  | cut run blank rest inside kind induction =>
      have squeezed : words (squeezeAfter false (run ++ blank :: rest)) =
          words (run ++ blank :: rest) := by
        rw [squeezeAfter_run inside, squeezeAfter, if_pos kind, if_neg (by decide),
          words_append_blank _ _ (by decide), words_append_blank _ _ kind, induction]
      cases run with
      | nil =>
          cases afterBlank with
          | false => exact squeezed
          | true =>
              rw [List.nil_append, squeezeAfter, if_pos kind, if_pos rfl, words_cons_blank _ kind]
              exact induction true
      | cons first run =>
          rw [List.cons_append, squeezeAfter_flag _ (inside first (by simp))]
          exact squeezed

theorem words_squeeze (text : List Char) : words (squeeze text) = words text :=
  words_squeezeAfter false text

theorem eq_space_of_mem_squeezeAfter (afterBlank : Bool) (text : List Char) :
    ∀ character ∈ squeezeAfter afterBlank text, isBlank character = true → character = ' ' := by
  fun_induction squeezeAfter afterBlank text with
  | case1 => simp
  | case2 first rest kind induction => exact induction
  | case3 afterBlank first rest kind notAfter induction =>
      intro character member blank
      rcases List.mem_cons.mp member with same | later
      · exact same
      · exact induction character later blank
  | case4 afterBlank first rest kind induction =>
      intro character member blank
      rcases List.mem_cons.mp member with same | later
      · rw [same] at blank
        exact absurd blank kind
      · exact induction character later blank

/-- No two spaces stand together, and after a blank no space comes first. -/
theorem squeezeAfter_apart (afterBlank : Bool) (text : List Char) :
    (squeezeAfter afterBlank text).IsChain (fun left right => ¬(left = ' ' ∧ right = ' ')) ∧
      (afterBlank = true → ' ' ∉ (squeezeAfter afterBlank text).head?) := by
  fun_induction squeezeAfter afterBlank text with
  | case1 => simp
  | case2 first rest kind induction => exact induction
  | case3 afterBlank first rest kind notAfter induction =>
      constructor
      · apply List.IsChain.cons induction.1
        intro next member both
        rw [both.2] at member
        exact induction.2 rfl member
      · intro after
        exact absurd after notAfter
  | case4 afterBlank first rest kind induction =>
      have notSpace : first ≠ ' ' := by
        rintro rfl
        exact kind (by decide)
      constructor
      · apply List.IsChain.cons induction.1
        intro next _ both
        exact notSpace both.1
      · intro _ member
        rw [List.head?_cons, Option.mem_some_iff] at member
        exact notSpace member

/-! Single-spaced texts. -/

theorem SingleSpaced.nil : SingleSpaced [] := ⟨Trimmed.nil, by simp, by simp⟩

/-- A part of a text whose blanks are single spaces needs only its ends to be trimmed. -/
theorem Trimmed.singleSpaced {text part : List Char} (trimmed : Trimmed part)
    (inside : part <:+: text)
    (spaces : ∀ character ∈ text, isBlank character = true → character = ' ')
    (apart : text.IsChain fun left right => ¬(left = ' ' ∧ right = ' ')) : SingleSpaced part := by
  constructor
  case toTrimmed => exact trimmed
  case spaces =>
    intro character member
    exact spaces character (inside.mem member)
  case apart => exact List.IsChain.infix apart inside

theorem SingleSpaced.strip_part {text part : List Char} (spaced : SingleSpaced text)
    (inside : part <:+: text) : SingleSpaced (strip part) := by
  have within := (strip_within part).trans inside
  exact (trimmed_strip part).singleSpaced within spaced.spaces spaced.apart

theorem singleSpaced_strip_squeeze (text : List Char) : SingleSpaced (strip (squeeze text)) := by
  have apart := squeezeAfter_apart false text
  exact (trimmed_strip (squeeze text)).singleSpaced (strip_within (squeeze text))
    (eq_space_of_mem_squeezeAfter false text) apart.1

/-- What follows an inner space of a single-spaced text is not empty and single-spaced. -/
theorem SingleSpaced.after_space {front rest : List Char}
    (spaced : SingleSpaced (front ++ ' ' :: rest)) : rest ≠ [] ∧ SingleSpaced rest := by
  have within : rest <:+: front ++ ' ' :: rest := ⟨front ++ [' '], [], by simp⟩
  have filled : rest ≠ [] := by
    rintro rfl
    have last := spaced.last ' ' (by simp)
    exact absurd last (by decide)
  have trimmed : Trimmed rest := by
    constructor
    case head =>
      intro character member
      have chain : (' ' :: rest).IsChain fun left right => ¬(left = ' ' ∧ right = ' ') :=
        spaced.apart.right_of_append
      have notSpace := chain.rel_head? member
      by_contra kind
      have inRest : character ∈ rest := List.mem_of_mem_head? member
      have space := spaced.spaces character (within.mem inRest) (by simpa using kind)
      exact notSpace ⟨rfl, space⟩
    case last =>
      intro character member
      apply spaced.last
      rw [List.getLast?_append_of_ne_nil _ (by simp), List.getLast?_cons_of_ne_nil filled]
      exact member
  exact ⟨filled, trimmed.singleSpaced within spaced.spaces spaced.apart⟩

theorem joinWords_words {text : List Char} (spaced : SingleSpaced text) :
    joinWords (words text) = text := by
  induction text using run_induction isBlank with
  | run run inside =>
      rw [words_run inside]
      split
      · rename_i empty
        rw [empty]
        rfl
      · exact List.intercalate_singleton
  | cut run blank rest inside kind induction =>
      have space : blank = ' ' := spaced.spaces blank (by simp) kind
      subst space
      obtain ⟨filled, spacedRest⟩ := spaced.after_space
      have runFilled : run ≠ [] := by
        rintro rfl
        have head := spaced.head ' ' (by simp)
        exact absurd head (by decide)
      have later := induction spacedRest
      have more : words rest ≠ [] := by
        intro none
        rw [none] at later
        exact filled later.symm
      rw [words_word_append ⟨runFilled, inside⟩ _ kind, joinWords_cons _ more, later]

/-- Squeezing and stripping leave the words with single spaces between. -/
theorem strip_squeeze (text : List Char) : strip (squeeze text) = joinWords (words text) := by
  rw [← words_squeeze, ← words_strip, joinWords_words (singleSpaced_strip_squeeze text)]

theorem singleSpaced_joinWords (list : List (List Char)) (areWords : ∀ word ∈ list, IsWord word) :
    SingleSpaced (joinWords list) := by
  have spaced := singleSpaced_strip_squeeze (joinWords list)
  rw [strip_squeeze, words_joinWords list areWords] at spaced
  exact spaced

/-- Single-spaced texts may be joined by a character that is not blank. -/
theorem SingleSpaced.append_cons {left right : List Char} (leftSpaced : SingleSpaced left)
    (rightSpaced : SingleSpaced right) {mark : Char} (kind : isBlank mark = false) :
    SingleSpaced (left ++ mark :: right) := by
  have notSpace : mark ≠ ' ' := by
    rintro rfl
    exact absurd kind (by decide)
  have trimmed : Trimmed (left ++ mark :: right) := by
    constructor
    case head =>
      intro character member
      cases left with
      | nil =>
          rw [← (Option.mem_some_iff.mp member : mark = character)]
          exact kind
      | cons first left => exact leftSpaced.head character member
    case last =>
      intro character member
      rw [List.getLast?_append_of_ne_nil _ (by simp)] at member
      cases right with
      | nil =>
          rw [← (Option.mem_some_iff.mp member : mark = character)]
          exact kind
      | cons first right => exact rightSpaced.last character member
  constructor
  case toTrimmed => exact trimmed
  case spaces =>
    intro character member blank
    rcases List.mem_append.mp member with inLeft | inRight
    · exact leftSpaced.spaces character inLeft blank
    · rcases List.mem_cons.mp inRight with same | inRight
      · rw [same, kind] at blank
        exact absurd blank (by decide)
      · exact rightSpaced.spaces character inRight blank
  case apart =>
    apply leftSpaced.apart.append
    · exact rightSpaced.apart.cons fun _ _ both => notSpace both.1
    · intro last _ next member both
      rw [← (Option.mem_some_iff.mp member : mark = next)] at both
      exact notSpace both.2

end Disassembly.Text
