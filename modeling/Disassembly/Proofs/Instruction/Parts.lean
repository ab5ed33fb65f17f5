import Disassembly.Proofs.Instruction.Splitting
import Mathlib.Order.Bounds.Basic

/-!
The parts of a body, as a relation that the pass over the body decides. Of the words as many as
possible are prefixes, always with one left for the mnemonic; what follows the mnemonic is cut at the
commas in front of which as many brackets close as open, counted from the start of the body, and at
no others. Every body has exactly one set of parts. They hold all its visible characters in order,
except for one comma where an operand that has no character would follow at the end.
-/

namespace Disassembly.Instruction

open Text

/-- As many words as possible are prefixes, but not the last word. -/
structure MostPrefixes (words prefixes : List (List Char)) (mnemonic : List Char)
    (rest : List (List Char)) : Prop where
  cut : words = prefixes ++ mnemonic :: rest
  most : IsGreatest {count | count < words.length ∧ ∀ word ∈ words.take count, word ∈ knownPrefixes}
    prefixes.length

def MeetAt (pieces : List (List Char)) (before after : List Char) : Prop :=
  ∃ left right, left ≠ [] ∧ right ≠ [] ∧ pieces = left ++ right ∧
    before = List.intercalate [','] left ∧ after = List.intercalate [','] right

/-- The pieces of a text meet at the commas where no bracket is open, and at no others, when `depth`
brackets are open in front of the text. -/
structure CutWhereClosed (depth : Int) (text : List Char) (pieces : List (List Char)) : Prop where
  filled : pieces ≠ []
  joined : List.intercalate [','] pieces = text
  exact : ∀ before after, text = before ++ ',' :: after →
    (depth + bracketDepth before = 0 ↔ MeetAt pieces before after)

/-- The parts of a body. The operands are stripped, and a last one without a character is left out. -/
inductive Parts (text : List Char) : Body → Prop where
  | blank (wordless : words text = []) : Parts text ⟨[], none, []⟩
  | filled (prefixes : List (List Char)) (mnemonic : List Char) (rest pieces : List (List Char))
      (roles : MostPrefixes (words text) prefixes mnemonic rest)
      (cut : CutWhereClosed (bracketDepth (prefixes.flatten ++ mnemonic)) (joinWords rest) pieces) :
      Parts text ⟨prefixes, some mnemonic, withoutFinalEmpty (pieces.map strip)⟩

def EndsWithCut (text : List Char) : Prop :=
  ∃ prefixes mnemonic rest before, MostPrefixes (words text) prefixes mnemonic rest ∧
    joinWords rest = before ++ [','] ∧
    bracketDepth (prefixes.flatten ++ mnemonic) + bracketDepth before = 0

def visible (text : List Char) : List Char := text.filter fun character => !isBlank character

/-! The words. -/

theorem mostPrefixes_iff {words prefixes rest : List (List Char)} {mnemonic : List Char} :
    MostPrefixes words prefixes mnemonic rest ↔ Roles words prefixes mnemonic rest := by
  constructor
  · rintro ⟨rfl, ⟨_, known⟩, most⟩
    rw [List.take_left] at known
    refine ⟨rfl, known, fun more isKnown => ?_⟩
    -- The mnemonic could be one more prefix.
    have larger : prefixes.length + 1 ≤ prefixes.length := by
      apply most
      constructor
      · simp [List.length_pos_iff.mpr more]
      · rw [List.take_length_add_append]
        intro word member
        rcases List.mem_append.mp member with inPrefixes | isMnemonic
        · exact known word inPrefixes
        · rw [List.mem_singleton.mp isMnemonic]
          exact isKnown
    omega
  · rintro ⟨rfl, known, other⟩
    refine ⟨rfl, ⟨by simp, by simpa using known⟩, fun count ⟨inside, allKnown⟩ => ?_⟩
    by_contra larger
    have more : rest ≠ [] := by
      rintro rfl
      simp at inside
      omega
    apply other more
    apply allKnown
    obtain ⟨extra, rfl⟩ : ∃ extra, count = prefixes.length + (extra + 1) :=
      ⟨count - prefixes.length - 1, by omega⟩
    rw [List.take_length_add_append]
    simp

/-! The commas. -/

theorem join_cons (piece : List Char) {rest : List (List Char)} (more : rest ≠ []) :
    List.intercalate [','] (piece :: rest) = piece ++ ',' :: List.intercalate [','] rest := by
  rw [List.intercalate_cons_of_ne_nil more, List.append_assoc]
  rfl

theorem join_append {left right : List (List Char)} (leftFilled : left ≠ [])
    (rightFilled : right ≠ []) :
    List.intercalate [','] (left ++ right) =
      List.intercalate [','] left ++ ',' :: List.intercalate [','] right := by
  induction left with
  | nil => exact absurd rfl leftFilled
  | cons piece left induction =>
      by_cases more : left = []
      · subst more
        rw [List.singleton_append, join_cons piece rightFilled, List.intercalate_singleton]
      · rw [List.cons_append, join_cons piece (List.append_ne_nil_of_left_ne_nil more _),
          join_cons piece more, induction more, List.append_assoc, List.cons_append]

theorem not_meetAt_singleton (piece before after : List Char) : ¬ MeetAt [piece] before after := by
  rintro ⟨left, right, leftFilled, rightFilled, same, _⟩
  have lengths := congrArg List.length same
  have leftLong := List.length_pos_iff.mpr leftFilled
  have rightLong := List.length_pos_iff.mpr rightFilled
  rw [List.length_singleton, List.length_append] at lengths
  omega

/-- The first two pieces meet behind the first, and the others where they did without it. -/
theorem meetAt_cons {piece before after : List Char} {rest : List (List Char)} (more : rest ≠ []) :
    MeetAt (piece :: rest) before after ↔
      before = piece ∧ after = List.intercalate [','] rest ∨
        ∃ later, before = piece ++ ',' :: later ∧ MeetAt rest later after := by
  constructor
  · rintro ⟨left, right, leftFilled, rightFilled, same, rfl, rfl⟩
    obtain ⟨first, left, rfl⟩ := List.exists_cons_of_ne_nil leftFilled
    obtain ⟨rfl, rfl⟩ := List.cons.inj same
    by_cases alone : left = []
    · subst alone
      exact .inl ⟨List.intercalate_singleton, rfl⟩
    · exact .inr ⟨_, join_cons piece alone, left, right, alone, rightFilled, rfl, rfl, rfl⟩
  · rintro (⟨rfl, rfl⟩ | ⟨_, rfl, left, right, leftFilled, rightFilled, rfl, rfl, rfl⟩)
    · exact ⟨[before], rest, by simp, more, rfl, List.intercalate_singleton.symm, rfl⟩
    · exact ⟨piece :: left, right, by simp, rightFilled, rfl, (join_cons piece leftFilled).symm, rfl⟩

/-- A comma of a first piece and the rest stands in the piece, behind it, or in the rest. -/
theorem comma_cases {piece rest before after : List Char}
    (same : piece ++ ',' :: rest = before ++ ',' :: after) :
    (∃ inside, piece = before ++ ',' :: inside) ∨ before = piece ∧ after = rest ∨
      ∃ later, before = piece ++ ',' :: later ∧ rest = later ++ ',' :: after := by
  rcases List.append_eq_append_iff.mp same with ⟨between, longer, tail⟩ | ⟨between, cut, tail⟩
  · cases between with
    | nil =>
        rw [List.append_nil] at longer
        exact .inr (.inl ⟨longer, (List.cons.inj tail).2.symm⟩)
    | cons comma later =>
        obtain ⟨rfl, rfl⟩ := List.cons.inj tail
        exact .inr (.inr ⟨later, longer, rfl⟩)
  · cases between with
    | nil =>
        rw [List.append_nil] at cut
        exact .inr (.inl ⟨cut.symm, (List.cons.inj tail).2⟩)
    | cons comma inside =>
        obtain ⟨rfl, _⟩ := List.cons.inj tail
        exact .inl ⟨inside, cut⟩

theorem depth_behind_comma (depth : Int) (piece later : List Char) :
    depth + bracketDepth (piece ++ ',' :: later) =
      depth + bracketDepth piece + bracketDepth later := by
  have comma : bracketStep ',' = 0 := rfl
  rw [bracketDepth_append, bracketDepth_cons, comma, Int.zero_add, Int.add_assoc]

theorem CutWhereClosed.separates {depth : Int} {text : List Char} {pieces : List (List Char)}
    (cut : CutWhereClosed depth text pieces) : Separates depth pieces := by
  induction pieces generalizing depth text with
  | nil => trivial
  | cons piece rest induction =>
      obtain ⟨_, rfl, exact⟩ := cut
      by_cases more : rest = []
      · subst more
        rw [List.intercalate_singleton] at exact
        refine ⟨fun before after same zero => ?_, fun filled => absurd rfl filled, trivial⟩
        exact not_meetAt_singleton piece before after ((exact before after same).mp zero)
      · rw [join_cons piece more] at exact
        refine ⟨fun before after same zero => ?_, fun _ => ?_, induction ⟨more, rfl, ?_⟩⟩
        · have cutHere := (exact before (after ++ ',' :: List.intercalate [','] rest)
            (by rw [same, List.append_assoc, List.cons_append])).mp zero
          rcases (meetAt_cons more).mp cutHere with ⟨rfl, _⟩ | ⟨later, rfl, _⟩
          · have lengths := congrArg List.length same
            simp at lengths
          · have lengths := congrArg List.length same
            simp only [List.length_append, List.length_cons] at lengths
            omega
        · exact (exact piece _ rfl).mpr ((meetAt_cons more).mpr (.inl ⟨rfl, rfl⟩))
        · intro before after same
          rw [← depth_behind_comma, exact (piece ++ ',' :: before) after
            (by rw [same, List.append_assoc, List.cons_append]), meetAt_cons more]
          constructor
          · rintro (⟨longer, _⟩ | ⟨later, sameFront, meets⟩)
            · have lengths := congrArg List.length longer
              simp at lengths
            · obtain ⟨_, rfl⟩ := List.cons.inj (List.append_cancel_left sameFront)
              exact meets
          · intro meets
            exact .inr ⟨before, rfl, meets⟩

theorem Separates.cutWhereClosed {depth : Int} {pieces : List (List Char)}
    (separates : Separates depth pieces) (filled : pieces ≠ []) :
    CutWhereClosed depth (List.intercalate [','] pieces) pieces := by
  refine ⟨filled, rfl, ?_⟩
  induction pieces generalizing depth with
  | nil => exact absurd rfl filled
  | cons piece rest induction =>
      intro before after same
      obtain ⟨keeps, between, later⟩ := separates
      by_cases more : rest = []
      · subst more
        rw [List.intercalate_singleton] at same
        exact iff_of_false (keeps before after same) (not_meetAt_singleton piece before after)
      · rw [join_cons piece more] at same
        rw [meetAt_cons more]
        rcases comma_cases same with ⟨inside, inPiece⟩ | ⟨rfl, rfl⟩ | ⟨front, rfl, inRest⟩
        · refine iff_of_false (keeps before inside inPiece) ?_
          rintro (⟨rfl, _⟩ | ⟨front, rfl, _⟩)
          · have lengths := congrArg List.length inPiece
            simp at lengths
          · have lengths := congrArg List.length inPiece
            simp only [List.length_append, List.length_cons] at lengths
            omega
        · exact iff_of_true (between more) (.inl ⟨rfl, rfl⟩)
        · rw [depth_behind_comma, induction later more front after inRest]
          constructor
          · intro meets
            exact .inr ⟨front, rfl, meets⟩
          · rintro (⟨longer, _⟩ | ⟨other, sameFront, meets⟩)
            · have lengths := congrArg List.length longer
              simp at lengths
            · obtain ⟨_, rfl⟩ := List.cons.inj (List.append_cancel_left sameFront)
              exact meets

/-- The text ends with a cut exactly if its last piece is empty and not the only one. -/
theorem CutWhereClosed.final_comma_iff {depth : Int} {text : List Char} {pieces : List (List Char)}
    (cut : CutWhereClosed depth text pieces) (before : List Char) :
    text = before ++ [','] ∧ depth + bracketDepth before = 0 ↔
      ∃ left, left ≠ [] ∧ pieces = left ++ [[]] ∧ before = List.intercalate [','] left := by
  constructor
  · rintro ⟨ends, zero⟩
    obtain ⟨left, right, leftFilled, rightFilled, rfl, rfl, empty⟩ :=
      (cut.exact before [] ends).mp zero
    have last : right = [[]] := by
      obtain ⟨piece, rest, rfl⟩ := List.exists_cons_of_ne_nil rightFilled
      by_cases more : rest = []
      · subst more
        rw [List.intercalate_singleton] at empty
        rw [← empty]
      · rw [join_cons piece more] at empty
        simp at empty
    exact ⟨left, leftFilled, by rw [last], rfl⟩
  · rintro ⟨left, leftFilled, rfl, rfl⟩
    have ends : text = List.intercalate [','] left ++ [','] := by
      rw [← cut.joined, join_append leftFilled (by simp), List.intercalate_singleton]
    refine ⟨ends, (cut.exact _ [] ends).mpr ⟨left, [[]], leftFilled, by simp, rfl, rfl, ?_⟩⟩
    rw [List.intercalate_singleton]

/-! The operands. -/

/-- Where a text does not end with a blank, its last piece has a character before it is stripped if it
has one afterwards. -/
theorem map_strip_withoutFinalEmpty {pieces : List (List Char)}
    (last : ∀ character ∈ (List.intercalate [','] pieces).getLast?, isBlank character = false) :
    (withoutFinalEmpty pieces).map strip = withoutFinalEmpty (pieces.map strip) := by
  have same : (pieces.map strip).getLast? = some [] ↔ pieces.getLast? = some [] := by
    rw [List.getLast?_map]
    constructor
    · intro empty
      obtain ⟨piece, isLast, stripped⟩ := Option.map_eq_some_iff.mp empty
      rw [isLast]
      by_contra filled
      have pieceFilled : piece ≠ [] := fun none => filled (by rw [none])
      have ends : (List.intercalate [','] pieces).getLast? = piece.getLast? := by
        obtain ⟨front, rfl⟩ := List.getLast?_eq_some_iff.mp isLast
        by_cases alone : front = []
        · rw [alone, List.nil_append, List.intercalate_singleton]
        · rw [join_append alone (by simp), List.intercalate_singleton,
            List.getLast?_append_of_ne_nil _ (by simp), List.getLast?_cons_of_ne_nil pieceFilled]
      have blank : ∀ character ∈ piece, isBlank character = true := by
        apply isBlank_of_words_eq_nil
        rw [← words_strip, stripped, words_nil]
      have final := List.getLast?_eq_some_getLast pieceFilled
      rw [ends, final] at last
      have shown := last _ rfl
      rw [blank _ (List.getLast_mem pieceFilled)] at shown
      cases shown
    · intro empty
      rw [empty]
      rfl
  by_cases empty : pieces.getLast? = some []
  · rw [withoutFinalEmpty, if_pos empty, withoutFinalEmpty, if_pos (same.mpr empty), List.map_dropLast]
  · rw [withoutFinalEmpty, if_neg empty, withoutFinalEmpty, if_neg (fun filled => empty (same.mp filled))]

theorem joinWords_last {text : List Char} {prefixes rest : List (List Char)} {mnemonic : List Char}
    (roles : Roles (words text) prefixes mnemonic rest) :
    ∀ character ∈ (joinWords rest).getLast?, isBlank character = false := by
  have areWords : ∀ word ∈ rest, IsWord word := fun word member =>
    (mem_words_spec (by rw [roles.cut]; simp [member] : word ∈ words text)).1
  exact (singleSpaced_joinWords rest areWords).last

theorem split_of_parts {text : List Char} {body : Body} (parts : Parts text body) :
    Body.split text = body := by
  cases parts with
  | blank wordless =>
      rw [Body.split, strip_squeeze, wordless]
      rfl
  | filled prefixes mnemonic rest pieces roles cut =>
      have parted := mostPrefixes_iff.mp roles
      rw [split_eq parted cut.joined.symm cut.separates, map_strip_withoutFinalEmpty]
      rw [cut.joined]
      exact joinWords_last parted

theorem exists_parts (text : List Char) : ∃ body, Parts text body := by
  by_cases wordless : words text = []
  · exact ⟨_, .blank wordless⟩
  · obtain ⟨prefixes, mnemonic, rest, roles⟩ := exists_roles wordless
    obtain ⟨pieces, filled, joined, separates⟩ :=
      exists_separates (bracketDepth (prefixes.flatten ++ mnemonic)) (joinWords rest)
    have cut := separates.cutWhereClosed filled
    rw [joined] at cut
    exact ⟨_, .filled prefixes mnemonic rest pieces (mostPrefixes_iff.mpr roles) cut⟩

/-! What the parts hold. -/

theorem visible_append (left right : List Char) :
    visible (left ++ right) = visible left ++ visible right :=
  List.filter_append ..

theorem visible_of_run {run : List Char} (inside : ∀ character ∈ run, isBlank character = false) :
    visible run = run := by
  rw [visible, List.filter_eq_self]
  intro character member
  rw [inside character member]
  rfl

theorem visible_eq_flatten_words (text : List Char) : visible text = (words text).flatten := by
  induction text using run_induction isBlank with
  | run run inside =>
      rw [words_run inside, visible_of_run inside]
      split
      · rename_i empty
        rw [empty]
        rfl
      · rw [List.flatten_singleton]
  | cut run blank rest inside kind induction =>
      have passed : visible (blank :: rest) = visible rest := List.filter_cons_of_neg (by simp [kind])
      rw [words_append_blank _ _ kind, visible_append, List.flatten_append, ← induction, passed,
        visible_of_run inside, words_run inside]
      split
      · rename_i empty
        rw [empty]
        rfl
      · rw [List.flatten_singleton]

theorem visible_strip (text : List Char) : visible (strip text) = visible text := by
  rw [visible_eq_flatten_words, words_strip, ← visible_eq_flatten_words]

theorem visible_join_strip (pieces : List (List Char)) :
    visible (List.intercalate [','] (pieces.map strip)) = visible (List.intercalate [','] pieces) := by
  induction pieces with
  | nil => rfl
  | cons piece rest induction =>
      by_cases more : rest = []
      · subst more
        rw [List.map_singleton, List.intercalate_singleton, List.intercalate_singleton, visible_strip]
      · have comma : ∀ later, visible (',' :: later) = ',' :: visible later := fun _ => rfl
        rw [List.map_cons, join_cons _ (by simpa using more), join_cons _ more, visible_append,
          visible_append, comma, comma, visible_strip, induction]

/-- Leaving out a last piece without a character leaves out the comma in front of it. -/
theorem join_withoutFinalEmpty {depth : Int} {text : List Char} {pieces : List (List Char)}
    (cut : CutWhereClosed depth text pieces) :
    ((∃ before, text = before ++ [','] ∧ depth + bracketDepth before = 0) →
      text = List.intercalate [','] (withoutFinalEmpty pieces) ++ [',']) ∧
    ((¬∃ before, text = before ++ [','] ∧ depth + bracketDepth before = 0) →
      text = List.intercalate [','] (withoutFinalEmpty pieces)) := by
  constructor
  · rintro ⟨before, ends, zero⟩
    obtain ⟨left, _, rfl, rfl⟩ := (cut.final_comma_iff before).mp ⟨ends, zero⟩
    rw [withoutFinalEmpty, if_pos List.getLast?_concat, List.dropLast_concat]
    exact ends
  · intro goesOn
    rw [← cut.joined, withoutFinalEmpty]
    split
    · rename_i empty
      obtain ⟨left, rfl⟩ := List.getLast?_eq_some_iff.mp empty
      by_cases alone : left = []
      · rw [alone]
        rfl
      · exact absurd ⟨_, (cut.final_comma_iff _).mpr ⟨left, alone, rfl, rfl⟩⟩ goesOn
    · rfl

theorem visible_of_roles {text : List Char} {prefixes rest : List (List Char)}
    {mnemonic : List Char} (roles : Roles (words text) prefixes mnemonic rest) :
    visible text = visible (prefixes.flatten ++ mnemonic) ++ visible (joinWords rest) := by
  have areWords : ∀ word ∈ words text, IsWord word := fun word member => (mem_words_spec member).1
  rw [roles.cut] at areWords
  have inFront : visible (prefixes.flatten ++ mnemonic) = prefixes.flatten ++ mnemonic := by
    apply visible_of_run
    intro character member
    rcases List.mem_append.mp member with inPrefixes | inMnemonic
    · obtain ⟨word, isPrefix, inWord⟩ := List.mem_flatten.mp inPrefixes
      exact (areWords word (by simp [isPrefix])).2 character inWord
    · exact (areWords mnemonic (by simp)).2 character inMnemonic
  rw [visible_eq_flatten_words, roles.cut, inFront, visible_eq_flatten_words (joinWords rest),
    words_joinWords rest fun word member => areWords word (by simp [member])]
  simp

/-- The roles of the words are determined, so that whether a cut ends the text can be told from any. -/
theorem endsWithCut_iff {text : List Char} {prefixes rest : List (List Char)} {mnemonic : List Char}
    (roles : MostPrefixes (words text) prefixes mnemonic rest) :
    EndsWithCut text ↔ ∃ before, joinWords rest = before ++ [','] ∧
      bracketDepth (prefixes.flatten ++ mnemonic) + bracketDepth before = 0 := by
  constructor
  · rintro ⟨otherPrefixes, otherMnemonic, otherRest, before, otherRoles, isCut⟩
    have count : otherPrefixes.length = prefixes.length := otherRoles.most.unique roles.most
    obtain ⟨rfl, behind⟩ := List.append_inj (otherRoles.cut.symm.trans roles.cut) count
    obtain ⟨rfl, rfl⟩ := List.cons.inj behind
    exact ⟨before, isCut⟩
  · rintro ⟨before, isCut⟩
    exact ⟨prefixes, mnemonic, rest, before, roles, isCut⟩

theorem not_endsWithCut_of_wordless {text : List Char} (wordless : words text = []) :
    ¬EndsWithCut text := by
  rintro ⟨prefixes, mnemonic, rest, _, roles, _⟩
  have cut := roles.cut
  rw [wordless] at cut
  simp at cut

theorem visible_of_parts {text : List Char} {body : Body} (parts : Parts text body) :
    (EndsWithCut text → visible text = visible (body.prefixes.flatten ++ body.mnemonic.getD [] ++
      List.intercalate [','] body.operands) ++ [',']) ∧
    (¬EndsWithCut text → visible text = visible (body.prefixes.flatten ++ body.mnemonic.getD [] ++
      List.intercalate [','] body.operands)) := by
  cases parts with
  | blank wordless =>
      refine ⟨fun ends => absurd ends (not_endsWithCut_of_wordless wordless), fun _ => ?_⟩
      rw [visible_eq_flatten_words, wordless]
      rfl
  | filled prefixes mnemonic rest pieces roles cut =>
      have parted := mostPrefixes_iff.mp roles
      have operands : (withoutFinalEmpty pieces).map strip = withoutFinalEmpty (pieces.map strip) := by
        apply map_strip_withoutFinalEmpty
        rw [cut.joined]
        exact joinWords_last parted
      have comma : visible [','] = [','] := rfl
      obtain ⟨withComma, without⟩ := join_withoutFinalEmpty cut
      rw [endsWithCut_iff roles, visible_of_roles parted, ← operands]
      simp only [Option.getD_some, visible_append (prefixes.flatten ++ mnemonic), visible_join_strip]
      constructor
      · intro isCut
        conv_lhs => rw [withComma isCut]
        rw [visible_append _ [','], comma, List.append_assoc]
      · intro noCut
        conv_lhs => rw [without noCut]

/-- Splitting a body gives its parts, which are unique, and no visible character of the body is lost,
doubled or moved, except that a comma which ends the body where no bracket is open is left out. -/
theorem split_gives_parts (text : List Char) :
    (∀ body, Body.split text = body ↔ Parts text body) ∧
    let body := Body.split text
    let kept := visible (body.prefixes.flatten ++ body.mnemonic.getD [] ++
      List.intercalate [','] body.operands)
    (EndsWithCut text → visible text = kept ++ [',']) ∧ (¬EndsWithCut text → visible text = kept) := by
  obtain ⟨parts, isParts⟩ := exists_parts text
  have splits := split_of_parts isParts
  constructor
  · intro body
    constructor
    · rintro rfl
      rw [splits]
      exact isParts
    · exact split_of_parts
  · intro body kept
    have held := visible_of_parts isParts
    rw [← splits] at held
    exact held

/-- A bracket that the mnemonic leaves open keeps the first comma, and the last one is left out. -/
example : Body.split " lock\t(lea a,b) , [c,d],".toList =
    ⟨["lock".toList], some "(lea".toList, ["a,b)".toList, "[c,d]".toList]⟩ := by decide

end Disassembly.Instruction
