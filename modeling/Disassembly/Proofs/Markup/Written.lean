import Disassembly.Proofs.Markup.Tree
import Disassembly.Proofs.Text.Utf8
import Disassembly.Proofs.Text.Words
import Disassembly.Reference.Entry

/-!
Written documents. Elements without attributes whose texts are escaped are read as they are written:
each tag opens or closes its element, and the text inside comes back in parts, cut where a character
is escaped. Such a document needs no entity of its own, so that no more is counted for the texts of
entities than for the document itself, and the limit on them holds at every step.
-/

namespace Disassembly.Markup

open Text Reference

namespace Expansion

theorem rounded_le (count : Nat) : rounded count ≤ 2 * count ∧ count ≤ 2 * rounded count := by
  by_cases zero : count = 0
  · subst zero
    decide
  · have unitPos : 0 < Nat.pow 2 (count.log2 + 1 - precision) := Nat.pow_pos (by decide)
    have unitLe : Nat.pow 2 (count.log2 + 1 - precision) ≤ count := by
      calc Nat.pow 2 (count.log2 + 1 - precision)
          ≤ 2 ^ count.log2 := Nat.pow_le_pow_right (by decide) (by rw [precision]; omega)
        _ ≤ count := Nat.log2_self_le zero
    unfold rounded
    generalize Nat.pow 2 (count.log2 + 1 - precision) = unit at unitPos unitLe
    have below : 1 ≤ count / unit := (Nat.one_le_div_iff unitPos).mpr unitLe
    have cut := Nat.div_add_mod' count unit
    have excess := Nat.mod_lt count unitPos
    have one : unit ≤ count / unit * unit := Nat.le_mul_of_pos_left unit below
    simp only
    split
    · omega
    · rw [Nat.add_mul, Nat.one_mul]
      omega

/-- Where no more bytes come from entities than from the document, the limit holds. -/
theorem isTolerated_of_le {expansion : Expansion}
    (balanced : expansion.indirect ≤ expansion.direct) : expansion.isTolerated = true := by
  have output := (rounded_le (expansion.direct + expansion.indirect)).1
  have direct := (rounded_le expansion.direct).2
  have within : isWithinFactor (expansion.direct + expansion.indirect) expansion.direct = true := by
    rw [isWithinFactor, decide_eq_true_eq]
    generalize Nat.pow 2 (precision - factor.log2) = scale
    calc rounded (expansion.direct + expansion.indirect) * scale
        ≤ (rounded expansion.direct * factor) * scale := by
          apply Nat.mul_le_mul_right
          rw [factor]
          omega
      _ = rounded expansion.direct * (factor * scale) := Nat.mul_assoc ..
      _ ≤ rounded expansion.direct * (factor * scale + 1) :=
          Nat.mul_le_mul_left _ (Nat.le_succ _)
  rw [isTolerated, within, Bool.or_true]

theorem count_direct {expansion : Expansion} (balanced : expansion.indirect ≤ expansion.direct)
    (bytes : Nat) :
    expansion.count .direct bytes =
      some { expansion with direct := expansion.direct + bytes } := by
  have tolerated : (expansion.add .direct bytes).isTolerated = true :=
    isTolerated_of_le (Nat.le_trans balanced (Nat.le_add_right _ _))
  exact if_pos tolerated

end Expansion

theorem Encoding.length_le_size (encoding : Encoding) (text : List Char) :
    text.length ≤ encoding.size text := by
  have counts : ∀ bytes, bytes + text.length ≤
      text.foldl (fun bytes character => bytes + encoding.width character) bytes := by
    induction text with
    | nil => exact fun bytes => Nat.le_refl _
    | cons character rest induction =>
        intro bytes
        have one : 1 ≤ encoding.width character := by
          cases encoding with
          | utf8 => exact character.utf8Size_pos
          | latin1 => exact Nat.le_refl 1
          | ascii => exact Nat.le_refl 1
          | paged page => exact Nat.le_refl 1
          | utf16 bigEndian =>
              simp only [width]
              split <;> decide
        have later := induction (bytes + encoding.width character)
        rw [List.length_cons, List.foldl_cons]
        omega
  simpa [size] using counts 0

section Names

variable {encoding : Encoding} {name : List Char}

theorem ne_of_continuesName {character : Char}
    (continues : continuesName encoding character = true) :
    character ≠ '>' ∧ character ≠ '\x27' ∧ character ≠ '\x22' := by
  refine ⟨?_, ?_, ?_⟩ <;> rintro rfl <;>
    exact absurd continues (by simp [continuesName, startsName])

theorem continuesName_of_isSimpleName (simple : isSimpleName encoding name = true) :
    ∀ character ∈ name, continuesName encoding character = true := by
  cases name with
  | nil => cases simple
  | cons first rest =>
      obtain ⟨starts, later⟩ := Bool.and_eq_true_iff.mp simple
      intro character member
      rcases List.mem_cons.mp member with rfl | member
      · rw [continuesName, starts, Bool.true_or]
      · exact List.all_eq_true.mp later character member

/-- The tag of a written element is in no namespace. -/
def Tag.ofSimpleName (simple : isSimpleName encoding name = true) : Tag where
  address := none
  base := name
  simple := notMem_of_continuesName (continuesName_of_isSimpleName simple)

theorem read_simpleName (simple : isSimpleName encoding name = true) (rest : List Char) :
    Name.read encoding (name ++ '>' :: rest) = some (⟨none, name⟩, '>' :: rest) := by
  have stops : continuesName encoding '>' = false := by simp [continuesName, startsName]
  have continues := continuesName_of_isSimpleName simple
  cases name with
  | nil => cases simple
  | cons first more =>
      have starts := (Bool.and_eq_true_iff.mp simple).1
      have run : LongestRun (continuesName encoding) (more ++ '>' :: rest) more ('>' :: rest) := by
        refine ⟨rfl, fun character member => continues character (by simp [member]), ?_⟩
        intro character member
        rw [← (Option.mem_some_iff.mp member : '>' = character)]
        exact stops
      have front : readSimpleName encoding (first :: more ++ '>' :: rest) =
          some (first :: more, '>' :: rest) := by
        rw [List.cons_append, readSimpleName, if_pos starts, run.takeWhile_eq, run.dropWhile_eq]
      rw [Name.read, front]
      rfl

end Names

namespace Token

variable {encoding : Encoding} {name : List Char}

theorem cutTag_plain {text : List Char}
    (plain : ∀ character ∈ text, character ≠ '>' ∧ character ≠ '\x27' ∧ character ≠ '\x22')
    (rest : List Char) : cutTag none (text ++ '>' :: rest) = some (text ++ ['>'], rest) := by
  induction text with
  | nil => rfl
  | cons character text induction =>
      obtain ⟨⟨notEnd, notSingle, notDouble⟩, later⟩ := List.forall_mem_cons.mp plain
      simp [cutTag, notEnd, notSingle, notDouble, induction later]

theorem cut_opening (simple : isSimpleName encoding name = true) (rest : List Char) :
    cut ('<' :: (name ++ '>' :: rest)) = some ('<' :: (name ++ ['>']), rest) := by
  have tag := cutTag_plain
    (fun character member =>
      ne_of_continuesName (continuesName_of_isSimpleName simple character member)) rest
  cases name with
  | nil => cases simple
  | cons first more =>
      rw [List.cons_append] at tag ⊢
      rw [cut_of_startsName (Bool.and_eq_true_iff.mp simple).1, tag]
      rfl

theorem ofCut_opening (simple : isSimpleName encoding name = true) :
    ofCut (.document encoding) ('<' :: (name ++ ['>'])) =
      some (.opening ⟨none, name⟩ [] false) := by
  have isName := read_simpleName simple []
  cases name with
  | nil => cases simple
  | cons first more =>
      rw [List.cons_append] at isName ⊢
      rw [ofCut_of_startsName (Bool.and_eq_true_iff.mp simple).1, readOpening, isName]
      rfl

theorem cut_closing (simple : isSimpleName encoding name = true) (rest : List Char) :
    cut ('<' :: '/' :: (name ++ '>' :: rest)) = some ('<' :: '/' :: (name ++ ['>']), rest) := by
  have tag := cutTag_plain
    (fun character member =>
      ne_of_continuesName (continuesName_of_isSimpleName simple character member)) rest
  simp [cut, cutTag, tag]

theorem ofCut_closing (simple : isSimpleName encoding name = true) :
    ofCut (.document encoding) ('<' :: '/' :: (name ++ ['>'])) = some (.closing ⟨none, name⟩) := by
  rw [ofCut, Origin.encoding, readClosing, read_simpleName simple]
  rfl

theorem ne_of_isData {character : Char} (data : isData character = true) :
    character ≠ '<' ∧ character ≠ '&' := by
  constructor <;> rintro rfl <;> cases data

theorem cut_of_isData {first : Char} (data : isData first = true) (rest : List Char) :
    cut (first :: rest) =
      some ((first :: rest).takeWhile isData, (first :: rest).dropWhile isData) := by
  obtain ⟨notTag, notReference⟩ := ne_of_isData data
  unfold cut
  split <;> simp_all

theorem cut_data {run rest : List Char} (filled : run ≠ [])
    (data : ∀ character ∈ run, isData character = true)
    (stops : ∀ character ∈ rest.head?, isData character = false) :
    cut (run ++ rest) = some (run, rest) := by
  have longest : LongestRun isData (run ++ rest) run rest := ⟨rfl, data, stops⟩
  obtain ⟨first, more, rfl⟩ := List.exists_cons_of_ne_nil filled
  rw [List.cons_append] at longest ⊢
  rw [cut_of_isData (data first (by simp)), longest.takeWhile_eq, longest.dropWhile_eq]

/-- Data without a closing angle bracket closes no literal section. -/
theorem ofCut_data {run : List Char} (filled : run ≠ [])
    (data : ∀ character ∈ run, isData character = true)
    (plain : ∀ character ∈ run, character ≠ '>' ∧ character ≠ '\r') :
    ofCut (.document encoding) run = some (.data run) := by
  have unmarked : holds "]]>".toList run = false := by
    cases marked : breakOn "]]>".toList run with
    | none => rw [holds, marked]; rfl
    | some found =>
        have whole := append_of_breakOn marked
        have inside : '>' ∈ run := by rw [← whole]; simp
        exact absurd rfl (plain '>' inside).1
  have unified : unifyLineFeeds run = run := by
    clear filled data unmarked
    induction run with
    | nil => rfl
    | cons first rest induction =>
        obtain ⟨⟨_, notReturn⟩, later⟩ := List.forall_mem_cons.mp plain
        rw [unifyLineFeeds, induction later, if_neg notReturn]
        rintro _ rfl
        exact absurd rfl notReturn
  obtain ⟨first, more, rfl⟩ := List.exists_cons_of_ne_nil filled
  have isFirst := data first (by simp)
  obtain ⟨notTag, notReference⟩ := ne_of_isData isFirst
  unfold ofCut
  split <;> simp_all [Origin.characterData]

end Token

def Progress.take (progress : Progress) (encoding : Encoding) (written : List Char) : Progress :=
  { progress with
    expansion := { progress.expansion with
      direct := progress.expansion.direct + encoding.size written } }

namespace Content

def StartsMarkup (rest : List Char) : Prop :=
  ∃ character ∈ rest.head?, Token.isData character = false

/-- A name without a qualifier is in no namespace inside the opened elements. -/
def HasNoDefault (outer : Bindings) (opened : List OpenElement) : Prop :=
  ((opened.head?.map OpenElement.bindings).getD outer).lookup [] = none

/-- Inside an element of a document without declarations the content is read as the given trees,
whatever rest of the given kind follows. -/
def ReadsAs (encoding : Encoding) (follows : List Char → Prop) (content : List Char)
    (trees : List Tree) : Prop :=
  ∀ standalone follow outer fuel opened rest progress, opened ≠ [] →
    HasNoDefault outer opened → follows rest → content.length ≤ fuel →
    progress.expansion.indirect ≤ progress.expansion.direct →
    ∃ left after, fuel ≤ left + content.length ∧
      read (.empty standalone) follow (.document encoding) outer fuel opened (content ++ rest)
        progress =
        read (.empty standalone) follow (.document encoding) outer left opened rest after ∧
      after.events = (Tree.allEvents trees).reverse ++ progress.events ∧
      after.expansion.indirect ≤ after.expansion.direct

section Reading

variable {encoding : Encoding}

theorem readsAs_nil (follows : List Char → Prop) : ReadsAs encoding follows [] [] := by
  intro standalone follow outer fuel opened rest progress _ _ _ _ balanced
  exact ⟨fuel, progress, Nat.le_refl _, rfl, rfl, balanced⟩

theorem readsAs_append {before follows : List Char → Prop} {front back : List Char}
    {first later : List Tree} (readsFront : ReadsAs encoding before front first)
    (readsBack : ReadsAs encoding follows back later)
    (apart : ∀ rest, follows rest → before (back ++ rest)) :
    ReadsAs encoding follows (front ++ back) (first ++ later) := by
  intro standalone follow outer fuel opened rest progress inside noDefault kind enough balanced
  rw [List.length_append] at enough
  obtain ⟨left, middle, cost, reads, events, stillBalanced⟩ := readsFront standalone follow outer
    fuel opened (back ++ rest) progress inside noDefault (apart rest kind) (by omega) balanced
  obtain ⟨leftAfter, after, costAfter, readsAfter, eventsAfter, balancedAfter⟩ := readsBack
    standalone follow outer left opened rest middle inside noDefault kind (by omega) stillBalanced
  refine ⟨leftAfter, after, ?_, ?_, ?_, balancedAfter⟩
  · rw [List.length_append]
    omega
  · rw [List.append_assoc, reads, readsAfter]
  · rw [eventsAfter, events, Tree.allEvents_append, List.reverse_append, List.append_assoc]

/-- One step of reading a document, whose element is open before the token or after it. -/
theorem read_token {declared : Declared}
    {follow : List Char → Bindings → Progress → Option Progress} {outer : Bindings} (fuel : Nat)
    {opened openedAfter : List OpenElement} {text written rest : List Char}
    {progress after : Progress} {token : Token}
    (balanced : progress.expansion.indirect ≤ progress.expansion.direct)
    (filled : text ≠ []) (isCut : Token.cut text = some (written, rest))
    (isToken : Token.ofCut (.document encoding) written = some token)
    (stepped : step declared follow (.document encoding)
      ((opened.head?.map OpenElement.bindings).getD outer) opened
      (progress.take encoding written) token = some (openedAfter, after)) :
    read declared follow (.document encoding) outer (fuel + 1) opened text progress =
      if openedAfter.isEmpty then some (after, rest)
      else read declared follow (.document encoding) outer fuel openedAfter rest after := by
  obtain ⟨first, more, rfl⟩ := List.exists_cons_of_ne_nil filled
  rw [Progress.take] at stepped
  simp [read, isCut, Origin.account, Origin.size, Origin.encoding,
    Expansion.count_direct balanced, isToken, stepped]

/-- A token that adds a text, such as character data or a reference to a character. -/
theorem readsAs_text {follows : List Char → Prop} {written content : List Char} {token : Token}
    (filled : written ≠ [])
    (isCut : ∀ rest, follows rest → Token.cut (written ++ rest) = some (written, rest))
    (isToken : Token.ofCut (.document encoding) written = some token)
    (adds : ∀ declared follow bindings opened progress, ∃ after,
      step declared follow (.document encoding) bindings opened progress token =
        some (opened, after) ∧
      after.events = .text content :: progress.events ∧
      after.expansion.direct = progress.expansion.direct ∧
      after.expansion.indirect ≤ progress.expansion.indirect + 1) :
    ReadsAs encoding follows written [.text content] := by
  intro standalone follow outer fuel opened rest progress inside _ kind enough balanced
  have something : 1 ≤ written.length := List.length_pos_iff.mpr filled
  have taken := Encoding.length_le_size encoding written
  obtain ⟨left, rfl⟩ : ∃ left, fuel = left + 1 := ⟨fuel - 1, by omega⟩
  have notDone : opened.isEmpty = false := by simpa using inside
  obtain ⟨after, stepped, events, direct, indirect⟩ :=
    adds (.empty standalone) follow ((opened.head?.map OpenElement.bindings).getD outer) opened
      (progress.take encoding written)
  refine ⟨left, after, by omega, ?_, ?_, ?_⟩
  · rw [read_token left balanced (by simp [filled]) (isCut rest kind) isToken stepped, notDone]
    rfl
  · rw [events]
    rfl
  · simp only [Progress.take] at direct indirect
    omega

def isMarked (character : Char) : Bool :=
  character = '<' || character = '>' || character = '&'

theorem isMarked_eq_true_iff {character : Char} :
    isMarked character = true ↔ character = '<' ∨ character = '>' ∨ character = '&' := by
  simp [isMarked, or_assoc]

theorem isMarked_eq_false_iff {character : Char} :
    isMarked character = false ↔ character ≠ '<' ∧ character ≠ '>' ∧ character ≠ '&' := by
  simp [isMarked, and_assoc]

theorem readsAs_data {run : List Char} (filled : run ≠ [])
    (plain : ∀ character ∈ run, isMarked character = false ∧ character ≠ '\r') :
    ReadsAs encoding StartsMarkup run [.text run] := by
  have data : ∀ character ∈ run, Token.isData character = true := by
    intro character member
    have kind := isMarked_eq_false_iff.mp (plain character member).1
    simp [Token.isData, kind]
  apply readsAs_text filled
  · intro rest markup
    obtain ⟨character, isFirst, mark⟩ := markup
    apply Token.cut_data filled data
    intro other isOther
    rw [← Option.mem_unique isFirst isOther]
    exact mark
  · apply Token.ofCut_data filled data
    intro character member
    obtain ⟨kind, notReturn⟩ := plain character member
    exact ⟨(isMarked_eq_false_iff.mp kind).2.1, notReturn⟩
  · intro declared follow bindings opened progress
    exact ⟨_, rfl, rfl, rfl, Nat.le_succ _⟩

theorem readsAs_escapeCharacter {character : Char} (marked : isMarked character = true) :
    ReadsAs encoding (fun _ => True) (Entry.escapeCharacter character) [.text [character]] := by
  have adds : ∀ declared follow bindings opened progress, ∃ after,
      step declared follow (.document encoding) bindings opened progress
        (.reference (.predefined character)) = some (opened, after) ∧
      after.events = .text [character] :: progress.events ∧
      after.expansion.direct = progress.expansion.direct ∧
      after.expansion.indirect ≤ progress.expansion.indirect + 1 := by
    intro declared follow bindings opened progress
    exact ⟨_, rfl, rfl, rfl, Nat.le_refl _⟩
  rcases isMarked_eq_true_iff.mp marked with rfl | rfl | rfl
  · exact readsAs_text (by decide) (fun _ _ => rfl) (by cases encoding <;> rfl) adds
  · exact readsAs_text (by decide) (fun _ _ => rfl) (by cases encoding <;> rfl) adds
  · exact readsAs_text (by decide) (fun _ _ => rfl) (by cases encoding <;> rfl) adds

theorem escape_of_unmarked {run : List Char}
    (plain : ∀ character ∈ run, isMarked character = false) : Entry.escape run = run := by
  induction run with
  | nil => rfl
  | cons first rest induction =>
      obtain ⟨kind, later⟩ := List.forall_mem_cons.mp plain
      obtain ⟨notOpen, notClose, notReference⟩ := isMarked_eq_false_iff.mp kind
      rw [Entry.escape] at induction ⊢
      rw [List.flatMap_cons, induction later, Entry.escapeCharacter, if_neg notOpen,
        if_neg notClose, if_neg notReference]
      rfl

theorem startsMarkup_escapeCharacter {character : Char} (marked : isMarked character = true)
    (rest : List Char) : StartsMarkup (Entry.escapeCharacter character ++ rest) := by
  refine ⟨'&', ?_, by decide⟩
  rcases isMarked_eq_true_iff.mp marked with rfl | rfl | rfl <;> rfl

theorem escape_append (front back : List Char) :
    Entry.escape (front ++ back) = Entry.escape front ++ Entry.escape back :=
  List.flatMap_append

/-- An escaped text is read in parts that make up the text. -/
theorem exists_readsAs_escape (text : List Char) (plain : '\r' ∉ text) :
    ∃ parts : List (List Char),
      ReadsAs encoding StartsMarkup (Entry.escape text) (parts.map .text) ∧
      parts.flatten = text := by
  have dataReads : ∀ run, (∀ character ∈ run, isMarked character = false) → '\r' ∉ run →
      Entry.escape run = run ∧ ∃ parts : List (List Char),
        ReadsAs encoding StartsMarkup run (parts.map .text) ∧ parts.flatten = run := by
    intro run inside plainRun
    refine ⟨escape_of_unmarked inside, ?_⟩
    by_cases empty : run = []
    · subst empty
      exact ⟨[], readsAs_nil _, rfl⟩
    · refine ⟨[run], readsAs_data empty fun character member => ⟨inside character member, ?_⟩,
        List.append_nil _⟩
      rintro rfl
      exact plainRun member
  induction text using run_induction isMarked with
  | run run inside =>
      obtain ⟨same, reads⟩ := dataReads run inside plain
      rwa [same]
  | cut run mark rest inside marked induction =>
      simp only [List.mem_append, List.mem_cons, not_or] at plain
      obtain ⟨same, parts, reads, whole⟩ := dataReads run inside plain.1
      obtain ⟨later, readsLater, wholeLater⟩ := induction plain.2.2
      refine ⟨parts ++ [mark] :: later, ?_, by simp [whole, wholeLater]⟩
      rw [escape_append, same, List.map_append]
      apply readsAs_append reads
      · exact readsAs_append (readsAs_escapeCharacter marked) readsLater fun _ _ => trivial
      · intro behind _
        rw [Entry.escape, List.flatMap_cons, List.append_assoc]
        exact startsMarkup_escapeCharacter marked _

theorem tag_of_hasNoDefault {outer : Bindings} {opened : List OpenElement}
    (noDefault : HasNoDefault outer opened) (name : List Char) :
    ((opened.head?.map OpenElement.bindings).getD outer).tag ⟨none, name⟩ = name := by
  rw [HasNoDefault] at noDefault
  simp [Bindings.tag, noDefault]

/-- A tag opens an element that has no attributes and declares nothing. -/
theorem read_openingTag {name : List Char} (simple : isSimpleName encoding name = true)
    (standalone : Bool) (follow : List Char → Bindings → Progress → Option Progress)
    {outer : Bindings} (fuel : Nat) {opened : List OpenElement} (rest : List Char)
    (noDefault : HasNoDefault outer opened)
    {progress : Progress} (balanced : progress.expansion.indirect ≤ progress.expansion.direct) :
    ∃ element after,
      read (.empty standalone) follow (.document encoding) outer (fuel + 1) opened
          ('<' :: (name ++ '>' :: rest)) progress =
        read (.empty standalone) follow (.document encoding) outer fuel (element :: opened) rest
          after ∧
      element.name = ⟨none, name⟩ ∧ element.tag = name ∧
      HasNoDefault outer (element :: opened) ∧
      after.events = .opening name :: progress.events ∧
      after.expansion.indirect ≤ after.expansion.direct := by
  let bindings := (opened.head?.map OpenElement.bindings).getD outer
  have plainTag : bindings.tag ⟨none, name⟩ = name := tag_of_hasNoDefault noDefault name
  let counted := progress.take encoding ('<' :: (name ++ ['>']))
  have stepped : step (.empty standalone) follow (.document encoding) bindings opened counted
      (.opening ⟨none, name⟩ [] false) =
      some (⟨⟨none, name⟩, bindings⟩ :: opened,
        emit counted (.opening (bindings.tag ⟨none, name⟩))) := rfl
  rw [plainTag] at stepped
  have opens := read_token fuel balanced (List.cons_ne_nil _ _) (Token.cut_opening simple rest)
    (Token.ofCut_opening simple) stepped
  refine ⟨_, _, opens.trans (if_neg (by simp)), rfl, plainTag, noDefault, rfl, ?_⟩
  exact Nat.le_trans balanced (Nat.le_add_right _ _)

/-- The tag that closes the last element open ends the reading. -/
theorem read_closingTag {element : OpenElement} {name : List Char}
    (simple : isSimpleName encoding name = true) (sameName : element.name = ⟨none, name⟩)
    (plainTag : element.tag = name) (declared : Declared)
    (follow : List Char → Bindings → Progress → Option Progress)
    (outer : Bindings) (fuel : Nat) (opened : List OpenElement) (rest : List Char)
    {progress : Progress} (balanced : progress.expansion.indirect ≤ progress.expansion.direct) :
    ∃ after,
      read declared follow (.document encoding) outer (fuel + 1) (element :: opened)
          ('<' :: '/' :: (name ++ '>' :: rest)) progress =
        (if opened.isEmpty then some (after, rest)
          else read declared follow (.document encoding) outer fuel opened rest after) ∧
      after.events = .closing name :: progress.events ∧
      after.expansion.indirect ≤ after.expansion.direct := by
  let counted := progress.take encoding ('<' :: '/' :: (name ++ ['>']))
  have stepped : step declared follow (.document encoding) element.bindings (element :: opened)
      counted (.closing ⟨none, name⟩) = some (opened, emit counted (.closing element.tag)) :=
    if_pos sameName
  rw [plainTag] at stepped
  refine ⟨emit counted (.closing name),
    read_token fuel balanced (List.cons_ne_nil _ _) (Token.cut_closing simple rest)
      (Token.ofCut_closing simple) stepped, rfl, ?_⟩
  exact Nat.le_trans balanced (Nat.le_add_right _ _)

/-- Up to its end an element is read as it is written, the innermost one or the outermost. -/
theorem read_printElement {name content : List Char} {trees : List Tree}
    (simple : isSimpleName encoding name = true)
    (reads : ReadsAs encoding StartsMarkup content trees) (standalone : Bool)
    (follow : List Char → Bindings → Progress → Option Progress) {outer : Bindings} {fuel : Nat}
    {opened : List OpenElement} (noDefault : HasNoDefault outer opened) (rest : List Char)
    {progress : Progress} (enough : (Entry.printElement name content).length ≤ fuel)
    (balanced : progress.expansion.indirect ≤ progress.expansion.direct) :
    ∃ left after, fuel ≤ left + (Entry.printElement name content).length ∧
      read (.empty standalone) follow (.document encoding) outer fuel opened
          (Entry.printElement name content ++ rest) progress =
        (if opened.isEmpty then some (after, rest)
        else read (.empty standalone) follow (.document encoding) outer left opened rest after) ∧
      after.events =
        (Tree.element (.ofSimpleName simple) trees).events.reverse ++ progress.events ∧
      after.expansion.indirect ≤ after.expansion.direct := by
  have length : (Entry.printElement name content).length =
      content.length + 2 * name.length + 5 := by
    simp [Entry.printElement]
    omega
  have shape : Entry.printElement name content ++ rest =
      '<' :: (name ++ '>' :: (content ++ '<' :: '/' :: (name ++ '>' :: rest))) := by
    simp [Entry.printElement]
  obtain ⟨fuel, rfl⟩ : ∃ less, fuel = less + 1 := ⟨fuel - 1, by omega⟩
  obtain ⟨element, inside, opens, sameName, plainTag, stillNone, openingEvent, insideBalanced⟩ :=
    read_openingTag simple standalone follow fuel
      (content ++ '<' :: '/' :: (name ++ '>' :: rest)) noDefault balanced
  obtain ⟨left, behind, cost, readsContent, events, behindBalanced⟩ := reads standalone follow
    outer fuel (element :: opened) ('<' :: '/' :: (name ++ '>' :: rest)) inside
    (List.cons_ne_nil _ _) stillNone ⟨'<', rfl, by decide⟩ (by omega) insideBalanced
  obtain ⟨left, rfl⟩ : ∃ less, left = less + 1 := ⟨left - 1, by omega⟩
  obtain ⟨after, closes, closingEvent, afterBalanced⟩ := read_closingTag simple sameName
    plainTag (.empty standalone) follow outer left opened rest behindBalanced
  refine ⟨left, after, by omega, ?_, ?_, afterBalanced⟩
  · rw [shape, opens, readsContent, closes]
  · have text : (Tag.ofSimpleName simple).text = name := rfl
    rw [closingEvent, events, openingEvent, Tree.events, text]
    simp

theorem readsAs_printElement {name content : List Char} {trees : List Tree}
    (simple : isSimpleName encoding name = true)
    (reads : ReadsAs encoding StartsMarkup content trees) :
    ReadsAs encoding (fun _ => True) (Entry.printElement name content)
      [.element (.ofSimpleName simple) trees] := by
  intro standalone follow outer fuel opened rest progress inside noDefault _ enough balanced
  obtain ⟨left, after, cost, whole, events, afterBalanced⟩ :=
    read_printElement simple reads standalone follow noDefault rest enough balanced
  have notDone : opened.isEmpty = false := by simpa using inside
  rw [notDone] at whole
  exact ⟨left, after, cost, whole, by rw [events, Tree.allEvents_singleton], afterBalanced⟩

end Reading

end Content

theorem isCharacter_of_mem_printElement {name content : List Char}
    (allowedName : ∀ character ∈ name, isCharacter character = true)
    (allowed : ∀ character ∈ content, isCharacter character = true) :
    ∀ character ∈ Entry.printElement name content, isCharacter character = true := by
  have marks : isCharacter '<' = true ∧ isCharacter '/' = true ∧ isCharacter '>' = true := by
    decide
  simp only [Entry.printElement, List.mem_cons, List.mem_append, List.not_mem_nil, or_false]
  rintro character (rfl | inName | rfl | inContent | rfl | rfl | inName | rfl)
  · exact marks.1
  · exact allowedName _ inName
  · exact marks.2.2
  · exact allowed _ inContent
  · exact marks.1
  · exact marks.2.1
  · exact allowedName _ inName
  · exact marks.2.2

namespace Document

theorem skip_of_element {encoding : Encoding} {first : Char}
    (starts : startsName encoding first = true) (rest : List Char) :
    skip encoding ('<' :: first :: rest) = some ('<' :: first :: rest) := by
  obtain ⟨_, bang, question⟩ := Token.ne_of_startsName starts
  rw [skip, skipAround]
  have spaced : skipSpaces ('<' :: first :: rest) = '<' :: first :: rest := rfl
  rw [spaced]
  split <;> simp_all

theorem isPrefixOf?_of_ne {mark first : Char} (other : first ≠ mark) (more rest : List Char) :
    List.isPrefixOf? ('<' :: mark :: more) ('<' :: first :: rest) = none := by
  simp [List.isPrefixOf?, Ne.symm other]

/-- A document that starts with an element declares nothing. -/
theorem readProlog_of_element {source : Source} {first : Char} {rest : List Char}
    (shape : source.text = '<' :: first :: rest)
    (starts : startsName source.encoding first = true) :
    readProlog source = some (.empty source.standalone, source.text) := by
  obtain ⟨_, bang, _⟩ := Token.ne_of_startsName starts
  have noType : "<!DOCTYPE".toList.isPrefixOf? ('<' :: first :: rest) = none :=
    isPrefixOf?_of_ne bang _ _
  rw [readProlog, shape, skip_of_element starts]
  simp only [Option.bind_eq_bind, Option.bind_some]
  rw [noType]

/-- The first byte of a character that starts a name is that of no other markup. -/
theorem exists_byte_of_startsName {encoding : Encoding} {first : Char}
    (starts : startsName encoding first = true) (rest : List Char) :
    ∃ byte more, Text.Utf8.encode (first :: rest) = byte :: more ∧ byte ≠ 0 ∧ byte ≠ 0x3f := by
  have notZero : first.toNat ≠ 0 := by
    intro zero
    have null : first = '\x00' := by rw [← Char.ofNat_toNat first, zero]
    subst null
    exact absurd starts (by simp [startsName])
  have notMark : first.toNat ≠ 0x3f := by
    intro mark
    have question : first = '?' := by rw [← Char.ofNat_toNat first, mark]
    exact (Token.ne_of_startsName starts).2.2 question
  have valid := Text.Utf8.toNat_cases first
  have leading : ∃ value later, Text.Utf8.encodeCharacter first = value :: later ∧ value < 256 ∧
      value ≠ 0 ∧ value ≠ 0x3f := by
    unfold Text.Utf8.encodeCharacter
    generalize first.toNat = value at notZero notMark valid
    simp only
    split
    · exact ⟨_, _, rfl, by omega, notZero, notMark⟩
    · split
      · exact ⟨_, _, rfl, by omega, by omega, by omega⟩
      · split
        · exact ⟨_, _, rfl, by omega, by omega, by omega⟩
        · exact ⟨_, _, rfl, by omega, by omega, by omega⟩
  obtain ⟨value, later, encoded, small, filled, other⟩ := leading
  refine ⟨UInt8.ofNat value, later.map UInt8.ofNat ++ Text.Utf8.encode rest, ?_, ?_, ?_⟩
  · rw [Text.Utf8.encode, List.flatMap_cons, encoded]
    rfl
  · intro zero
    have same := congrArg UInt8.toNat zero
    rw [Text.Utf8.toNat_ofNat_of_lt small] at same
    exact filled same
  · intro mark
    have same := congrArg UInt8.toNat mark
    rw [Text.Utf8.toNat_ofNat_of_lt small] at same
    exact other same

theorem detect_of_element {byte : UInt8} (filled : byte ≠ 0) (more : List UInt8) :
    Encoding.detect (0x3c :: byte :: more) = (.utf8, 0x3c :: byte :: more) := by
  unfold Encoding.detect
  split <;> simp_all

theorem ofBytes_of_element {first : Char} {rest : List Char}
    (starts : startsName .utf8 first = true)
    (allowed : ∀ character ∈ first :: rest, isCharacter character = true) :
    Source.ofBytes (Text.Utf8.encode ('<' :: first :: rest)) =
      .ok ⟨.utf8, (Text.Utf8.encode ('<' :: first :: rest)).length, false,
        '<' :: first :: rest⟩ := by
  obtain ⟨byte, more, encoded, filled, other⟩ := exists_byte_of_startsName starts rest
  have bytes : Text.Utf8.encode ('<' :: first :: rest) = 0x3c :: byte :: more := by
    rw [← encoded]
    rfl
  have decoded : Encoding.utf8.decode (0x3c :: byte :: more) = some ('<' :: first :: rest) := by
    rw [← bytes]
    exact Text.Utf8.decode?_encode _
  have isText : ('<' :: first :: rest).all isCharacter = true := by
    rw [List.all_cons, List.all_eq_true.mpr allowed]
    decide
  have notDeclared : Declaration.read (Encoding.decodeBytewise (0x3c :: byte :: more)) =
      some (⟨none, false⟩, Encoding.decodeBytewise (0x3c :: byte :: more)) := by
    have noMark : Char.ofNat byte.toNat ≠ '?' := by
      intro mark
      have small := byte.toNat_lt
      have same := congrArg Char.toNat mark
      rw [Char.toNat_ofNat, if_pos (.inl (by omega))] at same
      exact other (UInt8.toNat_inj.mp same)
    have noDeclaration : "<?xml".toList.isPrefixOf?
        (Encoding.decodeBytewise (0x3c :: byte :: more)) = none :=
      isPrefixOf?_of_ne noMark _ _
    rw [Declaration.read, noDeclaration]
  have isPreview : Encoding.utf8.preview (0x3c :: byte :: more) =
      Encoding.decodeBytewise (0x3c :: byte :: more) := rfl
  rw [bytes, Source.ofBytes, detect_of_element filled]
  simp [isPreview, notDeclared, decoded, isText, Flaw.require, bind, Except.bind]

/-- A written document is read as it is written. -/
theorem read_printElement {name content : List Char} {trees : List Tree}
    (simple : isSimpleName .utf8 name = true)
    (reads : Content.ReadsAs .utf8 Content.StartsMarkup content trees)
    (allowedName : ∀ character ∈ name, isCharacter character = true)
    (allowed : ∀ character ∈ content, isCharacter character = true) :
    Document.read (Text.Utf8.encode (Entry.printElement name content)) =
      .ok (Tree.element (.ofSimpleName simple) trees).events := by
  obtain ⟨first, more, rfl⟩ : ∃ first more, name = first :: more := by
    cases name with
    | nil => cases simple
    | cons first more => exact ⟨first, more, rfl⟩
  have starts := (Bool.and_eq_true_iff.mp simple).1
  have shape : Entry.printElement (first :: more) content = '<' :: first ::
      (more ++ '>' :: (content ++ '<' :: '/' :: (first :: more ++ ['>']))) := rfl
  let source : Source := ⟨.utf8, (Text.Utf8.encode (Entry.printElement (first :: more) content)).length,
    false, Entry.printElement (first :: more) content⟩
  have isSource : Source.ofBytes (Text.Utf8.encode (Entry.printElement (first :: more) content)) =
      .ok source :=
    ofBytes_of_element starts fun character member =>
      isCharacter_of_mem_printElement allowedName allowed character (List.mem_cons_of_mem _ member)
  have prolog : readProlog source = some (.empty false, source.text) :=
    readProlog_of_element shape starts
  have startsHere : startsElement source.encoding source.text = true := starts
  let start : Progress := ⟨[], ⟨source.bytesBefore source.text, 0⟩⟩
  have balanced : start.expansion.indirect ≤ start.expansion.direct := Nat.zero_le _
  have noDefault : Content.HasNoDefault Bindings.initial [] := rfl
  obtain ⟨left, after, _, whole, events, _⟩ := Content.read_printElement simple reads false
    (Content.readEntity (.empty false) 1 []) noDefault []
    (Nat.le_succ (Entry.printElement (first :: more) content).length) balanced
  rw [List.append_nil] at whole events
  have inside : Content.read (.empty false)
      (Content.readEntity (.empty false) ((Declared.empty false).entities.length + 1) [])
      (.document source.encoding) Bindings.initial (source.text.length + 1) [] source.text
      ⟨[], ⟨source.bytesBefore source.text, (Declared.empty false).expanded⟩⟩ =
        some (after, []) := whole
  have ends : endsWell source after.expansion [] = true := rfl
  apply read_eq_ok_iff.mpr
  refine ⟨source, isSource, ?_⟩
  rw [readSource]
  simp only [Option.bind_eq_bind, Option.bind_some, prolog, startsHere, inside, ends]
  rw [events, List.reverse_reverse]
  rfl

end Document

end Disassembly.Markup
