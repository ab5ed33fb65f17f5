import Disassembly.Proofs.Reference.Closings
import Disassembly.Proofs.Reference.Loading

/-!
What looking a mnemonic up finds, as rules on entries that mention neither the store nor the order
in which entries are written. The x86 family changes three entries of its document and no other. A
mnemonic without an entry is looked up once more without its size letter and never a third time.
All of it holds in a library in use, for the document as it stood when the family was first needed.
-/

namespace Disassembly.Reference

open Markup Text

/-- The entries of a family, given those of its document. An empty description is one like any
other. -/
def completed (read : List Char → Option (List Char)) : Family → List Char → Option (List Char)
  | .arm, asked => read asked
  | .x86, asked =>
      if asked = "movabs".toList then some "Move a 64-bit value".toList
      else if asked = "ret".toList then (read "retn".toList).or (read "ret".toList)
      else if asked = "movslq".toList then (read "movsxd".toList).or (read "movslq".toList)
      else read asked

inductive LooksUp (known : List Char → Option (List Char)) :
    List Char → Option (List Char) → Prop
  | own {mnemonic description : List Char} (entry : known mnemonic = some description) :
      LooksUp known mnemonic (some description)
  /-- Without an entry of its own, a mnemonic has that of what stands before its size letter. -/
  | base {stem : List Char} {letter : Char} (unknown : known (stem ++ [letter]) = none)
      (size : letter ∈ ['b', 'w', 'l', 'q']) : LooksUp known (stem ++ [letter]) (known stem)
  | nothing {mnemonic : List Char} (unknown : known mnemonic = none)
      (sizeless : ∀ stem, ∀ letter ∈ ['b', 'w', 'l', 'q'], mnemonic ≠ stem ++ [letter]) :
      LooksUp known mnemonic none

/-! Entries of a family. -/

/-- Besides the description of wide moves, an entry is copied from one of the document or kept. -/
theorem completed_cases (read : List Char → Option (List Char)) (family : Family)
    (mnemonic : List Char) :
    (family = .x86 ∧ completed read family mnemonic = some "Move a 64-bit value".toList) ∨
      ∃ source, completed read family mnemonic = (read source).or (read mnemonic) := by
  have kept : ∃ source, read mnemonic = (read source).or (read mnemonic) :=
    ⟨mnemonic, Option.or_self.symm⟩
  cases family with
  | arm => exact .inr kept
  | x86 =>
      rw [completed]
      by_cases wide : mnemonic = "movabs".toList
      · rw [if_pos wide]
        exact .inl ⟨rfl, rfl⟩
      · rw [if_neg wide]
        right
        by_cases back : mnemonic = "ret".toList
        · rw [if_pos back, back]
          exact ⟨_, rfl⟩
        · rw [if_neg back]
          by_cases signed : mnemonic = "movslq".toList
          · rw [if_pos signed, signed]
            exact ⟨_, rfl⟩
          · rw [if_neg signed]
            exact kept

theorem isSome_completed {read : List Char → Option (List Char)} {mnemonic : List Char}
    (found : (read mnemonic).isSome) (family : Family) :
    (completed read family mnemonic).isSome := by
  rcases completed_cases read family mnemonic with ⟨_, wide⟩ | ⟨source, copied⟩
  · rw [wide]
    rfl
  · rw [copied, Option.isSome_or, found, Bool.or_true]

theorem completed_of_notMem (read : List Char → Option (List Char)) (family : Family)
    {mnemonic : List Char}
    (other : mnemonic ∉ ["movabs".toList, "ret".toList, "movslq".toList]) :
    completed read family mnemonic = read mnemonic := by
  cases family with
  | arm => rfl
  | x86 =>
      simp only [List.mem_cons, List.not_mem_nil, or_false, not_or] at other
      rw [completed, if_neg other.1, if_neg other.2.1, if_neg other.2.2]

/-- A family has the descriptions of its document and no other but the one of wide moves. -/
theorem exists_read_of_completed {read : List Char → Option (List Char)} {family : Family}
    {mnemonic description : List Char}
    (found : completed read family mnemonic = some description) :
    family = .x86 ∧ description = "Move a 64-bit value".toList ∨
      ∃ source, read source = some description := by
  rcases completed_cases read family mnemonic with ⟨x86, wide⟩ | ⟨source, copied⟩
  · exact .inl ⟨x86, Option.some.inj (found.symm.trans wide)⟩
  · right
    rcases Option.or_eq_some_iff.mp (copied.symm.trans found) with other | ⟨_, own⟩
    · exact ⟨source, other⟩
    · exact ⟨mnemonic, own⟩

namespace Descriptions

theorem description?_copyEntry (source target asked : List Char) (descriptions : Descriptions) :
    description? (copyEntry source target descriptions) asked =
      if asked = target then (descriptions.description? source).or (descriptions.description? target)
      else descriptions.description? asked := by
  rw [copyEntry]
  cases descriptions.description? source with
  | none =>
      by_cases same : asked = target
      · simp [same]
      · simp [same]
  | some description => exact description?_set target description asked descriptions

/-- Writing the entries one after the other comes to the rule, as none is copied from one that was
written before. -/
theorem description?_complete (family : Family) (descriptions : Descriptions) :
    description? (complete family descriptions) = completed descriptions.description? family := by
  funext asked
  cases family with
  | arm => rfl
  | x86 =>
      simp only [complete, completed, description?_copyEntry, description?_set]
      by_cases wide : asked = "movabs".toList
      · subst wide
        rfl
      · by_cases back : asked = "ret".toList
        · subst back
          rfl
        · by_cases signed : asked = "movslq".toList
          · subst signed
            rfl
          · simp only [if_neg wide, if_neg back, if_neg signed]

/-! Looking up. -/

theorem endsInSize_iff {mnemonic : List Char} :
    mnemonic.getLast?.any sizeLetters.contains = true ↔
      ∃ stem, ∃ letter ∈ ['b', 'w', 'l', 'q'], mnemonic = stem ++ [letter] := by
  rw [Option.any_eq_true]
  constructor
  · intro ⟨letter, last, size⟩
    obtain ⟨stem, whole⟩ := List.getLast?_eq_some_iff.mp last
    exact ⟨stem, letter, List.contains_iff_mem.mp size, whole⟩
  · intro ⟨stem, letter, size, whole⟩
    exact ⟨letter, whole ▸ List.getLast?_concat, List.contains_iff_mem.mpr size⟩

theorem describe_of_entry {descriptions : Descriptions} {mnemonic description : List Char}
    (entry : descriptions.description? mnemonic = some description) :
    descriptions.describe mnemonic = some description := by
  rw [describe, entry]

theorem describe_of_size {descriptions : Descriptions} {stem : List Char} {letter : Char}
    (unknown : descriptions.description? (stem ++ [letter]) = none)
    (size : letter ∈ ['b', 'w', 'l', 'q']) :
    descriptions.describe (stem ++ [letter]) = descriptions.description? stem := by
  have sized := endsInSize_iff.mpr ⟨stem, letter, size, rfl⟩
  rw [describe, unknown]
  simp only [sized, if_true, List.dropLast_concat]

theorem describe_of_sizeless {descriptions : Descriptions} {mnemonic : List Char}
    (unknown : descriptions.description? mnemonic = none)
    (sizeless : ∀ stem, ∀ letter ∈ ['b', 'w', 'l', 'q'], mnemonic ≠ stem ++ [letter]) :
    descriptions.describe mnemonic = none := by
  have plain : ¬ mnemonic.getLast?.any sizeLetters.contains = true := by
    intro sized
    obtain ⟨stem, letter, size, whole⟩ := endsInSize_iff.mp sized
    exact sizeless stem letter size whole
  rw [describe, unknown]
  exact if_neg plain

/-- The rules say all of it: each mnemonic falls under one of them, and under no other. -/
theorem describe_eq_iff {descriptions : Descriptions} {mnemonic : List Char}
    {found : Option (List Char)} :
    descriptions.describe mnemonic = found ↔ LooksUp descriptions.description? mnemonic found := by
  constructor
  · rintro rfl
    cases entry : descriptions.description? mnemonic with
    | some description =>
        rw [describe_of_entry entry]
        exact .own entry
    | none =>
        by_cases sized : ∃ stem, ∃ letter ∈ ['b', 'w', 'l', 'q'], mnemonic = stem ++ [letter]
        · obtain ⟨stem, letter, size, rfl⟩ := sized
          rw [describe_of_size entry size]
          exact .base entry size
        · have sizeless : ∀ stem, ∀ letter ∈ ['b', 'w', 'l', 'q'],
              mnemonic ≠ stem ++ [letter] :=
            fun stem letter size whole => sized ⟨stem, letter, size, whole⟩
          rw [describe_of_sizeless entry sizeless]
          exact .nothing entry sizeless
  · intro rule
    cases rule with
    | own entry => exact describe_of_entry entry
    | base unknown size => exact describe_of_size unknown size
    | nothing unknown sizeless => exact describe_of_sizeless unknown sizeless

end Descriptions

/-- Whatever is found stands in some entry. -/
theorem LooksUp.exists_known {known : List Char → Option (List Char)} {mnemonic : List Char}
    {found : Option (List Char)} (rule : LooksUp known mnemonic found) {description : List Char}
    (told : found = some description) : ∃ source, known source = some description := by
  cases rule with
  | own entry => exact ⟨mnemonic, entry.trans told⟩
  | base _ _ => exact ⟨_, told⟩
  | nothing _ _ => cases told

/-! Documents in a library in use. -/

namespace Source

def descriptions (source : Source) : Descriptions :=
  match source.read with
  | .loaded descriptions => descriptions
  | .failed _ | .refused _ => []

/-- In the document a description closes with this text. -/
def Gives (source : Source) (description : List Char) : Prop :=
  ∃ bytes root place, source = .file bytes ∧ Document.read bytes = .ok root.events ∧
    BriefAt (Closing.ofTree root) description place

theorem gives_of_entry {source : Source} {mnemonic description : List Char}
    (entry : source.descriptions.description? mnemonic = some description) :
    source.Gives description := by
  rw [descriptions] at entry
  cases source with
  | missing => cases entry
  | directory => cases entry
  | file bytes =>
      rw [read, parse] at entry
      cases isRead : Document.read bytes with
      | error flaw =>
          rw [isRead] at entry
          cases flaw <;> cases entry
      | ok events =>
          rcases Document.exists_element_of_read isRead with ⟨tag, children, rfl⟩
          rw [isRead, Except.map, Descriptions.ofEvents_eq_noted] at entry
          have given := (Collector.tracks_noted (Closing.ofTree (.element tag children))).given
          rcases (given.value mnemonic description).mp entry with ⟨_, _, place, told⟩
          exact ⟨bytes, .element tag children, place, rfl, isRead, told.described⟩

theorem load_of_refused {documents : Documents} {family : Family} {refusal : Refusal}
    (refused : (documents family).read = .refused refusal) :
    (Store.load documents family).map Prod.fst = .error refusal := by
  rw [Store.load_eq_error_iff.mpr refused, Except.map]

theorem load_of_allowed {documents : Documents} {family : Family}
    (allowed : ∀ refusal, (documents family).read ≠ .refused refusal) :
    (Store.load documents family).map Prod.fst =
      .ok (complete family (documents family).descriptions) := by
  rw [Store.load, descriptions]
  cases outcome : (documents family).read with
  | loaded | failed => rfl
  | refused refusal => exact absurd outcome (allowed refusal)

end Source

namespace Library

/-- The document that a family's descriptions come from after some requests: the one that stood
when they were first asked for and not refused, or else the one that stands in the end. -/
def sourceAfter (family : Family) : Library → List Request → Source
  | library, [] => library.documents family
  | library, request :: rest =>
      if family ∈ library.asked request ∧ library.refusal? family = none then
        library.documents family
      else sourceAfter family (library.answer request).2.1 rest

theorem known_after {library : Library} {family : Family} {descriptions : Descriptions}
    (known : (library.store.slot family).descriptions = some descriptions)
    (requests : List Request) :
    ((library.after requests).store.slot family).descriptions = some descriptions := by
  induction requests generalizing library with
  | nil => exact known
  | cons request rest induction =>
      apply induction
      rw [slot_answer_of_known library request known, known]

/-- Whoever asks in the end is told what that document would give to the first to ask. -/
theorem access_after (library : Library) {family : Family}
    (unknown : (library.store.slot family).descriptions = none) (requests : List Request) :
    ((library.after requests).store.access (library.after requests).documents family).1 =
      (Store.load (fun _ => library.sourceAfter family requests) family).map Prod.fst := by
  induction requests generalizing library with
  | nil => exact Store.fst_access_of_unknown unknown library.documents
  | cons request rest induction =>
      rw [sourceAfter]
      split
      · rename_i first
        rcases Store.exists_access first.2 with ⟨descriptions, found, _⟩
        have loaded := (Store.fst_access_of_unknown unknown library.documents).symm.trans found
        have known : ((library.answer request).2.1.store.slot family).descriptions =
            some descriptions := by
          rw [slot_answer_of_asked library first.1, ← Store.slot_access_self]
          exact Store.known_access found
        have again := Store.access_of_known (known_after known rest)
          (library.after (request :: rest)).documents
        exact (congrArg Prod.fst again).trans loaded.symm
      · rename_i later
        apply induction
        by_cases asked : family ∈ library.asked request
        · cases refused : library.refusal? family with
          | none => exact absurd ⟨asked, refused⟩ later
          | some refusal =>
              rw [slot_answer_of_asked library asked, ← Store.slot_access_self,
                Store.access_of_refused refused, Store.slot_setSlot_self]
        · rw [slot_answer_of_not_asked library asked, unknown]

/-- At any time in the use of a library, looking a mnemonic up follows the rules for the entries
of its family. These are the entries that the document gave when the family was first asked for and
not refused, none if it could not be read, with three changes for x86 that make no entry disappear.
So what is found is a description of the document or the one of wide moves. Only while the document
is refused, nothing is looked up. -/
theorem lookup_follows_rules (documents : Documents) (requests : List Request)
    (architecture : Architecture) :
    let library := Library.after ⟨documents, Store.empty⟩ requests
    let source := sourceAfter architecture.family ⟨documents, Store.empty⟩ requests
    let known := completed source.descriptions.description? architecture.family
    ((∀ refusal, source.read ≠ .refused refusal) → ∀ mnemonic, ∃ found,
      (library.answer (.lookup mnemonic architecture)).1 = .description found ∧
        (∀ other, LooksUp known mnemonic other ↔ found = other) ∧
        ∀ description, found = some description →
          architecture.family = .x86 ∧ description = "Move a 64-bit value".toList ∨
            source.Gives description) ∧
    (∀ mnemonic, (source.descriptions.description? mnemonic).isSome → (known mnemonic).isSome) ∧
    (∀ mnemonic ∉ ["movabs".toList, "ret".toList, "movslq".toList],
      known mnemonic = source.descriptions.description? mnemonic) ∧
    ∀ refusal, source.read = .refused refusal → ∀ mnemonic,
      (library.answer (.lookup mnemonic architecture)).1 = .refused refusal := by
  intro library source known
  have fresh : (Store.empty.slot architecture.family).descriptions = none := by
    cases architecture.family <;> rfl
  have found := access_after ⟨documents, Store.empty⟩ fresh requests
  constructor
  · intro allowed mnemonic
    rw [Source.load_of_allowed allowed] at found
    have rules : ∀ other, LooksUp known mnemonic other ↔
        (complete architecture.family source.descriptions).describe mnemonic = other := by
      intro other
      rw [Descriptions.describe_eq_iff, Descriptions.description?_complete]
    refine ⟨_, ?_, rules, ?_⟩
    · simp only [answer, access]
      exact congrArg (Reply.ofFound _) found
    · intro description isFound
      rcases ((rules _).mpr rfl).exists_known isFound with ⟨key, entry⟩
      rcases exists_read_of_completed entry with wide | ⟨origin, given⟩
      · exact .inl wide
      · exact .inr (Source.gives_of_entry given)
  constructor
  · intro mnemonic isKnown
    exact isSome_completed isKnown architecture.family
  constructor
  · intro mnemonic other
    exact completed_of_notMem _ _ other
  · intro refusal refused mnemonic
    rw [Source.load_of_refused refused] at found
    simp only [answer, access]
    exact congrArg (Reply.ofFound _) found

/-- The return in the document that replaces a refused one has an empty description under another
name. It goes before the one under its own. -/
theorem lookup_finds_empty_description :
    let written := "<r><mnem>retn</mnem><brief/><mnem>ret</mnem><brief>Return</brief></r>".toList
    let requests := [Request.lookup "retq".toList .x64,
      .replace .x86 (.file (Text.Utf8.encode written)), .lookup "add".toList .x64,
      .replace .x86 .missing]
    let library := Library.after ⟨fun _ => refusedDocument, Store.empty⟩ requests
    let source := sourceAfter .x86 ⟨fun _ => refusedDocument, Store.empty⟩ requests
    (∀ refusal, source.read ≠ .refused refusal) ∧
      (library.answer (.lookup "retq".toList .x64)).1 = .description (some []) := by
  intro written requests library source
  have loaded : source.read = .loaded [("retn".toList, []), ("ret".toList, "Return".toList)] := by
    decide +kernel
  have allowed : ∀ refusal, source.read ≠ .refused refusal := by
    intro refusal refused
    cases loaded.symm.trans refused
  have entries : source.descriptions = [("retn".toList, []), ("ret".toList, "Return".toList)] := by
    rw [Source.descriptions, loaded]
  rcases lookup_follows_rules (fun _ => refusedDocument) requests .x64 with ⟨follows, _⟩
  rcases follows allowed "retq".toList with ⟨found, replied, rules, _⟩
  have base : LooksUp (completed source.descriptions.description? .x86) "retq".toList (some []) := by
    rw [entries]
    exact @LooksUp.base _ "ret".toList 'q' (by decide) (by decide)
  exact ⟨allowed, by rw [replied, (rules _).mp base]⟩

/-- Not even the description that needs no document is found. -/
theorem refused_document_hides_wide_move :
    (answer ⟨fun _ => refusedDocument, Store.empty⟩ (.lookup "movabs".toList .x64)).1 =
      .refused .multiByte := by
  decide +kernel

end Library

end Disassembly.Reference
