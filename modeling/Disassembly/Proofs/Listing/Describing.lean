import Disassembly.Proofs.Reference.Lookup

/-!
Rendering with descriptions against rendering without. The lookups go through a store that the first
of them may change, by reading a document that may be missing or broken. Still the described lines
are the plain ones, one for one and in their order: a label's line is the same, and an instruction's
line has the description behind it that a lookup finds, unless there is none or it is empty. Once an
instruction was rendered, nothing that happens to the store or to the documents changes the lines.
Only a document that is refused leaves no lines at all. No assumption is made on the labels of the
listing, which need not come from its instructions.
-/

namespace Disassembly.Listing

open Text Reference

/-- The lines of a plain listing, each with the instruction that it is the line of. A label's line
is that of no instruction. -/
def ownedLines (listing : Listing) : List (Option Instruction × List Char) :=
  listing.instructions.flatMap fun instruction =>
    (listing.labelLines instruction).map (fun line => (none, line)) ++
      [(some instruction, listing.instructionLine instruction)]

inductive Describes (found : Option (List Char)) (plain : List Char) : List Char → Prop
  | appended {description : List Char} (known : found = some description)
      (filled : description ≠ []) : Describes found plain (plain ++ " ; ".toList ++ description)
  | unchanged (nothing : ∀ description, found = some description → description = []) :
      Describes found plain plain

inductive Keeps (found : Instruction → Option (List Char)) :
    Option Instruction × List Char → List Char → Prop
  | label (line : List Char) : Keeps found (none, line) line
  | instruction {owner : Instruction} {plain line : List Char}
      (described : Describes (found owner) plain line) : Keeps found (some owner, plain) line

/-! The plain lines and their owners. -/

theorem lines_ownedLines (listing : Listing) :
    listing.ownedLines.map Prod.snd = listing.renderPlain := by
  rw [ownedLines, renderPlain, render, List.map_flatMap]
  congr 1
  funext instruction
  rw [instructionLines, descriptionSuffix, List.append_nil, List.map_append, List.map_map]
  exact congrArg (· ++ [listing.instructionLine instruction]) (List.map_id _)

theorem owners_ownedLines (listing : Listing) :
    listing.ownedLines.filterMap Prod.fst = listing.instructions := by
  rw [ownedLines, List.filterMap_flatMap]
  have one : (fun instruction =>
      ((listing.labelLines instruction).map (fun line => (none, line)) ++
        [(some instruction, listing.instructionLine instruction)]).filterMap Prod.fst) =
      fun instruction => [instruction] := by
    funext instruction
    rw [List.filterMap_append, List.filterMap_map]
    simp
  rw [one, List.flatMap_singleton']

/-! Described lines. -/

theorem describes_descriptionSuffix (found : Option (List Char)) (plain : List Char) :
    Describes found plain (plain ++ descriptionSuffix found) := by
  cases found with
  | none =>
      rw [descriptionSuffix, List.append_nil]
      apply Describes.unchanged
      intro description known
      cases known
  | some description =>
      cases description with
      | nil =>
          have empty : descriptionSuffix (some []) = [] := rfl
          rw [empty, List.append_nil]
          apply Describes.unchanged
          intro description known
          exact (Option.some.inj known).symm
      | cons first rest =>
          have suffix :
              descriptionSuffix (some (first :: rest)) = " ; ".toList ++ first :: rest := rfl
          rw [suffix, ← List.append_assoc]
          exact .appended rfl (List.cons_ne_nil first rest)

theorem keeps_instructionLines (listing : Listing) (found : Instruction → Option (List Char))
    (instruction : Instruction) :
    List.Forall₂ (Keeps found)
      ((listing.labelLines instruction).map (fun line => (none, line)) ++
        [(some instruction, listing.instructionLine instruction)])
      (listing.instructionLines instruction (found instruction)) := by
  rw [instructionLines]
  apply List.rel_append
  · rw [List.forall₂_map_left_iff, List.forall₂_same]
    intro line _
    exact .label line
  · exact .cons (.instruction (describes_descriptionSuffix _ _)) .nil

/-- Instruction by instruction, the described lines go along with the plain ones. -/
theorem keeps_render (listing : Listing) (describe : List Char → Option (List Char)) :
    List.Forall₂ (Keeps fun instruction => describe (describedMnemonic instruction))
      listing.ownedLines (listing.render describe) := by
  rw [ownedLines, render]
  induction listing.instructions with
  | nil => exact .nil
  | cons instruction rest induction =>
      rw [List.flatMap_cons, List.flatMap_cons]
      exact List.rel_append (keeps_instructionLines listing _ instruction) induction

/-! The store behind the lines. -/

/-- Whatever is asked of the store after a rendering, and whatever becomes of the documents, the
family's descriptions stay those that the rendering used. -/
theorem access_after_renderThrough {listing : Listing} (filled : listing.instructions ≠ [])
    {documents : Documents} {store : Store} {descriptions : Descriptions}
    (found : (store.access documents listing.architecture.family).1 = .ok descriptions)
    (requests : List Request) :
    let library := Library.after ⟨documents, (listing.renderThrough documents store).store⟩ requests
    (library.store.access library.documents listing.architecture.family).1 = .ok descriptions := by
  intro library
  have known : ((listing.renderThrough documents store).store.slot
      listing.architecture.family).descriptions = some descriptions := by
    rw [renderThrough_of_ne_nil listing filled]
    exact Store.known_access found
  rw [Store.access_of_known (Library.known_after known requests)]

/-- The lines of a listing have the descriptions that looking its mnemonics up finds, now and after
any further requests. -/
structure Appends (listing : Listing) (documents : Documents) (store : Store)
    (found : Instruction → Option (List Char)) (lines : List (List Char)) : Prop where
  told : ∀ instruction ∈ listing.instructions,
    (store.lookup documents listing.architecture.family (lower instruction.mnemonic)).1 =
      .ok (found instruction)
  counted : lines.length = listing.renderPlain.length
  kept : List.Forall₂ (Keeps found) listing.ownedLines lines
  again : ∀ requests,
    let library := Library.after ⟨documents, (listing.renderThrough documents store).store⟩ requests
    (listing.renderThrough library.documents library.store).lines = .ok lines ∧
      ∀ instruction ∈ listing.instructions,
        (library.store.lookup library.documents listing.architecture.family
          (lower instruction.mnemonic)).1 = .ok (found instruction)

theorem length_render (listing : Listing) (describe : List Char → Option (List Char)) :
    (listing.render describe).length = listing.renderPlain.length := by
  rw [← lines_ownedLines, List.length_map, (keeps_render listing describe).length_eq]

theorem appends_of_found {listing : Listing} (filled : listing.instructions ≠ [])
    {documents : Documents} {store : Store} {descriptions : Descriptions}
    (found : (store.access documents listing.architecture.family).1 = .ok descriptions) :
    Appends listing documents store
      (fun instruction => descriptions.describe (describedMnemonic instruction))
      (listing.render descriptions.describe) := by
  constructor
  case told =>
    intro instruction _
    exact congrArg (Except.map _) found
  case counted => exact length_render listing _
  case kept => exact keeps_render listing _
  case again =>
    intro requests library
    have same := access_after_renderThrough filled found requests
    constructor
    · exact renderThrough_lines_of_access listing same
    · intro instruction _
      exact congrArg (Except.map _) same

theorem appends_of_empty {listing : Listing} (empty : listing.instructions = [])
    (documents : Documents) (store : Store) :
    Appends listing documents store (fun _ => none) [] := by
  have none : ∀ describe, listing.render describe = [] := by
    intro describe
    rw [render, empty, List.flatMap_nil]
  constructor
  case told =>
    intro instruction member
    rw [empty] at member
    cases member
  case counted => rw [renderPlain, none]
  case kept =>
    rw [ownedLines, empty]
    exact .nil
  case again =>
    intro requests library
    constructor
    · rw [renderThrough_of_nil listing empty]
    · intro instruction member
      rw [empty] at member
      cases member

/-- Descriptions only append. Line by line a described listing is the plain one, with a description
behind the line of an instruction exactly where looking its mnemonic up finds one that is not empty.
It does not matter what the store knew before and whether the document can be read. After any
further requests, and after any change of the documents, the listing has the same lines again, and
a lookup finds what it found before. Only where an instruction has a document read that is refused,
the listing is refused with it. -/
theorem descriptions_only_append (listing : Listing) (documents : Documents) (store : Store) :
    listing.ownedLines.map Prod.snd = listing.renderPlain ∧
    listing.ownedLines.filterMap Prod.fst = listing.instructions ∧
    (listing.instructions = [] ∨ store.refusal? documents listing.architecture.family = none →
      ∃ found lines, (listing.renderThrough documents store).lines = .ok lines ∧
        Appends listing documents store found lines) ∧
    ∀ refusal, listing.instructions ≠ [] →
      store.refusal? documents listing.architecture.family = some refusal →
        (listing.renderThrough documents store).lines = .error refusal := by
  constructor
  · exact lines_ownedLines listing
  constructor
  · exact owners_ownedLines listing
  constructor
  · intro allowed
    by_cases empty : listing.instructions = []
    · refine ⟨fun _ => none, [], ?_, appends_of_empty empty documents store⟩
      rw [renderThrough_of_nil listing empty]
    · rcases Store.exists_access (allowed.resolve_left empty) with ⟨descriptions, found, _⟩
      exact ⟨_, _, renderThrough_lines_of_access listing found, appends_of_found empty found⟩
  · intro refusal filled refused
    exact renderThrough_lines_of_refused listing filled refused

/-- The document is missing when the first line is rendered. One that is put in its place later
describes the second line no more than before, and the wide move keeps the description that needs no
document. -/
theorem late_document_changes_no_line :
    let wide : Instruction := ⟨[], 0, [], "MOVABSQ".toList, ["$0x1".toList, "%rax".toList], []⟩
    let idle : Instruction := ⟨[], 10, [], "nop".toList, [], []⟩
    let listing : Listing := ⟨.x64, [wide, idle], [(10, "L0000".toList)]⟩
    let rendered := listing.renderThrough (fun _ => .missing) Store.empty
    let document := "<r><mnem>nop</mnem><brief>No Operation</brief></r>".toList
    let library := Library.after ⟨fun _ => .missing, rendered.store⟩
      [.replace .x86 (.file (Text.Utf8.encode document))]
    rendered.lines = .ok ["  0x0000000000000000: MOVABSQ $0x1,%rax ; Move a 64-bit value".toList,
        "L0000:".toList, "  0x000000000000000a: nop".toList] ∧
      (listing.renderThrough library.documents library.store).lines = rendered.lines ∧
      idle ∈ listing.instructions ∧
      (library.store.lookup library.documents .x86 "nop".toList).1 = .ok none := by
  intro wide idle listing rendered document library
  have member : idle ∈ listing.instructions := by simp [listing]
  have allowed : Store.empty.refusal? (fun _ => .missing) .x86 = none := by decide
  rcases descriptions_only_append listing (fun _ => .missing) Store.empty with ⟨_, _, append, _⟩
  rcases append (.inr allowed) with ⟨found, lines, isRendered, appends⟩
  rcases appends.again [.replace .x86 (.file (Text.Utf8.encode document))] with ⟨same, later⟩
  have nothing : (Store.empty.lookup (fun _ => .missing) .x86 "nop".toList).1 = .ok none := by
    decide
  have unchanged := (later idle member).trans (appends.told idle member).symm
  exact ⟨by decide, same.trans isRendered.symm, member, unchanged.trans nothing⟩

/-- Asking for descriptions may cost a listing all its lines. -/
theorem refused_document_leaves_no_line :
    let listing : Listing := ⟨.x64, [⟨[], 16, [], "nop".toList, [], []⟩], []⟩
    listing.renderPlain = ["  0x0000000000000010: nop".toList] ∧
      (listing.renderThrough (fun _ => refusedDocument) Store.empty).lines =
        .error .multiByte := by
  intro listing
  exact ⟨by decide, by decide +kernel⟩

end Disassembly.Listing
