import Disassembly.Listing
import Disassembly.Reference.Store

/-!
Rendered listings. Each instruction gives one line, without its margin and its comment and with
labels in the place of jump targets; a line with the label stands before an instruction whose
address has one. With a reference the description of the mnemonic follows on the instruction's line
where there is one. Rendering through a store may load a document on the way, and ends without any
line where the store is refused one.
-/

namespace Disassembly.Listing

open Text Reference

def labelLines (listing : Listing) (instruction : Instruction) : List (List Char) :=
  match listing.labelAt? instruction.address with
  | some label => if label.isEmpty then [] else [label ++ [':']]
  | none => []

def instructionLine (listing : Listing) (instruction : Instruction) : List Char :=
  ' ' :: ' ' :: instruction.printCore
    (listing.labels.formatOperands listing.architecture.family instruction)

/-- What a description adds to a line; an empty one adds nothing. -/
def descriptionSuffix : Option (List Char) → List Char
  | some description => if description.isEmpty then [] else " ; ".toList ++ description
  | none => []

def instructionLines (listing : Listing) (instruction : Instruction)
    (description : Option (List Char)) : List (List Char) :=
  listing.labelLines instruction ++
    [listing.instructionLine instruction ++ descriptionSuffix description]

def describedMnemonic (instruction : Instruction) : List Char := lower instruction.mnemonic

/-- The lines of a listing, given the descriptions of mnemonics in lower case. -/
def render (listing : Listing) (describe : List Char → Option (List Char)) :
    List (List Char) :=
  listing.instructions.flatMap fun instruction =>
    listing.instructionLines instruction (describe (describedMnemonic instruction))

def renderPlain (listing : Listing) : List (List Char) := listing.render fun _ => none

/-- The lines of a listing, the store afterwards, and what was reported on the way. -/
structure Rendered where
  lines : Except Markup.Refusal (List (List Char))
  store : Store
  reports : List LoadReport

/-- Renders instructions in order, each looked up in the store that the one before left. -/
def renderFrom (listing : Listing) (documents : Documents) :
    Store → List Instruction → Rendered
  | store, [] => ⟨.ok [], store, []⟩
  | store, instruction :: rest =>
      match store.lookup documents listing.architecture.family (describedMnemonic instruction) with
      | (.error refusal, after, reports) => ⟨.error refusal, after, reports⟩
      | (.ok description, after, reports) =>
          let later := listing.renderFrom documents after rest
          ⟨later.lines.map fun lines => listing.instructionLines instruction description ++ lines,
            later.store, reports ++ later.reports⟩

def renderThrough (listing : Listing) (documents : Documents) (store : Store) : Rendered :=
  listing.renderFrom documents store listing.instructions

end Disassembly.Listing
