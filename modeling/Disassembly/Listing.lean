import Disassembly.Labels
import Disassembly.Line
import Disassembly.Text.Lines

/-!
Listings. A text is read line by line, blanks at the right end of a line removed; the lines that
hold no instruction are passed over, and the instructions are labelled together.
-/

namespace Disassembly

structure Listing where
  architecture : Architecture
  instructions : List Instruction
  labels : Labels
deriving DecidableEq, Repr

namespace Listing

def sourceLines (text : List Char) : List (List Char) := (Text.lines text).map Text.stripRight

def parseInstructions (architecture : Architecture) (text : List Char) : List Instruction :=
  (sourceLines text).filterMap (Instruction.parse architecture.family)

def parse (architecture : Architecture) (text : List Char) : Listing :=
  let instructions := parseInstructions architecture text
  ⟨architecture, instructions, Labels.ofInstructions architecture.family instructions⟩

def instructionAt? (listing : Listing) (address : Int) : Option Instruction :=
  listing.instructions.find? fun instruction => instruction.address == address

def labelAt? (listing : Listing) (address : Int) : Option (List Char) :=
  listing.labels.label? address

end Listing

end Disassembly
