import Disassembly.Architecture
import Disassembly.Instruction.Body

/-!
Lines of a listing. An instruction line is a margin, an address with a colon, blanks, a body
and perhaps a comment; the margin is everything before the first `0x` that starts the line or
follows a space. The family decides which characters a body is made of and how a comment begins.
Text after the body that is no comment is passed over. A line of any other shape is no instruction.
-/

namespace Disassembly

open Text

structure Line where
  margin : List Char
  /-- The digits of the address, without the mark. -/
  digits : List Char
  body : List Char
  comment : List Char
deriving DecidableEq, Repr

namespace Line

def address (line : Line) : Nat := readHex line.digits

def bodyMarks : Family → List Char
  | .x86 => [':', '_', '(', ')', '[', ']', '+', '*', '$', ',', '-', '%']
  | .arm => [':', '_', '(', ')', '[', ']', '+', '*', '$', ',', '-', '%',
      '#', '.', '!', '\x7b', '\x7d']

def isBodyCharacter (family : Family) (character : Char) : Bool :=
  character.isAlphanum || (bodyMarks family).contains character

def continuesBody (family : Family) (character : Char) : Bool :=
  isBodyCharacter family character || isBlank character

def startsComment : Family → List Char → Bool
  | .x86, character :: _ => character = ';' || character = '#'
  | .arm, ';' :: _ => true
  | .arm, '/' :: '/' :: _ => true
  | _, _ => false

def leadingComment (family : Family) (rest : List Char) : List Char :=
  if startsComment family rest then rest.takeWhile (· != '\n') else []

/-- The text up to the first space before a `0x`, that space included, and what follows the
`0x`. -/
def findMark : List Char → Option (List Char × List Char)
  | [] => none
  | ' ' :: '0' :: 'x' :: rest => some ([' '], rest)
  | character :: rest => (findMark rest).map fun found => (character :: found.1, found.2)

def locate : List Char → Option (List Char × List Char)
  | '0' :: 'x' :: rest => some ([], rest)
  | text => findMark text

/-- The line whose address digits start the given text. -/
def readMarked (family : Family) (margin text : List Char) : Option Line :=
  let digits := text.takeWhile isHexDigit
  match text.dropWhile isHexDigit with
  | ':' :: separated =>
      let content := separated.dropWhile isBlank
      if !digits.isEmpty && separated.head?.any isBlank &&
          content.head?.any (isBodyCharacter family) then
        some ⟨margin, digits, content.takeWhile (continuesBody family),
          leadingComment family (content.dropWhile (continuesBody family))⟩
      else none
  | _ => none

def read (family : Family) (text : List Char) : Option Line :=
  match locate text with
  | some (margin, rest) => readMarked family margin rest
  | none => none

def instruction (line : Line) : Instruction :=
  Instruction.ofBody line.body line.address line.comment line.margin

end Line

def Instruction.parse (family : Family) (text : List Char) : Option Instruction :=
  (Line.read family text).map Line.instruction

end Disassembly
