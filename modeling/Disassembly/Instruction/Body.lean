import Disassembly.Instruction
import Disassembly.Text.Blank

/-!
The body of an instruction, taken apart into prefixes, mnemonic and operands in one pass. Words
are read until one is no known prefix; that word is the mnemonic, and the last word of a body is
the mnemonic in any case. After it a comma separates operands where no bracket is open. Brackets
are counted from the start of the body and need not match: a closing bracket too many makes the
count negative, and no comma separates until it is zero again.
-/

namespace Disassembly.Instruction

open Text

def knownPrefixes : List (List Char) :=
  ["data64".toList, "data32".toList, "data16".toList, "data8".toList, "lock".toList]

structure Body where
  prefixes : List (List Char)
  mnemonic : Option (List Char)
  operands : List (List Char)
deriving DecidableEq, Repr

def bracketStep (character : Char) : Int :=
  if character = '(' || character = '[' then 1
  else if character = ')' || character = ']' then -1
  else 0

/-- The operands of a rest, where `current` holds the characters of the operand begun, newest
first, and `depth` the open brackets. An operand that has no character is not begun. -/
def splitOperands : Int → List Char → List Char → List (List Char)
  | _, current, [] => if current.isEmpty then [] else [strip current.reverse]
  | depth, current, character :: rest =>
      let depth := depth + bracketStep character
      if character = ',' && depth = 0 then
        strip current.reverse :: splitOperands depth [] rest
      else splitOperands depth (character :: current) rest

/-- The parts of a rest, where `current` holds the characters of the word begun, newest first. -/
def splitWords : Int → List Char → List Char → Body
  | _, current, [] => ⟨[], if current.isEmpty then none else some current.reverse, []⟩
  | depth, current, character :: rest =>
      let depth := depth + bracketStep character
      if character = ' ' then
        let word := current.reverse
        if knownPrefixes.contains word then
          let body := splitWords depth [] rest
          ⟨word :: body.prefixes, body.mnemonic, body.operands⟩
        else ⟨[], some word, splitOperands depth [] rest⟩
      else splitWords depth (character :: current) rest

/-- The parts of a body. Blanks at its ends do not count, and inside a run of them is a space. -/
def Body.split (text : List Char) : Body := splitWords 0 [] (strip (squeeze text))

/-- The instruction a body stands for; a body without a word gives an empty mnemonic. -/
def ofBody (text : List Char) (address : Int) (comment margin : List Char) : Instruction :=
  let body := Body.split text
  ⟨margin, address, body.prefixes, body.mnemonic.getD [], body.operands, comment⟩

end Disassembly.Instruction
