import Disassembly.Text.Hexadecimal

/-!
Instructions and their printed form. An instruction is printed on one line: the margin in
front of the address, the address in sixteen columns, the prefixes and the mnemonic as words, the
operands with commas between, and the comment. Nothing is printed for a part that is missing.
-/

namespace Disassembly

open Text

structure Instruction where
  margin : List Char
  address : Int
  prefixes : List (List Char)
  mnemonic : List Char
  operands : List (List Char)
  comment : List Char
deriving DecidableEq, Repr

namespace Instruction

def printPrefixes (prefixes : List (List Char)) : List Char :=
  prefixes.flatMap fun word => word ++ [' ']

def printOperands (operands : List (List Char)) : List Char :=
  if operands.isEmpty then [] else ' ' :: List.intercalate [','] operands

def printCore (instruction : Instruction) (operands : List (List Char)) : List Char :=
  '0' :: 'x' :: (writeAddress instruction.address ++
    (':' :: ' ' :: (printPrefixes instruction.prefixes ++
      (instruction.mnemonic ++ printOperands operands))))

def printComment (comment : List Char) : List Char :=
  if comment.isEmpty then [] else ' ' :: comment

def print (instruction : Instruction) : List Char :=
  instruction.margin ++ (instruction.printCore instruction.operands ++
    printComment instruction.comment)

end Instruction

end Disassembly
