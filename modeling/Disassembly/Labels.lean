import Disassembly.AddressIndex
import Disassembly.Operand

/-!
Labels of a listing. Every address that some jump goes to and some instruction has is labelled,
and the labels are numbered in the order of the addresses. The labels do not depend on the order of
the instructions.
-/

namespace Disassembly

open Text

abbrev Labels := List (Int × List Char)

namespace Labels

def label? (labels : Labels) (address : Int) : Option (List Char) := labels.lookup address

/-- The labels of a list of pairs; of two pairs for an address the later one counts. -/
def ofPairs (pairs : List (Int × List Char)) : Labels := pairs.reverse

def insertAddress (address : Int) : List Int → List Int
  | [] => [address]
  | first :: rest =>
      if address < first then address :: first :: rest
      else if address = first then first :: rest
      else first :: insertAddress address rest

def ascending (addresses : List Int) : List Int := addresses.foldr insertAddress []

def jumpTargets (family : Family) (instruction : Instruction) : List Int :=
  instruction.operands.filterMap (Operand.jumpTarget family instruction.mnemonic)

def targets (family : Family) (index : AddressIndex) (instructions : List Instruction) :
    List Int :=
  (instructions.flatMap (jumpTargets family)).filter index.covers

def name (number : Nat) : List Char := 'L' :: padLeft 4 '0' (Nat.toDigits 10 number)

def assign (family : Family) (index : AddressIndex) (instructions : List Instruction) : Labels :=
  (ascending (targets family index instructions)).zipIdx.map fun entry =>
    (entry.1, name entry.2)

def ofInstructions (family : Family) (instructions : List Instruction) : Labels :=
  assign family (AddressIndex.ofInstructions instructions) instructions

/-- The label to write for an operand; an empty label does not count. -/
def forOperand (labels : Labels) (family : Family) (mnemonic operand : List Char) :
    Option (List Char) :=
  match (Operand.jumpTarget family mnemonic operand).bind labels.label? with
  | some label => if label.isEmpty then none else some label
  | none => none

def formatOperands (labels : Labels) (family : Family) (instruction : Instruction) :
    List (List Char) :=
  instruction.operands.map fun operand =>
    (labels.forOperand family instruction.mnemonic operand).getD operand

end Labels

end Disassembly
