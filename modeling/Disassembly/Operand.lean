import Disassembly.Architecture
import Disassembly.Operand.Arm
import Disassembly.Operand.X86
import Disassembly.Text.Integer

/-!
What an operand is, for either family: a constant, the address a jump goes to, or a register. The
mnemonic decides between the first two and may be missing. The address of a jump is read as an
integer numeral, so that its spelling does not matter.
-/

namespace Disassembly.Operand

def isJump : Family → Option (List Char) → Bool
  | .x86 => X86.isJump
  | .arm => Arm.isJump

def isConstant : Family → Option (List Char) → List Char → Bool
  | .x86 => X86.isConstant
  | .arm => Arm.isConstant

def isAddress : Family → Option (List Char) → List Char → Bool
  | .x86 => X86.isAddress
  | .arm => Arm.isAddress

def isRegister : Family → Option (List Char) → List Char → Bool
  | .x86 => X86.isRegister
  | .arm => Arm.isRegister

def registerName : Family → List Char → List Char
  | .x86 => X86.registerName
  | .arm => Arm.registerName

def jumpTarget (family : Family) (mnemonic : List Char) (operand : List Char) : Option Int :=
  if isAddress family (some mnemonic) operand then Text.readInteger operand else none

end Disassembly.Operand
