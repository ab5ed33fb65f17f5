import Disassembly.Operand.Form
import Disassembly.Text.Blank
import Disassembly.Text.Decimal
import Disassembly.Text.LowerCase

/-!
Operands of the ARM family: immediates behind a number sign, bare numerals, bare register names,
and registers in square brackets or braces. Unlike in the x86 family, an operand can be a register
and a constant at once, or a register and an address.
-/

namespace Disassembly.Operand.Arm

open Text

def branches : List (List Char) :=
  ["b".toList, "bl".toList, "br".toList, "blr".toList, "cbz".toList, "cbnz".toList,
   "tbz".toList, "tbnz".toList]

def isJump : Option (List Char) → Bool
  | none => false
  | some mnemonic =>
      let lowered := lower mnemonic
      branches.contains lowered || ['b', '.'].isPrefixOf lowered

def isImmediate : List Char → Bool
  | '#' :: value => !value.isEmpty && value.all (· != '\n')
  | _ => false

def withoutMinus : List Char → List Char
  | '-' :: rest => rest
  | text => text

def isNumeral (text : List Char) : Bool :=
  match withoutMinus text with
  | '0' :: 'x' :: digits => !digits.isEmpty && digits.all isHexDigit
  | digits => !digits.isEmpty && digits.all isDecimal

def isConstantForm (operand : List Char) : Bool :=
  let text := withoutFinalLineFeed operand
  isImmediate text || isNumeral text

def isConstant (mnemonic : Option (List Char)) (operand : List Char) : Bool :=
  isConstantForm operand && !isJump mnemonic

def isAddress (mnemonic : Option (List Char)) (operand : List Char) : Bool :=
  isJump mnemonic && isAddressForm operand

/-- A register name may stop before this rest: it does not go on with a digit or a small letter
of ASCII. -/
def isNameEnd : List Char → Bool
  | [] => true
  | character :: _ => !(character.isDigit || character.isLower)

/-- One decimal digit or more, and after one of them the name may stop. -/
def numberEnds : List Char → Bool
  | [] => false
  | digit :: rest => isDecimal digit && (isNameEnd rest || numberEnds rest)

def numberedBanks : List Char := "xwvqdshbr".toList

def namedRegisters : List (List Char) :=
  ["sp".toList, "wsp".toList, "xzr".toList, "wzr".toList, "lr".toList, "fp".toList,
   "pc".toList, "ip".toList]

def startsWithRegister : List Char → Bool
  | [] => false
  | bank :: rest =>
      (numberedBanks.contains bank && numberEnds rest) ||
        namedRegisters.any fun name =>
          name.isPrefixOf (bank :: rest) && isNameEnd ((bank :: rest).drop name.length)

def showsRegister (operand : List Char) : Bool :=
  startsWithRegister operand || operand.contains '[' || operand.contains '\x7b'

def isRegister (mnemonic : Option (List Char)) (operand : List Char) : Bool :=
  showsRegister operand || (!isConstant mnemonic operand && !isAddress mnemonic operand)

/-- The register an operand names: inside square brackets, then inside braces, blanks aside. -/
def registerName (operand : List Char) : List Char :=
  leadingName (strip (enclosed '\x7b' '\x7d' (enclosed '[' ']' operand)))

end Disassembly.Operand.Arm
