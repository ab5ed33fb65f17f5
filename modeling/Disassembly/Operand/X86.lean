import Disassembly.Operand.Form
import Disassembly.Text.LowerCase

/-!
Operands of the x86 family in the AT&T and the Intel manner. A jump's hexadecimal numeral is an
address and any other instruction's is a constant; what is neither is a register.
-/

namespace Disassembly.Operand.X86

open Text

def isJump : Option (List Char) → Bool
  | none => false
  | some mnemonic =>
      let lowered := lower mnemonic
      ['j'].isPrefixOf lowered || "call".toList.isPrefixOf lowered

def withoutDollar : List Char → List Char
  | '$' :: rest => rest
  | text => text

/-- A final `h` marks a hexadecimal numeral in the Intel manner. -/
def withoutHexLetter (text : List Char) : List Char :=
  if text.getLast? = some 'h' then text.dropLast else text

def isConstantForm (operand : List Char) : Bool :=
  isHexNumeral (withoutHexLetter (withoutDollar (withoutFinalLineFeed operand)))

def isConstant (mnemonic : Option (List Char)) (operand : List Char) : Bool :=
  isConstantForm operand && !isJump mnemonic

def isAddress (mnemonic : Option (List Char)) (operand : List Char) : Bool :=
  isJump mnemonic && isAddressForm operand

/-- A parenthesis opens with the sigil of a register somewhere. -/
def opensWithSigil : List Char → Bool
  | [] => false
  | character :: rest => (character = '(' && ['%'].isPrefixOf rest) || opensWithSigil rest

/-- The operand shows a register: by its sigil in front, by one in parentheses, or by a square
bracket. -/
def showsRegister (operand : List Char) : Bool :=
  ['%'].isPrefixOf operand || opensWithSigil operand || operand.contains '['

def isRegister (mnemonic : Option (List Char)) (operand : List Char) : Bool :=
  showsRegister operand || (!isConstant mnemonic operand && !isAddress mnemonic operand)

def without (sigil : Char) : List Char → List Char
  | [] => []
  | character :: rest => if character = sigil then rest else character :: rest

/-- The register an operand names: inside parentheses, then inside square brackets, after the
mark of an indirection and the sigil. -/
def registerName (operand : List Char) : List Char :=
  leadingName (without '%' (without '*' (enclosed '[' ']' (enclosed '(' ')' operand))))

end Disassembly.Operand.X86
