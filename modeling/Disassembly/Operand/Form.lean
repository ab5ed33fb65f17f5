import Disassembly.Text.Alphanumeric
import Disassembly.Text.Hexadecimal

/-!
Forms that both families' operands are built from: a numeral that may end in one line feed, the
part between an opening and a closing bracket, and the name at the front of a text.
-/

namespace Disassembly.Operand

open Text

/-- A final line feed does not count when the form of a whole operand is judged. -/
def withoutFinalLineFeed (operand : List Char) : List Char :=
  if operand.getLast? = some '\n' then operand.dropLast else operand

def withoutHexMark : List Char → List Char
  | '0' :: 'x' :: digits => digits
  | digits => digits

def isHexNumeral (text : List Char) : Bool :=
  let digits := withoutHexMark text
  !digits.isEmpty && digits.all isHexDigit

def isAddressForm (operand : List Char) : Bool := isHexNumeral (withoutFinalLineFeed operand)

/-- The part between the first opening and the first closing bracket, empty when the closing one
comes first. A text without both is left alone. -/
def enclosed (opening closing : Char) (text : List Char) : List Char :=
  if text.contains opening && text.contains closing then
    ((text.takeWhile (· != closing)).dropWhile (· != opening)).tail
  else text

def leadingName (text : List Char) : List Char := text.takeWhile isAlphanumeric

end Disassembly.Operand
