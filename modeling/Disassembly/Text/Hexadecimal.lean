import Disassembly.Text.Padding

/-!
Hexadecimal numerals in lower case, as listings write addresses. Reading takes any number of
digits, leading zeros included; writing gives the fewest digits, and an address is padded with
zeros to sixteen columns, the sign of a negative one counted among them.
-/

namespace Disassembly.Text

def isHexDigit (character : Char) : Bool :=
  ('0' ≤ character && character ≤ '9') || ('a' ≤ character && character ≤ 'f')

def hexDigitValue (character : Char) : Nat :=
  if character ≤ '9' then character.toNat - 48 else character.toNat - 87

def readHex (digits : List Char) : Nat :=
  digits.foldl (fun value digit => 16 * value + hexDigitValue digit) 0

def writeHex (value : Nat) : List Char := Nat.toDigits 16 value

/-- An address without its `0x`, in sixteen columns or more. -/
def writeAddress : Int → List Char
  | .ofNat value => padLeft 16 '0' (writeHex value)
  | .negSucc value => '-' :: padLeft 15 '0' (writeHex (value + 1))

end Disassembly.Text
