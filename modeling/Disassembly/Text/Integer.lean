import Disassembly.Text.Blank

/-!
Integer numerals in base sixteen as a reader of numbers accepts them: blanks around, a sign, a
`0x` mark in either case, digits in either case, and single underscores between digits or after
the mark. Every other text has no value.
-/

namespace Disassembly.Text

def digitValue? (character : Char) : Option Nat :=
  if '0' ≤ character && character ≤ '9' then some (character.toNat - 48)
  else if 'a' ≤ character && character ≤ 'f' then some (character.toNat - 87)
  else if 'A' ≤ character && character ≤ 'F' then some (character.toNat - 55)
  else none

/-- The digits after the first one, whose value so far is given. -/
def readDigits : Nat → List Char → Option Nat
  | value, [] => some value
  | value, '_' :: digit :: rest =>
      match digitValue? digit with
      | some unit => readDigits (16 * value + unit) rest
      | none => none
  | value, digit :: rest =>
      match digitValue? digit with
      | some unit => readDigits (16 * value + unit) rest
      | none => none

def afterMark : List Char → List Char
  | '0' :: mark :: rest =>
      if mark = 'x' || mark = 'X' then
        match rest with
        | '_' :: digits => digits
        | digits => digits
      else '0' :: mark :: rest
  | text => text

def readMagnitude (text : List Char) : Option Nat :=
  match afterMark text with
  | [] => none
  | digit :: rest => (digitValue? digit).bind fun value => readDigits value rest

def readInteger (text : List Char) : Option Int :=
  match strip text with
  | '-' :: magnitude => (readMagnitude magnitude).map fun value => -(value : Int)
  | '+' :: magnitude => (readMagnitude magnitude).map fun value => (value : Int)
  | magnitude => (readMagnitude magnitude).map fun value => (value : Int)

end Disassembly.Text
