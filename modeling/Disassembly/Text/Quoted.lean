import Disassembly.Text.Padding
import Disassembly.Text.Printable

/-!
Quoted names in messages. A name stands between single quotes, or between double quotes when it
holds a single quote and no double one. The quote in use and the backslash get a backslash before
them; line feed, carriage return and tab have short escapes; every other unprintable character is
written by its code point in hexadecimal, with two, four or eight digits.
-/

namespace Disassembly.Text

def escapeCodePoint (codePoint : Nat) : List Char :=
  let digits := Nat.toDigits 16 codePoint
  if codePoint < 0x100 then '\\' :: 'x' :: padLeft 2 '0' digits
  else if codePoint < 0x10000 then '\\' :: 'u' :: padLeft 4 '0' digits
  else '\\' :: 'U' :: padLeft 8 '0' digits

def quoteCharacter (quote character : Char) : List Char :=
  if character = quote || character = '\\' then ['\\', character]
  else if character = '\n' then ['\\', 'n']
  else if character = '\r' then ['\\', 'r']
  else if character = '\t' then ['\\', 't']
  else if isPrintable character then [character]
  else escapeCodePoint character.toNat

def singleQuote : Char := '\x27'

def doubleQuote : Char := '\x22'

def quoteFor (text : List Char) : Char :=
  if text.contains singleQuote && !text.contains doubleQuote then doubleQuote else singleQuote

def quoted (text : List Char) : List Char :=
  let quote := quoteFor text
  quote :: (text.flatMap (quoteCharacter quote) ++ [quote])

end Disassembly.Text
