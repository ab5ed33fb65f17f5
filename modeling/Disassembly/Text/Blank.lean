import Disassembly.Text.Ranges

/-!
Blank characters, and the three ways of removing them that listings and reference documents need:
at both ends, at the right end, and inside a text by squeezing every run to one space. The blanks
are the characters with the white-space property together with the four information separators.
-/

namespace Disassembly.Text

def blankRanges : Ranges :=
  [(0x9, 0xd), (0x1c, 0x20), (0x85, 0x85), (0xa0, 0xa0), (0x1680, 0x1680), (0x2000, 0x200a),
   (0x2028, 0x2029), (0x202f, 0x202f), (0x205f, 0x205f), (0x3000, 0x3000)]

def isBlank (character : Char) : Bool := blankRanges.has character.toNat

/-- Every white-space character of the core library is a blank. -/
theorem isBlank_of_isWhitespace (character : Char) (white : character.isWhitespace = true) :
    isBlank character = true := by
  simp only [Char.isWhitespace, Bool.or_eq_true, decide_eq_true_eq] at white
  rcases white with ((rfl | rfl) | rfl) | rfl <;> decide

def stripLeft (text : List Char) : List Char := text.dropWhile isBlank

def stripRight (text : List Char) : List Char := (text.reverse.dropWhile isBlank).reverse

def strip (text : List Char) : List Char := stripRight (stripLeft text)

/-- Every run of blanks becomes one space. The flag says that the character before was a blank, so
that the rest of its run is passed over. -/
def squeezeAfter : Bool → List Char → List Char
  | _, [] => []
  | afterBlank, character :: rest =>
      if isBlank character then
        if afterBlank then squeezeAfter true rest else ' ' :: squeezeAfter true rest
      else character :: squeezeAfter false rest

def squeeze (text : List Char) : List Char := squeezeAfter false text

end Disassembly.Text
