/-!
Lines of a text. A line ends at a line feed, a carriage return, the two together, a line or form
feed, one of the three upper information separators, the next-line control, or the line and
paragraph separators. A text that ends in a break has no empty line after it. Reading a file turns
the carriage return, alone or before a line feed, into a line feed first; the lines stay the same.
-/

namespace Disassembly.Text

def isLineBreak (character : Char) : Bool :=
  let codePoint := character.toNat
  (0xa ≤ codePoint && codePoint ≤ 0xd) || (0x1c ≤ codePoint && codePoint ≤ 0x1e) ||
    codePoint == 0x85 || codePoint == 0x2028 || codePoint == 0x2029

/-- The lines of a text, where `current` holds the characters read since the last break, newest
first. -/
def linesAfter : List Char → List Char → List (List Char)
  | current, [] => if current.isEmpty then [] else [current.reverse]
  | current, '\r' :: '\n' :: rest => current.reverse :: linesAfter [] rest
  | current, character :: rest =>
      if isLineBreak character then current.reverse :: linesAfter [] rest
      else linesAfter (character :: current) rest

def lines (text : List Char) : List (List Char) := linesAfter [] text

/-- Carriage returns become line feeds, one for a pair. -/
def unifyLineFeeds : List Char → List Char
  | [] => []
  | '\r' :: '\n' :: rest => '\n' :: unifyLineFeeds rest
  | character :: rest => (if character = '\r' then '\n' else character) :: unifyLineFeeds rest

def joinLines (texts : List (List Char)) : List Char := List.intercalate ['\n'] texts

end Disassembly.Text
