import Disassembly.Markup.Encoding
import Disassembly.Text.Lines

/-!
Where a text that is read comes from. The text of a document has line breaks of several forms and
the letters of the document's encoding. The text that an entity stands for is kept as UTF-8: its
line breaks were made line feeds when the entity was declared, and a carriage return in it, which
only a character reference can have put there, is a space like any other.
-/

namespace Disassembly.Markup

inductive Origin where
  | document (encoding : Encoding)
  | replacement
deriving DecidableEq, Repr

namespace Origin

def encoding : Origin → Encoding
  | document encoding => encoding
  | replacement => .utf8

def size (origin : Origin) (text : List Char) : Nat := origin.encoding.size text

/-- Character data as it is meant: every line break is a line feed. -/
def characterData (origin : Origin) (text : List Char) : List Char :=
  match origin with
  | document _ => Text.unifyLineFeeds text
  | replacement => text

/-- A carriage return that makes one line break with the line feed after it. -/
def joinsBreak (origin : Origin) (character : Char) (rest : List Char) : Bool :=
  origin ≠ .replacement && character = '\r' && rest.head? = some '\n'

end Origin

end Disassembly.Markup
