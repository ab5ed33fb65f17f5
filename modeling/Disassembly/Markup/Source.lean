import Disassembly.Markup.Declaration
import Disassembly.Markup.Encoding

/-!
A document as it is read: its encoding, its size in bytes, and its characters after the
declaration in front. Without a name of an encoding eight-bit documents are UTF-8. A byte sequence
that its encoding does not allow, or a character that no document may hold, spoils the document.
-/

namespace Disassembly.Markup

structure Source where
  encoding : Encoding
  /-- How many bytes the document has. -/
  size : Nat
  standalone : Bool
  /-- The characters after the declaration. -/
  text : List Char
deriving DecidableEq, Repr

namespace Source

/-- The declaration is read before the encoding is known, and what follows it in the encoding that
it names. -/
def ofBytes (bytes : List UInt8) : Except Flaw Source := do
  let (found, content) := Encoding.detect bytes
  let preview := found.preview content
  let (declaration, rest) ← Flaw.require (Declaration.read preview)
  let encoding ←
    match declaration.encoding with
    | some name => Encoding.ofName found name
    | none => .ok found
  let declared := found.unitSize * (preview.length - rest.length)
  let text ← Flaw.require (encoding.decode (content.drop declared))
  if text.all isCharacter then
    .ok
      { encoding
        size := bytes.length
        standalone := declaration.standalone
        text }
  else .error .malformed

def bytesBefore (source : Source) (rest : List Char) : Nat :=
  source.size - source.encoding.size rest

end Source

end Disassembly.Markup
