/-!
Events of a document in document order: an element opens, some text stands, an element closes.
Elements are known by their tags, in which the address of a namespace may stand in front of the
name. Comments and instructions to a processor leave no event, and text may come in several parts.
-/

namespace Disassembly.Markup

inductive Event where
  | opening (tag : List Char)
  | text (content : List Char)
  | closing (tag : List Char)
deriving DecidableEq, Repr

end Disassembly.Markup
