/-!
Entries of a reference and the document that a list of them makes: an element for the whole, in it
an element for each entry, and there one element for each mnemonic and one for the description. The
three characters that could be taken for markup are written as references, so that every text can
stand in a document.
-/

namespace Disassembly.Reference

structure Entry where
  mnemonics : List String
  description : String
deriving DecidableEq, Repr

namespace Entry

def escapeCharacter (character : Char) : List Char :=
  if character = '<' then "&lt;".toList
  else if character = '>' then "&gt;".toList
  else if character = '&' then "&amp;".toList
  else [character]

def escape (text : List Char) : List Char := text.flatMap escapeCharacter

def printElement (name content : List Char) : List Char :=
  '<' :: (name ++ '>' :: (content ++ '<' :: '/' :: (name ++ ['>'])))

def print (entry : Entry) : List Char :=
  printElement "entry".toList
    (entry.mnemonics.flatMap (fun mnemonic =>
        printElement "mnem".toList (escape mnemonic.toList)) ++
      printElement "brief".toList (escape entry.description.toList))

def printDocument (entries : List Entry) : List Char :=
  printElement "reference".toList (entries.flatMap print)

end Entry

end Disassembly.Reference
