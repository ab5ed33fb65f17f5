import Disassembly.Markup.Character

/-!
The declaration in front of a document: a version, perhaps the name of an encoding, and perhaps
whether the document stands alone. It holds ASCII only, so that it can be read before the encoding
is known.
-/

namespace Disassembly.Markup

structure Declaration where
  encoding : Option (List Char)
  standalone : Bool
deriving DecidableEq, Repr

namespace Declaration

def isValueCharacter (character : Char) : Bool :=
  character.isAlphanum || character = '.' || character = '-' || character = '_'

def readValue : List Char → Option (List Char × List Char)
  | [] => none
  | quote :: quotedText =>
      let value := quotedText.takeWhile (· != quote)
      if (quote = '\x27' || quote = '\x22') && value.all isValueCharacter &&
          value.length < quotedText.length then
        some (value, quotedText.drop (value.length + 1))
      else none

/-- The settings of a declaration: each a name, an equals sign and a value, with spaces before it.
Spaces may follow the last one. -/
def readSettings : Nat → List Char → Option (List (List Char × List Char))
  | 0, _ => none
  | fuel + 1, text =>
      let spaced := skipSpaces text
      if spaced.isEmpty then some []
      else if !text.head?.any isSpace then none
      else
        let name := spaced.takeWhile fun character => character != '=' && !isSpace character
        match skipSpaces (spaced.drop name.length) with
        | '=' :: afterEquals => do
            let (value, rest) ← readValue (skipSpaces afterEquals)
            let later ← readSettings fuel rest
            some ((name, value) :: later)
        | _ => none

def readStandalone (value : List Char) : Option Bool :=
  if value = "yes".toList then some true
  else if value = "no".toList then some false
  else none

/-- A version, then perhaps an encoding, whose name starts with a letter, then perhaps whether
the document stands alone. -/
def ofSettings : List (List Char × List Char) → Option Declaration
  | [] => none
  | (version, _) :: settings =>
      if version ≠ "version".toList then none
      else
        let (encoding, settings) :=
          match settings with
          | (name, value) :: rest =>
              if name = "encoding".toList then (some value, rest) else (none, settings)
          | [] => (none, [])
        if encoding.any fun value => !value.head?.any Char.isAlpha then none
        else
          match settings with
          | [] => some ⟨encoding, false⟩
          | [(name, value)] =>
              if name = "standalone".toList then
                (readStandalone value).map fun standalone => ⟨encoding, standalone⟩
              else none
          | _ => none

def read (text : List Char) : Option (Declaration × List Char) :=
  match "<?xml".toList.isPrefixOf? text with
  | some afterMark =>
      if afterMark.head?.any isSpace then do
        let (settings, rest) ← breakOn "?>".toList afterMark
        let declaration ← (readSettings (settings.length + 1) settings).bind ofSettings
        some (declaration, rest)
      else some (⟨none, false⟩, text)
  | none => some (⟨none, false⟩, text)

end Declaration

end Disassembly.Markup
