import Disassembly.Markup.Name
import Disassembly.Markup.Origin

/-!
Tokens of the content of an element: tags, character data, references, and what leaves no trace
(comments and instructions to a processor). A token is first cut from the front of a text, which
tells how many bytes it takes, and then read. Attribute values stay as they are written.
-/

namespace Disassembly.Markup

inductive Referent where
  | character (value : Char)
  /-- The character of an entity that every document knows. -/
  | predefined (value : Char)
  | entity (name : List Char)
deriving DecidableEq, Repr

inductive Token where
  | opening (name : Name) (attributes : List (Name × List Char)) (closed : Bool)
  | closing (name : Name)
  | data (content : List Char)
  | reference (referent : Referent)
  | aside
deriving DecidableEq, Repr

namespace Referent

def knownEntities : List (List Char × Char) :=
  [("lt".toList, '<'), ("gt".toList, '>'), ("amp".toList, '&'), ("quot".toList, '\x22'),
   ("apos".toList, '\x27')]

def digitOfBase (base : Nat) (digit : Char) : Option Nat :=
  let value :=
    if digit.isDigit then digit.toNat - 48
    else if 'a' ≤ digit && digit ≤ 'f' then digit.toNat - 87
    else if 'A' ≤ digit && digit ≤ 'F' then digit.toNat - 55
    else base
  if value < base then some value else none

def ofNumber (base : Nat) (digits : List Char) : Option Char := do
  if digits.isEmpty then none
  else
    let values ← digits.mapM (digitOfBase base)
    let codePoint := values.foldl (fun number value => base * number + value) 0
    let value := Char.ofNat codePoint
    if codePoint < 0x110000 && isCharacter value then some value else none

def ofText (encoding : Encoding) : List Char → Option Referent
  | '#' :: 'x' :: digits => (ofNumber 16 digits).map character
  | '#' :: digits => (ofNumber 10 digits).map character
  | name =>
      if isSimpleName encoding name then
        match knownEntities.lookup name with
        | some value => some (predefined value)
        | none => some (entity name)
      else none

/-- The reference whose text follows an ampersand: what is written up to its semicolon, what it
stands for, and the rest. -/
def read (encoding : Encoding) (text : List Char) :
    Option (List Char × Referent × List Char) := do
  let (written, rest) ← breakOn [';'] text
  let referent ← ofText encoding written
  some (written, referent, rest)

end Referent

namespace Token

/-- The text after a comment whose opening mark has been read. Two hyphens close it and may not
stand inside. -/
def skipComment (text : List Char) : Option (List Char) := do
  match ← breakOn "--".toList text with
  | (_, '>' :: rest) => some rest
  | _ => none

/-- The text after an instruction to a processor. Its target is a simple name other than the one
kept for the declaration of a document. -/
def skipInstruction (encoding : Encoding) (text : List Char) : Option (List Char) := do
  let (target, rest) ← readSimpleName encoding text
  if target.map Char.toLower = "xml".toList then none
  else if rest.head?.any isSpace then (breakOn "?>".toList rest).map Prod.snd
  else "?>".toList.isPrefixOf? rest

def readQuoted : List Char → Option (List Char × List Char)
  | [] => none
  | quote :: rest => if quote = '\x27' || quote = '\x22' then breakOn [quote] rest else none

def readAttributes (encoding : Encoding) :
    Nat → List Char → Option (List (Name × List Char) × Bool × List Char)
  | 0, _ => none
  | fuel + 1, text =>
      match skipSpaces text with
      | '>' :: rest => some ([], false, rest)
      | '/' :: '>' :: rest => some ([], true, rest)
      | spaced =>
          if text.head?.any isSpace then do
            let (name, rest) ← Name.read encoding spaced
            match skipSpaces rest with
            | '=' :: afterEquals =>
                let (value, rest) ← readQuoted (skipSpaces afterEquals)
                let (attributes, closed, rest) ← readAttributes encoding fuel rest
                some ((name, value) :: attributes, closed, rest)
            | _ => none
          else none

def readOpening (encoding : Encoding) (text : List Char) : Option Token := do
  let (name, rest) ← Name.read encoding text
  let (attributes, closed, _) ← readAttributes encoding (text.length + 1) rest
  some (opening name attributes closed)

def readClosing (encoding : Encoding) (text : List Char) : Option Token := do
  let (name, rest) ← Name.read encoding text
  if skipSpaces rest = ['>'] then some (closing name) else none

/-- The characters up to the end of a tag, and the rest. The mark that ends a tag does not count
between quotes; `quote` is the one that is open. -/
def cutTag : Option Char → List Char → Option (List Char × List Char)
  | _, [] => none
  | quote, character :: rest =>
      if quote.isNone && character = '>' then some (['>'], rest)
      else
        let quote :=
          match quote with
          | some mark => if character = mark then none else quote
          | none => if character = '\x27' || character = '\x22' then some character else none
        (cutTag quote rest).map fun found => (character :: found.1, found.2)

def cutBetween (opening mark : String) (text : List Char) : Option (List Char × List Char) :=
  (breakOn mark.toList text).map fun found =>
    (opening.toList ++ found.1 ++ mark.toList, found.2)

def isData (character : Char) : Bool := character != '<' && character != '&'

def cut : List Char → Option (List Char × List Char)
  | [] => none
  | '<' :: '!' :: '-' :: '-' :: rest => cutBetween "<!--" "-->" rest
  | '<' :: '!' :: rest => cutBetween "<!" "]]>" rest
  | '<' :: '?' :: rest => cutBetween "<?" "?>" rest
  | '<' :: rest => (cutTag none rest).map fun found => ('<' :: found.1, found.2)
  | '&' :: rest => cutBetween "&" ";" rest
  | input => some (input.takeWhile isData, input.dropWhile isData)

theorem append_of_cutTag {quote : Option Char} {text written rest : List Char}
    (found : cutTag quote text = some (written, rest)) : written ++ rest = text := by
  induction text generalizing quote written with
  | nil => simp [cutTag] at found
  | cons character text ih =>
      simp only [cutTag] at found
      split at found
      · next ends =>
          obtain ⟨rfl, rfl⟩ := by simpa using found
          simp_all
      · obtain ⟨⟨front, back⟩, inner, same⟩ := Option.map_eq_some_iff.1 found
        obtain ⟨rfl, rfl⟩ := by simpa using same
        simpa using ih inner

theorem append_of_cutBetween {opening mark : String} {text written rest : List Char}
    (found : cutBetween opening mark text = some (written, rest)) :
    written ++ rest = opening.toList ++ text := by
  obtain ⟨⟨before, after⟩, inner, same⟩ := Option.map_eq_some_iff.1 found
  obtain ⟨rfl, rfl⟩ := by simpa using same
  simp [← append_of_breakOn inner]

/-- Cutting loses nothing, so that each byte of a text is counted with one token. -/
theorem append_of_cut {text written rest : List Char}
    (found : cut text = some (written, rest)) : written ++ rest = text := by
  fun_cases cut text
  all_goals simp only [cut] at found
  case case1 => simp at found
  case case5 =>
    obtain ⟨⟨front, back⟩, inner, same⟩ := Option.map_eq_some_iff.1 found
    obtain ⟨rfl, rfl⟩ := by simpa using same
    simpa using append_of_cutTag inner
  case case7 =>
    obtain ⟨rfl, rfl⟩ := by simpa using found
    exact List.takeWhile_append_dropWhile
  all_goals simpa using append_of_cutBetween found

/-- The token that the cut characters make. In character data the mark that closes a literal
section may not stand. -/
def ofCut (origin : Origin) : List Char → Option Token
  | '<' :: '/' :: rest => readClosing origin.encoding rest
  | '<' :: '!' :: '-' :: '-' :: rest => (skipComment rest).map fun _ => aside
  | '<' :: '!' :: rest => do
      let rest ← "[CDATA[".toList.isPrefixOf? rest
      let (content, _) ← breakOn "]]>".toList rest
      some (data (origin.characterData content))
  | '<' :: '?' :: rest => (skipInstruction origin.encoding rest).map fun _ => aside
  | '<' :: rest => readOpening origin.encoding rest
  | '&' :: rest => (Referent.read origin.encoding rest).map fun found => reference found.2.1
  | content =>
      if holds "]]>".toList content then none else some (data (origin.characterData content))

end Token

end Disassembly.Markup
