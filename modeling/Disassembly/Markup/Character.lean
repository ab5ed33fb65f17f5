/-!
Characters of a markup document and the first cuts that every reader makes: passing over spaces
and breaking a text at a mark. The spaces of markup are four characters, far fewer than the blanks
of a text.
-/

namespace Disassembly.Markup

def isSpace (character : Char) : Bool :=
  character = ' ' || character = '\t' || character = '\r' || character = '\n'

/-- The characters a document may hold: no control but tab and the two line breaks, and not the
two code points at the end of the first plane. -/
def isCharacter (character : Char) : Bool :=
  let codePoint := character.toNat
  isSpace character || (0x20 ≤ codePoint && codePoint ≠ 0xfffe && codePoint ≠ 0xffff)

def skipSpaces (text : List Char) : List Char := text.dropWhile isSpace

def breakOn (mark : List Char) : List Char → Option (List Char × List Char)
  | [] => none
  | character :: rest =>
      match mark.isPrefixOf? (character :: rest) with
      | some after => some ([], after)
      | none => (breakOn mark rest).map fun found => (character :: found.1, found.2)

theorem append_of_isPrefixOf? {mark text rest : List Char}
    (found : mark.isPrefixOf? text = some rest) : mark ++ rest = text := by
  induction mark generalizing text with
  | nil =>
      change some text = some rest at found
      simp_all
  | cons first mark ih =>
      cases text with
      | nil =>
          change none = some rest at found
          simp at found
      | cons character text =>
          change (if first == character then mark.isPrefixOf? text else none) = some rest at found
          split at found
          · next same => simp [eq_of_beq same, ih found]
          · simp at found

theorem append_of_breakOn {mark text before after : List Char}
    (found : breakOn mark text = some (before, after)) : before ++ mark ++ after = text := by
  induction text generalizing before with
  | nil => simp [breakOn] at found
  | cons character text ih =>
      simp only [breakOn] at found
      split at found
      · next prefixed =>
          obtain ⟨rfl, rfl⟩ := by simpa using found
          simpa using append_of_isPrefixOf? prefixed
      · obtain ⟨⟨front, back⟩, inner, same⟩ := Option.map_eq_some_iff.1 found
        obtain ⟨rfl, rfl⟩ := by simpa using same
        simpa using ih inner

def holds (mark text : List Char) : Bool := (breakOn mark text).isSome

end Disassembly.Markup
