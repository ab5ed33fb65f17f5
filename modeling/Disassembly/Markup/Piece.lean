import Disassembly.Markup.Token

/-!
Pieces of a declaration: words, quoted texts and the marks between them. A word is told from a
qualified name, from a name with a count behind it, and from a word that is no name. What a list
of pieces means is decided by the declaration that they stand in.
-/

namespace Disassembly.Markup

inductive Piece where
  | word (text : List Char)
  | qualified (name : Name)
  /-- A word that is no name. -/
  | token
  /-- A name with a mark that says how often it may stand. -/
  | counted
  /-- A quoted text, with what follows it in the document. -/
  | literal (text following : List Char)
  /-- A word behind a number sign. -/
  | keyword (text : List Char)
  | percent
  | opening
  | closing (mark : Option Char)
  | bar
  | comma
deriving DecidableEq, Repr

namespace Piece

def ofRun (encoding : Encoding) (run : List Char) : Piece :=
  if !run.head?.any (startsName encoding) then token
  else
    match run.dropWhile (· != ':') with
    | [] => word run
    | _ :: base =>
        if base.isEmpty || base.contains ':' then token
        else qualified ⟨some (run.takeWhile (· != ':')), base⟩

def isFollowedBy (characters rest : List Char) : Bool :=
  rest.head?.any fun character => isSpace character || characters.contains character

def isCount (character : Char) : Bool :=
  character = '?' || character = '*' || character = '+'

def readRun (encoding : Encoding) (text : List Char) : Option (Piece × List Char) :=
  let run := text.takeWhile fun character => continuesName encoding character || character = ':'
  let rest := text.drop run.length
  if run.isEmpty then none
  else if isFollowedBy ['>', ')', ',', '|', '[', '%'] rest then some (ofRun encoding run, rest)
  else if rest.head?.any isCount && ofRun encoding run ≠ token then some (counted, rest.drop 1)
  else none

/-- The piece at the front of a text, and the rest. Each piece but brackets and commas must be
followed by a space or by a mark that can follow it. -/
def read (encoding : Encoding) : List Char → Option (Piece × List Char)
  | '(' :: rest => some (opening, rest)
  | '|' :: rest => some (bar, rest)
  | ',' :: rest => some (comma, rest)
  | ')' :: mark :: rest =>
      if isCount mark then some (closing (some mark), rest)
      else if isFollowedBy ['>', ')', ',', '|'] [mark] then some (closing none, mark :: rest)
      else none
  | '%' :: rest => if isFollowedBy ['%'] rest then some (percent, rest) else none
  | '#' :: rest => do
      let (text, rest) ← readSimpleName encoding rest
      if isFollowedBy ['>', ')', '|', '%'] rest then some (keyword text, rest) else none
  | input =>
      if input.head?.any fun quote => quote = '\x27' || quote = '\x22' then do
        let (text, rest) ← Token.readQuoted input
        if isFollowedBy ['>', '%', '['] rest then some (literal text rest, rest) else none
      else readRun encoding input

/-- The pieces up to the end of a declaration or the start of a subset, the mark that ended them,
and the rest. -/
def readAll (encoding : Encoding) : Nat → List Char → Option (List Piece × Char × List Char)
  | 0, _ => none
  | fuel + 1, text =>
      match skipSpaces text with
      | '>' :: rest => some ([], '>', rest)
      | '[' :: rest => some ([], '[', rest)
      | spaced => do
          let (piece, rest) ← read encoding spaced
          let (pieces, mark, rest) ← readAll encoding fuel rest
          some (piece :: pieces, mark, rest)

def name? : Piece → Option Name
  | word text => some ⟨none, text⟩
  | qualified name => some name
  | _ => none

end Piece

end Disassembly.Markup
