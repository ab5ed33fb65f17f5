import Disassembly.Markup.Declared
import Disassembly.Markup.Piece
import Disassembly.Markup.Source

/-!
The document type: the name of a document's element, an identifier for declarations kept
elsewhere, and the declarations inside the document. A declaration is first cut into pieces and
then judged by the shape of the list of pieces. Entities and the values of attributes are kept;
of the others only the form is checked. Declarations kept elsewhere are not read.
-/

namespace Disassembly.Markup

namespace Doctype

def isPublicCharacter (character : Char) : Bool :=
  character.isAlphanum ||
    (character ≠ '\t' && isSpace character) ||
    "-'()+,./:=?;!*#@$_%".toList.contains character

def readExternal : List Piece → Option (List Piece)
  | .word kind :: .literal first _ :: rest =>
      if kind = "SYSTEM".toList then some rest
      else if kind = "PUBLIC".toList && first.all isPublicCharacter then
        match rest with
        | .literal _ _ :: rest => some rest
        | _ => none
      else none
  | _ => none

/-- The replacement text for a written one: character references are replaced, references to
entities stay, and no other reference may stand. -/
def replacementText (encoding : Encoding) : Nat → List Char → Option (List Char)
  | 0, _ => none
  | _ + 1, [] => some []
  | fuel + 1, '&' :: text => do
      let (written, referent, rest) ← Referent.read encoding text
      let later ← replacementText encoding fuel rest
      match referent with
      | .character value => some (value :: later)
      | _ => some ('&' :: written ++ ';' :: later)
  | _ + 1, '%' :: _ => none
  | fuel + 1, character :: rest => (replacementText encoding fuel rest).map (character :: ·)

def readReplacement (encoding : Encoding) (written : List Char) : Option (List Char) :=
  replacementText encoding (written.length + 1)
    ((Origin.document encoding).characterData written)

def readEntity (encoding : Encoding) (declared : Declared) : List Piece → Option Declared
  | .percent :: .word _ :: pieces =>
      match pieces with
      | [.literal written _] =>
          if declared.isReading then (readReplacement encoding written).map fun _ => declared
          else some declared
      | _ => if readExternal pieces = some [] then some declared else none
  | .word name :: pieces =>
      match pieces with
      | [.literal written _] =>
          if declared.isReading then
            (readReplacement encoding written).map fun text =>
              declared.addEntity name (.internal text)
          else some declared
      | _ =>
          match readExternal pieces with
          | some [] => some (declared.addEntity name .external)
          | some [.word kind, .word _] =>
              if kind = "NDATA".toList then some (declared.addEntity name .unparsed) else none
          | _ => none
  | _ => none

def isNotationBody : List Piece → Bool
  | [.word _, .word kind, .literal identifier _] =>
      kind = "SYSTEM".toList || (kind = "PUBLIC".toList && identifier.all isPublicCharacter)
  | .word _ :: pieces => readExternal pieces = some []
  | _ => false

def isMixedTail : List Piece → Bool
  | [.closing mark] => mark = some '*'
  | .bar :: piece :: rest => piece.name?.isSome && isMixedTail rest
  | _ => false

/-- The rest of nested groups of elements. `connectors` holds what joins the members of each open
group, innermost first, and `expecting` says that a member must come next. -/
def isGroupTail : List (Option Piece) → Bool → List Piece → Bool
  | [], expecting, pieces => !expecting && pieces.isEmpty
  | _ :: _, _, [] => false
  | connectors, true, .opening :: rest => isGroupTail (none :: connectors) true rest
  | connectors, true, .counted :: rest => isGroupTail connectors false rest
  | connectors, true, piece :: rest => piece.name?.isSome && isGroupTail connectors false rest
  | _ :: outer, false, .closing _ :: rest => isGroupTail outer false rest
  | connector :: outer, false, piece :: rest =>
      (piece = .bar || piece = .comma) && connector.all (· = piece) &&
        isGroupTail (some piece :: outer) true rest

def isContentModel : List Piece → Bool
  | [.word kind] => kind = "EMPTY".toList || kind = "ANY".toList
  | .opening :: .keyword kind :: rest =>
      kind = "PCDATA".toList && (rest = [.closing none] || isMixedTail rest)
  | .opening :: rest => isGroupTail [none] true rest
  | _ => false

def isElement : List Piece → Bool
  | piece :: model => piece.name?.isSome && isContentModel model
  | [] => false

def tokenTypes : List (List Char) :=
  ["ID".toList, "IDREF".toList, "IDREFS".toList, "ENTITY".toList, "ENTITIES".toList,
   "NMTOKEN".toList, "NMTOKENS".toList]

/-- The members of an enumeration and the pieces after it. Where `onlyWords` holds a member is a
simple name, otherwise it is any word. -/
def readMembers (onlyWords : Bool) : List Piece → Option (List Piece)
  | piece :: .closing none :: rest => if isMember piece then some rest else none
  | piece :: .bar :: rest => if isMember piece then readMembers onlyWords rest else none
  | _ => none
where
  isMember (piece : Piece) : Bool :=
    match piece with
    | .word _ => true
    | .qualified _ | .token => !onlyWords
    | _ => false

/-- Whether values of the type at the front are lists of tokens, and the pieces after the type. -/
def readType : List Piece → Option (Bool × List Piece)
  | .opening :: rest => (readMembers false rest).map fun rest => (true, rest)
  | .word kind :: rest =>
      if kind = "CDATA".toList then some (false, rest)
      else if tokenTypes.contains kind then some (true, rest)
      else if kind = "NOTATION".toList then
        match rest with
        | .opening :: rest => (readMembers true rest).map fun rest => (true, rest)
        | _ => none
      else none
  | _ => none

structure WrittenValue where
  text : List Char
  following : List Char
deriving DecidableEq, Repr

def readFallback : List Piece → Option (Option WrittenValue × List Piece)
  | .keyword kind :: rest =>
      if kind = "IMPLIED".toList || kind = "REQUIRED".toList then some (none, rest)
      else if kind = "FIXED".toList then
        match rest with
        | .literal text following :: rest => some (some ⟨text, following⟩, rest)
        | _ => none
      else none
  | .literal text following :: rest => some (some ⟨text, following⟩, rest)
  | _ => none

/-- The value that a declaration gives to an attribute, and the declarations with the bytes of
entities counted that it takes. Only a reference has to know how much stands before it. -/
def expandFallback (source : Source) (declared : Declared) (tokenized : Bool) :
    Option WrittenValue → Option (Option (List Char) × Declared)
  | none => some (none, declared)
  | some written => do
      let before :=
        if written.text.contains '&' then source.bytesBefore written.following else 0
      let (value, expansion) ←
        AttributeValue.expand declared (.document source.encoding) .uncounted
          ⟨before, declared.expanded⟩ written.text
      some (some (if tokenized then AttributeValue.tokenize value else value),
        { declared with expanded := expansion.indirect })

def readAttributes (source : Source) (element : Name) :
    Nat → Declared → List Piece → Option Declared
  | 0, _, _ => none
  | _ + 1, declared, [] => some declared
  | fuel + 1, declared, piece :: pieces => do
      let name ← piece.name?
      let (tokenized, pieces) ← readType pieces
      let (fallback, pieces) ← readFallback pieces
      if declared.isReading then
        let (value, declared) ← expandFallback source declared tokenized fallback
        readAttributes source element fuel
          (declared.addAttribute ⟨element, name, tokenized, value⟩) pieces
      else readAttributes source element fuel declared pieces

def declare (source : Source) (declared : Declared) (kind : List Char) (pieces : List Piece) :
    Option Declared :=
  if kind = "ENTITY".toList then readEntity source.encoding declared pieces
  else if kind = "ATTLIST".toList then do
    let piece ← pieces.head?
    let element ← piece.name?
    readAttributes source element (pieces.length + 1) declared (pieces.drop 1)
  else if kind = "ELEMENT".toList then if isElement pieces then some declared else none
  else if kind = "NOTATION".toList then if isNotationBody pieces then some declared else none
  else none

def readSubset (source : Source) : Nat → Declared → List Char → Option (Declared × List Char)
  | 0, _, _ => none
  | fuel + 1, declared, text =>
      match skipSpaces text with
      | ']' :: rest => some (declared, rest)
      | '%' :: rest => do
          match ← readSimpleName source.encoding rest with
          | (_, ';' :: rest) => readSubset source fuel { declared with skipped := true } rest
          | _ => none
      | '<' :: '?' :: rest => do
          let rest ← Token.skipInstruction source.encoding rest
          readSubset source fuel declared rest
      | '<' :: '!' :: '-' :: '-' :: rest => do
          let rest ← Token.skipComment rest
          readSubset source fuel declared rest
      | '<' :: '!' :: rest =>
          let kind := rest.takeWhile Char.isAlpha
          let afterKind := rest.drop kind.length
          if afterKind.head?.any isSpace then do
            let (pieces, mark, rest) ← Piece.readAll source.encoding fuel afterKind
            if mark = '>' then
              let declared ← declare source declared kind pieces
              readSubset source fuel declared rest
            else none
          else none
      | _ => none

def read (source : Source) (text : List Char) : Option (Declared × List Char) :=
  if !text.head?.any isSpace then none
  else do
    let (pieces, mark, rest) ← Piece.readAll source.encoding (text.length + 1) text
    let piece ← pieces.head?
    let _ ← piece.name?
    let identifier := pieces.drop 1
    let external := !identifier.isEmpty
    if external && readExternal identifier ≠ some [] then none
    else
      let declared := { Declared.empty source.standalone with external := external }
      if mark = '[' then
        let (declared, rest) ← readSubset source (rest.length + 1) declared rest
        match skipSpaces rest with
        | '>' :: rest => some (declared, rest)
        | _ => none
      else some (declared, rest)

end Doctype

end Disassembly.Markup
