import Disassembly.Markup.Doctype
import Disassembly.Markup.Event
import Disassembly.Markup.Namespace

/-!
Documents: from bytes to the events of the one element a document holds. Comments, instructions
and spaces may stand around it, and a document type before it. Tags match in order and by the name
as written. A reference to an entity stands for the text of the entity, in which all elements that
open also close. A document with any fault has no events, and one whose encoding the reader refuses
is not read at all.
-/

namespace Disassembly.Markup

/-- What has been read: the events so far, newest first, and the bytes counted. -/
structure Progress where
  events : List Event
  expansion : Expansion
deriving DecidableEq, Repr

structure OpenElement where
  name : Name
  bindings : Bindings
deriving DecidableEq, Repr

def OpenElement.tag (element : OpenElement) : List Char := element.bindings.tag element.name

namespace Content

def emit (progress : Progress) (event : Event) : Progress :=
  { progress with events := event :: progress.events }

/-- The values of the attributes of a tag. The bytes of a value that does not stand for itself are
counted once more, but not those in a tag that closes its element. -/
def expandAttributes (declared : Declared) (origin : Origin) (closed : Bool) (element : Name) :
    Expansion → List (Name × List Char) → Option (List (Name × List Char) × Expansion)
  | expansion, [] => some ([], expansion)
  | expansion, (name, written) :: rest => do
      let account :=
        if closed || AttributeValue.isPlain written then .uncounted else origin.account
      let (value, expansion) ←
        AttributeValue.expand declared origin account expansion written
      let tokenized := (declared.findAttribute element name).any DeclaredAttribute.tokenized
      let value := if tokenized then AttributeValue.tokenize value else value
      let (attributes, expansion) ←
        expandAttributes declared origin closed element expansion rest
      some ((name, value) :: attributes, expansion)

def enter (declared : Declared) (origin : Origin) (bindings : Bindings) (progress : Progress)
    (name : Name) (attributes : List (Name × List Char)) (closed : Bool) :
    Option (OpenElement × Progress) := do
  let (given, expansion) ←
    expandAttributes declared origin closed name progress.expansion attributes
  let defaults := declared.defaults name (given.map Prod.fst)
  let inner ← bindings.enter name (given ++ defaults)
  some (⟨name, inner⟩, emit { progress with expansion := expansion } (.opening (inner.tag name)))

def step (declared : Declared) (follow : List Char → Bindings → Progress → Option Progress)
    (origin : Origin) (bindings : Bindings) (opened : List OpenElement) (progress : Progress) :
    Token → Option (List OpenElement × Progress)
  | .opening name attributes closed => do
      let (element, progress) ←
        enter declared origin bindings progress name attributes closed
      if closed then some (opened, emit progress (.closing element.tag))
      else some (element :: opened, progress)
  | .closing name =>
      match opened with
      | [] => none
      | element :: opened =>
          if element.name = name then some (opened, emit progress (.closing element.tag)) else none
  | .data content => some (opened, emit progress (.text content))
  | .reference (.character value) => some (opened, emit progress (.text [value]))
  | .reference (.predefined value) =>
      let expansion := progress.expansion.add .indirect 1
      some (opened, emit { progress with expansion := expansion } (.text [value]))
  | .reference (.entity name) =>
      (follow name bindings progress).map fun progress => (opened, progress)
  | .aside => some (opened, progress)

/-- Reads content token by token. `opened` holds the elements opened here and not yet closed,
innermost first, and `outer` the bindings around them. The content of a document ends when its
element closes, and the rest is returned; a replacement text is read to its end. -/
def read (declared : Declared) (follow : List Char → Bindings → Progress → Option Progress)
    (origin : Origin) (outer : Bindings) :
    Nat → List OpenElement → List Char → Progress → Option (Progress × List Char)
  | 0, _, _, _ => none
  | _ + 1, opened, [], progress =>
      if origin = .replacement && opened.isEmpty then some (progress, []) else none
  | fuel + 1, opened, text, progress => do
      let bindings := (opened.head?.map OpenElement.bindings).getD outer
      let (written, rest) ← Token.cut text
      let expansion ← progress.expansion.count origin.account (origin.size written)
      let token ← Token.ofCut origin written
      let (opened, progress) ←
        step declared follow origin bindings opened { progress with expansion := expansion } token
      if origin ≠ .replacement && opened.isEmpty then some (progress, rest)
      else read declared follow origin outer fuel opened rest progress

/-- Reads the text that an entity stands for. Each level of references uses one of the entities
that are not yet open, so `depth` need not exceed their number. -/
def readEntity (declared : Declared) :
    Nat → List (List Char) → List Char → Bindings → Progress → Option Progress
  | 0, _, _, _, _ => none
  | depth + 1, opened, name, bindings, progress =>
      match declared.entities.lookup name with
      | some (.internal replacement) =>
          if opened.contains name then none
          else
            (read declared (readEntity declared depth (name :: opened)) .replacement bindings
              (replacement.length + 1) [] replacement progress).map Prod.fst
      | _ => none

end Content

namespace Document

def skipAround (encoding : Encoding) : Nat → List Char → Option (List Char)
  | 0, _ => none
  | fuel + 1, text =>
      match skipSpaces text with
      | '<' :: '!' :: '-' :: '-' :: rest => (Token.skipComment rest).bind (skipAround encoding fuel)
      | '<' :: '?' :: rest =>
          (Token.skipInstruction encoding rest).bind (skipAround encoding fuel)
      | spaced => some spaced

def skip (encoding : Encoding) (text : List Char) : Option (List Char) :=
  skipAround encoding (text.length + 1) text

def readProlog (source : Source) : Option (Declared × List Char) := do
  let text ← skip source.encoding source.text
  match "<!DOCTYPE".toList.isPrefixOf? text with
  | none => some (Declared.empty source.standalone, text)
  | some rest =>
      let (declared, rest) ← Doctype.read source rest
      let rest ← skip source.encoding rest
      some (declared, rest)

/-- An element starts here: nothing else may stand where the content of a document begins. -/
def startsElement (encoding : Encoding) : List Char → Bool
  | '<' :: first :: _ => startsName encoding first
  | _ => false

/-- Nothing but spaces, comments and instructions follows the element, and their bytes do not break
the limit. -/
def endsWell (source : Source) (expansion : Expansion) (rest : List Char) : Bool :=
  skip source.encoding rest = some [] &&
    (rest.isEmpty || (expansion.count .direct (source.encoding.size rest)).isSome)

/-- The events of a document whose text is known, or none when it has a fault. -/
def readSource (source : Source) : Option (List Event) := do
  let (declared, text) ← readProlog source
  if !startsElement source.encoding text then none
  else
    let follow := Content.readEntity declared (declared.entities.length + 1) []
    let (progress, rest) ←
      Content.read declared follow (.document source.encoding) Bindings.initial (text.length + 1)
        [] text ⟨[], ⟨source.bytesBefore text, declared.expanded⟩⟩
    if endsWell source progress.expansion rest then some progress.events.reverse else none

def read (bytes : List UInt8) : Except Flaw (List Event) := do
  let source ← Source.ofBytes bytes
  Flaw.require (readSource source)

end Document

end Disassembly.Markup
