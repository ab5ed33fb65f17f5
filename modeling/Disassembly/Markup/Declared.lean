import Disassembly.Markup.Expansion
import Disassembly.Markup.Token

/-!
What a document declares about itself, and the values of attributes that follow from it. Entities
are declared once; the first declaration counts. An entity whose text is known stands for that
text, in which further references are followed, and whose bytes are counted each time.
-/

namespace Disassembly.Markup

inductive Entity where
  | internal (replacement : List Char)
  | external
  | unparsed
deriving DecidableEq, Repr

/-- What is declared about an attribute of an element: whether its value is a list of tokens, so
that spaces at the ends and doubled ones do not count, and its value where a tag leaves it out. -/
structure DeclaredAttribute where
  element : Name
  name : Name
  tokenized : Bool
  fallback : Option (List Char)
deriving DecidableEq, Repr

structure Declared where
  standalone : Bool
  entities : List (List Char × Entity)
  attributes : List DeclaredAttribute
  /-- Further declarations stand outside the document. They are not read. -/
  external : Bool
  /-- A reference to declarations kept elsewhere has been passed over. -/
  skipped : Bool
  /-- How many bytes of entities the declared values of attributes have taken. -/
  expanded : Nat
deriving DecidableEq, Repr

namespace Declared

def empty (standalone : Bool) : Declared := ⟨standalone, [], [], false, false, 0⟩

/-- Declarations count unless some have been passed over before them; those of a document that
stands alone always count. -/
def isReading (declared : Declared) : Bool := !declared.skipped || declared.standalone

/-- An entity without a declaration is an error only where all declarations are known. -/
def mustDeclare (declared : Declared) : Bool :=
  (!declared.external && !declared.skipped) || declared.standalone

def addEntity (declared : Declared) (name : List Char) (entity : Entity) : Declared :=
  if declared.isReading && (declared.entities.lookup name).isNone &&
      (Referent.knownEntities.lookup name).isNone then
    { declared with entities := declared.entities ++ [(name, entity)] }
  else declared

def findAttribute (declared : Declared) (element name : Name) : Option DeclaredAttribute :=
  declared.attributes.find? fun entry => entry.element = element && entry.name = name

def addAttribute (declared : Declared) (entry : DeclaredAttribute) : Declared :=
  if (declared.findAttribute entry.element entry.name).isSome then declared
  else { declared with attributes := declared.attributes ++ [entry] }

def defaults (declared : Declared) (element : Name) (given : List Name) :
    List (Name × List Char) :=
  declared.attributes.filterMap fun entry =>
    if entry.element = element && !given.contains entry.name then
      entry.fallback.map fun value => (entry.name, value)
    else none

end Declared

namespace AttributeValue

abbrev Expanded := List Char × Expansion

/-- The value for a text, where `follow` gives the value for an entity. Spaces of every kind are a
plain space, and a line break is one however it is written. -/
def expandText (follow : List Char → Expansion → Option Expanded) (origin : Origin)
    (account : Account) : Nat → Expansion → List Char → Option Expanded
  | 0, _, _ => none
  | _ + 1, expansion, [] => some ([], expansion)
  | fuel + 1, expansion, character :: rest =>
      if character = '<' then none
      else if character = '&' then do
        let (written, referent, rest) ← Referent.read origin.encoding rest
        let expansion ← expansion.count account (origin.size ('&' :: written ++ [';']))
        let (front, expansion) ←
          match referent with
          | .character value => some ([value], expansion)
          | .predefined value => some ([value], expansion.add .indirect 1)
          | .entity name => follow name expansion
        let (back, expansion) ← expandText follow origin account fuel expansion rest
        some (front ++ back, expansion)
      else do
        let expansion ← expansion.count account (origin.encoding.width character)
        let (back, expansion) ← expandText follow origin account fuel expansion rest
        if origin.joinsBreak character rest then some (back, expansion)
        else some ((if isSpace character then ' ' else character) :: back, expansion)

/-- The value for a reference to an entity. Each level of references uses one of the entities that
are not yet open, so `depth` need not exceed their number. -/
def expandEntity (declared : Declared) :
    Nat → List (List Char) → List Char → Expansion → Option Expanded
  | 0, _, _, _ => none
  | depth + 1, opened, name, expansion =>
      match declared.entities.lookup name with
      | none => if declared.mustDeclare then none else some ([], expansion)
      | some (.internal replacement) =>
          if opened.contains name then none
          else
            expandText (expandEntity declared depth (name :: opened)) .replacement .indirect
              (replacement.length + 1) expansion replacement
      | some _ => none

def tokenize (value : List Char) : List Char :=
  List.intercalate [' '] ((value.splitOn ' ').filter fun word => !word.isEmpty)

/-- A value that stands for itself: it holds no reference, and its spaces are single plain ones
between other characters. -/
def isPlain (written : List Char) : Bool :=
  written.all (fun character => character != '&' && (character = ' ' || !isSpace character)) &&
    tokenize written = written

def expand (declared : Declared) (origin : Origin) (account : Account) (expansion : Expansion)
    (written : List Char) : Option Expanded :=
  expandText (expandEntity declared (declared.entities.length + 1) []) origin account
    (written.length + 1) expansion written

end AttributeValue

end Disassembly.Markup
