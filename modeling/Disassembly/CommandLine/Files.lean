import Disassembly.CommandLine.Path

/-!
What stands under the name of an input. Files are known by the paths that lead to them; the places
on the way to a file are directories. A name stands for the same file however its path is spelled.
-/

namespace Disassembly.CommandLine

inductive Input where
  | missing
  | directory
  | denied
  | file (bytes : List UInt8)
  | text (content : List Char)
deriving DecidableEq, Repr

abbrev Files := List (List Char × Input)

namespace Files

def find (files : Files) (place : Place) : Input :=
  match files.find? fun entry => (Path.parts entry.1).reverse = place with
  | some entry => entry.2
  | none => .missing

/-- Something stands further inside a place. -/
def leadsOn (files : Files) (place : Place) : Bool :=
  files.any fun entry =>
    entry.2 ≠ .missing && place.reverse.isPrefixOf (Path.parts entry.1) &&
      place.length < (Path.parts entry.1).length

def isDirectory (files : Files) (place : Place) : Bool :=
  place.isEmpty || files.find place = .directory || files.leadsOn place

/-- The input that a name leads to. Files are found from the place of the call only, not from the
root. -/
def atName (files : Files) (name : List Char) : Input :=
  if Path.startsAtRoot name then .missing
  else
    match Path.walk files.isDirectory [] (Path.parts name) with
    | none => .missing
    | some place => if files.isDirectory place then .directory else files.find place

end Files

end Disassembly.CommandLine
