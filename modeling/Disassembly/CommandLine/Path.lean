/-!
Paths. The parts of a path lead one by one from place to place; an empty part and a lone point stay
where they are, and two points lead back out. Every place that a part leads on from must be a
directory, also where the next part only leads back.
-/

namespace Disassembly.CommandLine

/-- A place below the one that paths start from: the parts that lead there, the last one first. -/
abbrev Place := List (List Char)

namespace Path

/-- The parts of a path that lead somewhere: no empty one and none for the same place. -/
def parts (path : List Char) : List (List Char) :=
  (path.splitOn '/').filter fun part => !part.isEmpty && part ≠ ['.']

def startsAtRoot (path : List Char) : Bool := ['/'].isPrefixOf path

def plain (path : List Char) : List Char :=
  let joined := List.intercalate ['/'] (parts path)
  if startsAtRoot path then '/' :: joined else if joined.isEmpty then ['.'] else joined

/-- The place that parts lead to from a given one. Nothing lies outside the first place. -/
def walk (isDirectory : Place → Bool) : Place → List (List Char) → Option Place
  | place, [] => some place
  | place, part :: rest =>
      if !isDirectory place then none
      else if part = ['.', '.'] then
        match place with
        | [] => none
        | _ :: outer => walk isDirectory outer rest
      else walk isDirectory (part :: place) rest

end Path

end Disassembly.CommandLine
