import Disassembly.Labels

/-!
A tracker collects instructions and labels them on demand. It keeps an index of their addresses
beside them, so that no search goes through all of them. Labels stay as they were built until they
are built again or the tracker is cleared, whatever is recorded in between.
-/

namespace Disassembly

structure Tracker where
  instructions : List Instruction
  labels : Labels
  index : AddressIndex

namespace Tracker

def empty : Tracker := ⟨[], [], AddressIndex.empty⟩

def record (tracker : Tracker) (instruction : Instruction) : Tracker :=
  ⟨tracker.instructions ++ [instruction], tracker.labels, tracker.index.add instruction⟩

def instructionAt? (tracker : Tracker) (address : Int) : Option Instruction :=
  tracker.index.first? address

def buildLabels (tracker : Tracker) (family : Family) : Tracker :=
  { tracker with labels := Labels.assign family tracker.index tracker.instructions }

def labelFor? (tracker : Tracker) (address : Int) : Option (List Char) :=
  tracker.labels.label? address

def formatOperands (tracker : Tracker) (family : Family) (instruction : Instruction) :
    List (List Char) :=
  tracker.labels.formatOperands family instruction

end Tracker

end Disassembly
