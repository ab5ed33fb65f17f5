import Disassembly.Instruction
import Std.Data.TreeMap.Lemmas

/-!
Instructions by address. Of several instructions at one address the first one counts, so that an
index grows and never changes. A search in the index of a list finds what a search through the list
finds.
-/

namespace Disassembly

abbrev AddressIndex := Std.TreeMap Int Instruction

namespace AddressIndex

def empty : AddressIndex := ∅

def add (index : AddressIndex) (instruction : Instruction) : AddressIndex :=
  index.insertIfNew instruction.address instruction

def ofInstructions (instructions : List Instruction) : AddressIndex :=
  instructions.foldl add empty

def first? (index : AddressIndex) (address : Int) : Option Instruction := index[address]?

def covers (index : AddressIndex) (address : Int) : Bool := index.contains address

theorem first?_empty (address : Int) : empty.first? address = none := Std.TreeMap.getElem?_emptyc

theorem covers_eq_isSome (index : AddressIndex) (address : Int) :
    index.covers address = (index.first? address).isSome :=
  Std.TreeMap.contains_eq_isSome_getElem?

/-- What is known about an address stays as it is. -/
theorem first?_add (index : AddressIndex) (instruction : Instruction) (address : Int) :
    (index.add instruction).first? address =
      (index.first? address).or
        (if instruction.address = address then some instruction else none) := by
  rw [first?, first?, add, Std.TreeMap.getElem?_insertIfNew]
  by_cases same : instruction.address = address
  · subst same
    cases known : index[instruction.address]? <;>
      simp [Std.TreeMap.mem_iff_isSome_getElem?, known]
  · simp [same]

theorem first?_foldl_add (instructions : List Instruction) (index : AddressIndex)
    (address : Int) :
    (instructions.foldl add index).first? address =
      (index.first? address).or
        (instructions.find? fun instruction => instruction.address == address) := by
  induction instructions generalizing index with
  | nil => simp
  | cons instruction rest induction =>
    rw [List.foldl_cons, induction, first?_add, Option.or_assoc, List.find?_cons]
    by_cases same : instruction.address = address
    · simp [same]
    · simp [same, beq_eq_false_iff_ne.mpr same]

/-- The index of a list agrees with a search from the front of the list. -/
theorem first?_ofInstructions (instructions : List Instruction) (address : Int) :
    (ofInstructions instructions).first? address =
      instructions.find? fun instruction => instruction.address == address := by
  rw [ofInstructions, first?_foldl_add, first?_empty, Option.none_or]

theorem covers_ofInstructions (instructions : List Instruction) (address : Int) :
    (ofInstructions instructions).covers address =
      (instructions.map Instruction.address).contains address := by
  rw [covers_eq_isSome, first?_ofInstructions, List.isSome_find?, List.contains_eq_any_beq,
    List.any_map]
  congr 1
  funext instruction
  exact Bool.beq_comm

end AddressIndex

end Disassembly
