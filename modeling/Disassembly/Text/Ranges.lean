/-!
Sets of code points given as ranges. A table of a character property is a list of ranges with both
ends included; membership is decided by comparing the code point with each of them. Nothing here
says which property a table holds.
-/

namespace Disassembly.Text

/-- Ranges of code points, both ends included. -/
abbrev Ranges := List (Nat × Nat)

def Ranges.has (ranges : Ranges) (codePoint : Nat) : Bool :=
  ranges.any fun range => range.1 ≤ codePoint && codePoint ≤ range.2

theorem Ranges.has_iff (ranges : Ranges) (codePoint : Nat) :
    ranges.has codePoint = true ↔
      ∃ range ∈ ranges, range.1 ≤ codePoint ∧ codePoint ≤ range.2 := by
  simp [Ranges.has]

/-- No range of the first class has a code point in common with a range of the second. -/
def Ranges.isApartFrom (ranges others : Ranges) : Bool :=
  ranges.all fun range => others.all fun other =>
    Nat.blt range.2 other.1 || Nat.blt other.2 range.1

/-- Every range of the first class lies inside a range of the second. -/
def Ranges.isWithin (ranges others : Ranges) : Bool :=
  ranges.all fun range => others.any fun other =>
    Nat.ble other.1 range.1 && Nat.ble range.2 other.2

theorem Ranges.has_eq_false_of_isApartFrom {ranges others : Ranges}
    (apart : ranges.isApartFrom others = true) {codePoint : Nat}
    (inside : ranges.has codePoint = true) : others.has codePoint = false := by
  have clear : ∀ range ∈ ranges, ∀ other ∈ others, range.2 < other.1 ∨ other.2 < range.1 := by
    simpa [isApartFrom] using apart
  rcases (ranges.has_iff codePoint).mp inside with ⟨range, member, lower, upper⟩
  apply Bool.eq_false_iff.mpr
  intro inOthers
  rcases (others.has_iff codePoint).mp inOthers with ⟨other, otherMember, otherLower, otherUpper⟩
  rcases clear range member other otherMember with before | behind
  · omega
  · omega

theorem Ranges.has_of_isWithin {ranges others : Ranges} (within : ranges.isWithin others = true)
    {codePoint : Nat} (inside : ranges.has codePoint = true) : others.has codePoint = true := by
  have covered : ∀ range ∈ ranges, ∃ other ∈ others, other.1 ≤ range.1 ∧ range.2 ≤ other.2 := by
    simpa [isWithin] using within
  rcases (ranges.has_iff codePoint).mp inside with ⟨range, member, lower, upper⟩
  rcases covered range member with ⟨other, otherMember, below, above⟩
  apply (others.has_iff codePoint).mpr
  exact ⟨other, otherMember, Nat.le_trans below lower, Nat.le_trans upper above⟩

end Disassembly.Text
