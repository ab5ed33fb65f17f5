/-!
Padding on the left to a least width. A text that is already that wide is not changed, so numbers
of any size keep all their digits.
-/

namespace Disassembly.Text

def padLeft (width : Nat) (filler : Char) (text : List Char) : List Char :=
  List.replicate (width - text.length) filler ++ text

theorem padLeft_of_le (width : Nat) (filler : Char) (text : List Char)
    (wide : width ≤ text.length) : padLeft width filler text = text := by
  simp [padLeft, Nat.sub_eq_zero_of_le wide]

theorem length_padLeft (width : Nat) (filler : Char) (text : List Char) :
    (padLeft width filler text).length = max width text.length := by
  simp [padLeft]
  omega

end Disassembly.Text
