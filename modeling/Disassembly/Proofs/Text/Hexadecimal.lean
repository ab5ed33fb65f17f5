import Disassembly.Text.Hexadecimal
import Mathlib.Data.List.Induction
import Mathlib.Data.Nat.Digits.Defs

/-!
Hexadecimal numerals read back. Writing and reading are inverse for numbers of any size, the
padding of an address does not count, and the value that is read is the one that positional notation
in base sixteen gives. Only addresses that are not negative are treated, since no line holds another.
-/

namespace Disassembly.Text

theorem digitChar_isHexDigit_value : ∀ digit, digit < 16 →
    isHexDigit digit.digitChar = true ∧ hexDigitValue digit.digitChar = digit := by decide

theorem readHex_append_digit (digits : List Char) (digit : Char) :
    readHex (digits ++ [digit]) = 16 * readHex digits + hexDigitValue digit := by
  simp [readHex]

/-- The value of a numeral is that of its digits in base sixteen. -/
theorem readHex_eq_ofDigits (digits : List Char) :
    readHex digits = Nat.ofDigits 16 (digits.reverse.map hexDigitValue) := by
  induction digits using List.reverseRecOn with
  | nil => rfl
  | append_singleton digits digit induction =>
      rw [readHex_append_digit, induction, List.reverse_append, List.reverse_singleton,
        List.singleton_append, List.map_cons, Nat.ofDigits_cons]
      exact Nat.add_comm _ _

theorem readHex_writeHex (value : Nat) : readHex (writeHex value) = value := by
  induction value using Nat.strong_induction_on with
  | _ value induction =>
      rw [writeHex, Nat.toDigits_eq_if (by decide)]
      split
      · rename_i small
        simpa [readHex] using (digitChar_isHexDigit_value value small).2
      · rename_i large
        have unit := (digitChar_isHexDigit_value (value % 16) (Nat.mod_lt _ (by decide))).2
        have front := induction (value / 16) (by omega)
        rw [writeHex] at front
        rw [readHex_append_digit, front, unit]
        omega

theorem isHexDigit_of_mem_writeHex (value : Nat) :
    ∀ digit ∈ writeHex value, isHexDigit digit = true := by
  induction value using Nat.strong_induction_on with
  | _ value induction =>
      rw [writeHex, Nat.toDigits_eq_if (by decide)]
      split
      · rename_i small
        simpa using (digitChar_isHexDigit_value value small).1
      · rename_i large
        intro digit member
        rcases List.mem_append.mp member with front | last
        · exact induction (value / 16) (by omega) digit front
        · rw [List.mem_singleton.mp last]
          exact (digitChar_isHexDigit_value _ (Nat.mod_lt _ (by decide))).1

theorem readHex_padLeft (width : Nat) (digits : List Char) :
    readHex (padLeft width '0' digits) = readHex digits := by
  have zeros : ∀ count, readHex (List.replicate count '0') = 0 := by
    intro count
    induction count with
    | zero => rfl
    | succ count induction =>
        rw [List.replicate_succ', readHex_append_digit, induction]
        rfl
  rw [padLeft, readHex, List.foldl_append]
  have start := zeros (width - digits.length)
  rw [readHex] at start
  rw [start, readHex]

theorem writeAddress_natCast (value : Nat) :
    writeAddress (value : Int) = padLeft 16 '0' (writeHex value) := rfl

theorem readHex_writeAddress (value : Nat) : readHex (writeAddress (value : Int)) = value := by
  rw [writeAddress_natCast, readHex_padLeft, readHex_writeHex]

theorem isHexDigit_of_mem_writeAddress (value : Nat) :
    ∀ digit ∈ writeAddress (value : Int), isHexDigit digit = true := by
  intro digit member
  rw [writeAddress_natCast, padLeft] at member
  rcases List.mem_append.mp member with zero | written
  · rw [List.eq_of_mem_replicate zero]
    decide
  · exact isHexDigit_of_mem_writeHex value digit written

theorem writeAddress_ne_nil (value : Nat) : writeAddress (value : Int) ≠ [] := by
  rw [writeAddress_natCast, padLeft]
  exact List.append_ne_nil_of_right_ne_nil _ Nat.toDigits_ne_nil

end Disassembly.Text
