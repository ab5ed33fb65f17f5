import Disassembly.Text.Utf8

/-!
UTF-8 read back. Whatever text is encoded, decoding it strictly gives the text again: the leading
byte of a character tells how many bytes are owed and how the second one is bounded, and each later
byte adds six bits.
-/

namespace Disassembly.Text.Utf8

theorem toNat_ofNat_of_lt {value : Nat} (small : value < 256) :
    (UInt8.ofNat value).toNat = value := by
  rw [UInt8.toNat_ofNat', Nat.mod_eq_of_lt small]

/-- The code points of characters. -/
theorem toNat_cases (character : Char) :
    character.toNat < 0xd800 ∨ 0xdfff < character.toNat ∧ character.toNat < 0x110000 :=
  character.valid

section Pieces

variable {byte low high value owed : Nat}

/-- A byte within the bounds adds its bits to a character that owes more bytes. -/
theorem pieces_more (small : byte < 256) (lower : low ≤ byte) (upper : byte ≤ high)
    (rest : List UInt8) :
    pieces (some ⟨owed + 2, low, high, value⟩) (UInt8.ofNat byte :: rest) =
      pieces (some ⟨owed + 1, 0x80, 0xbf, value * 64 + (byte - 0x80)⟩) rest := by
  simp [pieces, advance, toNat_ofNat_of_lt small, lower, upper]

/-- The last byte owed completes its character. -/
theorem pieces_last (small : byte < 256) (lower : low ≤ byte) (upper : byte ≤ high)
    (rest : List UInt8) :
    pieces (some ⟨1, low, high, value⟩) (UInt8.ofNat byte :: rest) =
      some (Char.ofNat (value * 64 + (byte - 0x80))) :: pieces none rest := by
  simp [pieces, advance, toNat_ofNat_of_lt small, lower, upper]

theorem pieces_whole (small : byte < 0x80) (rest : List UInt8) :
    pieces none (UInt8.ofNat byte :: rest) = some (Char.ofNat byte) :: pieces none rest := by
  have leads : lead byte = .whole byte := by rw [lead, if_pos small]
  simp [pieces, advance, start, toNat_ofNat_of_lt (by omega : byte < 256), leads]

theorem pieces_begun {begun : Begun} (small : byte < 256) (leads : lead byte = .begun begun)
    (rest : List UInt8) :
    pieces none (UInt8.ofNat byte :: rest) = pieces (some begun) rest := by
  simp [pieces, advance, start, toNat_ofNat_of_lt small, leads]

end Pieces

theorem lead_of_two {value : Nat} (lower : 0x80 ≤ value) (upper : value < 0x800) :
    lead (0xc0 + value / 64) = .begun ⟨1, 0x80, 0xbf, value / 64⟩ := by
  rw [lead, if_neg (by omega), if_neg (by omega), if_pos (by omega), Nat.add_sub_cancel_left]

/-- The bounds of the second of three bytes keep out what has a shorter spelling and surrogates,
and so no character. -/
theorem lead_of_three {value : Nat} (lower : 0x800 ≤ value) (upper : value < 0x10000)
    (valid : value < 0xd800 ∨ 0xdfff < value) :
    ∃ low high, lead (0xe0 + value / 4096) = .begun ⟨2, low, high, value / 4096⟩ ∧
      low ≤ 0x80 + value / 64 % 64 ∧ 0x80 + value / 64 % 64 ≤ high := by
  rw [lead, if_neg (by omega), if_neg (by omega), if_neg (by omega)]
  by_cases first : value / 4096 = 0
  · rw [if_pos (by omega)]
    exact ⟨0xa0, 0xbf, by rw [first], by omega, by omega⟩
  · rw [if_neg (by omega)]
    by_cases surrogates : value / 4096 = 0xd
    · rw [if_pos (by omega)]
      exact ⟨0x80, 0x9f, by rw [surrogates], by omega, by omega⟩
    · rw [if_neg (by omega), if_pos (by omega), Nat.add_sub_cancel_left]
      exact ⟨0x80, 0xbf, rfl, by omega, by omega⟩

theorem lead_of_four {value : Nat} (lower : 0x10000 ≤ value) (upper : value < 0x110000) :
    ∃ low high, lead (0xf0 + value / 262144) = .begun ⟨3, low, high, value / 262144⟩ ∧
      low ≤ 0x80 + value / 4096 % 64 ∧ 0x80 + value / 4096 % 64 ≤ high := by
  rw [lead, if_neg (by omega), if_neg (by omega), if_neg (by omega), if_neg (by omega),
    if_neg (by omega), if_neg (by omega)]
  by_cases first : value / 262144 = 0
  · rw [if_pos (by omega)]
    exact ⟨0x90, 0xbf, by rw [first], by omega, by omega⟩
  · rw [if_neg (by omega)]
    by_cases last : value / 262144 = 4
    · rw [if_neg (by omega), if_pos (by omega)]
      exact ⟨0x80, 0x8f, by rw [last], by omega, by omega⟩
    · rw [if_pos (by omega), Nat.add_sub_cancel_left]
      exact ⟨0x80, 0xbf, rfl, by omega, by omega⟩

theorem pieces_encodeCharacter (character : Char) (rest : List UInt8) :
    pieces none ((encodeCharacter character).map UInt8.ofNat ++ rest) =
      some character :: pieces none rest := by
  have valid := toNat_cases character
  have back : Char.ofNat character.toNat = character := Char.ofNat_toNat character
  unfold encodeCharacter
  generalize character.toNat = value at valid back
  simp only
  split
  · rename_i small
    rw [List.map_singleton, List.singleton_append, pieces_whole small, back]
  · rename_i above
    split
    · rename_i small
      simp only [List.map_cons, List.map_nil, List.cons_append, List.nil_append]
      have bits : value / 64 * 64 + (0x80 + value % 64 - 0x80) = value := by omega
      rw [pieces_begun (by omega) (lead_of_two (by omega) small),
        pieces_last (by omega) (by omega) (by omega), bits, back]
    · rename_i above
      split
      · rename_i small
        obtain ⟨low, high, leads, lower, upper⟩ :=
          lead_of_three (by omega : 0x800 ≤ value) small (by omega)
        simp only [List.map_cons, List.map_nil, List.cons_append, List.nil_append]
        have bits : (value / 4096 * 64 + (0x80 + value / 64 % 64 - 0x80)) * 64 +
            (0x80 + value % 64 - 0x80) = value := by omega
        rw [pieces_begun (by omega) leads, pieces_more (by omega) lower upper,
          pieces_last (by omega) (by omega) (by omega), bits, back]
      · obtain ⟨low, high, leads, lower, upper⟩ :=
          lead_of_four (by omega : 0x10000 ≤ value) (by omega)
        simp only [List.map_cons, List.map_nil, List.cons_append, List.nil_append]
        have bits : ((value / 262144 * 64 + (0x80 + value / 4096 % 64 - 0x80)) * 64 +
            (0x80 + value / 64 % 64 - 0x80)) * 64 + (0x80 + value % 64 - 0x80) = value := by omega
        rw [pieces_begun (by omega) leads, pieces_more (by omega) lower upper,
          pieces_more (by omega) (by omega) (by omega),
          pieces_last (by omega) (by omega) (by omega), bits, back]

theorem pieces_encode (text : List Char) : pieces none (encode text) = text.map some := by
  rw [encode]
  induction text with
  | nil => rfl
  | cons character rest induction =>
      rw [List.flatMap_cons, pieces_encodeCharacter, induction, List.map_cons]

/-- Every text is read back from its bytes. -/
theorem decode?_encode (text : List Char) : decode? (encode text) = some text := by
  rw [decode?, pieces_encode]
  induction text with
  | nil => rfl
  | cons character rest induction =>
      rw [List.map_cons, List.mapM_cons, induction]
      rfl

/-- The forgiving reading finds nothing to replace. -/
theorem decodeLossy_encode (text : List Char) : decodeLossy (encode text) = text := by
  rw [decodeLossy, pieces_encode, List.map_map]
  exact List.map_id text

end Disassembly.Text.Utf8
