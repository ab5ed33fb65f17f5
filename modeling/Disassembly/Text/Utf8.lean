/-!
UTF-8. The decoder walks over the bytes once and says, piece by piece, which character was read
or that a part was invalid. A part is invalid up to the first byte that cannot continue it; that
byte then starts a new piece. The strict and the forgiving reading are two views of these pieces.
-/

namespace Disassembly.Text.Utf8

/-- A character whose first bytes have been read: how many bytes are owed, the bounds of the next
one, and the bits read so far. -/
structure Begun where
  owed : Nat
  low : Nat
  high : Nat
  value : Nat
deriving DecidableEq, Repr

inductive Lead where
  | whole (value : Nat)
  | begun (character : Begun)
  | refused
deriving DecidableEq, Repr

/-- What a byte can start. The bounds of the second byte keep out long spellings, surrogates and
values past the last code point. -/
def lead (byte : Nat) : Lead :=
  if byte < 0x80 then .whole byte
  else if byte < 0xc2 then .refused
  else if byte < 0xe0 then .begun ⟨1, 0x80, 0xbf, byte - 0xc0⟩
  else if byte = 0xe0 then .begun ⟨2, 0xa0, 0xbf, 0⟩
  else if byte = 0xed then .begun ⟨2, 0x80, 0x9f, 0xd⟩
  else if byte < 0xf0 then .begun ⟨2, 0x80, 0xbf, byte - 0xe0⟩
  else if byte = 0xf0 then .begun ⟨3, 0x90, 0xbf, 0⟩
  else if byte < 0xf4 then .begun ⟨3, 0x80, 0xbf, byte - 0xf0⟩
  else if byte = 0xf4 then .begun ⟨3, 0x80, 0x8f, 4⟩
  else .refused

/-- A byte between characters: the pieces it completes and the character it begins. -/
def start (byte : Nat) : List (Option Char) × Option Begun :=
  match lead byte with
  | .whole value => ([some (Char.ofNat value)], none)
  | .begun character => ([], some character)
  | .refused => ([none], none)

def advance : Option Begun → Nat → List (Option Char) × Option Begun
  | none, byte => start byte
  | some begun, byte =>
      if begun.low ≤ byte && byte ≤ begun.high then
        let value := begun.value * 64 + (byte - 0x80)
        if begun.owed ≤ 1 then ([some (Char.ofNat value)], none)
        else ([], some ⟨begun.owed - 1, 0x80, 0xbf, value⟩)
      else
        let (completed, next) := start byte
        (none :: completed, next)

/-- The pieces of a byte sequence, `none` for each invalid part. -/
def pieces : Option Begun → List UInt8 → List (Option Char)
  | none, [] => []
  | some _, [] => [none]
  | begun, byte :: rest =>
      let (completed, next) := advance begun byte.toNat
      completed ++ pieces next rest

def decode? (bytes : List UInt8) : Option (List Char) := (pieces none bytes).mapM id

/-- The text of any sequence, with a replacement character for each invalid part. -/
def decodeLossy (bytes : List UInt8) : List Char :=
  (pieces none bytes).map fun piece => piece.getD (Char.ofNat 0xfffd)

def encodeCharacter (character : Char) : List Nat :=
  let value := character.toNat
  if value < 0x80 then [value]
  else if value < 0x800 then [0xc0 + value / 64, 0x80 + value % 64]
  else if value < 0x10000 then [0xe0 + value / 4096, 0x80 + value / 64 % 64, 0x80 + value % 64]
  else [0xf0 + value / 262144, 0x80 + value / 4096 % 64, 0x80 + value / 64 % 64,
    0x80 + value % 64]

def encode (text : List Char) : List UInt8 :=
  text.flatMap fun character => (encodeCharacter character).map UInt8.ofNat

end Disassembly.Text.Utf8
