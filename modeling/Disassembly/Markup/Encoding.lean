import Disassembly.Markup.Charset
import Disassembly.Text.LowerCase
import Disassembly.Text.Utf8

/-!
The encodings of documents: what the first bytes of a document show, how bytes become characters,
how many bytes a character takes, and which encoding a name stands for. The first bytes tell
eight-bit encodings from the two orders of UTF-16; a name that every reader knows must be of the
kind that was found. Any other name is looked up among the code pages.
-/

namespace Disassembly.Markup

open Text

inductive Encoding where
  | utf8
  | latin1
  | ascii
  | utf16 (bigEndian : Bool)
  | paged (page : CodePage)
deriving DecidableEq, Repr

namespace Encoding

/-- The encoding that the first bytes show, and the bytes after a byte-order mark. Without a mark
a zero tells the order of UTF-16, as documents start with ASCII. -/
def detect : List UInt8 → Encoding × List UInt8
  | 0xfe :: 0xff :: rest => (.utf16 true, rest)
  | 0xff :: 0xfe :: rest => (.utf16 false, rest)
  | 0xef :: 0xbb :: 0xbf :: rest => (.utf8, rest)
  | 0x00 :: second :: rest => (.utf16 true, 0x00 :: second :: rest)
  | first :: 0x00 :: rest => (.utf16 false, first :: 0x00 :: rest)
  | bytes => (.utf8, bytes)

/-- The sixteen-bit units of a byte sequence. A last byte without a partner makes none. -/
def units (bigEndian : Bool) : List UInt8 → List Nat
  | first :: second :: rest =>
      (if bigEndian then first.toNat * 256 + second.toNat
        else second.toNat * 256 + first.toNat) :: units bigEndian rest
  | _ => []

/-- The characters of a unit sequence. A unit that leads a pair takes the low ten bits of the unit
after it; a unit that trails a pair cannot stand alone. -/
def pairUnits : List Nat → Option (List Char)
  | [] => some []
  | unit :: rest =>
      if 0xd800 ≤ unit && unit < 0xdc00 then
        match rest with
        | [] => none
        | trail :: rest =>
            (pairUnits rest).map fun later =>
              Char.ofNat (0x10000 + unit % 0x400 * 0x400 + trail % 0x400) :: later
      else if 0xdc00 ≤ unit && unit < 0xe000 then none
      else (pairUnits rest).map fun later => Char.ofNat unit :: later

def decodeBytewise (bytes : List UInt8) : List Char := bytes.map fun byte => Char.ofNat byte.toNat

def decode (encoding : Encoding) (bytes : List UInt8) : Option (List Char) :=
  match encoding with
  | .utf8 => Utf8.decode? bytes
  | .latin1 => some (decodeBytewise bytes)
  | .ascii => if bytes.all (· < 0x80) then some (decodeBytewise bytes) else none
  | .utf16 bigEndian =>
      if bytes.length % 2 = 0 then pairUnits (units bigEndian bytes) else none
  | .paged page => page.decode bytes

def unitSize : Encoding → Nat
  | .utf16 _ => 2
  | _ => 1

/-- The characters as far as they are ASCII, before it is known what the other bytes stand for. -/
def preview (found : Encoding) (bytes : List UInt8) : List Char :=
  match found with
  | .utf16 bigEndian => (units bigEndian bytes).map Char.ofNat
  | _ => decodeBytewise bytes

/-- The encodings that every reader knows under these names. -/
def knownNames : List (List Char × Encoding) :=
  [("utf-8".toList, .utf8), ("iso-8859-1".toList, .latin1), ("us-ascii".toList, .ascii),
   ("utf-16be".toList, .utf16 true), ("utf-16le".toList, .utf16 false)]

/-- An encoding of single bytes may be named where single bytes were found, one of the two orders of
UTF-16 only where it was found itself. -/
def agrees (named found : Encoding) : Bool :=
  named.unitSize = found.unitSize && (named.unitSize = 1 || named = found)

/-- The encoding with a name, for a document whose first bytes show `found`. -/
def ofName (found : Encoding) (name : List Char) : Except Flaw Encoding :=
  let lowered := lower name
  if lowered = "utf-16".toList then
    if found.unitSize = 2 then .ok found else .error .malformed
  else
    match knownNames.lookup lowered with
    | some named => if named.agrees found then .ok named else .error .malformed
    | none => (Charset.pageNamed name).map .paged

def width (encoding : Encoding) (character : Char) : Nat :=
  match encoding with
  | .utf8 => character.utf8Size
  | .latin1 | .ascii | .paged _ => 1
  | .utf16 _ => if character.toNat < 0x10000 then 2 else 4

def size (encoding : Encoding) (text : List Char) : Nat :=
  text.foldl (fun bytes character => bytes + encoding.width character) 0

/-- The two ordinal indicators and the micro sign count as letters in Latin-1 and UTF-16, and in
no other encoding. -/
def hasLetterSigns : Encoding → Bool
  | .latin1 | .utf16 _ => true
  | .utf8 | .ascii | .paged _ => false

end Encoding

end Disassembly.Markup
