import Disassembly.Architecture
import Disassembly.Markup.Document
import Disassembly.Reference.Descriptions

/-!
The store of descriptions. A family's document is read when its descriptions are first asked for,
and never again, whatever becomes of the document later. A document that cannot be read leaves the
family without descriptions. Only where the reader refuses the encoding of a document nothing is
kept: whoever asks gets the refusal, and the next one who asks has the document read again. The x86
family gets the entries that its document lacks or has under another name. A mnemonic without an
entry is looked up once more without its size letter.
-/

namespace Disassembly.Reference

inductive Source where
  | missing
  | directory
  | file (bytes : List UInt8)
deriving DecidableEq, Repr

abbrev Documents := Family → Source

def fileName (family : Family) : String := family.name ++ "reference.xml"

inductive LoadFailure where
  | notFound
  | malformed
  | unreadable
deriving DecidableEq, Repr

/-- The descriptions of a document, the whole of it or none. -/
def parse (bytes : List UInt8) : Except Markup.Flaw Descriptions :=
  (Markup.Document.read bytes).map Descriptions.ofEvents

/-- What becomes of a document that is read. A failure stays with the store, a refusal goes to
whoever asked for the descriptions. -/
inductive Reading where
  | loaded (descriptions : Descriptions)
  | failed (failure : LoadFailure)
  | refused (refusal : Markup.Refusal)
deriving DecidableEq, Repr

def Source.read : Source → Reading
  | .missing => .failed .notFound
  | .directory => .failed .unreadable
  | .file bytes =>
      match parse bytes with
      | .ok descriptions => .loaded descriptions
      | .error .malformed => .failed .malformed
      | .error (.refused refusal) => .refused refusal

inductive LoadReport where
  | loaded (family : Family) (count : Nat)
  | failed (family : Family) (failure : LoadFailure)
deriving DecidableEq, Repr

def LoadReport.isFailure : LoadReport → Bool
  | .loaded _ _ => false
  | .failed _ _ => true

def LoadReport.message (directory : String) : LoadReport → String
  | .loaded family count =>
      "Loaded " ++ toString count ++ " " ++ family.name ++ " mnemonic descriptions from " ++
        directory ++ "/" ++ fileName family
  | .failed family .notFound =>
      "Could not find assembly reference: " ++ directory ++ "/" ++ fileName family
  | .failed family .malformed =>
      "Malformed assembly reference " ++ directory ++ "/" ++ fileName family
  | .failed family .unreadable =>
      "Could not load assembly reference " ++ directory ++ "/" ++ fileName family

/-- Gives a mnemonic the description of another one, if that one has any. -/
def copyEntry (source target : List Char) (descriptions : Descriptions) : Descriptions :=
  match descriptions.description? source with
  | some description => descriptions.set target description
  | none => descriptions

def wideMoveDescription : List Char := "Move a 64-bit value".toList

/-- The entries that hold for a family besides those of its document. -/
def complete : Family → Descriptions → Descriptions
  | .arm, descriptions => descriptions
  | .x86, descriptions =>
      copyEntry "movsxd".toList "movslq".toList
        (copyEntry "retn".toList "ret".toList
          (descriptions.set "movabs".toList wideMoveDescription))

def sizeLetters : List Char := ['b', 'w', 'l', 'q']

/-- The description of a mnemonic, its own or that of the mnemonic without its size letter. -/
def Descriptions.describe (descriptions : Descriptions) (mnemonic : List Char) :
    Option (List Char) :=
  match descriptions.description? mnemonic with
  | some description => some description
  | none =>
      if mnemonic.getLast?.any sizeLetters.contains then descriptions.description? mnemonic.dropLast
      else none

/-- What is known of a family: its descriptions once they are loaded, and how often its document
was read. -/
structure Slot where
  loads : Nat
  descriptions : Option Descriptions
deriving DecidableEq, Repr

structure Store where
  x86 : Slot
  arm : Slot
deriving DecidableEq, Repr

namespace Store

def empty : Store := ⟨⟨0, none⟩, ⟨0, none⟩⟩

def slot (store : Store) : Family → Slot
  | .x86 => store.x86
  | .arm => store.arm

def setSlot (store : Store) (slot : Slot) : Family → Store
  | .x86 => { store with x86 := slot }
  | .arm => { store with arm := slot }

def loads (store : Store) (family : Family) : Nat := (store.slot family).loads

def load (documents : Documents) (family : Family) :
    Except Markup.Refusal (Descriptions × LoadReport) :=
  match (documents family).read with
  | .loaded descriptions =>
      .ok (complete family descriptions, .loaded family descriptions.length)
  | .failed failure => .ok (complete family [], .failed family failure)
  | .refused refusal => .error refusal

/-- The descriptions of a family, the store after they were asked for, and what was reported. -/
def access (store : Store) (documents : Documents) (family : Family) :
    Except Markup.Refusal Descriptions × Store × List LoadReport :=
  match (store.slot family).descriptions with
  | some descriptions => (.ok descriptions, store, [])
  | none =>
      let loads := store.loads family + 1
      match load documents family with
      | .ok (descriptions, report) =>
          (.ok descriptions, store.setSlot ⟨loads, some descriptions⟩ family, [report])
      | .error refusal => (.error refusal, store.setSlot ⟨loads, none⟩ family, [])

def lookup (store : Store) (documents : Documents) (family : Family) (mnemonic : List Char) :
    Except Markup.Refusal (Option (List Char)) × Store × List LoadReport :=
  let (found, after, reports) := store.access documents family
  (found.map fun descriptions => descriptions.describe mnemonic, after, reports)

end Store

end Disassembly.Reference
