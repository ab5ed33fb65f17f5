import Disassembly.Listing.Rendering
import Disassembly.Text.Quoted

/-!
Requests to a store of descriptions whose documents may be replaced at any time. A run answers
the requests one after the other; each answer shows how often the documents have been read so far
and which failures were reported. Replacing a document tells the store nothing. A request that needs
a document whose encoding is refused is answered with the refusal.
-/

namespace Disassembly.Reference

open Text

def familyNamed? (name : List Char) : Option Family :=
  Family.all.find? fun family => family.name.toList == name

structure UnknownFamily where
  given : List Char
deriving DecidableEq, Repr

def UnknownFamily.message (unknown : UnknownFamily) : List Char := quoted unknown.given

inductive Request where
  | lookup (mnemonic : List Char) (architecture : Architecture)
  | entries (architecture : Architecture)
  | count (architecture : Architecture)
  | shared (first second : Architecture)
  | path (family : List Char)
  | replace (family : Family) (source : Source)
  | render (architecture : Architecture) (text : List Char)
deriving DecidableEq, Repr

inductive Reply where
  | description (found : Option (List Char))
  | entries (descriptions : Descriptions)
  | count (number : Nat)
  | shared (same : Bool)
  | path (file : String)
  | unknown (family : UnknownFamily)
  | replaced
  | lines (rendered : List (List Char))
  | refused (refusal : Markup.Refusal)
deriving DecidableEq, Repr

def Reply.ofFound {Found : Type} (reply : Found → Reply) : Except Markup.Refusal Found → Reply
  | .ok found => reply found
  | .error refusal => .refused refusal

structure Library where
  documents : Documents
  store : Store

namespace Library

def replace (documents : Documents) (family : Family) (source : Source) : Documents :=
  fun asked => if asked = family then source else documents asked

/-- The descriptions that a request needs, and the library and the reports after it. -/
def access (library : Library) (family : Family) :
    Except Markup.Refusal Descriptions × Library × List LoadReport :=
  let (found, store, reports) := library.store.access library.documents family
  (found, { library with store := store }, reports)

def answer (library : Library) : Request → Reply × Library × List LoadReport
  | .lookup mnemonic architecture =>
      let (found, after, reports) := library.access architecture.family
      (.ofFound (fun descriptions => .description (descriptions.describe mnemonic)) found, after,
        reports)
  | .entries architecture =>
      let (found, after, reports) := library.access architecture.family
      (.ofFound (fun descriptions => .entries descriptions.sorted) found, after, reports)
  | .count architecture =>
      let (found, after, reports) := library.access architecture.family
      (.ofFound (fun descriptions => .count descriptions.length) found, after, reports)
  | .shared first second =>
      match library.access first.family with
      | (.error refusal, after, reports) => (.refused refusal, after, reports)
      | (.ok _, after, reports) =>
          let (found, last, later) := after.access second.family
          (.ofFound (fun _ => .shared (first.family = second.family)) found, last,
            reports ++ later)
  | .path name =>
      match familyNamed? name with
      | some family => (.path (fileName family), library, [])
      | none => (.unknown ⟨name⟩, library, [])
  | .replace family source =>
      (.replaced, { library with documents := replace library.documents family source }, [])
  | .render architecture text =>
      let rendered :=
        (Listing.parse architecture text).renderThrough library.documents library.store
      (.ofFound .lines rendered.lines, { library with store := rendered.store }, rendered.reports)

/-- An answer in a run: the reply, how often each document has been read, and the reports. -/
structure Answer where
  reply : Reply
  x86Loads : Nat
  armLoads : Nat
  reports : List LoadReport
deriving DecidableEq, Repr

def run : Library → List Request → List Answer
  | _, [] => []
  | library, request :: rest =>
      let (reply, after, reports) := library.answer request
      ⟨reply, after.store.loads .x86, after.store.loads .arm, reports⟩ :: run after rest

end Library

end Disassembly.Reference
