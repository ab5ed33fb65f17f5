import Disassembly.Markup.Event
import Disassembly.Text.Blank
import Disassembly.Text.LowerCase

/-!
Descriptions of mnemonics and how a reference document gives them. The document is followed event
by event. An element `mnem` names a mnemonic, in any case and with blanks around; the next element
`brief` to close describes all mnemonics named since the one before. A closed element is let go
unless an open element still has use for its text, so no more is held than the open elements and
what is inside the open `mnem` and `brief` elements.
-/

namespace Disassembly.Reference

open Markup Text

/-- Descriptions by mnemonic, each mnemonic once, in the order in which they were first given. -/
abbrev Descriptions := List (List Char × List Char)

namespace Descriptions

def description? (descriptions : Descriptions) (mnemonic : List Char) : Option (List Char) :=
  descriptions.lookup mnemonic

/-- Gives a mnemonic its description; an earlier one is replaced. -/
def set (mnemonic description : List Char) : Descriptions → Descriptions
  | [] => [(mnemonic, description)]
  | (known, earlier) :: rest =>
      if known = mnemonic then (known, description) :: rest
      else (known, earlier) :: set mnemonic description rest

def setAll (descriptions : Descriptions) (mnemonics : List (List Char))
    (description : List Char) : Descriptions :=
  mnemonics.foldl (fun known mnemonic => set mnemonic description known) descriptions

def sorted (descriptions : Descriptions) : Descriptions :=
  descriptions.mergeSort fun first second => !decide (second.1 < first.1)

end Descriptions

inductive Node where
  | text (content : List Char)
  | element (tag : List Char) (children : List Node)

namespace Node

mutual

def fullText : Node → List Char
  | .text content => content
  | .element _ children => fullTexts children

def fullTexts : List Node → List Char
  | [] => []
  | node :: rest => fullText node ++ fullTexts rest

end

end Node

inductive Role where
  | mnemonic
  | brief
  | other
deriving DecidableEq, Repr

/-- The name in a tag, without its namespace and in lower case. -/
def localName (tag : List Char) : List Char :=
  lower (tag.reverse.takeWhile (· != '\x7d')).reverse

def Role.ofTag (tag : List Char) : Role :=
  let name := localName tag
  if name = "mnem".toList then .mnemonic
  else if name = "brief".toList then .brief
  else .other

/-- An element that is open, with the children kept so far, newest first. -/
structure OpenElement where
  tag : List Char
  children : List Node

structure Collector where
  /-- The open elements, innermost first. -/
  opened : List OpenElement
  /-- How many open elements need the text inside them. -/
  capturing : Nat
  /-- The mnemonics named since the last description. -/
  pending : List (List Char)
  descriptions : Descriptions

namespace Collector

def initial : Collector := ⟨[], 0, [], []⟩

/-- Adds a child to the innermost open element. -/
def keep (node : Node) : List OpenElement → List OpenElement
  | [] => []
  | element :: outer => ⟨element.tag, node :: element.children⟩ :: outer

/-- What the text of a closing element means. -/
def conclude (collector : Collector) (role : Role) (content : List Char) : Collector :=
  match role with
  | .mnemonic =>
      let mnemonic := lower (strip content)
      if mnemonic.isEmpty || collector.pending.contains mnemonic then
        { collector with capturing := collector.capturing - 1 }
      else
        { collector with
          capturing := collector.capturing - 1, pending := mnemonic :: collector.pending }
  | .brief =>
      { collector with
        capturing := collector.capturing - 1, pending := [],
        descriptions := collector.descriptions.setAll collector.pending (strip content) }
  | .other => collector

def step (collector : Collector) : Event → Collector
  | .opening tag =>
      { collector with
        opened := ⟨tag, []⟩ :: collector.opened,
        capturing := collector.capturing + if Role.ofTag tag = .other then 0 else 1 }
  | .text content => { collector with opened := keep (.text content) collector.opened }
  | .closing _ =>
      match collector.opened with
      | [] => collector
      | element :: outer =>
          let node := Node.element element.tag element.children.reverse
          let concluded := conclude collector (Role.ofTag element.tag) node.fullText
          { concluded with
            opened := if concluded.capturing = 0 then outer else keep node outer }

end Collector

def Descriptions.ofEvents (events : List Event) : Descriptions :=
  (events.foldl Collector.step Collector.initial).descriptions

end Disassembly.Reference
