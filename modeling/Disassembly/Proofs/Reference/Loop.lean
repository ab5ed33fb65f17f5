import Disassembly.Proofs.Reference.Elements

/-!
The loop that reads descriptions off the elements of a document. The elements are made ahead of the
loop, by as many events as one likes, and the loop is told which of them open and close. It reads
the text of an element `mnem` or `brief` when that closes, and takes a closed element away from its
parent unless an open element still needs the text inside it.
-/

namespace Disassembly.Reference

open Markup

inductive Signal where
  | opened (key : Nat)
  | closed (key : Nat)
deriving DecidableEq, Repr

namespace Builder

def signals (builder : Builder) : Event → List Signal
  | .opening _ => [.opened builder.made]
  | .text _ => []
  | .closing _ => (builder.inside.head?.map Signal.closed).toList

def report (builder : Builder) : List Event → List Signal
  | [] => []
  | event :: rest => builder.signals event ++ (builder.grow event).report rest

/-- Takes a child away from its parent, and the text behind it with it. -/
def remove (builder : Builder) (parent child : Nat) : Builder :=
  let element := builder.elements parent
  { builder with
    elements := Function.update builder.elements parent
      { element with children := element.children.erase child } }

end Builder

def Role.need (role : Role) : Nat := if role = .other then 0 else 1

structure Loop where
  builder : Builder
  /-- What the loop has been told and has not looked at. -/
  waiting : List Signal
  /-- The elements that are open for the loop, innermost first. -/
  opened : List Nat
  /-- How many open elements need the text inside them. -/
  capturing : Int
  /-- The mnemonics named since the last description, and the descriptions. -/
  known : List (List Char) × Descriptions

namespace Loop

def initial : Loop := ⟨.initial, [], [], 0, ([], [])⟩

def feed (event : Event) (loop : Loop) : Loop :=
  { loop with
    builder := loop.builder.grow event,
    waiting := loop.waiting ++ loop.builder.signals event }

def role (loop : Loop) (key : Nat) : Role := Role.ofTag (loop.builder.elements key).tag

def content (loop : Loop) (key : Nat) : List Char :=
  fullText loop.builder.elements loop.builder.made key

/-- Takes an element away from the innermost open one. This fails if it is no child of that. -/
def letGo (key : Nat) (loop : Loop) : Option Loop :=
  match loop.opened with
  | [] => some loop
  | parent :: _ =>
      if key ∈ (loop.builder.elements parent).children then
        some { loop with builder := loop.builder.remove parent key }
      else none

def enter (key : Nat) (loop : Loop) : Loop :=
  { loop with
    opened := key :: loop.opened,
    capturing := loop.capturing + (loop.role key).need }

def leave (key : Nat) (outer : List Nat) (loop : Loop) : Loop :=
  { loop with
    opened := outer,
    capturing := loop.capturing - (loop.role key).need,
    known := (Closing.ofRole (loop.content key) (loop.role key)).foldl Collector.note loop.known }

/-- What the loop does when it is told of an element. It fails if an element closes while none is
open, and if an element to be taken away is not where it should be. -/
def handle (detaching : Bool) (loop : Loop) : Signal → Option Loop
  | .opened key => some (loop.enter key)
  | .closed key =>
      match loop.opened with
      | [] => none
      | _ :: outer =>
          let left := loop.leave key outer
          if detaching && left.capturing = 0 then left.letGo key else some left

def needed (loop : Loop) : Nat := loop.opened.countP fun key => loop.role key ≠ .other

theorem needed_eq_zero_iff {loop : Loop} :
    loop.needed = 0 ↔ ∀ key ∈ loop.opened, loop.role key = .other := by
  simp [needed]

theorem needed_enter (loop : Loop) (key : Nat) :
    (loop.enter key).needed = loop.needed + (loop.role key).need := by
  change (key :: loop.opened).countP (fun other => loop.role other ≠ .other) = _
  rw [List.countP_cons, needed, Role.need]
  simp

theorem needed_leave {loop : Loop} {key : Nat} {outer : List Nat}
    (opened : loop.opened = key :: outer) :
    loop.needed = (loop.leave key outer).needed + (loop.role key).need := by
  change _ = outer.countP (fun other => loop.role other ≠ .other) + _
  rw [needed, opened, List.countP_cons, Role.need]
  simp

theorem waiting_of_handle {detaching : Bool} {loop after : Loop} {signal : Signal}
    (handles : loop.handle detaching signal = some after) : after.waiting = loop.waiting := by
  cases signal with
  | opened key => exact Option.some.inj handles ▸ rfl
  | closed key =>
      simp only [handle] at handles
      split at handles
      · cases handles
      · split at handles
        · simp only [letGo] at handles
          split at handles
          · exact Option.some.inj handles ▸ rfl
          · split at handles
            · exact Option.some.inj handles ▸ rfl
            · cases handles
        · exact Option.some.inj handles ▸ rfl

end Loop

/-- The states in which the loop can be with a document, each with what the loop has looked at and
with the events still to come. Events can come in at any time. For comparison the same loop can be
run without letting elements go. -/
inductive Reaches (detaching : Bool) (document : List Event) :
    List Signal → Loop → List Event → Prop
  | start : Reaches detaching document [] .initial document
  | feed {handled : List Signal} {loop : Loop} {event : Event} {rest : List Event} :
      Reaches detaching document handled loop (event :: rest) →
      Reaches detaching document handled (loop.feed event) rest
  | handle {handled : List Signal} {loop after : Loop} {rest : List Event} {signal : Signal}
      {later : List Signal} : Reaches detaching document handled loop rest →
      loop.waiting = signal :: later →
      Loop.handle detaching { loop with waiting := later } signal = some after →
      Reaches detaching document (handled ++ [signal]) after rest

def Element.without (element : Element) (gone : List Nat) : Element :=
  { element with children := element.children.filter fun child => child ∉ gone }

namespace Builder

variable {builder : Builder} {gone : List Nat}

theorem report_append (builder : Builder) (front back : List Event) :
    builder.report (front ++ back) =
      builder.report front ++ (builder.growAll front).report back := by
  induction front generalizing builder with
  | nil => rfl
  | cons event rest induction =>
      rw [List.cons_append, report, induction, report, growAll_cons, List.append_assoc]

theorem report_concat (builder : Builder) (events : List Event) (event : Event) :
    builder.report (events ++ [event]) =
      builder.report events ++ (builder.growAll events).signals event := by
  rw [report_append, report, report, List.append_nil]

theorem signals_closing {key : Nat} {outer : List Nat} (inside : builder.inside = key :: outer)
    (tag : List Char) : builder.signals (.closing tag) = [.closed key] := by
  rw [signals, inside]
  rfl

def Past (builder : Builder) (key : Nat) : Prop := key < builder.made ∧ key ∉ builder.inside

theorem Past.grow {key : Nat} (past : builder.Past key) (event : Event) :
    (builder.grow event).Past key := by
  obtain ⟨old, closed⟩ := past
  cases event with
  | opening tag =>
      refine ⟨Nat.lt_succ_of_lt old, fun member => ?_⟩
      rcases List.mem_cons.mp member with rfl | member
      · exact Nat.lt_irrefl _ old
      · exact closed member
  | text content => exact ⟨old, closed⟩
  | closing tag =>
      cases inside : builder.inside with
      | nil =>
          rw [Builder.grow, inside]
          exact ⟨old, closed⟩
      | cons innermost outer =>
          rw [grow_closing_of_inside inside]
          exact ⟨old, fun member => closed (inside ▸ List.mem_cons_of_mem _ member)⟩

theorem Past.growAll {key : Nat} (past : builder.Past key) (events : List Event) :
    (builder.growAll events).Past key :=
  growAll_preserves (Past · key) (fun _ event before => before.grow event) past events

theorem Ordered.past_of_report (ordered : builder.Ordered) {events : List Event} {key : Nat}
    (closed : .closed key ∈ builder.report events) : (builder.growAll events).Past key := by
  induction events generalizing builder with
  | nil => cases closed
  | cons event rest induction =>
      rw [report] at closed
      rcases List.mem_append.mp closed with closed | closed
      · refine Past.growAll ?_ rest
        cases event with
        | opening tag => simp [signals] at closed
        | text content => cases closed
        | closing tag =>
            cases inside : builder.inside with
            | nil => simp [signals, inside] at closed
            | cons innermost outer =>
                obtain rfl : key = innermost := by simpa [signals, inside] using closed
                rw [grow_closing_of_inside inside]
                refine ⟨ordered.older key (inside ▸ List.mem_cons_self), fun member => ?_⟩
                have below := (List.pairwise_cons.mp (inside ▸ ordered.descending)).1 key member
                exact Nat.lt_irrefl key below
      · exact induction (ordered.grow event) closed

def without (builder : Builder) (gone : List Nat) : Builder :=
  { builder with elements := fun key => (builder.elements key).without gone }

theorem receive_without {added : List Nat} (kept : ∀ child ∈ added, child ∉ gone)
    (content : List Char) (key : Nat) :
    (builder.without gone).receive content added key =
      (builder.receive content added key).without gone := by
  have same : added = added.filter fun child => !decide (child ∈ gone) :=
    (List.filter_eq_self.mpr (by simpa using kept)).symm
  by_cases first : builder.inside.head? = some key
  · by_cases none : builder.behind = none <;>
      simpa [receive, without, Element.without, first, none] using same
  · simp [receive, without, Element.without, first]

/-- New elements come in as they do where none is let go. -/
theorem grow_without (fresh : builder.made ∉ gone) (event : Event) :
    (builder.without gone).grow event = (builder.grow event).without gone := by
  cases event with
  | opening tag =>
      simp only [grow, without]
      congr 1
      funext key
      by_cases own : key = builder.made
      · subst own
        rw [Function.update_self, Function.update_self]
        rfl
      · rw [Function.update_of_ne own, Function.update_of_ne own]
        exact receive_without (by simpa using fresh) [] key
  | text content =>
      simp only [grow, without]
      congr 1
      funext key
      exact receive_without (by simp) content key
  | closing tag => cases inside : builder.inside <;> simp [grow, without, inside]

theorem Ordered.remove_without (ordered : builder.Ordered) {parent child : Nat}
    (only : ∀ other, child ∈ (builder.elements other).children → other = parent) :
    (builder.without gone).remove parent child = builder.without (child :: gone) := by
  simp only [remove, without, Element.without]
  congr 1
  funext key
  by_cases own : key = parent
  · subst own
    rw [Function.update_self, List.Nodup.erase_eq_filter ((ordered.distinct key).filter _),
      List.filter_filter]
    congr 2
    funext other
    by_cases same : other = child <;> simp [same]
  · rw [Function.update_of_ne own]
    congr 1
    apply List.filter_congr
    intro other member
    have notChild : other ≠ child := fun same => own (only key (same ▸ member))
    simp [notChild]

/-- Where only older elements are let go, an element and all that stands inside it is as it was. -/
theorem Ordered.stands_without (ordered : builder.Ordered) {tail : List Char} {key : Nat}
    {tree : Tree} (older : ∀ child ∈ gone, child < key)
    (stands : StandsAt builder.elements tail key tree) :
    StandsAt (builder.without gone).elements tail key tree := by
  refine stands.congr fun inner young _ => ?_
  have kept : (builder.elements inner).children.filter (fun child => child ∉ gone) =
      (builder.elements inner).children := by
    rw [List.filter_eq_self]
    intro child member
    have younger := (ordered.child inner child member).1
    simpa using fun isGone => absurd (older child isGone) (by omega)
  simp only [without, Element.without, kept]

end Builder

end Disassembly.Reference
