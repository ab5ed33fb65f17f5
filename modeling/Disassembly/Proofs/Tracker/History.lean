import Disassembly.Proofs.Labels.Numbering

/-!
What a tracker holds, read off what has happened to it. Only the time since it was last cleared
counts. It holds what was recorded in that time, in order; a search by address goes through that list
from the front; and its labels are those of the last building in that time, made from what was
recorded before it, with the rules of that building. Earlier buildings leave nothing behind, and what
is recorded after the last one has no effect on the labels.
-/

namespace Disassembly

/-- An item of a list with one more at the end is that last one, or an item of the list. -/
theorem append_singleton_eq_append_cons {Item : Type} {front before after : List Item}
    {last item : Item} (cut : front ++ [last] = before ++ item :: after) :
    after = [] ∧ front = before ∧ last = item ∨
      ∃ between, after = between ++ [last] ∧ front = before ++ item :: between := by
  rcases List.eq_nil_or_concat after with none | ⟨between, final, more⟩
  · subst none
    obtain ⟨same, lastSame⟩ := List.append_inj' cut rfl
    exact Or.inl ⟨rfl, same, List.head_eq_of_cons_eq lastSame⟩
  · rw [List.concat_eq_append] at more
    subst more
    rw [← List.cons_append, ← List.append_assoc] at cut
    obtain ⟨same, lastSame⟩ := List.append_inj' cut rfl
    rw [List.head_eq_of_cons_eq lastSame]
    exact Or.inr ⟨between, rfl, same⟩

namespace Tracker

inductive Event where
  | recorded (instruction : Instruction)
  | built (rules : Family)
  | cleared
deriving DecidableEq, Repr

def Event.instruction? : Event → Option Instruction
  | .recorded instruction => some instruction
  | _ => none

def recordedIn (events : List Event) : List Instruction := events.filterMap Event.instruction?

def apply (tracker : Tracker) : Event → Tracker
  | .recorded instruction => tracker.record instruction
  | .built rules => tracker.buildLabels rules
  | .cleared => empty

/-- `recent` is what has happened since the last clearing, or all there is without one. -/
structure SinceClear (events recent : List Event) : Prop where
  cut : ∃ earlier, events = earlier ++ recent ∧ ∀ event ∈ earlier.getLast?, event = .cleared
  uncleared : .cleared ∉ recent

/-- A tracker holds what some events, none of them a clearing, have made of an empty one. -/
structure Follows (recent : List Event) (tracker : Tracker) : Prop where
  instructions : tracker.instructions = recordedIn recent
  first : ∀ address, tracker.instructionAt? address =
    (recordedIn recent).find? fun instruction => instruction.address == address
  unbuilt : (∀ rules, .built rules ∉ recent) → tracker.labels = []
  built : ∀ before rules after, recent = before ++ .built rules :: after →
    (∀ later, .built later ∉ after) →
      tracker.labels = Labels.ofInstructions rules (recordedIn before)
  covered : ∀ address label, tracker.labelFor? address = some label →
    ∃ instruction ∈ tracker.instructions, instruction.address = address

theorem recordedIn_concat_recorded (events : List Event) (instruction : Instruction) :
    recordedIn (events ++ [.recorded instruction]) = recordedIn events ++ [instruction] := by
  rw [recordedIn, List.filterMap_append]
  rfl

theorem recordedIn_concat_built (events : List Event) (rules : Family) :
    recordedIn (events ++ [.built rules]) = recordedIn events := by
  rw [recordedIn, List.filterMap_append]
  exact List.append_nil _

/-! The index goes along with the instructions. -/

def Indexed (tracker : Tracker) : Prop :=
  tracker.index = AddressIndex.ofInstructions tracker.instructions

theorem indexed_empty : empty.Indexed := rfl

theorem Indexed.apply {tracker : Tracker} (indexed : tracker.Indexed) (event : Event) :
    (tracker.apply event).Indexed := by
  cases event with
  | recorded instruction =>
      have grown : AddressIndex.ofInstructions (tracker.instructions ++ [instruction]) =
          (AddressIndex.ofInstructions tracker.instructions).add instruction := by
        rw [AddressIndex.ofInstructions, List.foldl_append]
        rfl
      rw [Indexed] at indexed ⊢
      rw [Tracker.apply, record, grown, indexed]
  | built rules => exact indexed
  | cleared => exact indexed_empty

theorem Indexed.instructionAt? {tracker : Tracker} (indexed : tracker.Indexed) (address : Int) :
    tracker.instructionAt? address =
      tracker.instructions.find? fun instruction => instruction.address == address := by
  rw [Tracker.instructionAt?, indexed, AddressIndex.first?_ofInstructions]

theorem Indexed.labels_buildLabels {tracker : Tracker} (indexed : tracker.Indexed)
    (rules : Family) :
    (tracker.buildLabels rules).labels = Labels.ofInstructions rules tracker.instructions := by
  rw [buildLabels, indexed]
  rfl

/-! Each event is followed. -/

theorem follows_empty : Follows [] empty := by
  constructor
  case instructions => rfl
  case first => exact AddressIndex.first?_empty
  case unbuilt =>
    intro _
    rfl
  case built =>
    intro before rules after cut
    simp at cut
  case covered =>
    intro address label known
    cases known

theorem Follows.concat_recorded {recent : List Event} {tracker : Tracker}
    (follows : Follows recent tracker) (indexed : tracker.Indexed) (instruction : Instruction) :
    Follows (recent ++ [.recorded instruction]) (tracker.apply (.recorded instruction)) := by
  have grown : (tracker.apply (.recorded instruction)).instructions =
      recordedIn (recent ++ [.recorded instruction]) := by
    rw [recordedIn_concat_recorded, ← follows.instructions]
    rfl
  constructor
  case instructions => exact grown
  case first =>
    intro address
    rw [(indexed.apply _).instructionAt?, grown]
  case unbuilt =>
    intro none
    apply follows.unbuilt
    intro rules member
    exact none rules (List.mem_append_left _ member)
  case built =>
    intro before rules after cut last
    rcases append_singleton_eq_append_cons cut with ⟨_, _, other⟩ | ⟨between, rfl, earlier⟩
    · cases other
    · apply follows.built before rules between earlier
      intro later member
      exact last later (List.mem_append_left _ member)
  case covered =>
    intro address label known
    obtain ⟨holder, member, same⟩ := follows.covered address label known
    exact ⟨holder, List.mem_append_left _ member, same⟩

theorem Follows.concat_built {recent : List Event} {tracker : Tracker}
    (follows : Follows recent tracker) (indexed : tracker.Indexed) (rules : Family) :
    Follows (recent ++ [.built rules]) (tracker.apply (.built rules)) := by
  have labels : (tracker.apply (.built rules)).labels =
      Labels.ofInstructions rules (recordedIn recent) := by
    rw [← follows.instructions]
    exact indexed.labels_buildLabels rules
  constructor
  case instructions =>
    rw [recordedIn_concat_built]
    exact follows.instructions
  case first =>
    rw [recordedIn_concat_built]
    exact follows.first
  case unbuilt =>
    intro none
    exact absurd (List.mem_append_right _ List.mem_cons_self) (none rules)
  case built =>
    intro before other after cut last
    rcases append_singleton_eq_append_cons cut with ⟨_, rfl, same⟩ | ⟨between, rfl, _⟩
    · rw [← Event.built.inj same]
      exact labels
    · exact absurd (List.mem_append_right _ List.mem_cons_self) (last rules)
  case covered =>
    intro address label known
    have labelled : ((Labels.ofInstructions rules (recordedIn recent)).label? address).isSome := by
      rw [← labels]
      exact Option.isSome_iff_exists.mpr ⟨label, known⟩
    have isTarget := ((Labels.ranked_ofInstructions rules (recordedIn recent)).labelled
      address).mp labelled
    rw [← follows.instructions] at isTarget
    exact isTarget.1

/-! A whole history. -/

theorem indexed_foldl {tracker : Tracker} (indexed : tracker.Indexed) (events : List Event) :
    (events.foldl apply tracker).Indexed := by
  induction events generalizing tracker with
  | nil => exact indexed
  | cons event rest induction => exact induction (indexed.apply event)

theorem SinceClear.concat {events recent : List Event} (since : SinceClear events recent)
    {event : Event} (goesOn : event ≠ .cleared) :
    SinceClear (events ++ [event]) (recent ++ [event]) := by
  obtain ⟨earlier, rfl, ends⟩ := since.cut
  refine ⟨⟨earlier, List.append_assoc _ _ _, ends⟩, ?_⟩
  intro member
  rcases List.mem_append.mp member with old | new
  · exact since.uncleared old
  · exact goesOn (List.mem_singleton.mp new).symm

theorem sinceClear_cleared (events : List Event) : SinceClear (events ++ [.cleared]) [] := by
  refine ⟨⟨events ++ [.cleared], (List.append_nil _).symm, ?_⟩, List.not_mem_nil⟩
  intro event member
  rw [List.getLast?_concat] at member
  exact (Option.mem_some_iff.mp member).symm

/-- Whatever has happened to a tracker, it holds what the events since the last clearing make. -/
theorem exists_follows (events : List Event) :
    ∃ recent, SinceClear events recent ∧ Follows recent (events.foldl apply empty) := by
  induction events using List.reverseRecOn with
  | nil => exact ⟨[], ⟨⟨[], rfl, by simp⟩, List.not_mem_nil⟩, follows_empty⟩
  | append_singleton events event induction =>
      obtain ⟨recent, since, follows⟩ := induction
      have indexed := indexed_foldl indexed_empty events
      rw [List.foldl_append]
      cases event with
      | recorded instruction =>
          exact ⟨_, since.concat (by simp), follows.concat_recorded indexed instruction⟩
      | built rules =>
          exact ⟨_, since.concat (by simp), follows.concat_built indexed rules⟩
      | cleared => exact ⟨[], sinceClear_cleared events, follows_empty⟩

end Tracker

end Disassembly
