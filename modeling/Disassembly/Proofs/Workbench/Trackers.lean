import Disassembly.Listing
import Disassembly.Proofs.Workbench.Step

/-!
Trackers over whole runs. However parsers and names share trackers, each tracker holds what its own
history makes of an empty one, and the history is read off the commands: an instruction that a parser
over the tracker finds or builds, one that is recorded directly, labels that are built with the rules
of the moment, and clearings. Reading a line without recording it, looking something up and formatting
operands leave no trace. The tracker behind a parsed listing is one of these.
-/

namespace Disassembly.Workbench

variable {workbench : Workbench}

def history (number : Nat) : Workbench → List Command → List Tracker.Event
  | _, [] => []
  | workbench, command :: rest =>
      (workbench.eventOf? number command).toList ++ history number (workbench.run command).2 rest

theorem Linked.tracker_runAll (linked : Linked workbench) (commands : List Command)
    (number : Nat) :
    (workbench.runAll commands).2.tracker number =
      (workbench.history number commands).foldl Tracker.apply (workbench.tracker number) := by
  induction commands generalizing workbench with
  | nil => rfl
  | cons command rest induction =>
      have later := induction (linked.run command)
      rw [linked.tracker_run command number] at later
      rw [history, List.foldl_append]
      cases happens : workbench.eventOf? number command <;> rw [happens] at later <;> exact later

theorem tracker_reached (commands : List Command) (number : Nat) :
    (initial.runAll commands).2.tracker number =
      (initial.history number commands).foldl Tracker.apply Tracker.empty := by
  rw [linked_initial.tracker_runAll]
  rfl

/-- Two parsers over one tracker, labels built between, and a line that holds no instruction. -/
example : initial.history 0
    [.makeParser "p".toList .x64 (some "t".toList), .makeParser "q".toList .arm64 (some "t".toList),
      .parse "p".toList "0x10: ret".toList, .buildLabels "t".toList .x64,
      .parse "q".toList "ret".toList, .build "q".toList "nop".toList 0x14 [] []] =
    [.recorded ⟨[], 0x10, [], "ret".toList, [], []⟩, .built .x86,
      .recorded ⟨[], 0x14, [], "nop".toList, [], []⟩] := by decide

theorem indexed_reached (commands : List Command) (number : Nat) :
    ((initial.runAll commands).2.tracker number).Indexed := by
  rw [tracker_reached]
  exact Tracker.indexed_foldl Tracker.indexed_empty _

/-- A command with no event for a tracker leaves it alone. -/
theorem Linked.tracker_run_other (linked : Linked workbench) {command : Command} {number : Nat}
    (other : ∀ event, workbench.event? command ≠ some (number, event)) :
    (workbench.run command).2.tracker number = workbench.tracker number := by
  have none : workbench.eventOf? number command = none := by
    rw [eventOf?, Option.bind_eq_none_iff]
    rintro ⟨place, event⟩ happens
    apply if_neg
    intro same
    have here : place = number := same
    exact other event (by rw [happens, here])
  rw [linked.tracker_run, none, Option.elim_none]

/-! Parsers and names that share a tracker. -/

/-- How parsers and names come to share trackers, and go on doing so. -/
structure Sharing (workbench : Workbench) : Prop where
  joined : ∀ name architecture shared rules, workbench.registry architecture = some rules →
    ∃ number, (workbench.run (.makeParser name architecture shared)).2.parsers.lookup name =
        some ⟨architecture, rules, number⟩ ∧
      (workbench.run (.makeParser name architecture shared)).2.trackerNames.lookup
        (shared.getD name) = some number
  kept : ∀ command name number, workbench.trackerNames.lookup name = some number →
    workbench.own? command ≠ some name →
      (workbench.run command).2.trackerNames.lookup name = some number

theorem sharing (workbench : Workbench) : Sharing workbench := by
  constructor
  case joined =>
    intro name architecture shared rules known
    exact lookup_run_makeParser name known shared
  case kept =>
    intro command name number known notOwn
    rw [trackerNames_run, opened]
    split
    · rename_i new own
      have different : (name == new) = false := by
        rw [beq_eq_false_iff_ne]
        intro same
        rw [same] at notOwn
        exact notOwn own
      rw [addTracker, List.lookup_cons, different]
      exact known
    · exact lookup_findTracker_of_known _ known
    · exact known

/-! The tracker of a listing. -/

theorem history_parse {name : List Char} {parser : Parser}
    (known : workbench.parsers.lookup name = some parser) (lines : List (List Char)) :
    workbench.history parser.tracker (lines.map (Command.parse name)) =
      (lines.filterMap (Instruction.parse parser.architecture.family)).map
        Tracker.Event.recorded := by
  induction lines generalizing workbench with
  | nil => rfl
  | cons line rest induction =>
      have same : (workbench.run (.parse name line)).2.parsers = workbench.parsers :=
        parsers_run _
      have later := induction (by rw [same]; exact known)
      rw [List.map_cons, history, later, eventOf?, event?, known, Option.bind_some]
      cases found : Instruction.parse parser.architecture.family line with
      | none => rw [List.filterMap_cons_none found]; rfl
      | some instruction => simp [found]

/-- A new parser over a tracker of its own, given the lines of a text, records the instructions of
the listing. -/
theorem Linked.tracker_listing (linked : Linked workbench) {architecture : Architecture}
    {rules : Family} (known : workbench.registry architecture = some rules) (name : List Char)
    (text : List Char) :
    (workbench.runAll (.makeParser name architecture none ::
      (Listing.sourceLines text).map (Command.parse name))).2.tracker workbench.trackers.length =
        Tracker.ofInstructions (Listing.parseInstructions architecture text) := by
  have found : (workbench.run (.makeParser name architecture none)).2.parsers.lookup name =
      some ⟨architecture, rules, workbench.trackers.length⟩ := by
    rw [parsers_run]
    simp [made?, known]
  have absent : workbench.tracker workbench.trackers.length = Tracker.empty := by
    rw [tracker, List.getElem?_eq_none (Nat.le_refl _), Option.getD_none]
  rw [linked.tracker_runAll, history, history_parse found, absent]
  exact List.foldl_map

/-- Every tracker holds, in every state that commands lead to, what has happened to it since it was
last cleared, and a command changes no tracker but its own. -/
theorem trackers_follow_commands (commands : List Command) :
    let workbench := (initial.runAll commands).2
    (∀ number, ∃ recent, Tracker.SinceClear (initial.history number commands) recent ∧
      Tracker.Follows recent (workbench.tracker number)) ∧
    (∀ command number, (∀ event, workbench.event? command ≠ some (number, event)) →
      (workbench.run command).2.tracker number = workbench.tracker number) ∧
    Sharing workbench ∧
    ∀ architecture rules, workbench.registry architecture = some rules → ∀ name text,
      let reading := .makeParser name architecture none ::
        (Listing.sourceLines text).map (Command.parse name)
      let tracker := (workbench.runAll reading).2.tracker workbench.trackers.length
      let listing := Listing.parse architecture text
      tracker.instructions = listing.instructions ∧
        (∀ address, tracker.instructionAt? address = listing.instructionAt? address) ∧
        (tracker.buildLabels architecture.family).labels = listing.labels := by
  intro workbench
  have linked : Linked workbench := linked_initial.runAll commands
  constructor
  · intro number
    have held : workbench.tracker number = _ := tracker_reached commands number
    rw [held]
    exact Tracker.exists_follows _
  constructor
  · intro command number other
    exact linked.tracker_run_other other
  constructor
  · exact sharing workbench
  · intro architecture rules known name text reading tracker listing
    have held : tracker = Tracker.ofInstructions (Listing.parseInstructions architecture text) :=
      linked.tracker_listing known name text
    have recorded : tracker.instructions = listing.instructions := by
      rw [held, Tracker.ofInstructions, Tracker.foldl_record]
      rfl
    have indexed : tracker.Indexed := by
      have whole := indexed_reached (commands ++ reading) workbench.trackers.length
      rw [runAll_append] at whole
      exact whole
    refine ⟨recorded, fun address => ?_, ?_⟩
    · rw [indexed.instructionAt?, recorded]
      rfl
    · rw [held]
      exact Tracker.labels_buildLabels _ _

end Disassembly.Workbench
