import Disassembly.Proofs.Tracker.History
import Disassembly.Workbench

/-!
What one command does to a workbench, part by part. The registry changes only by registering and
unregistering, and only for the architecture that is named; a parser is added only where there are
rules for its architecture, and none is ever changed; a name of a tracker passes to another tracker
only when a parser of that name is made over a tracker of its own; and a tracker changes only by an
event of its own. Everything about whole runs is derived from these statements.
-/

namespace Disassembly.Workbench

variable {workbench : Workbench}

theorem mem_of_lookup {Value : Type} {entries : List (List Char × Value)} {name : List Char}
    {value : Value} (known : entries.lookup name = some value) : (name, value) ∈ entries := by
  obtain ⟨before, after, cut, _⟩ := List.lookup_eq_some_iff.mp known
  rw [cut]
  exact List.mem_append_right _ List.mem_cons_self

/-! Finding and changing trackers. -/

theorem registry_findTracker (name : List Char) :
    (workbench.findTracker name).2.registry = workbench.registry := by
  unfold findTracker
  split <;> rfl

theorem parsers_findTracker (name : List Char) :
    (workbench.findTracker name).2.parsers = workbench.parsers := by
  unfold findTracker
  split <;> rfl

/-- A tracker that was not there before is empty, and so is one that is new. -/
theorem tracker_addTracker (name : List Char) (number : Nat) :
    (workbench.addTracker name).2.tracker number = workbench.tracker number := by
  have grown : (workbench.addTracker name).2.trackers = workbench.trackers ++ [Tracker.empty] := rfl
  rw [tracker, tracker, grown]
  by_cases old : number < workbench.trackers.length
  · rw [List.getElem?_append_left old]
  · have absent : workbench.trackers[number]? = none :=
      List.getElem?_eq_none (Nat.le_of_not_lt old)
    rw [List.getElem?_append_right (Nat.le_of_not_lt old), absent]
    cases number - workbench.trackers.length <;> rfl

theorem tracker_findTracker (name : List Char) (number : Nat) :
    (workbench.findTracker name).2.tracker number = workbench.tracker number := by
  unfold findTracker
  split
  · rfl
  · exact tracker_addTracker name number

theorem tracker_changeTracker {number : Nat} (present : number < workbench.trackers.length)
    (change : Tracker → Tracker) (asked : Nat) :
    (workbench.changeTracker number change).tracker asked =
      if number = asked then change (workbench.tracker asked) else workbench.tracker asked := by
  rw [tracker, changeTracker, List.getElem?_modify, tracker]
  by_cases same : number = asked
  · subst same
    rw [if_pos rfl, List.getElem?_eq_getElem present]
    simp
  · simp [same]

theorem length_findTracker_le (name : List Char) :
    workbench.trackers.length ≤ (workbench.findTracker name).2.trackers.length := by
  unfold findTracker
  split
  · exact Nat.le_refl _
  · simp [addTracker]

/-- The name under which a tracker is found is known afterwards. -/
theorem lookup_findTracker (name : List Char) :
    (workbench.findTracker name).2.trackerNames.lookup name =
      some (workbench.findTracker name).1 := by
  unfold findTracker
  split
  · assumption
  · simp [addTracker]

theorem lookup_findTracker_of_known (name : List Char) {other : List Char} {number : Nat}
    (known : workbench.trackerNames.lookup other = some number) :
    (workbench.findTracker name).2.trackerNames.lookup other = some number := by
  unfold findTracker
  split
  · exact known
  · rename_i unknown
    have different : (other == name) = false := by
      rw [beq_eq_false_iff_ne]
      rintro rfl
      rw [unknown] at known
      cases known
    simp [addTracker, List.lookup_cons, different, known]

/-! The parts of a step. -/

def setting? (architecture : Architecture) : Command → Option (Option Family)
  | .register changed rules => if changed = architecture then some (some rules) else none
  | .unregister changed => if changed = architecture then some none else none
  | _ => none

def made? (workbench : Workbench) : Command → Option (List Char × Parser)
  | .makeParser name architecture shared =>
      (workbench.registry architecture).map fun rules =>
        (name, ⟨architecture, rules,
          match shared with
          | some other => (workbench.findTracker other).1
          | none => workbench.trackers.length⟩)
  | _ => none

def event? (workbench : Workbench) : Command → Option (Nat × Tracker.Event)
  | .parse name line =>
      (workbench.parsers.lookup name).bind fun parser =>
        (Instruction.parse parser.architecture.family line).map fun found =>
          (parser.tracker, .recorded found)
  | .build name body address comment margin =>
      (workbench.parsers.lookup name).map fun parser =>
        (parser.tracker, .recorded (Instruction.ofBody body address comment margin))
  | .record name instruction => some ((workbench.findTracker name).1, .recorded instruction)
  | .clear name => some ((workbench.findTracker name).1, .cleared)
  | .buildLabels name architecture =>
      (workbench.registry architecture).map fun rules =>
        ((workbench.findTracker name).1, .built rules)
  | _ => none

def named? : Command → Option (List Char)
  | .makeParser _ _ shared => shared
  | .record name _ => some name
  | .clear name => some name
  | .instructionAt name _ => some name
  | .labelFor name _ => some name
  | .buildLabels name _ => some name
  | .formatOperands name _ => some name
  | .contents name => some name
  | _ => none

/-- The name of a parser that a command makes over a tracker of its own. -/
def own? (workbench : Workbench) : Command → Option (List Char)
  | .makeParser name architecture none => (workbench.registry architecture).map fun _ => name
  | _ => none

def opened (workbench : Workbench) (command : Command) : Workbench :=
  match workbench.own? command, named? command with
  | some name, _ => (workbench.addTracker name).2
  | none, some name => (workbench.findTracker name).2
  | none, none => workbench

def happen (workbench : Workbench) : Option (Nat × Tracker.Event) → Workbench
  | some (number, event) => workbench.changeTracker number fun tracker => tracker.apply event
  | none => workbench

theorem eq_with {left : Workbench} {registry : Registry} {parsers : List (List Char × Parser)}
    (sameRegistry : left.registry = registry) (sameParsers : left.parsers = parsers) :
    left = { left with registry := registry, parsers := parsers } := by
  subst sameRegistry
  subst sameParsers
  rfl

/-- A tracker may be replaced by what it changes to. -/
theorem changeTracker_replace (number : Nat) (change : Tracker → Tracker) :
    (workbench.changeTracker number fun _ => change (workbench.tracker number)) =
      workbench.changeTracker number change := by
  rw [changeTracker, changeTracker]
  congr 1
  apply List.ext_getElem?
  intro place
  rw [List.getElem?_modify, List.getElem?_modify]
  cases known : workbench.trackers[place]? with
  | none => rfl
  | some found =>
      by_cases same : number = place
      · subst same
        simp [tracker, known]
      · simp [same]

theorem set_eq (registry : Registry) (changed : Architecture) (rules : Option Family) :
    registry.set changed rules = fun architecture =>
      (if changed = architecture then some rules else none).getD (registry architecture) := by
  funext architecture
  rw [Registry.set]
  by_cases same : changed = architecture
  · rw [if_pos same, if_pos same.symm, Option.getD_some]
  · rw [if_neg same, if_neg (Ne.symm same), Option.getD_none]

/-- All that a command does: it opens a tracker, one event happens to a tracker, the rules of one
architecture are set, and a parser is added. -/
theorem run_eq (command : Command) :
    (workbench.run command).2 =
      { (workbench.opened command).happen (workbench.event? command) with
        registry := fun architecture =>
          (setting? architecture command).getD (workbench.registry architecture)
        parsers := (workbench.made? command).toList ++ workbench.parsers } := by
  cases command with
  | makeParser name architecture shared =>
      cases shared with
      | none =>
          cases known : workbench.registry architecture <;>
            simp [run, makeParser, opened, own?, named?, event?, made?, setting?, happen, known,
              addTracker]
      | some other =>
          cases known : workbench.registry architecture with
          | none =>
              simp only [run, makeParser, Option.map_some, Option.getD_some, registry_findTracker,
                known, made?, Option.map_none, Option.toList_none, List.nil_append]
              exact eq_with (registry_findTracker other) (parsers_findTracker other)
          | some rules =>
              simp only [run, makeParser, Option.map_some, Option.getD_some, registry_findTracker,
                known, made?, Option.toList_some, List.singleton_append, parsers_findTracker]
              rfl
  | parse name line =>
      rw [run, withParser, event?]
      cases workbench.parsers.lookup name with
      | none => rfl
      | some parser =>
          dsimp only
          rw [Option.bind_some]
          cases Instruction.parse parser.architecture.family line <;> rfl
  | readLine name line =>
      rw [run, withParser]
      cases workbench.parsers.lookup name <;> rfl
  | build name body address comment margin =>
      rw [run, withParser, event?]
      cases workbench.parsers.lookup name <;> rfl
  | classify name mnemonic operand =>
      rw [run, withParser]
      cases workbench.parsers.lookup name <;> rfl
  | record name instruction =>
      exact eq_with (registry_findTracker name) (parsers_findTracker name)
  | clear name => exact eq_with (registry_findTracker name) (parsers_findTracker name)
  | instructionAt name address =>
      exact eq_with (registry_findTracker name) (parsers_findTracker name)
  | labelFor name address =>
      exact eq_with (registry_findTracker name) (parsers_findTracker name)
  | buildLabels name architecture =>
      simp only [run, withTracker, registry_findTracker, event?]
      cases workbench.registry architecture with
      | none => exact eq_with (registry_findTracker name) (parsers_findTracker name)
      | some rules =>
          simp only
          rw [changeTracker_replace _ fun tracker => tracker.buildLabels rules]
          exact eq_with (registry_findTracker name) (parsers_findTracker name)
  | formatOperands name architecture =>
      simp only [run, withTracker, registry_findTracker]
      split
      · exact eq_with (registry_findTracker name) (parsers_findTracker name)
      · split <;> exact eq_with (registry_findTracker name) (parsers_findTracker name)
  | contents name => exact eq_with (registry_findTracker name) (parsers_findTracker name)
  | register changed rules =>
      rw [run, set_eq]
      rfl
  | unregister changed =>
      rw [run, set_eq]
      rfl
  | rules architecture =>
      rw [run]
      split <;> rfl

theorem registry_run (command : Command) (architecture : Architecture) :
    (workbench.run command).2.registry architecture =
      (setting? architecture command).getD (workbench.registry architecture) := by
  rw [run_eq]

theorem parsers_run (command : Command) :
    (workbench.run command).2.parsers =
      (workbench.made? command).toList ++ workbench.parsers := by
  rw [run_eq]

theorem trackerNames_run (command : Command) :
    (workbench.run command).2.trackerNames = (workbench.opened command).trackerNames := by
  rw [run_eq]
  cases workbench.event? command <;> rfl

/-- A new parser answers to its name, and writes into the tracker that it shares or that has the same
name. -/
theorem lookup_run_makeParser (name : List Char) {architecture : Architecture} {rules : Family}
    (known : workbench.registry architecture = some rules) (shared : Option (List Char)) :
    ∃ number, (workbench.run (.makeParser name architecture shared)).2.parsers.lookup name =
        some ⟨architecture, rules, number⟩ ∧
      (workbench.run (.makeParser name architecture shared)).2.trackerNames.lookup
        (shared.getD name) = some number := by
  rw [parsers_run, trackerNames_run]
  cases shared with
  | none =>
      refine ⟨workbench.trackers.length, ?_, ?_⟩
      · simp [made?, known]
      · simp [opened, own?, known, addTracker]
  | some other =>
      refine ⟨(workbench.findTracker other).1, ?_, ?_⟩
      · simp [made?, known]
      · exact lookup_findTracker other

/-! Trackers that are there. -/

/-- The names of trackers and the parsers lead to trackers that are there. -/
structure Linked (workbench : Workbench) : Prop where
  names : ∀ entry ∈ workbench.trackerNames, entry.2 < workbench.trackers.length
  parsers : ∀ entry ∈ workbench.parsers, entry.2.tracker < workbench.trackers.length

theorem linked_initial : Linked initial := ⟨by simp [initial], by simp [initial]⟩

theorem Linked.addTracker (linked : Linked workbench) (name : List Char) :
    Linked (workbench.addTracker name).2 := by
  have grown : (workbench.addTracker name).2.trackers.length = workbench.trackers.length + 1 :=
    List.length_append
  constructor
  · intro entry member
    rw [grown]
    rcases List.mem_cons.mp member with new | old
    · rw [new]
      exact Nat.lt_succ_self _
    · exact Nat.lt_succ_of_lt (linked.names entry old)
  · intro entry member
    rw [grown]
    exact Nat.lt_succ_of_lt (linked.parsers entry member)

theorem Linked.findTracker (linked : Linked workbench) (name : List Char) :
    Linked (workbench.findTracker name).2 := by
  unfold Workbench.findTracker
  split
  · exact linked
  · exact linked.addTracker name

theorem Linked.lt_findTracker (linked : Linked workbench) (name : List Char) :
    (workbench.findTracker name).1 < (workbench.findTracker name).2.trackers.length :=
  (linked.findTracker name).names _ (mem_of_lookup (lookup_findTracker name))

theorem Linked.opened (linked : Linked workbench) (command : Command) :
    Linked (workbench.opened command) := by
  unfold Workbench.opened
  split
  · exact linked.addTracker _
  · exact linked.findTracker _
  · exact linked

theorem length_opened_le (command : Command) :
    workbench.trackers.length ≤ (workbench.opened command).trackers.length := by
  unfold opened
  split
  · simp [addTracker]
  · exact length_findTracker_le _
  · exact Nat.le_refl _

theorem tracker_opened (command : Command) (number : Nat) :
    (workbench.opened command).tracker number = workbench.tracker number := by
  unfold opened
  split
  · exact tracker_addTracker _ number
  · exact tracker_findTracker _ number
  · rfl

theorem Linked.lt_of_event (linked : Linked workbench) {command : Command} {number : Nat}
    {event : Tracker.Event} (happens : workbench.event? command = some (number, event)) :
    number < (workbench.opened command).trackers.length := by
  have known : ∀ name parser, workbench.parsers.lookup name = some parser →
      parser.tracker < workbench.trackers.length :=
    fun name parser found => linked.parsers _ (mem_of_lookup found)
  cases command with
  | parse name line =>
      obtain ⟨parser, found, same⟩ := Option.bind_eq_some_iff.mp happens
      obtain ⟨_, _, same⟩ := Option.map_eq_some_iff.mp same
      rw [← (Prod.mk.inj same).1]
      exact known name parser found
  | build name body address comment margin =>
      obtain ⟨parser, found, same⟩ := Option.map_eq_some_iff.mp happens
      rw [← (Prod.mk.inj same).1]
      exact known name parser found
  | record name instruction =>
      rw [← (Prod.mk.inj (Option.some.inj happens)).1]
      exact linked.lt_findTracker name
  | clear name =>
      rw [← (Prod.mk.inj (Option.some.inj happens)).1]
      exact linked.lt_findTracker name
  | buildLabels name architecture =>
      obtain ⟨_, _, same⟩ := Option.map_eq_some_iff.mp happens
      rw [← (Prod.mk.inj same).1]
      exact linked.lt_findTracker name
  | _ => cases happens

theorem Linked.lt_of_made (linked : Linked workbench) {command : Command} {name : List Char}
    {parser : Parser} (made : workbench.made? command = some (name, parser)) :
    parser.tracker < (workbench.opened command).trackers.length := by
  cases command with
  | makeParser given architecture shared =>
      obtain ⟨rules, known, same⟩ := Option.map_eq_some_iff.mp made
      rw [← (Prod.mk.inj same).2]
      cases shared with
      | none => simp [Workbench.opened, own?, known, Workbench.addTracker]
      | some other =>
          simp only [Workbench.opened, own?, named?]
          exact linked.lt_findTracker other
  | _ => cases made

theorem Linked.run (linked : Linked workbench) (command : Command) :
    Linked (workbench.run command).2 := by
  have ready := linked.opened command
  have length : (workbench.run command).2.trackers.length =
      (workbench.opened command).trackers.length := by
    rw [run_eq]
    cases workbench.event? command with
    | none => rfl
    | some happens => exact List.length_modify _ _ _
  constructor
  · rw [trackerNames_run, length]
    exact ready.names
  · rw [parsers_run, length]
    intro entry member
    rcases List.mem_append.mp member with new | old
    · exact linked.lt_of_made (Option.mem_toList.mp new)
    · exact Nat.lt_of_lt_of_le (linked.parsers entry old) (length_opened_le command)

def eventOf? (workbench : Workbench) (number : Nat) (command : Command) : Option Tracker.Event :=
  (workbench.event? command).bind fun happens =>
    if happens.1 = number then some happens.2 else none

/-- A tracker changes only by an event of its own. -/
theorem Linked.tracker_run (linked : Linked workbench) (command : Command) (number : Nat) :
    (workbench.run command).2.tracker number =
      (workbench.eventOf? number command).elim (workbench.tracker number)
        (workbench.tracker number).apply := by
  have same : (workbench.run command).2.tracker number =
      ((workbench.opened command).happen (workbench.event? command)).tracker number := by
    rw [run_eq]
    rfl
  rw [same, eventOf?]
  cases happens : workbench.event? command with
  | none => exact tracker_opened command number
  | some found =>
      obtain ⟨place, event⟩ := found
      rw [happen, tracker_changeTracker (linked.lt_of_event happens), tracker_opened,
        Option.bind_some]
      split <;> rfl

/-! Runs. -/

theorem runAll_append (workbench : Workbench) (front back : List Command) :
    (workbench.runAll (front ++ back)).2 = ((workbench.runAll front).2.runAll back).2 := by
  induction front generalizing workbench with
  | nil => rfl
  | cons command rest induction => exact induction (workbench.run command).2

theorem Linked.runAll (linked : Linked workbench) (commands : List Command) :
    Linked (workbench.runAll commands).2 := by
  induction commands generalizing workbench with
  | nil => exact linked
  | cons command rest induction => exact induction (linked.run command)

end Disassembly.Workbench
