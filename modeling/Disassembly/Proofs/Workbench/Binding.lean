import Disassembly.Proofs.Workbench.Trackers

/-!
When the rules of an architecture are looked up. A parser looks them up once, when it is made, and
keeps what it finds; building labels and formatting operands look them up each time. Which rules are
found is read off the commands alone: those of the last setting for the architecture, or those of its
own family. How a line is read never depends on them.
-/

namespace Disassembly.Workbench

variable {workbench : Workbench}

def registered (commands : List Command) (architecture : Architecture) : Option Family :=
  ((commands.filterMap (setting? architecture)).getLast?).getD (some architecture.family)

/-- A parser was made under a name for an architecture when it had these rules. Since then no other
was made under that name: each later attempt came when its architecture had none. -/
def Made (commands : List Command) (name : List Char) (architecture : Architecture)
    (rules : Family) : Prop :=
  ∃ before shared after, commands = before ++ .makeParser name architecture shared :: after ∧
    registered before architecture = some rules ∧
    ∀ between other again later, after = between ++ .makeParser name other again :: later →
      registered (before ++ .makeParser name architecture shared :: between) other = none

theorem registered_concat (commands : List Command) (command : Command)
    (architecture : Architecture) :
    registered (commands ++ [command]) architecture =
      (setting? architecture command).getD (registered commands architecture) := by
  rw [registered, List.filterMap_append]
  cases set : setting? architecture command with
  | none => rw [List.filterMap_cons_none set, List.filterMap_nil, List.append_nil]; rfl
  | some rules =>
      rw [List.filterMap_cons_some set, List.filterMap_nil, List.getLast?_concat]
      rfl

theorem registry_reached (commands : List Command) (architecture : Architecture) :
    (initial.runAll commands).2.registry architecture = registered commands architecture := by
  induction commands using List.reverseRecOn with
  | nil => rfl
  | append_singleton commands command induction =>
      rw [runAll_append, registered_concat, ← induction]
      exact registry_run command architecture

/-! Who answers to a name. -/

theorem made_concat {commands : List Command} {command : Command} {name : List Char}
    {architecture : Architecture} {rules : Family} :
    Made (commands ++ [command]) name architecture rules ↔
      (∃ shared, command = .makeParser name architecture shared ∧
        registered commands architecture = some rules) ∨
      (∀ other shared, command = .makeParser name other shared →
        registered commands other = none) ∧ Made commands name architecture rules := by
  constructor
  · rintro ⟨before, shared, after, cut, known, failed⟩
    rcases append_singleton_eq_append_cons cut with ⟨rfl, rfl, same⟩ | ⟨between, rfl, front⟩
    · exact Or.inl ⟨shared, same, known⟩
    · right
      constructor
      · intro other again same
        rw [front]
        exact failed between other again [] (by rw [same])
      · refine ⟨before, shared, between, front, known, ?_⟩
        intro earlier other again later split
        exact failed earlier other again (later ++ [command]) (by rw [split]; simp)
  · rintro (⟨shared, same, known⟩ | ⟨failing, before, shared, after, cut, known, failed⟩)
    · exact ⟨commands, shared, [], by rw [same], known, by simp⟩
    · refine ⟨before, shared, after ++ [command], by rw [cut]; simp, known, ?_⟩
      intro between other again later split
      rcases append_singleton_eq_append_cons split with ⟨_, rfl, same⟩ | ⟨rest, _, front⟩
      · rw [← cut]
        exact failing other again same
      · exact failed between other again rest front

def Answering (workbench : Workbench) (name : List Char) (architecture : Architecture)
    (rules : Family) : Prop :=
  ∃ number, workbench.parsers.lookup name = some ⟨architecture, rules, number⟩

theorem exists_of_made {command : Command} {entry : List Char × Parser}
    (made : workbench.made? command = some entry) :
    ∃ shared, command = .makeParser entry.1 entry.2.architecture shared ∧
      workbench.registry entry.2.architecture = some entry.2.rules := by
  cases command with
  | makeParser name architecture shared =>
      obtain ⟨rules, known, rfl⟩ := Option.map_eq_some_iff.mp made
      exact ⟨shared, rfl, known⟩
  | _ => cases made

/-- A name goes on standing for what it stood for, unless a parser is made under it. -/
theorem lookup_run_of_failing {command : Command} {name : List Char}
    (failing : ∀ architecture shared, command = .makeParser name architecture shared →
      workbench.registry architecture = none) :
    (workbench.run command).2.parsers.lookup name = workbench.parsers.lookup name := by
  rw [parsers_run]
  cases made : workbench.made? command with
  | none => rfl
  | some entry =>
      obtain ⟨shared, same, known⟩ := exists_of_made made
      have different : (name == entry.1) = false := by
        rw [beq_eq_false_iff_ne]
        rintro rfl
        rw [failing _ _ same] at known
        cases known
      rw [Option.toList_some, List.singleton_append, List.lookup_cons, different]

theorem answering_run {command : Command} {name : List Char} {architecture : Architecture}
    {rules : Family} :
    (workbench.run command).2.Answering name architecture rules ↔
      (∃ shared, command = .makeParser name architecture shared ∧
        workbench.registry architecture = some rules) ∨
      (∀ other shared, command = .makeParser name other shared →
        workbench.registry other = none) ∧ workbench.Answering name architecture rules := by
  by_cases failing : ∀ other shared, command = .makeParser name other shared →
      workbench.registry other = none
  · rw [Answering, lookup_run_of_failing failing]
    constructor
    · intro answering
      exact Or.inr ⟨failing, answering⟩
    · rintro (⟨shared, same, known⟩ | ⟨_, answering⟩)
      · rw [failing _ _ same] at known
        cases known
      · exact answering
  · push Not at failing
    obtain ⟨made, shared, rfl, present⟩ := failing
    obtain ⟨found, known⟩ := Option.ne_none_iff_exists'.mp present
    obtain ⟨number, lookup, _⟩ := lookup_run_makeParser name known shared
    constructor
    · rintro ⟨other, answering⟩
      rw [lookup] at answering
      obtain ⟨rfl, rfl, _⟩ := Parser.mk.inj (Option.some.inj answering)
      exact Or.inl ⟨shared, rfl, known⟩
    · rintro (⟨_, same, ruled⟩ | ⟨failing, _⟩)
      · cases same
        obtain ⟨other, answering, _⟩ := lookup_run_makeParser name ruled shared
        exact ⟨other, answering⟩
      · rw [failing made shared rfl] at known
        cases known

theorem answering_iff_made (commands : List Command) (name : List Char)
    (architecture : Architecture) (rules : Family) :
    (initial.runAll commands).2.Answering name architecture rules ↔
      Made commands name architecture rules := by
  induction commands using List.reverseRecOn with
  | nil =>
      constructor
      · rintro ⟨number, known⟩
        cases known
      · rintro ⟨before, shared, after, cut, _⟩
        simp at cut
  | append_singleton commands command induction =>
      rw [runAll_append, made_concat, ← induction]
      simp only [← registry_reached]
      exact answering_run

/-! What is answered. -/

def through? : Command → Option (List Char)
  | .parse name _ => some name
  | .readLine name _ => some name
  | .build name _ _ _ _ => some name
  | .classify name _ _ => some name
  | _ => none

/-- All that a parser answers. Its operands are judged by the rules; the way it reads lines and bodies
has nothing to do with them. -/
structure Answers (workbench : Workbench) (name : List Char) (architecture : Architecture)
    (rules : Family) : Prop where
  classify : ∀ mnemonic operand, (workbench.run (.classify name mnemonic operand)).1 =
    .ok (.classification (Classification.of rules mnemonic operand))
  parse : ∀ line, (workbench.run (.parse name line)).1 =
    .ok (.instruction (Instruction.parse architecture.family line))
  readLine : ∀ line, (workbench.run (.readLine name line)).1 =
    .ok (.line (Line.read architecture.family line))
  build : ∀ body address comment margin,
    (workbench.run (.build name body address comment margin)).1 =
      .ok (.instruction (some (Instruction.ofBody body address comment margin)))

theorem Answering.answers {name : List Char} {architecture : Architecture} {rules : Family}
    (answering : workbench.Answering name architecture rules) :
    Answers workbench name architecture rules := by
  obtain ⟨number, known⟩ := answering
  constructor
  case classify =>
    intro mnemonic operand
    rw [run, withParser, known]
  case parse =>
    intro line
    rw [run, withParser, known]
  case readLine =>
    intro line
    rw [run, withParser, known]
  case build =>
    intro body address comment margin
    rw [run, withParser, known]

theorem run_of_unknown {command : Command} {name : List Char}
    (through : through? command = some name) (unknown : workbench.parsers.lookup name = none) :
    workbench.run command = (.error (.unknownParser name), workbench) := by
  cases command with
  | parse asked line =>
      cases through
      rw [run, withParser, unknown]
  | readLine asked line =>
      cases through
      rw [run, withParser, unknown]
  | build asked body address comment margin =>
      cases through
      rw [run, withParser, unknown]
  | classify asked mnemonic operand =>
      cases through
      rw [run, withParser, unknown]
  | _ => cases through

structure Unchanged (workbench after : Workbench) : Prop where
  parsers : after.parsers = workbench.parsers
  registry : after.registry = workbench.registry
  trackers : ∀ number, after.tracker number = workbench.tracker number
  names : ∀ name number, workbench.trackerNames.lookup name = some number →
    after.trackerNames.lookup name = some number

theorem Linked.unchanged_makeParser (linked : Linked workbench) {architecture : Architecture}
    (unknown : workbench.registry architecture = none) (name : List Char)
    (shared : Option (List Char)) :
    Unchanged workbench (workbench.run (.makeParser name architecture shared)).2 := by
  constructor
  case parsers =>
    rw [parsers_run]
    simp [made?, unknown]
  case registry =>
    funext asked
    exact registry_run _ asked
  case trackers =>
    intro number
    apply linked.tracker_run_other
    intro event happens
    cases happens
  case names =>
    intro other number known
    apply (sharing workbench).kept _ other number known
    cases shared <;> simp [own?, unknown]

def answerBy (architecture : Architecture) (rules : Option Family) (answer : Family → Reply) :
    Except Refusal Reply :=
  match rules with
  | some rules => .ok (answer rules)
  | none => .error (.noRules architecture)

theorem run_rules (architecture : Architecture) :
    (workbench.run (.rules architecture)).1 =
      answerBy architecture (workbench.registry architecture) Reply.rules := by
  rw [run]
  cases workbench.registry architecture <;> rfl

theorem run_makeParser (name : List Char) (architecture : Architecture)
    (shared : Option (List Char)) :
    (workbench.run (.makeParser name architecture shared)).1 =
      answerBy architecture (workbench.registry architecture) (Reply.parser architecture) := by
  have before : (((shared.map workbench.findTracker).map Prod.snd).getD workbench).registry =
      workbench.registry := by
    cases shared with
    | none => rfl
    | some other => exact registry_findTracker other
  simp only [run, makeParser, before]
  cases workbench.registry architecture <;> rfl

theorem run_buildLabels {name : List Char}
    (indexed : (workbench.tracker (workbench.findTracker name).1).Indexed)
    (architecture : Architecture) :
    (workbench.run (.buildLabels name architecture)).1 =
      answerBy architecture (workbench.registry architecture) fun rules =>
        .labels (Labels.ofInstructions rules
          (workbench.tracker (workbench.findTracker name).1).instructions) := by
  simp only [run, withTracker, registry_findTracker, tracker_findTracker]
  cases workbench.registry architecture with
  | none => rfl
  | some rules =>
      simp only [indexed.labels_buildLabels]
      rfl

theorem run_formatOperands (name : List Char) (architecture : Architecture) :
    let tracker := workbench.tracker (workbench.findTracker name).1
    (workbench.run (.formatOperands name architecture)).1 =
      if tracker.instructions = [] then .ok (.operands [])
      else answerBy architecture (workbench.registry architecture) fun rules =>
        .operands (tracker.instructions.map (tracker.labels.formatOperands rules)) := by
  intro tracker
  simp only [run, withTracker, registry_findTracker, tracker_findTracker, List.isEmpty_iff]
  split
  · rfl
  · cases workbench.registry architecture <;> rfl

/-- A name answers as the parser that was made under it, or nothing is known under it. -/
theorem answers_or_unknown (commands : List Command) (name : List Char) :
    (∃ architecture rules, Made commands name architecture rules ∧
      Answers (initial.runAll commands).2 name architecture rules) ∨
    (∀ architecture rules, ¬Made commands name architecture rules) ∧
      ∀ command, through? command = some name →
        (initial.runAll commands).2.run command =
          (.error (.unknownParser name), (initial.runAll commands).2) := by
  cases known : (initial.runAll commands).2.parsers.lookup name with
  | some parser =>
      have answering : (initial.runAll commands).2.Answering name parser.architecture
          parser.rules := ⟨parser.tracker, known⟩
      left
      exact ⟨parser.architecture, parser.rules,
        (answering_iff_made commands name _ _).mp answering, answering.answers⟩
  | none =>
      right
      constructor
      · intro architecture rules made
        obtain ⟨number, found⟩ := (answering_iff_made commands name _ _).mpr made
        rw [known] at found
        cases found
      · intro command through
        exact run_of_unknown through known

/-- A parser answers by the rules its architecture had when it was made; whatever else needs rules
looks up those of the moment. Without rules no parser is made and nothing changes, and setting the
rules of one architecture leaves those of the others. -/
theorem parsers_keep_their_rules (commands : List Command) :
    let workbench := (initial.runAll commands).2
    (∀ name,
      (∃ architecture rules, Made commands name architecture rules ∧
        Answers workbench name architecture rules) ∨
      (∀ architecture rules, ¬Made commands name architecture rules) ∧
        ∀ command, through? command = some name →
          workbench.run command = (.error (.unknownParser name), workbench)) ∧
    (∀ name architecture shared,
      (workbench.run (.makeParser name architecture shared)).1 =
        answerBy architecture (registered commands architecture) (Reply.parser architecture) ∧
      (registered commands architecture = none →
        Unchanged workbench (workbench.run (.makeParser name architecture shared)).2)) ∧
    (∀ name architecture,
      let tracker := workbench.tracker (workbench.findTracker name).1
      (workbench.run (.buildLabels name architecture)).1 =
        answerBy architecture (registered commands architecture) (fun rules =>
          .labels (Labels.ofInstructions rules tracker.instructions)) ∧
      (workbench.run (.formatOperands name architecture)).1 =
        if tracker.instructions = [] then .ok (.operands [])
        else answerBy architecture (registered commands architecture) fun rules =>
          .operands (tracker.instructions.map (tracker.labels.formatOperands rules))) ∧
    (∀ architecture, (workbench.run (.rules architecture)).1 =
      answerBy architecture (registered commands architecture) Reply.rules) ∧
    ∀ architecture other, architecture ≠ other → ∀ command,
      (command = .unregister architecture ∨ ∃ rules, command = .register architecture rules) →
        ((workbench.run command).2.run (.rules other)).1 = (workbench.run (.rules other)).1 := by
  intro workbench
  have linked : Linked workbench := linked_initial.runAll commands
  have registry : ∀ architecture, workbench.registry architecture =
      registered commands architecture := registry_reached commands
  refine ⟨answers_or_unknown commands, ?_, ?_, ?_, ?_⟩
  · intro name architecture shared
    rw [run_makeParser, registry]
    constructor
    · rfl
    · intro none
      exact linked.unchanged_makeParser ((registry architecture).trans none) name shared
  · intro name architecture tracker
    have indexed : tracker.Indexed := indexed_reached commands _
    rw [run_buildLabels indexed, run_formatOperands, registry]
    exact ⟨rfl, rfl⟩
  · intro architecture
    rw [run_rules, registry]
  · intro architecture other different command sets
    have unset : setting? other command = none := by
      rcases sets with rfl | ⟨rules, rfl⟩
      · exact if_neg different
      · exact if_neg different
    rw [run_rules, run_rules, registry_run, unset, Option.getD_none]

end Disassembly.Workbench
