import Disassembly.Line
import Disassembly.Text.Quoted
import Disassembly.Tracker

/-!
A workbench holds named parsers, named trackers, and for every architecture the family whose rules
its operands follow at the moment. A parser keeps the operand rules it was made with and writes
into one tracker, which several parsers may share. Trackers are known by number, so that a name can
pass to another tracker while parsers go on with the old one.
-/

namespace Disassembly

open Text

abbrev Registry := Architecture → Option Family

namespace Registry

def standard : Registry := fun architecture => some architecture.family

def set (registry : Registry) (architecture : Architecture) (rules : Option Family) : Registry :=
  fun asked => if asked = architecture then rules else registry asked

end Registry

structure Parser where
  architecture : Architecture
  rules : Family
  tracker : Nat
deriving DecidableEq, Repr

structure Workbench where
  registry : Registry
  trackers : List Tracker
  trackerNames : List (List Char × Nat)
  parsers : List (List Char × Parser)

inductive Refusal where
  | noRules (architecture : Architecture)
  | unknownParser (name : List Char)
deriving DecidableEq, Repr

def Refusal.message : Refusal → List Char
  | .noRules architecture =>
      quoted ("No operand classifier registered for ".toList ++ architecture.name.toList)
  | .unknownParser name => quoted name

inductive Command where
  | makeParser (name : List Char) (architecture : Architecture) (tracker : Option (List Char))
  | parse (parser line : List Char)
  | readLine (parser line : List Char)
  | build (parser body : List Char) (address : Int) (comment margin : List Char)
  | classify (parser : List Char) (mnemonic : Option (List Char)) (operand : List Char)
  | record (tracker : List Char) (instruction : Instruction)
  | clear (tracker : List Char)
  | instructionAt (tracker : List Char) (address : Int)
  | labelFor (tracker : List Char) (address : Int)
  | buildLabels (tracker : List Char) (architecture : Architecture)
  | formatOperands (tracker : List Char) (architecture : Architecture)
  | contents (tracker : List Char)
  | register (architecture : Architecture) (rules : Family)
  | unregister (architecture : Architecture)
  | rules (architecture : Architecture)
deriving DecidableEq, Repr

structure Classification where
  isJump : Bool
  isConstant : Bool
  isAddress : Bool
  isRegister : Bool
  registerName : List Char
deriving DecidableEq, Repr

inductive Reply where
  | parser (architecture : Architecture) (rules : Family)
  | instruction (found : Option Instruction)
  | line (found : Option Line)
  | classification (operand : Classification)
  | label (found : Option (List Char))
  | labels (all : Labels)
  | operands (all : List (List (List Char)))
  | contents (instructions : List Instruction) (labels : Labels)
  | rules (family : Family)
  | done
deriving DecidableEq, Repr

def Classification.of (rules : Family) (mnemonic : Option (List Char)) (operand : List Char) :
    Classification :=
  ⟨Operand.isJump rules mnemonic, Operand.isConstant rules mnemonic operand,
    Operand.isAddress rules mnemonic operand, Operand.isRegister rules mnemonic operand,
    Operand.registerName rules operand⟩

namespace Workbench

def initial : Workbench := ⟨Registry.standard, [], [], []⟩

def tracker (workbench : Workbench) (number : Nat) : Tracker :=
  workbench.trackers[number]?.getD Tracker.empty

def changeTracker (workbench : Workbench) (number : Nat) (change : Tracker → Tracker) :
    Workbench :=
  { workbench with trackers := workbench.trackers.modify number change }

/-- A new tracker under a name, and its number. -/
def addTracker (workbench : Workbench) (name : List Char) : Nat × Workbench :=
  let number := workbench.trackers.length
  (number,
    { workbench with
      trackers := workbench.trackers ++ [Tracker.empty],
      trackerNames := (name, number) :: workbench.trackerNames })

/-- The tracker with a name, made when the name is first used. -/
def findTracker (workbench : Workbench) (name : List Char) : Nat × Workbench :=
  match workbench.trackerNames.lookup name with
  | some number => (number, workbench)
  | none => workbench.addTracker name

/-- Records an instruction, if there is one, in the tracker of a parser. -/
def recordFor (workbench : Workbench) (parser : Parser) : Option Instruction → Workbench
  | some instruction =>
      workbench.changeTracker parser.tracker fun tracker => tracker.record instruction
  | none => workbench

/-- Makes a parser. Without rules for its architecture none is made, but a tracker it names is
there afterwards. -/
def makeParser (workbench : Workbench) (name : List Char) (architecture : Architecture)
    (shared : Option (List Char)) : Except Refusal Reply × Workbench :=
  let found := shared.map workbench.findTracker
  let before := (found.map Prod.snd).getD workbench
  match before.registry architecture with
  | none => (.error (.noRules architecture), before)
  | some rules =>
      let (number, after) := found.getD (workbench.addTracker name)
      (.ok (.parser architecture rules),
        { after with parsers := (name, ⟨architecture, rules, number⟩) :: after.parsers })

def withParser (workbench : Workbench) (name : List Char)
    (action : Parser → Reply × Workbench) : Except Refusal Reply × Workbench :=
  match workbench.parsers.lookup name with
  | some parser =>
      let (reply, after) := action parser
      (.ok reply, after)
  | none => (.error (.unknownParser name), workbench)

def withTracker (workbench : Workbench) (name : List Char)
    (action : Nat → Tracker → Workbench → Except Refusal Reply × Workbench) :
    Except Refusal Reply × Workbench :=
  let (number, after) := workbench.findTracker name
  action number (after.tracker number) after

def run (workbench : Workbench) : Command → Except Refusal Reply × Workbench
  | .makeParser name architecture shared => workbench.makeParser name architecture shared
  | .parse name line =>
      workbench.withParser name fun parser =>
        let found := Instruction.parse parser.architecture.family line
        (.instruction found, workbench.recordFor parser found)
  | .readLine name line =>
      workbench.withParser name fun parser =>
        (.line (Line.read parser.architecture.family line), workbench)
  | .build name body address comment margin =>
      workbench.withParser name fun parser =>
        let built := Instruction.ofBody body address comment margin
        (.instruction (some built), workbench.recordFor parser (some built))
  | .classify name mnemonic operand =>
      workbench.withParser name fun parser =>
        (.classification (Classification.of parser.rules mnemonic operand), workbench)
  | .record name instruction =>
      workbench.withTracker name fun number _ after =>
        (.ok .done, after.changeTracker number fun tracker => tracker.record instruction)
  | .clear name =>
      workbench.withTracker name fun number _ after =>
        (.ok .done, after.changeTracker number fun _ => Tracker.empty)
  | .instructionAt name address =>
      workbench.withTracker name fun _ tracker after =>
        (.ok (.instruction (tracker.instructionAt? address)), after)
  | .labelFor name address =>
      workbench.withTracker name fun _ tracker after =>
        (.ok (.label (tracker.labelFor? address)), after)
  | .buildLabels name architecture =>
      workbench.withTracker name fun number tracker after =>
        match after.registry architecture with
        | none => (.error (.noRules architecture), after)
        | some rules =>
            let built := tracker.buildLabels rules
            (.ok (.labels built.labels), after.changeTracker number fun _ => built)
  | .formatOperands name architecture =>
      workbench.withTracker name fun _ tracker after =>
        if tracker.instructions.isEmpty then (.ok (.operands []), after)
        else
          match after.registry architecture with
          | none => (.error (.noRules architecture), after)
          | some rules =>
              (.ok (.operands (tracker.instructions.map (tracker.formatOperands rules))), after)
  | .contents name =>
      workbench.withTracker name fun _ tracker after =>
        (.ok (.contents tracker.instructions tracker.labels), after)
  | .register architecture rules =>
      (.ok .done,
        { workbench with registry := workbench.registry.set architecture (some rules) })
  | .unregister architecture =>
      (.ok .done, { workbench with registry := workbench.registry.set architecture none })
  | .rules architecture =>
      match workbench.registry architecture with
      | some rules => (.ok (.rules rules), workbench)
      | none => (.error (.noRules architecture), workbench)

def runAll : Workbench → List Command → List (Except Refusal Reply) × Workbench
  | workbench, [] => ([], workbench)
  | workbench, command :: rest =>
      let (reply, after) := workbench.run command
      let (replies, final) := after.runAll rest
      (reply :: replies, final)

end Workbench

end Disassembly
