import Disassembly.Architecture
import Disassembly.Text.Decimal

/-!
Arguments of the command: one optional input, an architecture, and three switches. Long options may
be shortened as long as only one is meant, a value may follow an equals sign, and two hyphens end
the options. A lone hyphen, a negative number and an argument with a space are no options. Any
argument that finds no place makes the whole call wrong; help is given as soon as it is asked for.
-/

namespace Disassembly.CommandLine

open Text

inductive Switch where
  | help
  | architecture
  | describe
  | verbose
deriving DecidableEq, Repr

def longOptions : List (List Char × Switch) :=
  [("--help".toList, .help), ("--arch".toList, .architecture),
   ("--describe".toList, .describe), ("--verbose".toList, .verbose)]

def shortHelp : List Char := ['-', 'h']

def exactOptions : List (List Char × Switch) := (shortHelp, .help) :: longOptions

/-- What an argument looks like before its place is known. -/
inductive Shape where
  | positional
  | option (switch : Switch) (value : Option (List Char))
  /-- The short option for help with further letters behind it. -/
  | cluster (letters : List Char)
  | ambiguous
  | unknown
deriving DecidableEq, Repr

/-- A minus sign with a whole number or a decimal fraction; a line feed may follow. -/
def isNegativeNumber : List Char → Bool
  | '-' :: rest =>
      let number := if rest.getLast? = some '\n' then rest.dropLast else rest
      match number.dropWhile isDecimal with
      | [] => !number.isEmpty
      | '.' :: fraction => !fraction.isEmpty && fraction.all isDecimal
      | _ => false
  | _ => false

def splitValue (argument : List Char) : List Char × Option (List Char) :=
  match argument.dropWhile (· != '=') with
  | _ :: value => (argument.takeWhile (· != '='), some value)
  | [] => (argument, none)

/-- The shape of an argument that no option is spelled exactly like. -/
def inexactShape (argument : List Char) : Shape :=
  let (name, value) := splitValue argument
  let meant :=
    if ['-', '-'].isPrefixOf argument then
      longOptions.filter fun option => name.isPrefixOf option.1
    else []
  match meant with
  | [(_, switch)] => .option switch value
  | _ :: _ :: _ => .ambiguous
  | [] =>
      if shortHelp.isPrefixOf argument then .cluster (argument.drop 2)
      else if isNegativeNumber argument || argument.contains ' ' then .positional
      else .unknown

def startsWithHyphen (argument : List Char) : Bool := argument.head? = some '-'

def shape (argument : List Char) : Shape :=
  if !startsWithHyphen argument || argument = ['-'] then .positional
  else
    match exactOptions.lookup argument with
    | some switch => .option switch none
    | none =>
        let (name, value) := splitValue argument
        match value, exactOptions.lookup name with
        | some value, some switch =>
            if name = shortHelp && !value.isEmpty then .cluster value
            else .option switch (some value)
        | _, _ => inexactShape argument

structure Options where
  input : List Char
  architecture : Architecture
  describe : Bool
  verbose : Bool
deriving DecidableEq, Repr

inductive Call where
  | run (options : Options)
  | help
  | wrong
deriving DecidableEq, Repr

structure Understood where
  input : Option (List Char)
  architecture : Architecture
  describe : Bool
  verbose : Bool
  /-- Some argument found no place. -/
  excess : Bool
deriving DecidableEq, Repr

namespace Understood

def nothing : Understood := ⟨none, .x64, false, false, false⟩

def standardInput : List Char := ['-']

def finish (understood : Understood) : Call :=
  if understood.excess then .wrong
  else
    .run ⟨understood.input.getD standardInput, understood.architecture, understood.describe,
      understood.verbose⟩

/-- The arguments after two hyphens: at most the input. -/
def finishPlain (understood : Understood) : List (List Char) → Call
  | [] => if understood.input.isSome then .wrong else understood.finish
  | [argument] =>
      if understood.input.isSome then .wrong
      else { understood with input := some argument }.finish
  | _ => .wrong

end Understood

def endOfOptions : List Char := ['-', '-']

/-- Finds a place for each argument, from left to right. Two hyphens right behind the input belong
to it. -/
def place (understood : Understood) : List (List Char) → Call
  | [] => understood.finish
  | argument :: rest =>
      if argument = endOfOptions then understood.finishPlain rest
      else
        match shape argument with
        | .positional =>
            if understood.input.isSome then place { understood with excess := true } rest
            else
              let understood := { understood with input := some argument }
              if rest.head? = some endOfOptions then
                if rest.length = 1 then understood.finish else .wrong
              else place understood rest
        | .unknown => place { understood with excess := true } rest
        | .ambiguous => .wrong
        | .cluster letters => if letters.all (· = 'h') then .help else .wrong
        | .option .help none => .help
        | .option .describe none => place { understood with describe := true } rest
        | .option .verbose none => place { understood with verbose := true } rest
        | .option .architecture (some name) =>
            match Architecture.ofName name with
            | .ok architecture => place { understood with architecture := architecture } rest
            | .error _ => .wrong
        | .option .architecture none =>
            match rest with
            | name :: rest =>
                if name = endOfOptions || shape name ≠ .positional then .wrong
                else
                  match Architecture.ofName name with
                  | .ok architecture =>
                      place { understood with architecture := architecture } rest
                  | .error _ => .wrong
            | [] => .wrong
        | .option _ (some _) => .wrong

/-- Reads the arguments. One that could be short for several options makes the call wrong at
once. -/
def readArguments (arguments : List (List Char)) : Call :=
  if (arguments.takeWhile (· != endOfOptions)).any fun argument => shape argument = .ambiguous then
    .wrong
  else place Understood.nothing arguments

end Disassembly.CommandLine
