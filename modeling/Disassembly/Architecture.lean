import Disassembly.Text.Blank
import Disassembly.Text.LowerCase

/-!
Target architectures and the two families they fall into. The family decides how operands and
lines are written and which reference document describes the mnemonics, so both ARM architectures
share one. An architecture is named by the user in any case, with blanks around and with a hyphen
for the underscore.
-/

namespace Disassembly

open Text

inductive Family where
  | x86
  | arm
deriving DecidableEq, Repr

/-- The name of a family, under which its reference document is kept. -/
def Family.name : Family → String
  | .x86 => "x86"
  | .arm => "aarch64"

def Family.all : List Family := [.x86, .arm]

inductive Architecture where
  | x64
  | arm32
  | arm64
deriving DecidableEq, Repr

namespace Architecture

def all : List Architecture := [.x64, .arm32, .arm64]

def name : Architecture → String
  | .x64 => "X86_64"
  | .arm32 => "ARM_32"
  | .arm64 => "ARM_64"

def tag : Architecture → String
  | .x64 => "x86_64"
  | .arm32 => "arm_32"
  | .arm64 => "arm_64"

def family : Architecture → Family
  | .x64 => .x86
  | .arm32 => .arm
  | .arm64 => .arm

def isArm (architecture : Architecture) : Bool := architecture.family = .arm

/-- The accepted names, in alphabetical order. -/
def aliases : List (String × Architecture) :=
  [("aarch32", .arm32), ("aarch64", .arm64), ("amd64", .x64), ("arm", .arm32),
   ("arm32", .arm32), ("arm64", .arm64), ("arm_32", .arm32), ("arm_64", .arm64),
   ("x64", .x64), ("x86", .x64), ("x86_64", .x64)]

def normalize (given : List Char) : List Char :=
  (lower (strip given)).map fun character => if character = '-' then '_' else character

structure Unsupported where
  given : List Char
deriving DecidableEq, Repr

def Unsupported.message (unsupported : Unsupported) : List Char :=
  "Unsupported architecture: ".toList ++ unsupported.given ++ " (expected one of: ".toList ++
    List.intercalate ", ".toList (aliases.map fun entry => entry.1.toList) ++ [')']

def ofName (given : List Char) : Except Unsupported Architecture :=
  match aliases.find? fun entry => entry.1.toList == normalize given with
  | some entry => .ok entry.2
  | none => .error ⟨given⟩

end Architecture

end Disassembly
