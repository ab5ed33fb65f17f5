import Disassembly.Markup.Origin

/-!
How far the texts of entities may outgrow a document. The bytes read from the document and those
read from the texts of entities are counted apart. From a threshold on, both together may be a
hundred times those of the document, so that a few declarations cannot ask for an endless one.
-/

namespace Disassembly.Markup

structure Expansion where
  direct : Nat
  indirect : Nat
deriving DecidableEq, Repr

inductive Account where
  | direct
  | indirect
  | uncounted
deriving DecidableEq, Repr

def Origin.account : Origin → Account
  | document _ => .direct
  | replacement => .indirect

namespace Expansion

/-- The limit does not hold for less than eight mebibytes. -/
def threshold : Nat := 8388608

/-- How many times the bytes of the document all bytes may be. -/
def factor : Nat := 100

/-- A count is known to so many binary digits, and so is the ratio of two counts. -/
def precision : Nat := 24

/-- The nearest number with few enough binary digits before its zeros; of two the one whose last
digit is even. -/
def rounded (count : Nat) : Nat :=
  let unit := Nat.pow 2 (count.log2 + 1 - precision)
  let below := count / unit
  let excess := 2 * (count % unit)
  if excess < unit || (excess = unit && below % 2 = 0) then below * unit else (below + 1) * unit

/-- A count with few enough digits stays as it is. -/
theorem rounded_of_log2_lt {count : Nat} (few : count.log2 < precision) :
    rounded count = count := by
  have unit : count.log2 + 1 - precision = 0 := by omega
  simp [rounded, unit, Nat.mod_one]

/-- The ratio of two counts is at most the factor. One that exceeds it by no more than half a unit
in the last of its binary digits is the factor; `scale` halves of that unit are one. -/
def isWithinFactor (output direct : Nat) : Bool :=
  let scale := Nat.pow 2 (precision - factor.log2)
  rounded output * scale ≤ rounded direct * (factor * scale + 1)

def isTolerated (expansion : Expansion) : Bool :=
  let output := expansion.direct + expansion.indirect
  output < threshold || isWithinFactor output expansion.direct

def add (expansion : Expansion) (account : Account) (bytes : Nat) : Expansion :=
  match account with
  | .direct => { expansion with direct := expansion.direct + bytes }
  | .indirect => { expansion with indirect := expansion.indirect + bytes }
  | .uncounted => expansion

def count (expansion : Expansion) (account : Account) (bytes : Nat) : Option Expansion :=
  match account with
  | .uncounted => some expansion
  | _ =>
      let counted := expansion.add account bytes
      if counted.isTolerated then some counted else none

end Expansion

end Disassembly.Markup
