import Disassembly.Line
import Disassembly.Reference.Store
import Disassembly.Text.Quoted

/-!
Notices: what a run tells besides its output. Each notice has a level, the part of the program it
comes from and a message; it is printed as one line with colons between the three. Notices of the
reading of a line are a function of the line, so nothing has to be carried along while reading.
-/

namespace Disassembly

open Text

inductive Level where
  | debug
  | info
  | error
deriving DecidableEq, Repr

def Level.name : Level → String
  | .debug => "DEBUG"
  | .info => "INFO"
  | .error => "ERROR"

inductive Notice where
  | lineTried (text : List Char)
  | lineRead (line : Line)
  | mnemonicRead (mnemonic : List Char)
  | instructionsRead (count : Nat)
  | loading (report : Reference.LoadReport)
  | inputMissing (name : List Char)
  | inputDenied (name path : List Char)
deriving DecidableEq, Repr

namespace Notice

def level : Notice → Level
  | .lineTried _ => .debug
  | .lineRead _ => .debug
  | .mnemonicRead _ => .debug
  | .instructionsRead _ => .info
  | .loading report => if report.isFailure then .error else .debug
  | .inputMissing _ => .error
  | .inputDenied _ _ => .error

def origin : Notice → String
  | .lineTried _ => "asmref.parser"
  | .lineRead _ => "asmref.parser"
  | .mnemonicRead _ => "asmref.parser"
  | .loading _ => "asmref.reference"
  | .instructionsRead _ => "root"
  | .inputMissing _ => "root"
  | .inputDenied _ _ => "root"

def documentDirectory : String := "<resources>"

def inSingleQuotes (text : List Char) : List Char := singleQuote :: (text ++ [singleQuote])

/-- A missing comment is shown by a word. -/
def shownComment (comment : List Char) : List Char :=
  if comment.isEmpty then "None".toList else comment

def message : Notice → List Char
  | .lineTried text => "Trying to parse instruction: ".toList ++ text
  | .lineRead line =>
      "parts: annotation=".toList ++ inSingleQuotes line.margin ++
        " address=".toList ++ inSingleQuotes ('0' :: 'x' :: line.digits) ++
        " body=".toList ++ inSingleQuotes line.body ++
        " comment=".toList ++ inSingleQuotes (shownComment line.comment)
  | .mnemonicRead mnemonic => "mnemonic: ".toList ++ inSingleQuotes mnemonic
  | .instructionsRead count => ("Parsed " ++ toString count ++ " instructions").toList
  | .loading report => (report.message documentDirectory).toList
  | .inputMissing name => "Disassembly file not found: ".toList ++ name
  | .inputDenied name path =>
      "Could not read disassembly ".toList ++ name ++ ": [Errno 13] Permission denied: ".toList ++
        quoted path

def print (notice : Notice) : List Char :=
  notice.level.name.toList ++ ':' :: (notice.origin.toList ++ ':' :: (notice.message ++ ['\n']))

/-- Whether a notice is shown: all are on request, otherwise the errors. -/
def isShown (verbose : Bool) (notice : Notice) : Bool := verbose || notice.level = .error

end Notice

def Line.notices (family : Family) (text : List Char) : List Notice :=
  .lineTried text ::
    match Line.read family text with
    | none => []
    | some line =>
        .lineRead line ::
          match (Instruction.Body.split line.body).mnemonic with
          | some mnemonic => [.mnemonicRead mnemonic]
          | none => []

end Disassembly
