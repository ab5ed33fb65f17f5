import Disassembly.CommandLine.Arguments
import Disassembly.CommandLine.Files
import Disassembly.Listing.Rendering
import Disassembly.Notice
import Disassembly.Reference.Bundled

/-!
The command: it reads a listing from a file or from standard input and prints it with labels, and
with descriptions on request. Everything a call can see is a value, and so is everything it leaves
behind, so that nothing here reads or prints. A file is read as UTF-8, with a replacement character
for what is invalid and a line feed for each line break; standard input comes as text.
-/

namespace Disassembly.CommandLine

open Text

/-- What a finished call leaves: its exit code, its output, and its notices in order. -/
structure Outcome where
  code : Nat
  output : List Char
  notices : List Notice
deriving DecidableEq, Repr

def fileText (bytes : List UInt8) : List Char := unifyLineFeeds (Utf8.decodeLossy bytes)

def readingNotices (architecture : Architecture) (text : List Char) : List Notice :=
  (Listing.sourceLines text).flatMap (Line.notices architecture.family) ++
    [.instructionsRead (Listing.parseInstructions architecture text).length]

def runText (options : Options) (text : List Char) : Outcome :=
  let listing := Listing.parse options.architecture text
  let rendered :=
    if options.describe then
      listing.renderThrough Reference.Bundled.documents Reference.Store.empty
    else ⟨.ok listing.renderPlain, Reference.Store.empty, []⟩
  let notices :=
    readingNotices options.architecture text ++ rendered.reports.map Notice.loading
  match rendered.lines with
  | .ok lines => ⟨0, lines.flatMap fun line => line ++ ['\n'], notices⟩
  | .error _ => ⟨1, [], notices⟩

def run (options : Options) : Input → Outcome
  | .missing | .directory => ⟨1, [], [.inputMissing options.input]⟩
  | .denied => ⟨1, [], [.inputDenied options.input (Path.plain options.input)]⟩
  | .file bytes => runText options (fileText bytes)
  | .text content => runText options content

def shownNotices (options : Options) (outcome : Outcome) : List Char :=
  (outcome.notices.filter (Notice.isShown options.verbose)).flatMap Notice.print

/-- What a call can see: standard input, and the files by name. -/
structure Surroundings where
  standardInput : List Char
  file : List Char → Input

inductive Ending where
  | finished (code : Nat) (output notices : List Char)
  | help
  | wrong
deriving DecidableEq, Repr

def chooseInput (surroundings : Surroundings) (name : List Char) : Input :=
  if name = Understood.standardInput then .text surroundings.standardInput
  else surroundings.file name

/-- The command as a function of its arguments and surroundings. -/
def call (surroundings : Surroundings) (arguments : List (List Char)) : Ending :=
  match readArguments arguments with
  | .help => .help
  | .wrong => .wrong
  | .run options =>
      let outcome := run options (chooseInput surroundings options.input)
      .finished outcome.code outcome.output (shownNotices options outcome)

end Disassembly.CommandLine
