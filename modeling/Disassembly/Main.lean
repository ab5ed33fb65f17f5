import Disassembly.CommandLine

/-!
The executable. It reads what the arguments ask for, runs the command on it and prints what the
run leaves behind.
-/

open Disassembly

def readFile (name : String) : IO CommandLine.Input := do
  try
    let bytes ← IO.FS.readBinFile name
    pure (.file bytes.toList)
  catch
    | .permissionDenied .. => pure .denied
    | _ => pure .missing

def usage : String :=
  "usage: disassembly [-h] [--arch ARCH] [--describe] [--verbose] [input]"

def main (arguments : List String) : IO UInt32 := do
  match CommandLine.readArguments (arguments.map String.toList) with
  | .help =>
      IO.println usage
      pure 0
  | .wrong =>
      IO.eprintln usage
      pure 2
  | .run options => do
      let input ←
        if options.input = CommandLine.Understood.standardInput then do
          let text ← (← IO.getStdin).readToEnd
          pure (.text text.toList)
        else readFile (String.ofList options.input)
      let outcome := CommandLine.run options input
      IO.eprint (String.ofList (CommandLine.shownNotices options outcome))
      IO.print (String.ofList outcome.output)
      pure outcome.code.toUInt32
