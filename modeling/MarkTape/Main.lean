import MarkTape.CommandLine.Invocation

/-!
# The program

Reads what the plan of the command line asks for, prints the outcome, and exits with its code.
-/

namespace MarkTape.Main

open CommandLine

/-- All of standard input. -/
def readInput : IO String := do
  let stdin ← IO.getStdin
  let mut text := ""
  repeat do
    let line ← stdin.getLine
    if line.isEmpty then break
    text := text ++ line
  return text

/-- The text of a program file. -/
def readProgram (path : String) : IO (Except ReadError String) := do
  try
    let bytes ← IO.FS.readBinFile path
    return textOfBytes defaultEncoding bytes.toList
  catch
    | .noFileOrDirectory .. => return .error (.notFound path)
    | e => throw e

/-- Print an outcome and give its exit code. -/
def finish : Except Error Outcome → IO UInt32
  | .ok o => do
    IO.eprint o.stderr
    IO.print o.stdout
    return o.exit.toUInt32
  | .error e => do
    IO.eprintln e.message
    return 1

end MarkTape.Main

open MarkTape MarkTape.CommandLine in
/-- Run the program that the arguments ask for. -/
def main (args : List String) : IO UInt32 := do
  match Plan.ofArgs args with
  | .finished o => Main.finish (.ok o)
  | .text s source => Main.finish (s.finish source)
  | .file s path => Main.finish (s.finishFile path (← Main.readProgram path))
  | .stdin s => Main.finish (s.finish (some (inputText (← Main.readInput))))
