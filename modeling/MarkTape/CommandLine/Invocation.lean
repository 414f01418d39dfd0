import MarkTape.CommandLine.Settings
import MarkTape.Run

/-!
# One invocation

A command line gives a program text, names a file that holds one, or leaves it to standard
input. The program is run and its final tape printed; what went wrong, and the log, go to
standard error.

* `Outcome`: the exit code and both outputs;
* `Plan`: where the program text comes from, or the outcome if nothing is run;
* `Settings.finish`: the outcome once the program text is there;
* `invoke`: a whole invocation.
-/

namespace MarkTape.CommandLine

/-- How an invocation ends: the exit code, standard output and standard error. -/
structure Outcome where
  exit : Nat
  stdout : String
  stderr : String
  deriving DecidableEq

/-- The outcome of a wrong command line. -/
def UsageError.outcome (e : UsageError) : Outcome := ⟨2, "", e.report⟩

/-- What is to be done. -/
inductive Plan
  /-- Nothing is run. -/
  | finished (outcome : Outcome)
  /-- The program text is on the command line; `none` if its option has no value. -/
  | text (settings : Settings) (source : Option String)
  /-- The program text is in a file. -/
  | file (settings : Settings) (path : String)
  /-- The program text comes from standard input. -/
  | stdin (settings : Settings)

/-- What a command line asks to be done. A file with an empty name is none. -/
def Plan.ofArgs (args : List String) : Plan :=
  match Settings.ofArgs args with
  | .error .help => .finished ⟨0, help, ""⟩
  | .error (.wrong e) => .finished e.outcome
  | .ok s =>
    match s.expr, s.file with
    | some source, _ => .text s source
    | none, some path => if path = "" then .stdin s else .file s path
    | none, none => .stdin s

/-- The lines of a log, each ended by a newline. -/
def logText (lines : Array String) : String := String.join (lines.toList.map (· ++ "\n"))

/-- What is printed about a failed run. -/
def failureText (display : Display) (f : Failure) : String :=
  f.message ++ "\n" ++
  "Remaining program: " ++ Token.symbols f.remaining ++ "\n" ++
  match f.tape with
  | none => ""
  | some tape => "Last tape:\n" ++ tape.render display

/-- The outcome of a run; an error that is not about the program escapes. -/
def outcomeOfRun (display : Display) : Except Error Report → Except Error Outcome
  | .ok r => .ok ⟨0, r.text, logText r.trace⟩
  | .error (.rejected r) => .ok ⟨1, "", r.message ++ "\n"⟩
  | .error (.failed f) => .ok ⟨1, "", failureText display f⟩
  | .error e => .error e

/-- The display mode that is asked for. -/
def Settings.display (s : Settings) : Display := if s.markers then .markers else .int

/-- The outcome once the program text is there. The limit is looked at first. -/
def Settings.finish (s : Settings) (source : Option String) : Except Error Outcome :=
  if s.limit = some none then .error (.misuse .missingLimit)
  else
    match Options.ofFields s.display.name s.limit.join s.trace with
    | .error cause => .ok (UsageError.refused cause.message).outcome
    | .ok o =>
      match source with
      | none => .error (.misuse .missingText)
      | some text => outcomeOfRun o.display (runText o text .initial)

/-- The outcome once the program file has been looked for. A missing file is the user's
affair; any other trouble with it escapes. -/
def Settings.finishFile (s : Settings) (path : String) :
    Except ReadError String → Except Error Outcome
  | .ok text => s.finish (some text)
  | .error (.notFound _) => .ok ⟨1, "", "Couldn't find file: " ++ path ++ "\n"⟩
  | .error e => .error (.unreadable e)

/-- Standard input with its line ends unified. -/
def inputText (stdin : String) : String := String.ofList (Text.unifyNewlines stdin.toList)

/-- An invocation with the given arguments and standard input, among the given files. -/
def invoke (files : FileSystem) (stdin : String) (args : List String) : Except Error Outcome :=
  match Plan.ofArgs args with
  | .finished o => .ok o
  | .text s source => s.finish source
  | .file s path => s.finishFile path (files.readText path defaultEncoding)
  | .stdin s => s.finish (some (inputText stdin))

end MarkTape.CommandLine
