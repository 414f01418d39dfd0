import MarkTape.Linked
import MarkTape.Source.Lexer

/-!
# Running programs

A program comes as tokens, as text or as a file, and a run of it gives the final tape, its
picture, the number of steps and the log.

* `Options`: how to run and how to show;
* `Report`: what a run gives;
* `runTokens`, `runText`, `runFile`: the three ways in;
* `runTokensLinked`, `runTextLinked`: the same on a tape of links, where nothing is known of what is
  given until it is looked at.
-/

namespace MarkTape

/-- How a program is run and its tape shown. -/
structure Options where
  display : Display
  limit : Option Nat
  trace : Bool
  deriving DecidableEq

namespace Options

/-- The name of the display mode that is used when none is asked for. -/
def defaultDisplay : String := "int"

/-- Numbers, no limit, no log. -/
def default : Options := ⟨.int, none, false⟩

/-- The options with the given display mode and limit; the mode is looked at first. -/
def ofFields (display : String) (limit : Option Int) (trace : Bool) : Except Misuse Options := do
  match Display.ofName? display with
  | none => throw (.unknownDisplayOption display)
  | some mode =>
    let limit ← Machine.checkLimit limit
    return ⟨mode, limit, trace⟩

/-- The machine that the options ask for. -/
def machine (o : Options) : Machine := ⟨o.limit, o.trace⟩

end Options

/-- What a run gives: the final tape and its picture, the number of steps, and the log. -/
structure Report where
  tape : Tape
  text : String
  steps : Int
  trace : Array String
  deriving DecidableEq

/-- The report on a state at the end of a run. -/
def State.report (display : Display) (s : State) : Report :=
  ⟨s.tape, s.tape.render display, s.pc, s.trace⟩

/-- Run a token sequence. -/
def runTokens (o : Options) (tokens : List Token) (tape : Tape) : Except Error Report :=
  (o.machine.run tokens tape).map (State.report o.display)

/-- Run a program text. -/
def runText (o : Options) (source : String) (tape : Tape) : Except Error Report := do
  let tokens ← (Source.tokenize source).mapError .rejected
  runTokens o tokens tape

/-- Run the program in a file of `files`. -/
def runFile (o : Options) (files : FileSystem) (path encoding : String) (tape : Tape) :
    Except Error Report := do
  let source ← (files.readText (Path.normalise path) encoding).mapError .unreadable
  runText o source tape

/-! ### Running on linked tapes -/

/-- Run a token sequence on a linked tape with options as they were given: the limit is looked at
again by the machine, and the display mode when the tape is shown. -/
def runTokensLinked (display : String) (limit : Option Int) (trace : Bool) (tokens : List Token)
    (tape : LinkedTape) : Except Error Report := do
  let m ← (Machine.ofLimit limit trace).mapError .misuse
  let s ← m.runLinked tokens tape
  let shown ← s.tape.read
  let mode ← (Display.ofName display).mapError .misuse
  return ⟨shown, shown.render mode, s.pc, s.trace⟩

/-- Run a program text in the same way. -/
def runTextLinked (display : String) (limit : Option Int) (trace : Bool) (source : String)
    (tape : LinkedTape) : Except Error Report := do
  let tokens ← (Source.tokenize source).mapError .rejected
  runTokensLinked display limit trace tokens tape

end MarkTape
