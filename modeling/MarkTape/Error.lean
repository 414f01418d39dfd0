import MarkTape.FileSystem
import MarkTape.Source.Rejection
import MarkTape.Tape

/-!
# Errors

Everything that can keep a request from being answered, and what is known about it.

* `Failure.Kind`: what went wrong;
* `Failure`: the report;
* `Failure.within`: the report with what is known within a run;
* `Fault.failure`, `Fault.failureAt`: the failure of a rule, alone and within a run;
* `Error`: everything that can keep a request from being answered;
* `Error.message`: what is said about it;
* `Diagnostic`: a bare message, a rejection, the outline of one, or a failure;
* `Diagnostic.Kind`, `Diagnostic.kindName`: its kind, and the name of that;
* `Error.diagnostic?`: the errors that carry one;
* `Diagnostic.Kind.fields`, `Diagnostic.Kind.needed`: the fields of a kind;
* `Diagnostic.Form`: the fields that were given;
* `Diagnostic.Form.build`: the diagnostic made of them.
-/

namespace MarkTape

/-! ### Failures of a run

A run that cannot go on reports the instructions it did not carry out, the tape it had reached
and the number of the step.
-/

/-- What kept a run from going on. -/
inductive Failure.Kind
  /-- No particular cause. -/
  | unspecified
  /-- The head would have left the tape. -/
  | underflow
  /-- No rule applied to the current cell. -/
  | stuck
  /-- The step limit was reached. -/
  | exhausted
  deriving DecidableEq

/-- The report of a run that failed; what is not known is left out. -/
structure Failure where
  kind : Failure.Kind
  message : String
  remaining : List Token
  tape : Option Tape
  step : Option Int
  deriving DecidableEq

/-- The kind of failure that a fault makes. -/
def Fault.kind : Fault → Failure.Kind
  | .underflow => .underflow
  | .zeroCell => .stuck

/-- The failure of a rule applied outside any run. -/
def Fault.failure (f : Fault) : Failure := ⟨f.kind, f.message, [], none, none⟩

/-- A failure as it is reported by a run: the step and the instruction are added to its message,
and what is left of the program and the tape to the report. -/
def Failure.within (e : Failure) (token : Token) (step : Int) (remaining : List Token)
    (tape : Option Tape) : Failure :=
  { e with
    message := e.message ++ " (step " ++ Text.integer step ++ ", instruction " ++
      Text.quote (String.singleton token.symbol) ++ ")"
    remaining := remaining
    tape := tape
    step := some step }

/-- The failure of a rule at step `step`, for the instruction `token`. -/
def Fault.failureAt (f : Fault) (token : Token) (step : Int) (remaining : List Token)
    (tape : Tape) : Failure :=
  f.failure.within token step remaining (some tape)

/-- The failure of a run that has used up its limit. -/
def Failure.limitReached (limit : Nat) (step : Int) (remaining : List Token)
    (tape : Option Tape) : Failure :=
  { kind := .exhausted
    message := "ResourceExhausted: step limit of " ++ Text.natural limit ++ " reached"
    remaining := remaining
    tape := tape
    step := some step }

/-! ### Causes of errors -/

/-- Why a request has no answer. -/
inductive Error
  /-- What was given makes no sense. -/
  | misuse (cause : Misuse)
  /-- The program text was rejected. -/
  | rejected (rejection : Source.Rejection)
  /-- The run failed. -/
  | failed (failure : Failure)
  /-- The program file could not be read. -/
  | unreadable (cause : ReadError)
  deriving DecidableEq

/-- What is said about an error. -/
def Error.message : Error → String
  | .misuse cause => cause.message
  | .rejected rejection => rejection.message
  | .failed failure => failure.message
  | .unreadable cause => cause.message

/-! ### Diagnostics

What is known about a rejected text or a failed run is a value of its own: it can be built,
compared and written down.
-/

/-- A message about a program, with what else is known. -/
inductive Diagnostic
  /-- Nothing but a message. -/
  | plain (message : String)
  /-- A program text was rejected. -/
  | rejection (rejection : Source.Rejection)
  /-- A program text was rejected, of which something is not known. -/
  | outline (message : String) (line column : Option Int) (context : Option String)
  /-- A run failed. -/
  | failure (failure : Failure)
  deriving DecidableEq

/-- The name under which a kind of failure is reported. -/
def Failure.Kind.name : Failure.Kind → String
  | .unspecified => "InterpreterError"
  | .underflow => "TapeUnderflow"
  | .stuck => "NoApplicableRule"
  | .exhausted => "ResourceExhausted"

namespace Diagnostic

/-- The kinds of diagnostics. -/
inductive Kind
  | plain
  | rejection
  | failure (kind : Failure.Kind)
  deriving DecidableEq

/-- The name under which a kind of diagnostic is reported. -/
def Kind.name : Kind → String
  | .plain => "BFRWError"
  | .rejection => "LexicalRejection"
  | .failure kind => kind.name

/-- The kind of a name; a stuck run has two names. -/
def Kind.ofName? : String → Option Kind
  | "BFRWError" => some .plain
  | "LexicalRejection" => some .rejection
  | "InterpreterError" => some (.failure .unspecified)
  | "TapeUnderflow" => some (.failure .underflow)
  | "NoApplicableRule" | "Stuck" => some (.failure .stuck)
  | "ResourceExhausted" => some (.failure .exhausted)
  | _ => none

@[simp] theorem Kind.ofName?_name (kind : Kind) : Kind.ofName? kind.name = some kind := by
  rcases kind with _ | _ | ⟨_ | _ | _ | _⟩ <;> rfl

/-- The kind of a diagnostic. -/
def kind : Diagnostic → Kind
  | .plain _ => .plain
  | .rejection _ | .outline .. => .rejection
  | .failure f => .failure f.kind

/-- The name under which a diagnostic is reported. -/
def kindName (d : Diagnostic) : String := d.kind.name

/-- The message of a diagnostic. -/
def message : Diagnostic → String
  | .plain m => m
  | .rejection r => r.message
  | .outline m _ _ _ => m
  | .failure f => f.message

/-- A rejected text, as far as it is known. -/
def ofRejection (message : String) :
    Option Int → Option Int → Option String → Diagnostic
  | some line, some column, some context => .rejection ⟨message, line, column, context⟩
  | line, column, context => .outline message line column context

end Diagnostic

/-- The diagnostic of an error, if it is about a program. -/
def Error.diagnostic? : Error → Option Diagnostic
  | .rejected r => some (.rejection r)
  | .failed f => some (.failure f)
  | _ => none

end MarkTape

namespace MarkTape.Diagnostic

/-! ### Diagnostics from their fields

A diagnostic can be made by hand from named fields. Each kind knows the fields that it has and
those that it needs; a field that it does not have is refused before one that it lacks. A field
can be given as absent; that will do for all but the message and the tokens.
-/

namespace Kind

/-- The fields that a diagnostic of the kind needs, in order. -/
def needed : Kind → List String
  | .rejection => ["message", "line", "column", "context"]
  | _ => ["message"]

/-- The fields that a diagnostic of the kind has, in order. -/
def fields (kind : Kind) : List String :=
  kind.needed ++
    match kind with
    | .failure _ => ["remaining", "tape", "step"]
    | _ => []

end Kind

/-- What was said about a field: nothing, that it is absent, or its value. -/
abbrev Entry (α : Type) := Option (Option α)

/-- The fields that were given. -/
structure Form where
  message : Entry String
  line : Entry Int
  column : Entry Int
  context : Entry String
  remaining : Entry (List Token)
  tape : Entry Tape
  step : Entry Int

namespace Form

/-- The fields about which something was said. Texts and numbers come before the fields that are
made of tokens and cells. -/
def said (form : Form) : List String :=
  let all := [("message", form.message.isSome), ("line", form.line.isSome),
    ("column", form.column.isSome), ("context", form.context.isSome), ("step", form.step.isSome),
    ("remaining", form.remaining.isSome), ("tape", form.tape.isSome)]
  (all.filter (·.2)).map (·.1)

/-- The first field about which something was said and which the kind does not have. -/
def stray? (form : Form) (kind : Kind) : Option String :=
  form.said.find? fun name => !kind.fields.contains name

/-- The needed fields about which nothing was said, in order. -/
def missing (form : Form) (kind : Kind) : List String :=
  kind.needed.filter fun name => !form.said.contains name

/-- The diagnostic of a kind with the given fields; what is not needed may be left out. -/
def build (form : Form) (kind : Kind) : Except Misuse Diagnostic :=
  if form.remaining = some none then .error .noTokens
  else
    match form.stray? kind, form.missing kind, form.message.join with
    | some name, _, _ => .error (.strayField kind.name name)
    | none, name :: names, _ => .error (.missingFields kind.name (name :: names))
    | none, [], none => .error .noMessage
    | none, [], some m =>
      match kind with
      | .plain => .ok (.plain m)
      | .rejection => .ok (.ofRejection m form.line.join form.column.join form.context.join)
      | .failure k =>
        .ok (.failure ⟨k, m, form.remaining.join.getD [], form.tape.join, form.step.join⟩)

end Form

end MarkTape.Diagnostic
