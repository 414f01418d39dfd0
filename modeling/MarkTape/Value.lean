import MarkTape.Run

/-!
# Values of any kind

What the library makes can be held, written down, compared and worked with as a value.

* `Token.describeAll`, `describeLog`: the parts that several kinds share;
* `Counter.describe`, `CellStack.describe`, `Tape.describe`, `State.describe`,
  `Tapeless.describe`, `Options.describe`, `Report.describe`, `Diagnostic.describe`: the written
  forms;
* `Value`: a value of one of the kinds that can be held and compared;
* `Value.kindName`: the name of its kind;
* `Value.describe?`: its written form;
* `Value.distinct`: how many different values a list holds;
* `Value.counterFor`, `Value.stackFor`, `Value.tapeFor`, `Value.machineFor`: a value as one of a
  given kind;
* `Value.heldTape`, `Value.newTape`: the tape within a value, and one made of two values;
* `Value.step`, `Value.run`, `Value.note`: what is done with states and tapes;
* `Value.renderCell`, `Value.render`: values as text;
* `Value.size`, `Value.isFull`: how much a value holds.
-/

namespace MarkTape

/-! ### Written forms

Every value has a written form: the name of its kind and its fields in order. Counters and
stacks show their numbers only.
-/

/-- The written form of a token sequence. -/
def Token.describeAll (ts : List Token) : String := Text.parenthesised (ts.map Token.describe)

/-- The written form of a log. -/
def describeLog (lines : Array String) : String := Text.bracketed (lines.toList.map Text.quote)

/-- The written form of a counter. -/
def Counter.describe (c : Counter) : String := "Counter(" ++ Text.natural c.value ++ ")"

/-- The written form of a stack. -/
def CellStack.describe (s : CellStack) : String :=
  "CellStack(" ++ Text.bracketedNumbers s.values ++ ")"

/-- The written form of a tape. -/
def Tape.describe (t : Tape) : String :=
  Text.record "Tape" [("back", t.back.describe), ("front", t.front.describe)]

/-- The written form of a place in a program with a tape, if there is one, and a log. -/
def Cursor.describeWith (c : Cursor) (tape : Option Tape) (trace : Array String)
    (isTracing : Bool) : String :=
  Text.record "InterpreterState"
    [("program", Token.describeAll c.program), ("tape", Text.optional Tape.describe tape),
     ("pc", Text.integer c.pc), ("trace", describeLog trace),
     ("is_tracing", Text.truth isTracing)]

/-- The written form of a state. -/
def State.describe (s : State) : String := s.describeWith (some s.tape) s.trace s.isTracing

/-- The written form of a state without a tape. -/
def Tapeless.describe (s : Tapeless) : String := s.describeWith none s.trace s.isTracing

/-- The written form of options. -/
def Options.describe (o : Options) : String :=
  Text.record "RunOptions"
    [("display", Text.quote o.display.name), ("max_steps", Text.optional Text.natural o.limit),
     ("trace", Text.truth o.trace)]

/-- The written form of a report. -/
def Report.describe (r : Report) : String :=
  Text.record "RunResult"
    [("tape", r.tape.describe), ("text", Text.quote r.text), ("steps", Text.integer r.steps),
     ("trace", describeLog r.trace)]

/-- The fields of a diagnostic, the message first. -/
def Diagnostic.fields : Diagnostic → List (String × String)
  | .plain m => [("message", Text.quote m)]
  | .rejection r =>
    [("message", Text.quote r.message), ("line", Text.integer r.line),
     ("column", Text.integer r.column), ("context", Text.quote r.context)]
  | .outline m line column context =>
    [("message", Text.quote m), ("line", Text.optional Text.integer line),
     ("column", Text.optional Text.integer column), ("context", Text.optional Text.quote context)]
  | .failure f =>
    [("message", Text.quote f.message), ("remaining", Token.describeAll f.remaining),
     ("tape", Text.optional Tape.describe f.tape), ("step", Text.optional Text.integer f.step)]

/-- The written form of a diagnostic. -/
def Diagnostic.describe (d : Diagnostic) : String := Text.record d.kindName d.fields

/-! ### Values

Values of different kinds differ. Every machine is an individual, told apart by its serial
number. A state keeps a log that can grow and a diagnostic is a report, so neither can be a
member of a set.
-/

/-- A value of any kind. -/
inductive Value
  | counter (c : Counter)
  | stack (s : CellStack)
  | tape (t : Tape)
  | machine (serial : Nat) (m : Machine)
  | state (s : State)
  | tapeless (s : Tapeless)
  | diagnostic (d : Diagnostic)
  /-- What was left out. -/
  | absent
  deriving DecidableEq

namespace Value

/-- The tape, unless it was left out. -/
def ofTape : Option Tape → Value
  | some t => .tape t
  | none => .absent

/-- The name of the kind of a value. -/
def kindName : Value → String
  | .counter _ => "Counter"
  | .stack _ => "CellStack"
  | .tape _ => "Tape"
  | .machine _ _ => "TapeInterpreter"
  | .state _ | .tapeless _ => "InterpreterState"
  | .diagnostic d => d.kindName
  | .absent => absentKind

/-- The written form; a machine has none. -/
def describe? : Value → Option String
  | .counter c => some c.describe
  | .stack s => some s.describe
  | .tape t => some t.describe
  | .machine _ _ => none
  | .state s => some s.describe
  | .tapeless s => some s.describe
  | .diagnostic d => some d.describe
  | .absent => some Text.nothing

/-- A value that can be a member of a set. -/
def isFit : Value → Bool
  | .state _ | .tapeless _ | .diagnostic _ => false
  | _ => true

/-- How many different values the list holds; the first that cannot be a member of a set is
refused. -/
def distinct (vs : List Value) : Except Misuse Nat :=
  match vs.find? fun v => !v.isFit with
  | some v => .error (.notSetMember v.kindName)
  | none => .ok vs.eraseDups.length

end Value

/-! ### Working with values of any kind

An operation takes what it needs from a value. A value of another kind is refused: it lacks the
part that the operation asks for first.
-/

/-- The part of a cell that is shown. -/
def Display.part : Display → Part
  | .int => .value
  | .markers => .marks

namespace Value

/-- The counter that a value is, for the sake of one of its parts. -/
def counterFor (part : Part) : Value → Except Misuse Counter
  | .counter c => .ok c
  | v => .error (.lacks v.kindName part)

/-- The stack that a value is, for the sake of one of its parts. -/
def stackFor (part : Part) : Value → Except Misuse CellStack
  | .stack s => .ok s
  | v => .error (.lacks v.kindName part)

/-- The tape that a value is, for the sake of one of its parts. -/
def tapeFor (part : Part) : Value → Except Misuse Tape
  | .tape t => .ok t
  | v => .error (.lacks v.kindName part)

/-- The machine that a value is, for the sake of one of its parts. A failure has a step as well,
but only as a number. -/
def machineFor (part : Part) : Value → Except Misuse Machine
  | .machine _ m => .ok m
  | .diagnostic (.failure f) =>
    if part = .step then .error (.idle (if f.step.isSome then numberKind else absentKind))
    else .error (.lacks f.kind.name part)
  | v => .error (.lacks v.kindName part)

/-- The tape within a state or a failure. -/
def heldTape : Value → Except Misuse Value
  | .state s => .ok (.tape s.tape)
  | .tapeless _ => .ok .absent
  | .diagnostic (.failure f) => .ok (ofTape f.tape)
  | v => .error (.lacks v.kindName .tape)

/-- The state after one step. -/
def step (m : Machine) : Value → Except Error Value
  | .state s => (m.step s).map .state
  | .tapeless s => .error (m.refuse absentKind s)
  | v => .error (.misuse (.lacks v.kindName .done))

/-- The state at the end of a run. Without a tape it starts on the initial one; a value of another
kind in place of the tape is missed at the first step. -/
def run (m : Machine) (program : List Token) : Value → Except Error Value
  | .tape t => (m.run program t).map .state
  | .absent => (m.run program .initial).map .state
  | v => do
    let s ← m.start program .initial
    throw (m.refuse v.kindName ⟨s.toCursor, s.trace, s.isTracing⟩)

/-- The state with one more line in its log. -/
def note (line : String) : Value → Except Misuse Value
  | .state s => .ok (.state (s.note line))
  | .tapeless s => .ok (.tapeless (s.note line))
  | v => .error (.lacks v.kindName .addTrace)

/-- A cell in the mode of the given name, which is looked at first. -/
def renderCell (mode : String) (v : Value) : Except Misuse String := do
  let display ← Display.ofName mode
  return (← v.counterFor display.part).render display

/-- A tape in the mode of the given name; the tape is looked at first. -/
def render (mode : String) (v : Value) : Except Misuse String := do
  let t ← v.tapeFor .back
  return t.render (← Display.ofName mode)

/-- How many marks or cells a value holds. -/
def size : Value → Except Misuse Nat
  | .counter c => .ok c.value
  | .stack s => .ok s.length
  | v => .error (.noLength v.kindName)

/-- The value is there and not empty. -/
def isFull : Value → Bool
  | .counter c => 0 < c.value
  | .stack s => !s.isEmpty
  | .absent => false
  | _ => true

/-- The tape with the given sides. The current cell is missed before a side of another kind is
looked at. -/
def newTape (back front : Value) : Except Misuse Value := do
  if !back.isFull then throw .noCurrentCell
  let back ← back.stackFor .values
  let front ← front.stackFor .values
  (Tape.ofStacks back front).map .tape

end Value

end MarkTape
