import MarkTape.Error

/-!
# The machine

A machine goes through a program and carries it out on a tape.

* `Cursor`: a program and a counter;
* `Cursor.remaining`: what is left of the program;
* `Cursor.done`: nothing is left;
* `Cursor.fetch`: the token at the counter;
* `State`: a place in a program, the tape it runs on, and a log;
* `State.note`: one more line of the log;
* `State.execute`: the effect of one token;
* `Machine`: the limit and whether to log;
* `Machine.start`: the state before the first step;
* `Machine.next`: the token that is up;
* `Machine.step`: one step from any state;
* `Machine.run`: all steps of a program;
* `Machine.observe`: the states of a run, only as many as are asked for;
* `Tapeless`: a state without a tape;
* `Machine.refuse`: what a step from it reports.
-/

namespace MarkTape

/-! ### Places in a program

A program counter is the number of the next instruction, from zero. One that was chosen by hand
may be any number: a negative one counts back from the end of the program, and one that leads
nowhere points at no token.
-/

/-- A program and the number of its next instruction. -/
structure Cursor where
  program : List Token
  pc : Int
  deriving DecidableEq

namespace Cursor

/-- The place in the program that the counter points at: a negative counter counts from the
end. -/
def index (c : Cursor) : Int := if 0 ≤ c.pc then c.pc else c.program.length + c.pc

/-- The instructions from the counter on; all of them when it points before the first. -/
def remaining (c : Cursor) : List Token := c.program.drop c.index.toNat

/-- The counter has passed the last instruction. -/
def done (c : Cursor) : Bool := c.program.length ≤ c.pc

/-- The token at the counter, if there is one. -/
def fetch? (c : Cursor) : Option Token :=
  if 0 ≤ c.index then c.program[c.index.toNat]? else none

/-- The token at the counter, or why there is none. -/
def fetch (c : Cursor) : Except Misuse Token :=
  match c.fetch? with
  | some t => .ok t
  | none => .error (if isIndex c.pc then .outsideProgram else .farCounter)

end Cursor

/-! ### States of a run

A state is a program, how far it has been carried out, the tape reached, and the lines logged
so far. A run counts its steps from zero; a state made by hand may have any counter.
-/

/-- A place in a program, the tape it runs on, and a log. -/
structure State extends Cursor where
  tape : Tape
  trace : Array String
  isTracing : Bool
  deriving DecidableEq

namespace State

/-- One more line of the log, if the state keeps one. -/
@[inline] def note (s : State) (line : String) : State :=
  if s.isTracing then { s with trace := s.trace.push line } else s

/-- The line that is logged for a token: the step, its symbol, and the tape it led to. -/
def traceLine (step : Int) (t : Token) (tape : Tape) : String :=
  Text.integer step ++ ": " ++ String.singleton t.symbol ++
    " back=" ++ Text.bracketedNumbers tape.back.values ++
    " front=" ++ Text.bracketedNumbers tape.front.values

/-- The state after `t` has led to `tape`. -/
def advance (s : State) (t : Token) (tape : Tape) : State :=
  { s with tape := tape, pc := s.pc + 1 }.note (traceLine s.pc t tape)

/-- Carry out the token `t`: its rule changes the tape, or its fault ends the run. -/
def execute (s : State) (t : Token) : Except Error State :=
  match t.rule? with
  | none => .error (.misuse (.noRule t))
  | some rule =>
    match rule s.tape with
    | .error fault => .error (.failed (fault.failureAt t s.pc s.remaining s.tape))
    | .ok tape => .ok (s.advance t tape)

@[simp] theorem note_toCursor (s : State) (line : String) :
    (s.note line).toCursor = s.toCursor := by
  unfold note
  split <;> rfl

@[simp] theorem note_tape (s : State) (line : String) : (s.note line).tape = s.tape := by
  unfold note
  split <;> rfl

@[simp] theorem note_isTracing (s : State) (line : String) :
    (s.note line).isTracing = s.isTracing := by
  unfold note
  split <;> rfl

end State

/-! ### Machines

A machine carries out a program one instruction at a time, up to a limit on the number of steps,
and keeps a log if it is asked to. The limit is looked at before the instruction is.
-/

/-- A machine: how many steps it may make, if limited, and whether it keeps a log. -/
structure Machine where
  limit : Option Nat
  trace : Bool
  deriving DecidableEq

namespace Machine

/-- A limit must not be negative. -/
def checkLimit : Option Int → Except Misuse (Option Nat)
  | none => .ok none
  | some (.ofNat n) => .ok (some n)
  | some (.negSucc n) => .error (.negativeLimit (.negSucc n))

/-- The machine with the given limit. -/
def ofLimit (limit : Option Int) (trace : Bool) : Except Misuse Machine :=
  (checkLimit limit).map fun limit => ⟨limit, trace⟩

/-- The state before the first step; a program holds instructions only. -/
def start (m : Machine) (program : List Token) (tape : Tape) : Except Error State :=
  match program.find? fun t => !t.isInstruction with
  | some t => .error (.misuse (.notInstruction t))
  | none => .ok { program, pc := 0, tape, trace := #[], isTracing := m.trace }

/-- The limit allows one more step at `c`, where `tape` has been reached. -/
def permit (m : Machine) (c : Cursor) (tape : Option Tape) : Except Error Unit :=
  match m.limit with
  | none => .ok ()
  | some limit =>
    if limit ≤ c.pc then .error (.failed (.limitReached limit c.pc c.remaining tape))
    else .ok ()

/-- Carry out `t` within the limit. -/
def perform (m : Machine) (s : State) (t : Token) : Except Error State := do
  m.permit s.toCursor (some s.tape)
  s.execute t

/-- The token to be carried out at `c` within the limit, where `tape` has been reached. -/
def next (m : Machine) (c : Cursor) (tape : Option Tape) : Except Error Token := do
  if c.done then throw (.misuse .finished)
  m.permit c tape
  c.fetch.mapError .misuse

/-- One step: the token at the counter is carried out within the limit. -/
def step (m : Machine) (s : State) : Except Error State := do
  s.execute (← m.next s.toCursor (some s.tape))

/-- All steps of a program, or the first that fails. -/
def run (m : Machine) (program : List Token) (tape : Tape) : Except Error State := do
  let s ← m.start program tape
  program.foldlM m.perform s

/-! ### Watching a run -/

/-- The states of a run that were asked for, and the error that ended it, if it was met. -/
structure Trail where
  states : List State
  failure : Option Error
  deriving DecidableEq

/-- The states after `s` while the tokens are carried out; `wanted` says how many are asked for,
and `none` asks for all. -/
def follow (m : Machine) (wanted : Option Nat) (s : State) : List Token → Trail
  | [] => ⟨[], none⟩
  | t :: ts =>
    if wanted = some 0 then ⟨[], none⟩
    else
      match m.perform s t with
      | .error e => ⟨[], some e⟩
      | .ok next =>
        let rest := m.follow (wanted.map (· - 1)) next ts
        { rest with states := next :: rest.states }

/-- The states of a run from the first on. Nothing is looked at, the program included, before
it is asked for. -/
def observe (m : Machine) (wanted : Option Nat) (program : List Token) (tape : Tape) : Trail :=
  if wanted = some 0 then ⟨[], none⟩
  else
    match m.start program tape with
    | .error e => ⟨[], some e⟩
    | .ok s =>
      let rest := m.follow (wanted.map (· - 1)) s program
      { rest with states := s :: rest.states }

end Machine

/-! ### States without a tape

A state made by hand may be left without a tape. It can be looked at and its log can grow, but
no step can be made from it.
-/

/-- A place in a program and a log, without a tape to run on. -/
structure Tapeless extends Cursor where
  trace : Array String
  isTracing : Bool
  deriving DecidableEq

/-- One more line of the log, if the state keeps one. -/
def Tapeless.note (s : Tapeless) (line : String) : Tapeless :=
  if s.isTracing then { s with trace := s.trace.push line } else s

/-- The side of the tape that the rule of a token looks at first. -/
def Token.neededSide : Token → Part
  | .right => .front
  | _ => .back

/-- Why there is no step from `s`, where a value of the given kind stands in place of the tape.
All that can be known without a tape is looked at before the tape is missed. -/
def Machine.refuse (m : Machine) (kind : String) (s : Tapeless) : Error :=
  match m.next s.toCursor none with
  | .error e => e
  | .ok t => .misuse (if t.isInstruction then .lacks kind t.neededSide else .noRule t)

end MarkTape
