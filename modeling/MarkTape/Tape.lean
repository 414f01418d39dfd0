import MarkTape.Misuse

/-!
# The tape

Cells are counters, stacks of cells meet at the head, each instruction has a rule that changes the
tape there, and a tape can be shown.

* `Counter`: the run of marks, by its length;
* `Counter.ofInt`, `Counter.ofMarks`: counters from a number and from a run of marks;
* `Counter.addMark`, `Counter.takeMark`: one mark more, one mark less;
* `CellStack`: the stack, top first;
* `CellStack.ofInts`, `CellStack.values`: from numbers and back;
* `CellStack.pop`: the top cell and what lies under it;
* `Tape`: current cell, cells to the left, cells to the right;
* `Tape.back`, `Tape.front`, `Tape.values`: the two stacks and their numbers;
* `Tape.initial`, `Tape.ofStacks`, `Tape.ofInts`: tapes from their parts;
* `Tape.moveLeft`, `Tape.moveRight`, `Tape.increment`, `Tape.decrement`: the rules;
* `Fault`: why a rule does not apply;
* `Token.rule?`: the rule of each instruction;
* `Display`: the two modes;
* `Counter.render`, `Tape.render`: a cell and a tape as text.
-/

namespace MarkTape

/-! ### Counters

A cell of the tape is a counter: a run of marks whose length is the value of the cell.
All marks are alike, so the length is the whole counter.
-/

/-- A run of `value` marks. -/
structure Counter where
  value : Nat
  deriving DecidableEq

namespace Counter

/-- The empty counter. -/
def zero : Counter := ⟨0⟩

/-- The counter of a given value, which must not be negative. -/
def ofInt : Int → Except Misuse Counter
  | .ofNat n => .ok ⟨n⟩
  | .negSucc n => .error (.negativeCounter (.negSucc n))

/-- The counter that holds the given tokens, which must all be marks. -/
def ofMarks (ts : List Token) : Except Misuse Counter :=
  if ts.all (· = .mark) then .ok ⟨ts.length⟩ else .error .notMark

/-- The marks themselves. -/
def marks (c : Counter) : List Token := List.replicate c.value .mark

/-- One mark more. -/
def addMark (c : Counter) : Counter := ⟨c.value + 1⟩

/-- One mark less; an empty counter has none to take. -/
def takeMark : Counter → Except Misuse Counter
  | ⟨0⟩ => .error .emptyCounter
  | ⟨n + 1⟩ => .ok ⟨n⟩

@[simp] theorem value_addMark (c : Counter) : c.addMark.value = c.value + 1 := rfl

@[simp] theorem takeMark_addMark (c : Counter) : c.addMark.takeMark = .ok c := rfl

@[simp] theorem ofInt_natCast (n : Nat) : ofInt (n : Int) = .ok ⟨n⟩ := rfl

@[simp] theorem length_marks (c : Counter) : c.marks.length = c.value := by
  simp [marks]

/-- A counter is recovered from its marks. -/
theorem ofMarks_marks (c : Counter) : ofMarks c.marks = .ok c := by
  simp [ofMarks, marks]

end Counter

/-! ### Stacks of cells

The cells on one side of the head, the nearest first.
-/

/-- A stack of cells, the one nearest to the head on top. -/
abbrev CellStack := List Counter

namespace CellStack

/-- The stack with the given values, the first on top; the first negative value is refused. -/
def ofInts (values : List Int) : Except Misuse CellStack := values.mapM Counter.ofInt

/-- The values of the cells, top first. -/
def values (s : CellStack) : List Nat := s.map Counter.value

/-- The stack `s` with one more cell on top. -/
def push (s : CellStack) (c : Counter) : CellStack := c :: s

/-- The top cell and the rest; an empty stack has neither. -/
def pop : CellStack → Except Misuse (Counter × CellStack)
  | [] => .error .emptyStack
  | c :: s => .ok (c, s)

@[simp] theorem pop_push (s : CellStack) (c : Counter) : pop (push s c) = .ok (c, s) := rfl

@[simp] theorem values_nil : values [] = [] := rfl

@[simp] theorem values_cons (c : Counter) (s : CellStack) :
    values (c :: s) = c.value :: values s := rfl

@[simp] theorem length_values (s : CellStack) : (values s).length = s.length := by
  simp [values]

/-- Stacks with the same values are the same. -/
theorem eq_of_values_eq {s r : CellStack} (h : s.values = r.values) : s = r :=
  (List.map_inj_right fun ⟨_⟩ ⟨_⟩ => congrArg Counter.mk).1 h

end CellStack

/-! ### Tapes

The tape begins at its leftmost cell and has no right end: a cell to the right exists
from the moment the head first enters it. Two stacks meet at the head. The back stack
holds the current cell and all cells to its left, the front stack the cells to its right
that have been entered, and both run away from the head. The current cell is a field of
its own, so a back stack is never empty.
-/

/-- A tape seen from its head; both sides run away from the head. -/
structure Tape where
  current : Counter
  left : CellStack
  right : CellStack
  deriving DecidableEq

namespace Tape

/-- The current cell and the cells to its left, nearest first. -/
def back (t : Tape) : CellStack := t.current :: t.left

/-- The cells to the right of the head, nearest first. -/
def front (t : Tape) : CellStack := t.right

/-- One empty cell under the head. -/
def initial : Tape := ⟨.zero, [], []⟩

/-- The tape with the given stacks; the back must hold the current cell. -/
def ofStacks : CellStack → CellStack → Except Misuse Tape
  | [], _ => .error .noCurrentCell
  | cell :: left, right => .ok ⟨cell, left, right⟩

/-- The tape with the given values. A negative value in the back is reported before one in the
front, and either before an empty back. -/
def ofInts (back front : List Int) : Except Misuse Tape := do
  let back ← CellStack.ofInts back
  let front ← CellStack.ofInts front
  ofStacks back front

/-- The values of the back and of the front, nearest first. -/
def values (t : Tape) : List Nat × List Nat := (t.back.values, t.front.values)

@[simp] theorem ofStacks_back_front (t : Tape) : ofStacks t.back t.front = .ok t := rfl

end Tape

/-! ### The rules of the instructions

Each instruction has one rule, which changes the tape around the head. A move to the left
needs a cell there and a decrement needs a mark to take; a move to the right and an
increment always apply.
-/

/-- Why a rule does not apply to a tape. -/
inductive Fault
  /-- The head stands on the leftmost cell. -/
  | underflow
  /-- The current cell is empty. -/
  | zeroCell
  deriving DecidableEq

/-- What is said about a fault. -/
def Fault.message : Fault → String
  | .underflow => "TapeUnderflow: no cell to the left of the head"
  | .zeroCell => "NoApplicableRule: cannot decrement a zero cell"

namespace Tape

/-- The head goes one cell to the left. -/
def moveLeft : Tape → Except Fault Tape
  | ⟨_, [], _⟩ => .error .underflow
  | ⟨cell, next :: left, right⟩ => .ok ⟨next, left, cell :: right⟩

/-- The head goes one cell to the right; past the last cell it enters a new, empty one. -/
def moveRight : Tape → Tape
  | ⟨cell, left, []⟩ => ⟨.zero, cell :: left, []⟩
  | ⟨cell, left, next :: right⟩ => ⟨next, cell :: left, right⟩

/-- The current cell gets one mark more. -/
def increment (t : Tape) : Tape := { t with current := t.current.addMark }

/-- The current cell gets one mark less. -/
def decrement : Tape → Except Fault Tape
  | ⟨⟨0⟩, _, _⟩ => .error .zeroCell
  | ⟨⟨n + 1⟩, left, right⟩ => .ok ⟨⟨n⟩, left, right⟩

@[simp] theorem moveRight_nil (c : Counter) (l : CellStack) :
    moveRight ⟨c, l, []⟩ = ⟨.zero, c :: l, []⟩ := rfl

@[simp] theorem moveRight_cons (c d : Counter) (l r : CellStack) :
    moveRight ⟨c, l, d :: r⟩ = ⟨d, c :: l, r⟩ := rfl

@[simp] theorem moveLeft_nil (c : Counter) (r : CellStack) :
    moveLeft ⟨c, [], r⟩ = .error .underflow := rfl

@[simp] theorem moveLeft_cons (c d : Counter) (l r : CellStack) :
    moveLeft ⟨c, d :: l, r⟩ = .ok ⟨d, l, c :: r⟩ := rfl

@[simp] theorem decrement_zero (l r : CellStack) :
    decrement ⟨⟨0⟩, l, r⟩ = .error .zeroCell := rfl

@[simp] theorem decrement_succ (n : Nat) (l r : CellStack) :
    decrement ⟨⟨n + 1⟩, l, r⟩ = .ok ⟨⟨n⟩, l, r⟩ := rfl

/-- A decrement undoes an increment. -/
@[simp] theorem decrement_increment (t : Tape) : t.increment.decrement = .ok t := rfl

end Tape

/-- A rule gives the changed tape or says why it does not apply. -/
abbrev Rule := Tape → Except Fault Tape

/-- The rule of a token; the mark has none. -/
def Token.rule? : Token → Option Rule
  | .left => some Tape.moveLeft
  | .right => some fun t => .ok t.moveRight
  | .inc => some fun t => .ok t.increment
  | .dec => some Tape.decrement
  | .mark => none

/-- Exactly the instructions have rules. -/
theorem Token.isSome_rule? (t : Token) : t.rule?.isSome = t.isInstruction := by
  cases t <;> rfl

/-! ### Showing a tape

A cell is shown as a decimal number or as its marks in brackets, and a tape as one row per
cell from left to right, under the headings of its two sections.
-/

/-- How cells are shown. -/
inductive Display
  /-- As decimal numbers. -/
  | int
  /-- As marks in square brackets. -/
  | markers
  deriving DecidableEq

namespace Display

/-- The name of a mode. -/
def name : Display → String
  | .int => "int"
  | .markers => "markers"

/-- The mode of a given name. -/
def ofName? (s : String) : Option Display :=
  if s = "int" then some .int else if s = "markers" then some .markers else none

/-- The mode in which something is asked to be shown. -/
def ofName (s : String) : Except Misuse Display :=
  match ofName? s with
  | some d => .ok d
  | none => .error (.unknownDisplay s)

@[simp] theorem ofName?_name (d : Display) : ofName? d.name = some d := by
  cases d <;> rfl

end Display

/-- A cell as text. -/
def Counter.render (display : Display) (c : Counter) : String :=
  match display with
  | .int => Text.natural c.value
  | .markers => "[" ++ Token.symbols c.marks ++ "]"

/-- The rows of a tape: the heading of the back, its cells from the leftmost to the current one,
the heading of the front, and its cells from the head to the right. -/
def Tape.rows (display : Display) (t : Tape) : List String :=
  "Back:" :: (t.back.reverse.map (Counter.render display) ++
    "Front:" :: t.front.map (Counter.render display))

/-- A tape as text: its rows, and an empty line at the end. -/
def Tape.render (display : Display) (t : Tape) : String :=
  Text.joinLines (t.rows display) ++ "\n\n"

end MarkTape
