import MarkTape.Machine

/-!
# Counters, stacks and tapes as chains of links

A counter can be kept as a chain in which each link adds one mark to a shorter counter, and a
stack as a chain in which each link puts a cell on a smaller stack. Taking a mark or a cell then
gives back what the link rests on, and nothing is copied. Every link also carries the size of its
chain. Some operations look at the size and others at the link itself, so they go wrong where the
two have drifted apart, and where a link is missing they find nothing to work on.

* `LinkedCounter`, `LinkedStack`, `LinkedTape`: the chains, where a link may also be missing, and
  their operations, which may meet a missing link;
* `LinkedCounter.equals`, `LinkedStack.equals?`, `LinkedTape.equals?`: how chains are compared;
* `LinkedStack.values?`, `LinkedTape.values?`, `LinkedTape.read`: the numbers that they show;
* `LinkedState`, `Machine.stepLinked`, `Machine.runLinked`: running on a linked tape;
* `LinkedValue`, `LinkedValue.equals?`: chains of any kind.
-/

namespace MarkTape

/-! ### Counters -/

/-- A counter as a chain of marks, with its size. -/
inductive LinkedCounter
  /-- It rests on nothing. -/
  | bare (size : Nat)
  /-- It rests on another counter. -/
  | link (rest : LinkedCounter) (size : Nat)

namespace LinkedCounter

/-- The size that is carried by the top link. -/
def size : LinkedCounter → Nat
  | bare size => size
  | link _ size => size

/-- What the top link rests on. -/
def rest? : LinkedCounter → Option LinkedCounter
  | bare _ => none
  | link rest _ => some rest

/-- The empty counter. -/
def zero : LinkedCounter := bare 0

/-- One mark more. -/
def addMark (c : LinkedCounter) : LinkedCounter := link c (c.size + 1)

/-- One mark less: what the top link rests on, whatever the size says. -/
def takeMark (c : LinkedCounter) : Except Error LinkedCounter :=
  match c.rest? with
  | none => .error (.misuse .emptyCounter)
  | some rest => .ok rest

/-- Marks added one by one to the empty counter. -/
def ofNat : Nat → LinkedCounter
  | 0 => zero
  | n + 1 => (ofNat n).addMark

/-- The counter of a given value, which must not be negative. -/
def ofInt : Int → Except Error LinkedCounter
  | .ofNat n => .ok (ofNat n)
  | .negSucc n => .error (.misuse (.negativeCounter (.negSucc n)))

/-- The counter that holds the given tokens, which must all be marks. -/
def ofMarks (ts : List Token) : Except Error LinkedCounter :=
  if ts.all (· = .mark) then ofInt ts.length else .error (.misuse .notMark)

/-- What is reached by following `n` links down. -/
def down : Nat → LinkedCounter → Option LinkedCounter
  | 0, c => some c
  | n + 1, c => c.rest?.bind (down n)

/-- Counters are compared by their sizes. -/
def equals (c d : LinkedCounter) : Bool := c.size = d.size

@[simp] theorem rest?_zero : zero.rest? = none := rfl

@[simp] theorem rest?_addMark (c : LinkedCounter) : c.addMark.rest? = some c := rfl

@[simp] theorem takeMark_zero : zero.takeMark = .error (.misuse .emptyCounter) := rfl

@[simp] theorem takeMark_addMark (c : LinkedCounter) : c.addMark.takeMark = .ok c := rfl

end LinkedCounter

/-! ### Stacks -/

/-- A stack as a chain of cells, with its size. -/
inductive LinkedStack
  /-- It rests on nothing. -/
  | bare (head : Option LinkedCounter) (size : Nat)
  /-- It rests on another stack. -/
  | link (head : Option LinkedCounter) (tail : LinkedStack) (size : Nat)

namespace LinkedStack

/-- The cell on the top link. -/
def head? : LinkedStack → Option LinkedCounter
  | bare head _ => head
  | link head _ _ => head

/-- What the top link rests on. -/
def tail? : LinkedStack → Option LinkedStack
  | bare _ _ => none
  | link _ tail _ => some tail

/-- The size that is carried by the top link. -/
def size : LinkedStack → Nat
  | bare _ size => size
  | link _ _ size => size

/-- The empty stack. -/
def empty : LinkedStack := bare none 0

/-- The stack with one more cell on top. -/
def push (s : LinkedStack) (c : LinkedCounter) : LinkedStack := link (some c) s (s.size + 1)

/-- The stack to put a cell on, which may be missing. -/
def onto (s? : Option LinkedStack) : Except Error LinkedStack :=
  match s? with
  | none => .error (.misuse (.lacks absentKind .push))
  | some s => .ok s

/-- The top cell, if the link has one, and what the link rests on, whatever the size says. -/
def pop (s : LinkedStack) : Except Error (LinkedCounter × Option LinkedStack) :=
  match s.head? with
  | none => .error (.misuse .emptyStack)
  | some c => .ok (c, s.tail?)

/-- The cells put on the empty stack, the first on top. -/
def ofCells (cells : List LinkedCounter) : LinkedStack := cells.foldr (fun c s => s.push c) empty

/-- The cells from the top down to a link that has none, unless a link is missing. -/
def cells? : LinkedStack → Option (List LinkedCounter)
  | bare none _ => some []
  | bare (some _) _ => none
  | link none _ _ => some []
  | link (some c) tail _ => tail.cells?.map (c :: ·)

/-- What is reached by following `n` links down. -/
def down : Nat → LinkedStack → Option LinkedStack
  | 0, s => some s
  | n + 1, s => s.tail?.bind (down n)

/-- Two stacks are walked side by side, up to a link without a cell or to the first two cells that
differ; there is no answer if a link is missing on the way. -/
def agree? : LinkedStack → Option LinkedStack → Option Bool
  | bare none _, _ | link none _ _, _ => some true
  | bare (some _) _, none | link (some _) _ _, none => none
  | bare (some c) _, some r =>
    match r.head? with
    | none => some true
    | some d => if c.equals d then none else some false
  | link (some c) tail _, some r =>
    match r.head? with
    | none => some true
    | some d => if c.equals d then tail.agree? r.tail? else some false

/-- Stacks are compared by their sizes, and then cell by cell. -/
def equals? (s r : LinkedStack) : Option Bool :=
  if s.size = r.size then s.agree? (some r) else some false

/-- The sizes of the cells, unless a link is missing. -/
def values? (s : LinkedStack) : Option (List Nat) := s.cells?.map fun cells => cells.map (·.size)

@[simp] theorem tail?_empty : empty.tail? = none := rfl

@[simp] theorem tail?_push (s : LinkedStack) (c : LinkedCounter) : (s.push c).tail? = some s := rfl

@[simp] theorem pop_empty : empty.pop = .error (.misuse .emptyStack) := rfl

@[simp] theorem pop_push (s : LinkedStack) (c : LinkedCounter) :
    (s.push c).pop = .ok (c, some s) := rfl

end LinkedStack

/-! ### Tapes -/

/-- A tape of two linked stacks, of which the front may be missing. -/
structure LinkedTape where
  back : LinkedStack
  front : Option LinkedStack

namespace LinkedTape

/-- The tape with the given sides; the size of the back must leave room for the current cell. -/
def ofStacks (back front : Option LinkedStack) : Except Error LinkedTape :=
  match back with
  | none => .error (.misuse .noCurrentCell)
  | some back => if 0 < back.size then .ok ⟨back, front⟩ else .error (.misuse .noCurrentCell)

/-- One empty cell under the head. -/
def initial : LinkedTape := ⟨LinkedStack.empty.push .zero, some .empty⟩

/-- The tape with the given values. -/
def ofInts (back front : List Int) : Except Error LinkedTape := do
  let back ← back.mapM LinkedCounter.ofInt
  let front ← front.mapM LinkedCounter.ofInt
  ofStacks (some (.ofCells back)) (some (.ofCells front))

/-- The front, with an empty cell on it if its size is zero. -/
def entered (t : LinkedTape) : Except Error LinkedStack := do
  let front ← LinkedStack.onto t.front
  return if 0 < front.size then front else front.push .zero

/-- The head goes one cell to the left, if the size of the back says that there is one. -/
def moveLeft (t : LinkedTape) : Except Error LinkedTape :=
  if t.back.size < 2 then .error (.failed Fault.underflow.failure)
  else do
    let (cell, back) ← t.back.pop
    let front ← LinkedStack.onto t.front
    ofStacks back (some (front.push cell))

/-- The head goes one cell to the right. -/
def moveRight (t : LinkedTape) : Except Error LinkedTape := do
  let front ← t.entered
  let (cell, front) ← front.pop
  ofStacks (some (t.back.push cell)) front

/-- The current cell gets one mark more. -/
def increment (t : LinkedTape) : Except Error LinkedTape := do
  let (cell, rest) ← t.back.pop
  let rest ← LinkedStack.onto rest
  ofStacks (some (rest.push cell.addMark)) t.front

/-- The current cell gets one mark less, if its size says that it has one. What the cell rests on
is looked at before the mark is taken. -/
def decrement (t : LinkedTape) : Except Error LinkedTape := do
  let (cell, rest) ← t.back.pop
  if cell.size = 0 then .error (.failed Fault.zeroCell.failure)
  else
    let rest ← LinkedStack.onto rest
    ofStacks (some (rest.push (← cell.takeMark))) t.front

/-- The plain tape that the links show: the sizes of the cells of both stacks. -/
def read (t : LinkedTape) : Except Error Tape :=
  match t.back.cells?, t.front.bind LinkedStack.cells? with
  | some (cell :: left), some right =>
    .ok ⟨⟨cell.size⟩, left.map fun c => ⟨c.size⟩, right.map fun c => ⟨c.size⟩⟩
  | _, _ => .error (.misuse (.lacks absentKind .values))

/-- Tapes are compared by their backs, and then by their fronts. -/
def equals? (t u : LinkedTape) : Option Bool := do
  if ← t.back.equals? u.back then
    match t.front, u.front with
    | some front, some front' => front.equals? front'
    | none, none => some true
    | _, _ => some false
  else return false

/-- The sizes of the cells of both stacks, unless a link is missing. -/
def values? (t : LinkedTape) : Option (List Nat × List Nat) := do
  let back ← t.back.values?
  let front ← t.front
  return (back, ← front.values?)

/-- The tape as text. -/
def render (display : Display) (t : LinkedTape) : Except Error String :=
  t.read.map (Tape.render display)

@[simp] theorem ofStacks_push (s : LinkedStack) (c : LinkedCounter) (front : Option LinkedStack) :
    ofStacks (some (s.push c)) front = .ok ⟨s.push c, front⟩ := by
  unfold ofStacks
  exact if_pos (Nat.succ_pos s.size)

end LinkedTape

/-! ### Runs -/

/-- The rule of a token on linked tapes; the mark has none. -/
def Token.linkedRule? : Token → Option (LinkedTape → Except Error LinkedTape)
  | .left => some LinkedTape.moveLeft
  | .right => some LinkedTape.moveRight
  | .inc => some LinkedTape.increment
  | .dec => some LinkedTape.decrement
  | .mark => none

/-- A place in a program, the linked tape it runs on, and a log. -/
structure LinkedState extends Cursor where
  tape : LinkedTape
  trace : Array String
  isTracing : Bool

namespace LinkedState

/-- The state after `x` has led to `tape`; what is logged is read off the links. -/
def advance (s : LinkedState) (x : Token) (tape : LinkedTape) : Except Error LinkedState :=
  if s.isTracing then do
    let shown ← tape.read
    return { s with
      tape := tape
      pc := s.pc + 1
      trace := s.trace.push (State.traceLine s.pc x shown) }
  else return { s with tape := tape, pc := s.pc + 1 }

/-- Carry out the token `x`. A failure of its rule is reported as one of the run, and any other
error as it is. -/
def execute (s : LinkedState) (x : Token) : Except Error LinkedState :=
  match x.linkedRule? with
  | none => .error (.misuse (.noRule x))
  | some rule =>
    match rule s.tape with
    | .error (.failed e) => .error (.failed (e.within x s.pc s.remaining s.tape.read.toOption))
    | .error e => .error e
    | .ok tape => s.advance x tape

end LinkedState

/-- One step on a linked tape. -/
def Machine.stepLinked (m : Machine) (s : LinkedState) : Except Error LinkedState := do
  s.execute (← m.next s.toCursor s.tape.read.toOption)

/-- Carry out `x` on a linked tape within the limit. -/
def Machine.performLinked (m : Machine) (s : LinkedState) (x : Token) :
    Except Error LinkedState := do
  m.permit s.toCursor s.tape.read.toOption
  s.execute x

/-- All steps of a program on a linked tape, or the first that fails. -/
def Machine.runLinked (m : Machine) (program : List Token) (tape : LinkedTape) :
    Except Error LinkedState :=
  match program.find? fun x => !x.isInstruction with
  | some x => .error (.misuse (.notInstruction x))
  | none => program.foldlM m.performLinked
      { program, pc := 0, tape, trace := #[], isTracing := m.trace }

/-- A counter, a stack or a tape of links. -/
inductive LinkedValue
  | counter (c : LinkedCounter)
  | stack (s : LinkedStack)
  | tape (t : LinkedTape)

/-- Values of one kind are compared as such, and values of different kinds differ. -/
def LinkedValue.equals? : LinkedValue → LinkedValue → Option Bool
  | .counter c, .counter d => some (c.equals d)
  | .stack s, .stack r => s.equals? r
  | .tape t, .tape u => t.equals? u
  | _, _ => some false

end MarkTape
