import MarkTape.Text.Written
import MarkTape.Token

/-!
# Misuse

What a request is given may be out of range, of the wrong kind, or senseless for it. Then nothing
is run and nothing is changed, and the cause says what was wrong.

* `isIndex`: the range of index numbers;
* `Part`, `Part.name`: the parts of values, and their names;
* `absentKind`, `numberKind`: the names of the kinds of what was left out, which has no part at
  all, and of a number;
* `Misuse`: the causes;
* `Misuse.message`: their wording.
-/

namespace MarkTape

/-! ### Index numbers

A number that says where in a sequence something stands, or how often it is repeated, is a
signed number of 64 bits; no sequence reaches further. A larger number is refused before it
is used.
-/

/-- The number fits into 64 bits with a sign. -/
def isIndex (n : Int) : Bool := -9223372036854775808 ≤ n && n ≤ 9223372036854775807

theorem isIndex_iff (n : Int) :
    isIndex n ↔ -9223372036854775808 ≤ n ∧ n < 9223372036854775808 := by
  simp only [isIndex, Bool.and_eq_true, decide_eq_true_eq]
  omega

/-! ### Parts of values

What a value can be asked for. Each kind of value has its own parts, and a request for a part
that a value lacks is answered by naming both.
-/

/-- What a value can be asked for. -/
inductive Part
  | addMark
  | takeMark
  | marks
  | value
  | values
  | push
  | pop
  | current
  | back
  | front
  | tape
  | done
  | addTrace
  | start
  | step
  | run
  | iterRun
  deriving DecidableEq

/-- The name of a part. -/
def Part.name : Part → String
  | .addMark => "add_mark"
  | .takeMark => "take_mark"
  | .marks => "marks"
  | .value => "value"
  | .values => "values"
  | .push => "push"
  | .pop => "pop"
  | .current => "current"
  | .back => "back"
  | .front => "front"
  | .tape => "tape"
  | .done => "done"
  | .addTrace => "add_trace"
  | .start => "start"
  | .step => "step"
  | .run => "run"
  | .iterRun => "iter_run"

/-- The name of the kind of what was left out. -/
def absentKind : String := "NoneType"

/-- The name of the kind of a number. -/
def numberKind : String := "int"

/-! ### Causes

A request is misused when what it is given makes no sense for it. Nothing is run and
nothing is changed; the cause says what was wrong.
-/

/-- Why a request was refused. -/
inductive Misuse
  /-- The text is not the symbol of a token. -/
  | unknownToken (text : String)
  /-- A counter cannot hold a negative value. -/
  | negativeCounter (value : Int)
  /-- A counter holds marks and nothing else. -/
  | notMark
  /-- There is no mark to take from an empty counter. -/
  | emptyCounter
  /-- There is no cell to take from an empty stack. -/
  | emptyStack
  /-- The stack that should hold the current cell is empty. -/
  | noCurrentCell
  /-- A cell was asked for in a display mode that does not exist. -/
  | unknownDisplay (name : String)
  /-- The options of a run name a display mode that does not exist. -/
  | unknownDisplayOption (name : String)
  /-- A limit on the number of steps is negative. -/
  | negativeLimit (value : Int)
  /-- A program holds a token that is no instruction. -/
  | notInstruction (token : Token)
  /-- A step was asked for after the last instruction. -/
  | finished
  /-- The program counter lies before the first instruction. -/
  | outsideProgram
  /-- The program counter is no index number. -/
  | farCounter
  /-- The token at the program counter has no rule. -/
  | noRule (token : Token)
  /-- A value of this kind does not have the part. -/
  | lacks (kind : String) (part : Part)
  /-- A part of this kind is there, but nothing can be done with it. -/
  | idle (kind : String)
  /-- A value of this kind does not hold a number of things. -/
  | noLength (kind : String)
  /-- The column of a caret is no index number. -/
  | farColumn
  /-- A number has too many digits to be written. -/
  | longNumber
  /-- Fields that a kind of diagnostic needs were left out. -/
  | missingFields (kind : String) (names : List String)
  /-- A kind of diagnostic has no such field. -/
  | strayField (kind name : String)
  /-- The message of a diagnostic was given as absent. -/
  | noMessage
  /-- The tokens of a diagnostic were given as absent. -/
  | noTokens
  /-- A value of this kind cannot be a member of a set. -/
  | notSetMember (kind : String)
  /-- The program text was given as an option without a value. -/
  | missingText
  /-- The step limit was given as an option without a value. -/
  | missingLimit
  deriving DecidableEq

/-- What is said about a misuse. -/
def Misuse.message : Misuse → String
  | .unknownToken text => Text.quote text ++ " is not a valid Token"
  | .negativeCounter value => Text.endingIn "Counter value must be non-negative, got " value
  | .notMark => "Counter may only hold MARK tokens"
  | .emptyCounter => "take_mark from empty Counter"
  | .emptyStack => "pop from empty CellStack"
  | .noCurrentCell => "Tape back must hold the current cell"
  | .unknownDisplay name =>
    "Unknown display mode: " ++ Text.quote name ++ " (expected one of int, markers)"
  | .unknownDisplayOption name => "Unknown display mode: " ++ Text.quote name
  | .negativeLimit value => Text.endingIn "max_steps must be non-negative, got " value
  | .notInstruction token => "Not an instruction token: " ++ token.describe
  | .finished => "No instruction left to execute"
  | .outsideProgram => "tuple index out of range"
  | .farCounter | .farColumn => "cannot fit 'int' into an index-sized integer"
  | .noRule token => token.describe
  | .lacks kind part =>
    Text.quote kind ++ " object has no attribute " ++ Text.quote part.name
  | .idle kind => Text.quote kind ++ " object is not callable"
  | .noLength kind => "object of type " ++ Text.quote kind ++ " has no len()"
  | .longNumber => Text.tooManyDigits
  | .missingFields kind names =>
    kind ++ ".__init__() missing " ++ Text.natural names.length ++ " required positional " ++
      (if names.length = 1 then "argument: " else "arguments: ") ++
      Text.enumerated (names.map Text.quote)
  | .strayField kind name =>
    kind ++ ".__init__() got an unexpected keyword argument " ++ Text.quote name
  | .noMessage => "__str__ returned non-string (type " ++ absentKind ++ ")"
  | .noTokens => Text.quote absentKind ++ " object is not iterable"
  | .notSetMember kind => "unhashable type: '" ++ kind ++ "'"
  | .missingText => "expected string or bytes-like object, got 'list'"
  | .missingLimit => "'<' not supported between instances of 'list' and 'int'"

end MarkTape
