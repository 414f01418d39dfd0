import MarkTape.Misuse

/-!
# Rejected text

A program text is rejected at a position, and the lines around this position are shown. A position
may be any pair of numbers. Far from every text it cannot be written down: the blanks before the
caret may be too many, and so may the digits of a number. What is shown is therefore put together
once, with a pen that writes blanks and numbers and may refuse to. For a position that was met in a
text there is a pen that never refuses.

* `Pen`, `Pen.checked`, `Pen.free`: how blanks and numbers are written;
* `row`, `caretAfter`: a numbered line, and the caret under a column;
* `contextWith`, `context`: the rows around a position, joined;
* `Rejection`: a text was rejected at a position;
* `hint?`: what to tell a writer who expects more instructions;
* `Rejection.write`, `Rejection.at`: the rejection of a character at a position.
-/

namespace MarkTape.Source

/-- How blanks and numbers are written; in `m` this may be refused. -/
structure Pen (m : Type → Type) where
  blanks : Int → m String
  number : Int → m String

namespace Pen

/-- A pen that refuses to write a run of blanks whose length is no index number, and a number of
too many digits. -/
def checked : Pen (Except Misuse) where
  blanks n := if isIndex n then .ok (Text.blanks n) else .error .farColumn
  number n := if Text.isWritable n then .ok (Text.integer n) else .error .longNumber

/-- A pen that writes everything. -/
def free : Pen Id where
  blanks n := Text.blanks n
  number n := Text.integer n

end Pen

/-! ### Context of a position

A position in a text is shown by its line, some lines around it, and a caret under the
column. Lines and columns count from one.
-/

/-- A line with its number, right-aligned to four characters, and a pointer when it is the one
meant. -/
def row (pointed : Bool) (number : Nat) (line : String) : String :=
  (if pointed then "> " else "  ") ++
    String.ofList (Text.padLeft 4 ' ' (Text.natural number).toList) ++ " | " ++ line

/-- The row under the pointed line, with a caret after the given blanks. -/
def caretAfter (blanks : String) : String := "       | " ++ blanks ++ "^"

section

variable {m : Type → Type} [Monad m] (pen : Pen m)

/-- The rows that one numbered line contributes: none outside the window of `margin` lines
around `focus`, itself inside, and the caret after the line in focus. -/
def rowsWith (focus column margin : Int) (line : String) (number : Nat) : m (List String) :=
  if focus - margin ≤ number ∧ number ≤ focus + margin then
    if (number : Int) = focus then
      return [row true number line, caretAfter (← pen.blanks (column - 1))]
    else return [row false number line]
  else return []

/-- The text around a position. A line number below one is taken for the first line, and a position
past the last line shows no caret. -/
def contextWith (lines : List String) (line column margin : Int) : m String := do
  let groups ← (lines.zipIdx 1).mapM fun p => rowsWith pen (max 1 line) column margin p.1 p.2
  return Text.joinLines groups.flatten

end

/-- The text around a position that may lie anywhere. -/
def context (lines : List String) (line column margin : Int) : Except Misuse String :=
  contextWith .checked lines line column margin

/-- The number of lines shown on either side when a text is rejected. -/
def margin : Int := 2

/-! ### Rejections -/

/-- A text was rejected: the full message, the position, and the lines around it. -/
structure Rejection where
  message : String
  line : Int
  column : Int
  context : String
  deriving DecidableEq

/-- The text `part` occurs in another as a run of neighbouring characters. -/
def occursIn (part : List Char) : List Char → Bool
  | [] => part.isEmpty
  | c :: cs => part.isPrefixOf (c :: cs) || occursIn part cs

/-- Advice for the instructions that other tape languages have. -/
def hint? (text : String) : Option String :=
  if occursIn text.toList ['[', ']'] then
    some "Loops are not supported; only < > + - are valid instructions."
  else if occursIn text.toList ['.', ','] then
    some "Input/output instructions are not supported; only < > + - are valid instructions."
  else none

/-- The advice for `text`, on a line of its own. -/
def advice (text : String) : String :=
  match hint? text with
  | some h => "\nHint: " ++ h
  | none => ""

/-- The rejection of `text` at a position of `source`. -/
def Rejection.write {m : Type → Type} [Monad m] (pen : Pen m) (text source : String)
    (line column : Int) : m Rejection := do
  let shown ← contextWith pen (Text.splitLines source) line column margin
  let lineNumber ← pen.number line
  let columnNumber ← pen.number column
  return {
    message := "LexicalRejection: unexpected character " ++ Text.quote text ++
      " (line " ++ lineNumber ++ ", column " ++ columnNumber ++ ")\n" ++ shown ++ advice text
    line := line
    column := column
    context := shown }

/-- The rejection of `text` at a position of `source` that may lie anywhere. -/
def Rejection.at (text source : String) (line column : Int) : Except Misuse Rejection :=
  write .checked text source line column

end MarkTape.Source
