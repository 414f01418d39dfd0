import MarkTape.Source.Rejection

/-!
# Reading program text

A program text is made of instruction symbols, with blanks and comments between them.

* `splitClose?`: a text cut after its first `*/`;
* `blankOut`: one character of a comment;
* `blankComments`: the text with its comments blanked;
* `Position`: a line and a column, both from one;
* `operator?`: the instruction of a symbol;
* `scan`: the tokens of a text without comments, or the first character that does not belong;
* `tokenize`: the tokens of a program text;
* `Token.ofText`: the token whose symbol is the whole text;
* `Token.listOfText`: one token per character.
-/

namespace MarkTape.Source

/-! ### Comments

A comment runs from `//` to the end of its line, or from `/*` to the next `*/`. Comments are
found from left to right, so an opener inside a comment means nothing, and a `/*` that is never
closed opens none. Comments are blanked, not removed: every character but the newline gives way
to a space, and the rest of the text keeps its lines and columns.
-/

/-- The text up to and including the first `*/`, and the text after it. -/
def splitClose? : List Char → Option (List Char × List Char)
  | [] => none
  | '*' :: '/' :: cs => some (['*', '/'], cs)
  | c :: cs => (splitClose? cs).map fun p => (c :: p.1, p.2)

/-- Nothing is lost by cutting. -/
theorem append_of_splitClose? {cs body rest : List Char}
    (h : splitClose? cs = some (body, rest)) : body ++ rest = cs := by
  fun_induction splitClose? cs generalizing body rest with
  | case1 => simp at h
  | case2 cs =>
    cases h
    rfl
  | case3 c cs _ ih =>
    obtain ⟨⟨b, r⟩, hp, he⟩ := Option.map_eq_some_iff.1 h
    cases he
    simp [ih hp]

/-- A character of a comment is blanked, but a newline stays. -/
def blankOut (c : Char) : Char := if c = '\n' then '\n' else ' '

/-- The text with its comments blanked. -/
def blankComments : List Char → List Char
  | '/' :: '/' :: cs =>
    ' ' :: ' ' :: (cs.takeWhile (· ≠ '\n')).map blankOut ++ blankComments (cs.dropWhile (· ≠ '\n'))
  | '/' :: '*' :: cs =>
    match _close : splitClose? cs with
    | some (body, rest) => ' ' :: ' ' :: body.map blankOut ++ blankComments rest
    | none => '/' :: blankComments ('*' :: cs)
  | c :: cs => c :: blankComments cs
  | [] => []
termination_by cs => cs.length
decreasing_by
  · have := (List.dropWhile_sublist (l := cs) (· ≠ '\n')).length_le
    simp only [List.length_cons]
    omega
  · have := congrArg List.length (append_of_splitClose? _close)
    simp only [List.length_append] at this
    simp only [List.length_cons]
    omega
  · simp
  · simp

/-! ### Instructions

Every instruction symbol is a token of its own; blanks and comments stand between tokens, and
any other character is rejected at its line and column.
-/

/-- A place in a text, counted from one. -/
structure Position where
  line : Nat
  column : Nat
  deriving DecidableEq

namespace Position

/-- The place of the first character. -/
def start : Position := ⟨1, 1⟩

/-- The place after the character `c`. -/
def next (p : Position) (c : Char) : Position :=
  if c = '\n' then ⟨p.line + 1, 1⟩ else ⟨p.line, p.column + 1⟩

end Position

/-- The instruction that a character stands for; the mark is none. -/
def operator? (c : Char) : Option Token := (Token.ofSymbol? c).filter Token.isInstruction

/-- A character that does not belong, and its place. -/
structure Stray where
  char : Char
  place : Position
  deriving DecidableEq

/-- The instructions of a text that starts at `p`: blanks are passed over, and the first
character that is neither blank nor an instruction ends the reading. -/
def scan (p : Position) : List Char → Except Stray (List Token)
  | [] => .ok []
  | c :: cs =>
    if Text.isBlank c then scan (p.next c) cs
    else
      match operator? c with
      | none => .error ⟨c, p⟩
      | some t => (scan (p.next c) cs).map (t :: ·)

/-- The rejection of a character of `source` at its place. -/
def Stray.rejection (source : String) (s : Stray) : Rejection :=
  Id.run (Rejection.write .free (String.singleton s.char) source s.place.line s.place.column)

/-- The instructions of a program text. -/
def tokenize (source : String) : Except Rejection (List Token) :=
  (scan .start (blankComments source.toList)).mapError (Stray.rejection source)

end MarkTape.Source

namespace MarkTape.Token

/-! ### Tokens from text -/

/-- The token whose symbol is `s`; any text but one symbol is refused. -/
def ofText (s : String) : Except Misuse Token :=
  match s.toList with
  | [c] =>
    match ofSymbol? c with
    | some t => .ok t
    | none => .error (.unknownToken s)
  | _ => .error (.unknownToken s)

/-- One token per character; the first character that is no symbol is refused. -/
def listOfText (s : String) : Except Misuse (List Token) :=
  s.toList.mapM fun c => ofText (String.singleton c)

end MarkTape.Token
