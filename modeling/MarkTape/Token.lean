import MarkTape.Text.Written

/-!
# Tokens

A program is made of four instructions; the fifth token, the mark, is what cells are
filled with and is never executed.

* `Token`: the five tokens;
* `Token.symbol`, `Token.ofSymbol?`: the character of a token and back;
* `Token.isInstruction`, `Token.instructions`: the four that a program may hold;
* `Token.symbols`: a token sequence as text.
-/

namespace MarkTape

/-- The tokens: two moves of the head, two changes of the current cell, and the mark. -/
inductive Token
  | left
  | right
  | inc
  | dec
  | mark
  deriving DecidableEq

namespace Token

/-- Every token. -/
def all : List Token := [.left, .right, .inc, .dec, .mark]

/-- The character that stands for a token. -/
def symbol : Token → Char
  | .left => '<'
  | .right => '>'
  | .inc => '+'
  | .dec => '-'
  | .mark => '*'

/-- The token that a character stands for. -/
def ofSymbol? : Char → Option Token
  | '<' => some .left
  | '>' => some .right
  | '+' => some .inc
  | '-' => some .dec
  | '*' => some .mark
  | _ => none

/-- The name under which a token is reported. -/
def name : Token → String
  | .left => "LEFT"
  | .right => "RIGHT"
  | .inc => "INC"
  | .dec => "DEC"
  | .mark => "MARK"

/-- Every token but the mark is an instruction. -/
def isInstruction : Token → Bool
  | .mark => false
  | _ => true

theorem isInstruction_iff {t : Token} : t.isInstruction = true ↔ t ≠ .mark := by
  cases t <;> simp [isInstruction]

/-- The instructions. -/
def instructions : List Token := all.filter isInstruction

/-- The characters of a token sequence, in order. -/
def symbols (ts : List Token) : String := String.ofList (ts.map symbol)

/-- The written form of a token, its name beside its character. -/
def describe (t : Token) : String :=
  "<Token." ++ t.name ++ ": " ++ Text.quote (String.singleton t.symbol) ++ ">"

@[simp] theorem ofSymbol?_symbol (t : Token) : ofSymbol? t.symbol = some t := by
  cases t <;> rfl

/-- Reading a character inverts `symbol`. -/
theorem ofSymbol?_eq_some_iff {c : Char} {t : Token} : ofSymbol? c = some t ↔ c = t.symbol := by
  constructor
  · intro h
    unfold ofSymbol? at h
    split at h <;> cases h <;> rfl
  · rintro rfl
    exact ofSymbol?_symbol t

end Token

end MarkTape
