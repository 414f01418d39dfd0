import MarkTape.Text.Characters

/-!
# Numbers in text

Numbers are written in plain decimal notation and read in a more generous one. Both have a limit:
a number of more than `maxDigits` digits is neither read nor written.

* `natural`, `integer`: plain decimal notation, a minus sign in front of a negative number;
* `isWritable`, `endingIn`: the limit, and a text that ends in a number within it;
* `padLeft`: right alignment;
* `hexadecimal`: lower-case hexadecimal of at least a given width;
* `digits?`: the digit values of a run of digits and underscores;
* `readInteger?`: the value of the text.
-/

namespace MarkTape.Text

/-! ### Writing a number -/

/-- The decimal digits of `n`, without leading zeros. -/
def natural (n : Nat) : String := String.ofList (Nat.toDigits 10 n)

/-- The decimal digits of `n`, after a minus sign when `n` is negative. -/
def integer : Int → String
  | .ofNat n => natural n
  | .negSucc n => "-" ++ natural (n + 1)

@[simp] theorem integer_natCast (n : Nat) : integer (n : Int) = natural n := rfl

/-- The most digits that a number is read from or written with. -/
def maxDigits : Nat := 4300

/-- The number has no more digits than are written. -/
def isWritable (n : Int) : Bool := (natural n.natAbs).length ≤ maxDigits

theorem isWritable_iff_length (n : Int) :
    isWritable n = true ↔ (natural n.natAbs).length ≤ maxDigits := decide_eq_true_iff

theorem length_natural_le_iff {k : Nat} (hk : 0 < k) (n : Nat) :
    (natural n).length ≤ k ↔ n < Nat.pow 10 k := by
  rw [natural, String.length_ofList]
  exact Nat.length_toDigits_le_iff (by decide) hk

theorem isWritable_iff (n : Int) : isWritable n = true ↔ n.natAbs < Nat.pow 10 maxDigits :=
  (isWritable_iff_length n).trans (length_natural_le_iff (by decide) n.natAbs)

/-- What is said in place of a number with more digits. -/
def tooManyDigits : String :=
  "Exceeds the limit (" ++ natural maxDigits ++ " digits) for integer string conversion; " ++
    "use sys.set_int_max_str_digits() to increase the limit"

/-- The text and the number after it, unless the number has too many digits. -/
def endingIn (text : String) (n : Int) : String :=
  if isWritable n then text ++ integer n else tooManyDigits

/-- The text `cs` moved to the right end of a field of `width` characters filled with `fill`; a
longer text is kept whole. -/
def padLeft (width : Nat) (fill : Char) (cs : List Char) : List Char :=
  List.replicate (width - cs.length) fill ++ cs

/-- Lower-case hexadecimal digits of `n`, filled with zeros up to `width`. -/
def hexadecimal (width n : Nat) : List Char := padLeft width '0' (Nat.toDigits 16 n)

/-! ### Reading an integer

An integer is written as an optional sign and decimal digits of any script, with single
underscores allowed between digits and blanks allowed around the whole. The information
separators are blanks of program text but not of a number's margin, and a number of more
than `maxDigits` digits is refused.
-/

/-- A blank that may stand before or after a number. -/
def isMargin (c : Char) : Bool :=
  isBlank c && !(0x1C ≤ c.toNat && c.toNat ≤ 0x1F)

/-- The text `cs` without the margin at either end. -/
def trimMargin (cs : List Char) : List Char :=
  ((cs.dropWhile isMargin).reverse.dropWhile isMargin).reverse

/-- The digit values of a run that starts and ends with a digit and has at most one underscore
between neighbouring digits. -/
def digits? : List Char → Option (List Nat)
  | [] => none
  | [c] => (digitValue? c).map ([·])
  | c :: '_' :: cs => do
    let d ← digitValue? c
    let ds ← digits? cs
    return d :: ds
  | c :: cs => do
    let d ← digitValue? c
    let ds ← digits? cs
    return d :: ds

/-- The number that the digits spell, most significant first. -/
def ofDigits (ds : List Nat) : Nat := ds.foldl (fun n d => 10 * n + d) 0

/-- The value of digits and underscores, unless the digits are too many. -/
def readNatural? (cs : List Char) : Option Nat := do
  let ds ← digits? cs
  if ds.length ≤ maxDigits then some (ofDigits ds) else none

/-- The value of an integer in text. -/
def readInteger? (s : String) : Option Int :=
  match trimMargin s.toList with
  | '-' :: cs => (readNatural? cs).map fun n => -(n : Int)
  | '+' :: cs => (readNatural? cs).map fun n => (n : Int)
  | cs => (readNatural? cs).map fun n => (n : Int)

end MarkTape.Text
