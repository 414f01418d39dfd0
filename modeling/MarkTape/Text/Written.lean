import MarkTape.Text.Numbers

/-!
# Written text

How texts and values stand inside a message, and how a text is made of lines.

* `quoteMark`: the quote in use;
* `escape`: one character inside the quotes;
* `quote`: the whole;
* `bracketed`: items in square brackets, divided by commas;
* `parenthesised`: items in round brackets, where a single item keeps its comma;
* `record`: the name of a kind and its named fields;
* `enumerated`: items as in a sentence;
* `truth`, `nothing`, `optional`: truth values, what is absent, and what may be;
* `splitLines`: the pieces of a text between its newlines, so one more than it has newlines;
* `joinLines`: pieces with newlines between them;
* `blanks`: a run of blanks;
* `unifyNewlines`: the line ends `\r\n` and `\r` of other conventions read as `\n`.
-/

namespace MarkTape.Text

/-! ### Quoted text

Text inside a message is set in single quotes, or in double quotes when it holds a
single quote and no double quote. Within, the quote in use and the backslash are
escaped by a backslash, newline, return and tab have names, and any other character
without a visible form is written by its code point.
-/

/-- The quote in use for `cs`: double when `cs` holds a single quote and no double one. -/
def quoteMark (cs : List Char) : Char :=
  if cs.contains '\x27' && !cs.contains '\x22' then '\x22' else '\x27'

/-- A code point in the shortest of the forms `\xNN`, `\uNNNN` and `\UNNNNNNNN`. -/
def escapeCode (n : Nat) : List Char :=
  if n < 0x100 then '\\' :: 'x' :: hexadecimal 2 n
  else if n < 0x10000 then '\\' :: 'u' :: hexadecimal 4 n
  else '\\' :: 'U' :: hexadecimal 8 n

/-- One character as it stands between two quotes `mark`. -/
def escape (mark c : Char) : List Char :=
  if c = mark || c = '\\' then ['\\', c]
  else if c = '\n' then ['\\', 'n']
  else if c = '\r' then ['\\', 'r']
  else if c = '\t' then ['\\', 't']
  else if isPrintable c then [c]
  else escapeCode c.toNat

/-- The text `s` between quotes. -/
def quote (s : String) : String :=
  let mark := quoteMark s.toList
  String.ofList (mark :: (s.toList.flatMap (escape mark) ++ [mark]))

/-! ### Listings -/

/-- The items in square brackets. -/
def bracketed (items : List String) : String := "[" ++ ", ".intercalate items ++ "]"

/-- The numbers in square brackets. -/
def bracketedNumbers (values : List Nat) : String := bracketed (values.map natural)

/-- The items in round brackets; a comma after a single item tells it from a bracketed term. -/
def parenthesised : List String → String
  | [item] => "(" ++ item ++ ",)"
  | items => "(" ++ ", ".intercalate items ++ ")"

/-- A kind with its named fields, in order. -/
def record (kind : String) (fields : List (String × String)) : String :=
  kind ++ "(" ++ ", ".intercalate (fields.map fun (name, value) => name ++ "=" ++ value) ++ ")"

/-- The items as in a sentence: the last is joined by a word, after a comma when there are three
or more. -/
def enumerated : List String → String
  | [] => ""
  | [item] => item
  | [first, second] => first ++ " and " ++ second
  | items => ", ".intercalate items.dropLast ++ ", and " ++ items.getLastD ""

/-- A truth value. -/
def truth (b : Bool) : String := if b then "True" else "False"

/-- What is absent. -/
def nothing : String := "None"

/-- What may be absent. -/
def optional {α : Type} (describe : α → String) : Option α → String
  | none => nothing
  | some a => describe a

/-! ### Lines -/

/-- The pieces of `s` between newlines; only `\n` divides. -/
def splitLines (s : String) : List String :=
  (s.toList.splitOn '\n').map String.ofList

/-- A run of `n` blanks; a negative number makes none. -/
def blanks (n : Int) : String := String.ofList (List.replicate n.toNat ' ')

/-- The rows in order, with one newline between neighbours. -/
def joinLines : List String → String
  | [] => ""
  | [row] => row
  | row :: rows => row ++ "\n" ++ joinLines rows

@[simp] theorem joinLines_nil : joinLines [] = "" := rfl

@[simp] theorem joinLines_singleton (row : String) : joinLines [row] = row := rfl

@[simp] theorem joinLines_cons_cons (row next : String) (rows : List String) :
    joinLines (row :: next :: rows) = row ++ "\n" ++ joinLines (next :: rows) := rfl

theorem toList_joinLines (rows : List String) :
    (joinLines rows).toList = ['\n'].intercalate (rows.map String.toList) := by
  induction rows with
  | nil => rfl
  | cons row rows ih =>
    cases rows with
    | nil => simp
    | cons next rows =>
      show _ = ['\n'].intercalate (row.toList :: next.toList :: rows.map String.toList)
      rw [joinLines_cons_cons, String.toList_append, String.toList_append, ih,
        List.intercalate_cons_cons]
      rfl

/-- A piece between two cuts does not hold what is cut at, and nothing that was not there before. -/
theorem of_mem_splitOn {x : Char} {cs piece : List Char} (h : piece ∈ cs.splitOn x) :
    x ∉ piece ∧ ∀ c ∈ piece, c ∈ cs := by
  induction cs generalizing piece with
  | nil =>
    obtain rfl : piece = [] := by simpa using h
    exact ⟨List.not_mem_nil, fun _ hc => absurd hc List.not_mem_nil⟩
  | cons a cs ih =>
    obtain ⟨first, rest, hcut⟩ := List.exists_cons_of_ne_nil (List.splitOn_ne_nil x cs)
    rw [List.splitOn_cons_eq_if_modifyHead] at h
    by_cases ha : a = x
    · rw [if_pos (by simp [ha])] at h
      rcases List.mem_cons.1 h with rfl | h
      · exact ⟨List.not_mem_nil, fun _ hc => absurd hc List.not_mem_nil⟩
      · exact ⟨(ih h).1, fun c hc => List.mem_cons_of_mem a ((ih h).2 c hc)⟩
    · rw [if_neg (by simp [ha]), hcut, List.modifyHead_cons] at h
      rw [hcut] at ih
      rcases List.mem_cons.1 h with rfl | h
      · obtain ⟨hx, hsub⟩ := ih List.mem_cons_self
        refine ⟨by simp [hx, Ne.symm ha], fun c hc => ?_⟩
        rcases List.mem_cons.1 hc with rfl | hc
        · exact List.mem_cons_self
        · exact List.mem_cons_of_mem a (hsub c hc)
      · obtain ⟨hx, hsub⟩ := ih (List.mem_cons_of_mem first h)
        exact ⟨hx, fun c hc => List.mem_cons_of_mem a (hsub c hc)⟩

theorem newline_notMem_of_mem_splitLines {s line : String} (h : line ∈ splitLines s) :
    '\n' ∉ line.toList := by
  obtain ⟨piece, hpiece, rfl⟩ := List.mem_map.1 h
  rw [String.toList_ofList]
  exact (of_mem_splitOn hpiece).1

/-- Rows without newlines are the lines of the text that they make. -/
theorem splitLines_joinLines {rows : List String} (hne : rows ≠ [])
    (h : ∀ row ∈ rows, '\n' ∉ row.toList) : splitLines (joinLines rows) = rows := by
  have hrows : ∀ l ∈ rows.map String.toList, '\n' ∉ l := by
    intro l hl
    obtain ⟨row, hrow, rfl⟩ := List.mem_map.1 hl
    exact h row hrow
  rw [splitLines, toList_joinLines, List.splitOn_intercalate '\n' hrows (by simpa using hne),
    List.map_map]
  simp [Function.comp_def, String.ofList_toList]

/-- A return, alone or before a newline, becomes a newline. -/
def unifyNewlines : List Char → List Char
  | [] => []
  | '\r' :: '\n' :: cs => '\n' :: unifyNewlines cs
  | '\r' :: cs => '\n' :: unifyNewlines cs
  | c :: cs => c :: unifyNewlines cs

/-- Text without returns is left alone. -/
theorem unifyNewlines_eq_self {cs : List Char} (h : '\r' ∉ cs) : unifyNewlines cs = cs := by
  fun_induction unifyNewlines cs with
  | case1 => rfl
  | case2 cs ih => simp at h
  | case3 cs _ ih => simp at h
  | case4 c cs _ _ ih => simp_all

end MarkTape.Text
