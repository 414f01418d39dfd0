import MarkTape.Tape
import MarkTape.Proofs.Layout

/-!
# Reading a picture of a tape

The picture of a tape is plain text: a heading, a row for each cell up to the head, another heading,
a row for each cell to the right, and an empty line. It has no lengths and no escapes, and still
nothing of the tape is lost. A row of a cell is never empty and holds only digits, or only brackets
and marks, so it is no heading, it is not the empty line, and it does not run over its line; and the
row of each value is different. So a tape can be read back from its picture.

* `Counter.read?`, `Counter.read?_render`: the cell of a row;
* `CellRow`: what a row of a cell looks like;
* `sections?`, `Tape.read?`: the two sections of a picture, and the values of its tape;
* `Tape.cellRows`, `Tape.splitLines_render`: the rows of the cells, from left to right, and where
  they stand among the lines;
* `Tape.render_readable`: the picture determines the tape, and moves leave the rows alone.
-/

namespace MarkTape

/-! ### Lines -/

namespace Text

/-- An empty line at the end is two more rows, both empty. -/
theorem joinLines_append_empty {rows : List String} (hne : rows ≠ []) :
    joinLines (rows ++ ["", ""]) = joinLines rows ++ "\n\n" := by
  induction rows with
  | nil => exact absurd rfl hne
  | cons row rows ih =>
    cases rows with
    | nil =>
      show row ++ "\n" ++ "\n" = row ++ "\n\n"
      rw [String.append_assoc]
      rfl
    | cons next rows =>
      show row ++ "\n" ++ joinLines (next :: rows ++ ["", ""]) = _
      rw [ih (List.cons_ne_nil next rows), joinLines_cons_cons]
      exact String.append_assoc.symm

end Text

/-! ### Rows of cells -/

namespace Counter

/-- The cell that a row would show: the number that its characters spell, or as many marks as there
are characters between the first and the last. -/
def guess : Display → String → Counter
  | .int, row => ⟨Nat.ofDigitChars 10 row.toList 0⟩
  | .markers, row => ⟨row.length - 2⟩

/-- The cell that a row shows, if it is the row of a cell at all. -/
def read? (display : Display) (row : String) : Option Counter :=
  if (guess display row).render display = row then some (guess display row) else none

theorem toList_render_markers (c : Counter) :
    (c.render .markers).toList = '[' :: (List.replicate c.value '*' ++ [']']) := by
  simp [render, Token.symbols, marks, Token.symbol]

theorem guess_render (display : Display) (c : Counter) :
    guess display (c.render display) = c := by
  cases display with
  | int =>
    show Counter.mk (Nat.ofDigitChars 10 (Text.natural c.value).toList 0) = c
    rw [Text.natural, String.toList_ofList, Nat.ofDigitChars_ten_toDigits]
  | markers =>
    show Counter.mk ((c.render .markers).length - 2) = c
    rw [← String.length_toList, toList_render_markers]
    simp

/-- A cell is read back from its row. -/
theorem read?_render (display : Display) (c : Counter) :
    read? display (c.render display) = some c := by
  rw [read?, guess_render, if_pos rfl]

end Counter

/-- What the row of a cell looks like: it is not empty and holds digits, brackets and marks only. -/
structure CellRow (row : String) : Prop where
  nonempty : row ≠ ""
  plain : ∀ c ∈ row.toList, c.isDigit = true ∨ c ∈ ['[', '*', ']']

namespace CellRow

theorem newline_notMem {row : String} (h : CellRow row) : '\n' ∉ row.toList := by
  intro hmem
  exact absurd (h.plain _ hmem) (by decide)

theorem ne_front {row : String} (h : CellRow row) : row ≠ "Front:" := by
  rintro rfl
  exact absurd (h.plain 'F' (by decide)) (by decide)

end CellRow

theorem Counter.cellRow_render (display : Display) (c : Counter) :
    CellRow (c.render display) := by
  cases display with
  | int =>
    have htext : (c.render .int).toList = Nat.toDigits 10 c.value := String.toList_ofList
    refine ⟨?_, ?_⟩
    · intro he
      rw [he] at htext
      exact Nat.toDigits_ne_nil htext.symm
    · intro d hd
      rw [htext] at hd
      exact .inl (Nat.isDigit_of_mem_toDigits (by decide) (by decide) hd)
  | markers =>
    refine ⟨?_, ?_⟩
    · intro he
      have htext := c.toList_render_markers
      rw [he] at htext
      cases htext
    · intro d hd
      rw [c.toList_render_markers] at hd
      simp only [List.mem_cons, List.mem_append, List.mem_replicate, List.not_mem_nil,
        or_false] at hd ⊢
      rcases hd with rfl | ⟨-, rfl⟩ | rfl
      · exact .inr (.inl rfl)
      · exact .inr (.inr (.inl rfl))
      · exact .inr (.inr (.inr rfl))

theorem Counter.mapM_read?_map_render (display : Display) (cells : List Counter) :
    (cells.map (render display)).mapM (read? display) = some cells := by
  induction cells with
  | nil => rfl
  | cons c cells ih =>
    rw [List.map_cons, List.mapM_cons, read?_render, ih]
    rfl

/-! ### Sections -/

/-- The rows of the two sections, if the rows are those of a picture: each section goes on up to
what ends it. -/
def sections? (rows : List String) : Option (List String × List String) :=
  let back := (rows.drop 1).takeWhile (· ≠ "Front:")
  let front := (rows.drop (back.length + 2)).takeWhile (· ≠ "")
  if rows = "Back:" :: (back ++ "Front:" :: (front ++ ["", ""])) then some (back, front) else none

/-- A section goes on up to the row that ends it. -/
theorem takeWhile_rows {rows : List String} {last : String} (h : last ∉ rows)
    (rest : List String) : (rows ++ last :: rest).takeWhile (· ≠ last) = rows := by
  have hrows : ∀ row ∈ rows, decide (row ≠ last) = true := by
    intro row hrow
    rw [decide_eq_true_eq]
    rintro rfl
    exact h hrow
  rw [List.takeWhile_append_of_pos hrows, List.takeWhile_cons_of_neg (by simp), List.append_nil]

theorem sections?_of_rows {back front : List String} (hback : "Front:" ∉ back)
    (hfront : "" ∉ front) :
    sections? ("Back:" :: (back ++ "Front:" :: (front ++ ["", ""]))) = some (back, front) := by
  have hdrop : (back ++ "Front:" :: (front ++ ["", ""])).drop (back.length + 1) =
      front ++ ["", ""] := List.drop_length_add_append 1
  unfold sections?
  simp only [List.drop_succ_cons, List.drop_zero]
  rw [takeWhile_rows hback, hdrop, takeWhile_rows hfront]
  exact if_pos rfl

namespace Tape

/-- The values of the tape that a text shows, if it is a picture of one. -/
def read? (display : Display) (text : String) : Option (List Nat × List Nat) := do
  let (back, front) ← sections? (Text.splitLines text)
  let back ← back.mapM (Counter.read? display)
  let front ← front.mapM (Counter.read? display)
  return (CellStack.values back.reverse, CellStack.values front)

theorem cellRow_of_mem {display : Display} {s : CellStack} {row : String}
    (h : row ∈ s.map (Counter.render display)) : CellRow row := by
  obtain ⟨c, -, rfl⟩ := List.mem_map.1 h
  exact c.cellRow_render display

/-- The lines of a picture are its rows and two empty ones. -/
theorem splitLines_render_eq (display : Display) (t : Tape) :
    Text.splitLines (t.render display) =
      "Back:" :: (t.back.reverse.map (Counter.render display) ++
        "Front:" :: (t.front.map (Counter.render display) ++ ["", ""])) := by
  have hrows : t.rows display ++ ["", ""] =
      "Back:" :: (t.back.reverse.map (Counter.render display) ++
        "Front:" :: (t.front.map (Counter.render display) ++ ["", ""])) := by
    simp [rows]
  have hne : t.rows display ≠ [] := List.cons_ne_nil _ _
  rw [render, ← Text.joinLines_append_empty hne, hrows,
    Text.splitLines_joinLines (List.cons_ne_nil _ _)]
  -- neither a heading nor the row of a cell runs over its line
  intro row hrow
  simp only [List.mem_cons, List.mem_append, List.not_mem_nil, or_false] at hrow
  rcases hrow with rfl | hrow | rfl | hrow | rfl | rfl
  · decide
  · exact (cellRow_of_mem hrow).newline_notMem
  · decide
  · exact (cellRow_of_mem hrow).newline_notMem
  · decide
  · decide

/-- The values of a tape are read back from its picture. -/
theorem read?_render (display : Display) (t : Tape) :
    read? display (t.render display) = some t.values := by
  have hback : "Front:" ∉ t.back.reverse.map (Counter.render display) := fun h =>
    (cellRow_of_mem h).ne_front rfl
  have hfront : "" ∉ t.front.map (Counter.render display) := fun h =>
    (cellRow_of_mem h).nonempty rfl
  rw [read?, splitLines_render_eq, sections?_of_rows hback hfront]
  show ((t.back.reverse.map (Counter.render display)).mapM (Counter.read? display) >>= _) = _
  rw [Counter.mapM_read?_map_render]
  show ((t.front.map (Counter.render display)).mapM (Counter.read? display) >>= _) = _
  rw [Counter.mapM_read?_map_render]
  show some (CellStack.values t.back.reverse.reverse, t.front.values) = some t.values
  rw [List.reverse_reverse]
  rfl

/-- Tapes with the same values are the same. -/
theorem eq_of_values_eq {t u : Tape} (h : t.values = u.values) : t = u := by
  obtain ⟨hback, hfront⟩ := Prod.mk.inj h
  obtain ⟨hcurrent, hleft⟩ := List.cons.inj (CellStack.eq_of_values_eq hback)
  obtain ⟨c, l, r⟩ := t
  obtain ⟨c', l', r'⟩ := u
  have hright : r = r' := CellStack.eq_of_values_eq hfront
  cases hcurrent
  cases hleft
  cases hright
  rfl

/-! ### Rows from left to right -/

/-- The rows of the cells, from the leftmost to the rightmost. -/
def cellRows (display : Display) (t : Tape) : List String :=
  t.cells.map fun v => Counter.render display ⟨v⟩

theorem cellRows_eq (display : Display) (t : Tape) :
    t.cellRows display = t.back.reverse.map (Counter.render display) ++
      t.front.map (Counter.render display) := by
  simp [cellRows, cells, CellStack.values, Function.comp_def]

/-- The lines of a picture: the cells up to the head stand in the first section, the others in the
second. -/
theorem splitLines_render (display : Display) (t : Tape) :
    Text.splitLines (t.render display) =
      "Back:" :: ((t.cellRows display).take (t.head + 1) ++
        "Front:" :: ((t.cellRows display).drop (t.head + 1) ++ ["", ""])) := by
  have hlength : (t.back.reverse.map (Counter.render display)).length = t.head + 1 := by
    simp [head_eq, back]
  rw [splitLines_render_eq, cellRows_eq, List.take_left' hlength, List.drop_left' hlength]

/-- There are cells to the right of the head exactly when the front holds some. -/
theorem head_succ_lt_iff {t : Tape} : t.head + 1 < t.cells.length ↔ t.front ≠ [] := by
  rw [length_cells_eq, ← List.length_pos_iff]
  show t.head + 1 < t.head + 1 + t.right.length ↔ 0 < t.right.length
  omega

/-- **A picture determines its tape.** In either mode the values of a tape can be read back from its
picture, so different tapes have different pictures. The lines are a heading, a row for each cell
from the leftmost up to the head, a heading, a row for each cell to the right of the head, and two
empty ones. A move leaves the rows of the cells as they are, except that a move past the last cell
adds the row of an empty one. -/
theorem render_readable (display : Display) (t : Tape) :
    read? display (t.render display) = some t.values ∧
    (∀ u : Tape, t.render display = u.render display ↔ t = u) ∧
    Text.splitLines (t.render display) =
      "Back:" :: ((t.cellRows display).take (t.head + 1) ++
        "Front:" :: ((t.cellRows display).drop (t.head + 1) ++ ["", ""])) ∧
    (∀ u, t.moveLeft = .ok u → u.cellRows display = t.cellRows display) ∧
    (t.front ≠ [] → t.moveRight.cellRows display = t.cellRows display) ∧
    (t.front = [] →
      t.moveRight.cellRows display = t.cellRows display ++ [Counter.zero.render display]) := by
  refine ⟨read?_render display t, fun u => ⟨fun h => ?_, congrArg (render display)⟩,
    splitLines_render display t, fun u h => ?_, fun h => ?_, fun h => ?_⟩
  · have hread := read?_render display t
    rw [h, read?_render] at hread
    exact (eq_of_values_eq (Option.some.inj hread)).symm
  · rw [cellRows, cellRows, (cells_moveLeft h).1]
  · rw [cellRows, cellRows, cells_moveRight, if_pos (head_succ_lt_iff.2 h)]
  · rw [cellRows, cellRows, cells_moveRight, if_neg (fun hlt => head_succ_lt_iff.1 hlt h),
      List.map_append]
    rfl

/-- A tape with its head on the last of two cells: its picture in marks is read back, the rows stay
when the head goes to the left and back, and a move past the last cell adds one. -/
theorem render_readable_marks :
    read? .markers (render .markers ⟨⟨2⟩, [⟨0⟩], []⟩) = some ([2, 0], []) ∧
    moveLeft ⟨⟨2⟩, [⟨0⟩], []⟩ = .ok ⟨⟨0⟩, [], [⟨2⟩]⟩ ∧
    cellRows .markers ⟨⟨0⟩, [], [⟨2⟩]⟩ = cellRows .markers ⟨⟨2⟩, [⟨0⟩], []⟩ ∧
    cellRows .markers (moveRight ⟨⟨0⟩, [], [⟨2⟩]⟩) = cellRows .markers ⟨⟨0⟩, [], [⟨2⟩]⟩ ∧
    cellRows .markers (moveRight ⟨⟨2⟩, [⟨0⟩], []⟩) =
      cellRows .markers ⟨⟨2⟩, [⟨0⟩], []⟩ ++ [Counter.zero.render .markers] := by
  obtain ⟨hread, -, -, hleft, -, hlast⟩ := render_readable .markers ⟨⟨2⟩, [⟨0⟩], []⟩
  obtain ⟨-, -, -, -, hback, -⟩ := render_readable .markers ⟨⟨0⟩, [], [⟨2⟩]⟩
  exact ⟨hread, rfl, hleft _ rfl, hback (List.cons_ne_nil _ _), hlast rfl⟩

end Tape

end MarkTape
