import MarkTape.Proofs.Effect

/-!
# The cells of a tape in a row

The two stacks of a tape meet at its head. Read from left to right, the back stack reversed and
then the front stack, the cells stand in a row, and the head is a place in that row. The moves
change only the place of the head, except that the row grows by an empty cell when the head
leaves it on the right; the changes touch only the cell at the head.

* `Tape.cells`, `Tape.head`: the row and the place of the head in it;
* `Tape.cells_moveLeft`, `Tape.cells_moveRight`, `Tape.cells_increment`, `Tape.cells_decrement`:
  what each rule does to the row;
* `Tape.length_cells_effect`: how far the row grows.
-/

namespace MarkTape.Tape

/-- The values of the cells, from the leftmost to the rightmost. -/
def cells (t : Tape) : List Nat := t.back.values.reverse ++ t.front.values

/-- The place of the current cell in the row, from zero. -/
def head (t : Tape) : Nat := t.back.length - 1

theorem head_eq (t : Tape) : t.head = t.left.length := rfl

theorem cells_eq (t : Tape) :
    t.cells = t.left.values.reverse ++ t.current.value :: t.right.values := by
  simp [cells, back, front]

theorem length_cells (t : Tape) : t.cells.length = t.back.length + t.front.length := by
  simp [cells]

theorem length_cells_eq (t : Tape) : t.cells.length = t.head + 1 + t.right.length := by
  simp [length_cells, head_eq, back, front]

theorem head_lt_length_cells (t : Tape) : t.head < t.cells.length := by
  rw [length_cells_eq]
  omega

/-- The head stands on the current cell. -/
theorem getElem?_cells_head (t : Tape) : t.cells[t.head]? = some t.current.value := by
  rw [cells_eq, head_eq, List.getElem?_append_right (by simp)]
  simp

/-- A change of the cell at the head leaves both sides alone. -/
theorem modify_cells_head (t : Tape) (g : Nat → Nat) :
    t.cells.modify t.head g = t.left.values.reverse ++ g t.current.value :: t.right.values := by
  have hlen : t.left.values.reverse.length = t.head := by simp [head_eq]
  rw [cells_eq, ← hlen, List.modify_eq_take_cons_drop (by simp)]
  simp [List.drop_append]

/-! ### The rules -/

theorem moveLeft_eq_error_iff {t : Tape} {f : Fault} :
    t.moveLeft = .error f ↔ f = .underflow ∧ t.head = 0 := by
  rw [← Token.effect_left, Token.effect_eq_error_iff]
  simp [head_eq]

theorem cells_moveLeft {t u : Tape} (h : t.moveLeft = .ok u) :
    u.cells = t.cells ∧ u.head + 1 = t.head := by
  obtain ⟨c, l, r⟩ := t
  cases l with
  | nil => cases h
  | cons d l =>
    cases h
    simp [cells_eq, head_eq]

theorem head_moveRight (t : Tape) : t.moveRight.head = t.head + 1 := by
  obtain ⟨c, l, r⟩ := t
  cases r <;> simp [head_eq]

theorem cells_moveRight (t : Tape) :
    t.moveRight.cells = if t.head + 1 < t.cells.length then t.cells else t.cells ++ [0] := by
  obtain ⟨c, l, r⟩ := t
  rw [length_cells_eq]
  cases r with
  | nil => simp [cells_eq, Counter.zero]
  | cons d r => simp [cells_eq]

theorem cells_increment (t : Tape) : t.increment.cells = t.cells.modify t.head (· + 1) := by
  rw [modify_cells_head, cells_eq]
  rfl

theorem decrement_eq_error_iff {t : Tape} {f : Fault} :
    t.decrement = .error f ↔ f = .zeroCell ∧ t.cells[t.head]? = some 0 := by
  obtain ⟨⟨n⟩, l, r⟩ := t
  rw [getElem?_cells_head, ← Token.effect_dec, Token.effect_eq_error_iff]
  simp [Counter.zero]

theorem current_pos_of_decrement {t u : Tape} (h : t.decrement = .ok u) :
    0 < t.current.value := by
  obtain ⟨⟨n⟩, l, r⟩ := t
  cases n with
  | zero => cases h
  | succ n => exact Nat.succ_pos n

theorem cells_decrement {t u : Tape} (h : t.decrement = .ok u) :
    u.cells = t.cells.modify t.head (· - 1) ∧ u.head = t.head := by
  obtain ⟨⟨n⟩, l, r⟩ := t
  rw [modify_cells_head]
  cases n with
  | zero => cases h
  | succ n =>
    cases h
    simp [cells_eq, head_eq]

/-- The row grows just enough to hold the head. -/
theorem length_cells_effect {x : Token} {u v : Tape} (h : x.effect u = .ok v) :
    v.cells.length = max u.cells.length (v.head + 1) := by
  have hu := u.head_lt_length_cells
  cases x with
  | left =>
    obtain ⟨hc, hh⟩ := cells_moveLeft h
    rw [hc]
    omega
  | right =>
    cases h
    rw [cells_moveRight, head_moveRight]
    split
    · omega
    · rw [List.length_append, List.length_singleton]
      omega
  | inc =>
    cases h
    rw [cells_increment, List.length_modify]
    exact (Nat.max_eq_left hu).symm
  | dec =>
    obtain ⟨hc, hh⟩ := cells_decrement h
    rw [hc, hh, List.length_modify]
    omega
  | mark =>
    cases h
    omega

end MarkTape.Tape
