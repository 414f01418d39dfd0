import MarkTape.Proofs.Layout
import MarkTape.Proofs.Outcome

/-!
# Undoing a program

Every instruction is undone by another: a move by the move in the other direction, and a change by
the opposite change. A program is undone by the inverses of its instructions, the last one first.
The only trace that is left are the cells which the head was the first to enter: they stay, as
zeros at the right end.

* `Token.inverse`, `Token.undo`: what undoes an instruction and a program;
* `Tape.pad`: a tape with more empty cells at its right end;
* `Tape.effect_inverse`: undoing one instruction;
* `Tape.effect_pad`: an instruction uses up the empty cells at the right end before it makes
  new ones;
* `Tape.after_undo`, `Machine.run_undo`: undoing a program.
-/

namespace MarkTape

namespace Token

/-- The instruction that undoes another. -/
def inverse : Token → Token
  | .left => .right
  | .right => .left
  | .inc => .dec
  | .dec => .inc
  | .mark => .mark

/-- The program that undoes another: the inverses, the last one first. -/
def undo (p : List Token) : List Token := (p.map inverse).reverse

@[simp] theorem inverse_inverse (x : Token) : x.inverse.inverse = x := by
  cases x <;> rfl

@[simp] theorem undo_nil : undo [] = [] := rfl

theorem undo_cons (x : Token) (p : List Token) : undo (x :: p) = undo p ++ [x.inverse] := by
  simp [undo]

theorem mark_notMem_undo {p : List Token} (hp : mark ∉ p) : mark ∉ undo p := by
  intro hmem
  rw [undo, List.mem_reverse, List.mem_map] at hmem
  obtain ⟨x, hx, hinv⟩ := hmem
  have hmark : x = mark := by rw [← inverse_inverse x, hinv]; rfl
  exact hp (hmark ▸ hx)

end Token

namespace Tape

/-- The tape with `n` more empty cells at its right end. -/
def pad (t : Tape) (n : Nat) : Tape := { t with right := t.right ++ List.replicate n .zero }

@[simp] theorem pad_zero (t : Tape) : t.pad 0 = t := by
  simp [pad]

theorem pad_pad (t : Tape) (m n : Nat) : (t.pad m).pad n = t.pad (m + n) := by
  simp [pad, List.append_assoc, List.replicate_append_replicate]

theorem length_cells_pad (t : Tape) (n : Nat) : (t.pad n).cells.length = t.cells.length + n := by
  simp [length_cells_eq, pad, head_eq, Nat.add_assoc]

/-! ### One instruction -/

theorem length_cells_le_of_effect {x : Token} {t u : Tape} (h : x.effect t = .ok u) :
    t.cells.length ≤ u.cells.length := by
  rw [length_cells_effect h]
  exact Nat.le_max_left _ _

/-- Undoing an instruction gives the tape back, and with it the cell that was new. -/
theorem effect_inverse {x : Token} {t u : Tape} (h : x.effect t = .ok u) :
    x.inverse.effect u = .ok (t.pad (u.cells.length - t.cells.length)) := by
  cases x with
  | left =>
    rw [(cells_moveLeft h).1, Nat.sub_self, pad_zero]
    obtain ⟨c, l, r⟩ := t
    cases l with
    | nil => cases h
    | cons d l =>
      cases h
      rfl
  | right =>
    cases h
    obtain ⟨c, l, r⟩ := t
    cases r with
    | nil =>
      -- the cell that was entered is new, and it stays
      have hgrow : (moveRight ⟨c, l, []⟩).cells.length = (⟨c, l, []⟩ : Tape).cells.length + 1 := by
        simp [length_cells_eq, head_eq]
      rw [hgrow, Nat.add_sub_cancel_left]
      rfl
    | cons d r =>
      have hkeep : (moveRight ⟨c, l, d :: r⟩).cells = (⟨c, l, d :: r⟩ : Tape).cells := by
        simp [cells_eq]
      rw [hkeep, Nat.sub_self, pad_zero]
      rfl
  | inc =>
    cases h
    rw [cells_increment, List.length_modify, Nat.sub_self, pad_zero]
    exact decrement_increment t
  | dec =>
    rw [(cells_decrement h).1, List.length_modify, Nat.sub_self, pad_zero]
    obtain ⟨⟨n⟩, l, r⟩ := t
    cases n with
    | zero => cases h
    | succ n =>
      cases h
      rfl
  | mark =>
    cases h
    rw [Nat.sub_self, pad_zero]
    rfl

/-- Empty cells at the right end change nothing, except that they are there already when an
instruction enters them. -/
theorem effect_pad (x : Token) (t : Tape) (n : Nat) :
    x.effect (t.pad n) =
      (x.effect t).map fun u => u.pad (n - (u.cells.length - t.cells.length)) := by
  obtain ⟨c, l, r⟩ := t
  cases x with
  | left =>
    cases l with
    | nil => rfl
    | cons d l =>
      have hkeep : (⟨d, l, c :: r⟩ : Tape).cells = (⟨c, d :: l, r⟩ : Tape).cells := by
        simp [cells_eq]
      simp [pad, Except.map, hkeep]
  | right =>
    cases r with
    | nil =>
      have hgrow : (⟨.zero, c :: l, []⟩ : Tape).cells.length =
          (⟨c, l, []⟩ : Tape).cells.length + 1 := by
        simp [length_cells_eq, head_eq]
      cases n with
      | zero => simp [Except.map]
      | succ n => simp [pad, Except.map, hgrow, List.replicate_succ]
    | cons d r =>
      have hkeep : (⟨d, c :: l, r⟩ : Tape).cells = (⟨c, l, d :: r⟩ : Tape).cells := by
        simp [cells_eq]
      simp [pad, Except.map, hkeep]
  | inc =>
    have hkeep : (increment ⟨c, l, r⟩).cells.length = (⟨c, l, r⟩ : Tape).cells.length := by
      rw [cells_increment, List.length_modify]
    simp only [Token.effect_inc, Except.map, hkeep, Nat.sub_self, Nat.sub_zero]
    rfl
  | dec =>
    obtain ⟨k⟩ := c
    cases k with
    | zero => rfl
    | succ k =>
      have hkeep : (⟨⟨k⟩, l, r⟩ : Tape).cells.length = (⟨⟨k + 1⟩, l, r⟩ : Tape).cells.length := by
        simp [length_cells_eq, head_eq]
      simp [pad, Except.map, hkeep]
  | mark => simp [Token.effect, Token.rule?, Except.map]

/-! ### A program -/

theorem length_cells_le_of_after {t u : Tape} {p : List Token} (h : t.after p = .ok u) :
    t.cells.length ≤ u.cells.length := by
  induction p generalizing t with
  | nil =>
    cases h
    exact Nat.le_refl _
  | cons x p ih =>
    obtain ⟨v, hv, hu⟩ := after_cons_eq_ok_iff.1 h
    exact Nat.le_trans (length_cells_le_of_effect hv) (ih hu)

/-- Undoing a program gives the tape back, and with it the cells that were new. -/
theorem after_undo {t u : Tape} {p : List Token} (h : t.after p = .ok u) :
    u.after (Token.undo p) = .ok (t.pad (u.cells.length - t.cells.length)) := by
  induction p generalizing t with
  | nil =>
    cases h
    simp
  | cons x p ih =>
    obtain ⟨v, hv, hu⟩ := after_cons_eq_ok_iff.1 h
    have hle := length_cells_le_of_effect hv
    have hle' := length_cells_le_of_after hu
    have hgrow : v.cells.length - t.cells.length + (u.cells.length - v.cells.length) =
        u.cells.length - t.cells.length := by omega
    -- undoing the first instruction enters no cell that is not there, so the cells that the rest
    -- of the program left stay as they are
    have hstep : x.inverse.effect (v.pad (u.cells.length - v.cells.length)) =
        .ok (t.pad (u.cells.length - t.cells.length)) := by
      have hback : (t.pad (v.cells.length - t.cells.length)).cells.length = v.cells.length := by
        rw [length_cells_pad]
        omega
      rw [effect_pad, effect_inverse hv]
      simp only [Except.map, hback, Nat.sub_self, Nat.sub_zero, pad_pad, hgrow]
    rw [Token.undo_cons, after_append, ih hu, ok_bind, after_cons, hstep, ok_bind, after_nil]

end Tape

/-- **Undoing a run.** If a run without a limit succeeds, the run that undoes its program succeeds
from the tape that was reached. It ends with the back stack of the start and with its front stack,
followed by as many zeros as the first run made new cells. -/
theorem Machine.run_undo (trace trace' : Bool) (p : List Token) (hp : Token.mark ∉ p) (t : Tape)
    (s : State) (h : (⟨none, trace⟩ : Machine).run p t = .ok s) :
    t.back.length + t.front.length ≤ s.tape.back.length + s.tape.front.length ∧
    ∃ s', (⟨none, trace'⟩ : Machine).run (Token.undo p) s.tape = .ok s' ∧
      s'.tape.back = t.back ∧
      s'.tape.front = t.front ++ List.replicate
        (s.tape.back.length + s.tape.front.length - (t.back.length + t.front.length)) .zero := by
  obtain ⟨-, -, hafter⟩ := run_eq_ok hp h
  obtain ⟨s', hrun, hat⟩ := run_of_ok (m := ⟨none, trace'⟩) (Token.mark_notMem_undo hp)
    forall_limit_of_none (Tape.after_undo hafter)
  simp only [← Tape.length_cells]
  refine ⟨Tape.length_cells_le_of_after hafter, s', hrun, ?_, ?_⟩
  · rw [hat.tape]
    rfl
  · rw [hat.tape]
    rfl

/-- A program that enters two new cells and comes back between its changes: undoing it empties
the cells it filled, and leaves them behind. -/
theorem Machine.run_undo_growth :
    Token.mark ∉ [Token.dec, .right, .inc, .right, .inc, .left] ∧
      ∃ s s', (⟨none, false⟩ : Machine).run [.dec, .right, .inc, .right, .inc, .left]
          ⟨⟨1⟩, [], []⟩ = .ok s ∧
        (⟨none, false⟩ : Machine).run [.right, .dec, .left, .dec, .left, .inc] s.tape = .ok s' ∧
        s'.tape.back = [⟨1⟩] ∧ s'.tape.front = [.zero, .zero] := by
  obtain ⟨-, s', hrun, hback, hfront⟩ := run_undo false false
    [.dec, .right, .inc, .right, .inc, .left] (by decide) ⟨⟨1⟩, [], []⟩ _ rfl
  exact ⟨by decide, _, s', rfl, hrun, hback, hfront⟩

end MarkTape
