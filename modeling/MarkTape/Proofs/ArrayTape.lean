import MarkTape.Proofs.Layout
import MarkTape.Proofs.Outcome

/-!
# A tape as an array with an index

The other way to keep a tape: all its cells in one array, and the place of the head as an index
into it. Moves change the index, and the array grows by a zero when the index leaves it on the
right. The machine with two stacks does exactly what this one does.

* `ArrayTape`: the array, the index, and that the index is inside;
* `ArrayTape.step`, `ArrayTape.run`: its machine;
* `Tape.layout`: the array and the index of a tape with two stacks;
* `Tape.step_layout`: one instruction keeps the two in step;
* `Machine.run_simulates_array`: so does a whole run, failures included.
-/

namespace MarkTape

/-- Cells in an array, and the index of the head, which never leaves the array. -/
@[ext] structure ArrayTape where
  cells : Array Nat
  head : Nat
  inside : head < cells.size

namespace ArrayTape

/-- The value at the index. -/
def scanned : ArrayTape → Nat
  | ⟨cells, head, _⟩ => cells[head]

/-- The index goes down, unless it is zero. -/
def moveLeft (a : ArrayTape) : Except Fault ArrayTape :=
  if a.head = 0 then .error .underflow
  else .ok ⟨a.cells, a.head - 1, by have := a.inside; omega⟩

/-- The index goes up; where the array ends, a zero is appended first. -/
def moveRight (a : ArrayTape) : ArrayTape :=
  if h : a.head + 1 < a.cells.size then ⟨a.cells, a.head + 1, h⟩
  else ⟨a.cells.push 0, a.head + 1, by have := a.inside; rw [Array.size_push]; omega⟩

/-- The value at the index is changed by `g`. -/
def modify (a : ArrayTape) (g : Nat → Nat) : ArrayTape :=
  ⟨a.cells.modify a.head g, a.head, by rw [Array.size_modify]; exact a.inside⟩

/-- One instruction; the mark does nothing. -/
def step : Token → ArrayTape → Except Fault ArrayTape
  | .left, a => a.moveLeft
  | .right, a => .ok a.moveRight
  | .inc, a => .ok (a.modify (· + 1))
  | .dec, a => if a.scanned = 0 then .error .zeroCell else .ok (a.modify (· - 1))
  | .mark, a => .ok a

/-- How a program ends: with its last array, or with a fault of the instruction of some number on
the array before it. -/
inductive Ending
  | finished (last : ArrayTape)
  | faulted (index : Nat) (before : ArrayTape) (fault : Fault)

/-- Carry out a program whose first instruction has the number `i`. -/
def runFrom (i : Nat) : List Token → ArrayTape → Ending
  | [], a => .finished a
  | x :: p, a =>
    match step x a with
    | .error f => .faulted i a f
    | .ok b => runFrom (i + 1) p b

/-- Carry out a program from its first instruction on. -/
def run (p : List Token) (a : ArrayTape) : Ending := runFrom 0 p a

end ArrayTape

/-! ### The two tapes in step -/

namespace Tape

/-- The cells of a tape as an array, with the index of the current one. -/
def layout (t : Tape) : ArrayTape :=
  ⟨t.cells.toArray, t.head, by simpa using t.head_lt_length_cells⟩

theorem scanned_layout (t : Tape) : t.layout.scanned = t.current.value := by
  have h := t.getElem?_cells_head
  rw [List.getElem?_eq_getElem t.head_lt_length_cells] at h
  exact Option.some.inj h

theorem moveLeft_layout (t : Tape) : t.layout.moveLeft = t.moveLeft.map layout := by
  cases h : t.moveLeft with
  | error f =>
    obtain ⟨rfl, h0⟩ := moveLeft_eq_error_iff.1 h
    exact if_pos h0
  | ok u =>
    obtain ⟨hc, hh⟩ := cells_moveLeft h
    have h0 : t.layout.head ≠ 0 := by
      show t.head ≠ 0
      omega
    rw [ArrayTape.moveLeft, if_neg h0]
    refine congrArg Except.ok (ArrayTape.ext ?_ ?_)
    · show t.cells.toArray = u.cells.toArray
      rw [hc]
    · show t.head - 1 = u.head
      omega

theorem moveRight_layout (t : Tape) : t.layout.moveRight = t.moveRight.layout := by
  have hc := t.cells_moveRight
  apply ArrayTape.ext
  · by_cases h : t.head + 1 < t.cells.length
    · rw [if_pos h] at hc
      simp [ArrayTape.moveRight, layout, hc, h]
    · rw [if_neg h] at hc
      simp [ArrayTape.moveRight, layout, hc, h]
  · rw [show t.moveRight.layout.head = t.head + 1 from t.head_moveRight]
    unfold ArrayTape.moveRight
    split <;> rfl

theorem modify_layout {t u : Tape} {g : Nat → Nat} (hc : u.cells = t.cells.modify t.head g)
    (hh : u.head = t.head) : t.layout.modify g = u.layout := by
  apply ArrayTape.ext
  · simp [ArrayTape.modify, layout, hc]
  · exact hh.symm

/-- One instruction keeps the two tapes in step. -/
theorem step_layout (x : Token) (t : Tape) :
    ArrayTape.step x t.layout = (x.effect t).map layout := by
  cases x with
  | left => exact moveLeft_layout t
  | right => exact congrArg Except.ok (moveRight_layout t)
  | inc => exact congrArg Except.ok (modify_layout t.cells_increment rfl)
  | dec =>
    simp only [ArrayTape.step, scanned_layout, Token.effect_dec]
    cases h : t.decrement with
    | error f =>
      obtain ⟨rfl, h0⟩ := decrement_eq_error_iff.1 h
      rw [getElem?_cells_head] at h0
      exact if_pos (Option.some.inj h0)
    | ok u =>
      have h0 : t.current.value ≠ 0 := Nat.ne_of_gt (current_pos_of_decrement h)
      obtain ⟨hc, hh⟩ := cells_decrement h
      rw [if_neg h0, modify_layout hc hh]
      rfl
  | mark => rfl

/-- The array follows the effects of a program. -/
theorem runFrom_layout {t u : Tape} {q : List Token} (h : t.after q = .ok u) (r : List Token)
    (i : Nat) :
    ArrayTape.runFrom i (q ++ r) t.layout = ArrayTape.runFrom (i + q.length) r u.layout := by
  induction q generalizing t i with
  | nil =>
    cases h
    rfl
  | cons x q ih =>
    obtain ⟨v, hv, hu⟩ := after_cons_eq_ok_iff.1 h
    rw [List.cons_append, ArrayTape.runFrom, step_layout, hv]
    show ArrayTape.runFrom (i + 1) (q ++ r) v.layout = _
    rw [ih hu, List.length_cons, show i + 1 + q.length = i + (q.length + 1) by omega]

theorem run_layout_of_ok {t u : Tape} {p : List Token} (h : t.after p = .ok u) :
    ArrayTape.run p t.layout = .finished u.layout := by
  have hrun := runFrom_layout h [] 0
  rwa [List.append_nil] at hrun

theorem run_layout_of_fault {t u : Tape} {q r : List Token} {x : Token} {f : Fault}
    (h : t.after q = .ok u) (hx : x.effect u = .error f) :
    ArrayTape.run (q ++ x :: r) t.layout = .faulted q.length u.layout f := by
  rw [ArrayTape.run, runFrom_layout h, ArrayTape.runFrom, step_layout, hx, Nat.zero_add]
  rfl

end Tape

theorem Fault.kind_injective {f g : Fault} (h : f.kind = g.kind) : f = g := by
  cases f <;> cases g <;> first | rfl | cases h

/-- **The machine with two stacks refines the machine with an array.** A run without a limit
succeeds exactly when the array machine does, on a tape with the same cells and head, and fails
exactly when the array machine does, with the same fault of the same instruction on a tape with
the same cells and head. -/
theorem Machine.run_simulates_array (trace : Bool) (p : List Token) (hp : Token.mark ∉ p)
    (t : Tape) :
    (∀ a, ArrayTape.run p t.layout = .finished a ↔
      ∃ s, (⟨none, trace⟩ : Machine).run p t = .ok s ∧ s.tape.layout = a) ∧
    ∀ i a f, ArrayTape.run p t.layout = .faulted i a f ↔
      ∃ e u, (⟨none, trace⟩ : Machine).run p t = .error (.failed e) ∧ e.kind = f.kind ∧
        e.step = some (i : Int) ∧ e.tape = some u ∧ u.layout = a := by
  rcases t.after_ok_or_fault p with ⟨u, hu⟩ | ⟨q, x, r, u, f, rfl, hu, hx⟩
  · obtain ⟨s, hrun, hat⟩ := run_of_ok hp forall_limit_of_none hu
    rw [Tape.run_layout_of_ok hu, hrun]
    simp [hat.tape]
  · rw [Tape.run_layout_of_fault hu hx, run_of_fault hp forall_limit_of_none hu hx]
    refine ⟨by simp, fun i a g => ⟨?_, ?_⟩⟩
    · rintro ⟨⟩
      exact ⟨_, u, rfl, rfl, rfl, rfl, rfl⟩
    · rintro ⟨e, v, he, hkind, hstep, htape, rfl⟩
      cases he
      cases htape
      -- the kind of the failure gives the fault back
      rw [Fault.kind_injective hkind, Int.ofNat_inj.1 (Option.some.inj hstep)]

/-- A head that goes right off the row, back to the start and one step too far: both machines fail
at the fourth instruction, on the grown row. -/
theorem Machine.run_simulates_array_growth :
    Token.mark ∉ [Token.right, .inc, .left, .left] ∧
      ∃ e u, (⟨none, false⟩ : Machine).run [.right, .inc, .left, .left] .initial =
          .error (.failed e) ∧
        e.kind = .underflow ∧ e.step = some 3 ∧ e.tape = some u ∧
          u.layout = ⟨#[0, 1], 0, by decide⟩ :=
  ⟨by decide,
    ((run_simulates_array false [.right, .inc, .left, .left] (by decide) .initial).2 3
      ⟨#[0, 1], 0, by decide⟩ .underflow).1 rfl⟩

end MarkTape
