import Mathlib.Data.Finset.Lattice.Fold
import Mathlib.Tactic
import MarkTape.Proofs.Layout
import MarkTape.Proofs.Outcome

/-!
# A run by counting

Where the head stands and what the cells hold can be counted off the program, without a tape:
the moves before an instruction give the place of the head, and the changes that were made with
the head on a cell give its value. A run without a limit is decided by these counts alone.

* `Tape.headBefore`: the place of the head before an instruction;
* `Tape.changes`, `Tape.valueBefore`: the changes made to a cell, and its value;
* `Tape.peak`: the rightmost place of the head;
* `Tape.Applies`: the counts let an instruction be carried out;
* `Tape.Counted`: a tape agrees with the counts, which every instruction preserves;
* `Machine.run_by_counting`: the counts decide how a run ends and give its last tape.
-/

namespace MarkTape

/-- How far a token moves the head to the right. -/
def Token.shift : Token → ℤ
  | .left => -1
  | .right => 1
  | _ => 0

/-- How much a token adds to the value of the cell at the head. -/
def Token.gain : Token → ℤ
  | .inc => 1
  | .dec => -1
  | _ => 0

namespace Tape

variable (t : Tape) (p : List Token)

/-- The place of the head before instruction number `i`, from the moves before it. -/
def headBefore (i : ℕ) : ℤ :=
  t.back.length - 1 + (p.take i).count .right - (p.take i).count .left

/-- The value of cell `x` at the start; outside the row there are only zeros. -/
def startValue (x : ℤ) : ℤ := if 0 ≤ x then t.cells[x.toNat]?.getD 0 else 0

/-- How often the token `y` comes up before instruction number `i` with the head at `x`. -/
def changes (y : Token) (i : ℕ) (x : ℤ) : ℕ :=
  (List.range i).countP fun j => p[j]? = some y ∧ t.headBefore p j = x

/-- The value of cell `x` before instruction number `i`, from the changes before it. -/
def valueBefore (i : ℕ) (x : ℤ) : ℤ :=
  t.startValue x + t.changes p .inc i x - t.changes p .dec i x

/-- The rightmost place of the head before the instructions up to number `i`. -/
def peak (i : ℕ) : ℤ :=
  (Finset.range (i + 1)).sup' Finset.nonempty_range_add_one (t.headBefore p)

/-- Instruction number `i` has a cell to go to, if it moves to the left, and a mark to take, if
it is a decrement. -/
def Applies (i : ℕ) : Prop :=
  (p[i]? = some .left → 1 ≤ t.headBefore p i) ∧
    (p[i]? = some .dec → 1 ≤ t.valueBefore p i (t.headBefore p i))

instance (i : ℕ) : Decidable (t.Applies p i) := inferInstanceAs (Decidable (_ ∧ _))

/-! ### The counts from one instruction to the next -/

variable {t p} {x : Token} {i : ℕ}

theorem headBefore_zero : t.headBefore p 0 = t.head := by
  simp [headBefore, head_eq, back]

theorem headBefore_succ (hx : p[i]? = some x) :
    t.headBefore p (i + 1) = t.headBefore p i + x.shift := by
  simp only [headBefore, List.take_add_one, hx, Option.toList_some, List.count_append]
  cases x <;> simp [Token.shift] <;> omega

theorem startValue_natCast (z : ℕ) : t.startValue z = t.cells[z]?.getD 0 := by
  simp [startValue]

theorem changes_succ (hx : p[i]? = some x) (y : Token) (z : ℤ) :
    t.changes p y (i + 1) z =
      t.changes p y i z + if x = y ∧ t.headBefore p i = z then 1 else 0 := by
  simp [changes, List.range_succ, List.countP_append, List.countP_cons, hx]

theorem valueBefore_zero (z : ℤ) : t.valueBefore p 0 z = t.startValue z := by
  simp [valueBefore, changes]

theorem valueBefore_succ (hx : p[i]? = some x) (z : ℤ) :
    t.valueBefore p (i + 1) z =
      t.valueBefore p i z + if t.headBefore p i = z then x.gain else 0 := by
  simp only [valueBefore, changes_succ hx]
  by_cases hz : t.headBefore p i = z
  · cases x <;> simp [hz, Token.gain] <;> omega
  · simp [hz]

theorem peak_zero : t.peak p 0 = t.headBefore p 0 := by
  simp [peak]

theorem peak_succ : t.peak p (i + 1) = max (t.peak p i) (t.headBefore p (i + 1)) := by
  simp only [peak, Finset.range_add_one (n := i + 1)]
  rw [Finset.sup'_insert, sup_comm]

/-! ### The counts of one effect -/

theorem head_effect {u v : Tape} (h : x.effect u = .ok v) : (v.head : ℤ) = u.head + x.shift := by
  cases x with
  | left =>
    have := (cells_moveLeft h).2
    simp only [Token.shift]
    omega
  | right =>
    cases h
    rw [head_moveRight]
    rfl
  | inc =>
    cases h
    simp [Token.shift, increment, head_eq]
  | dec => simp [Token.shift, (cells_decrement h).2]
  | mark =>
    cases h
    simp [Token.shift]

/-- A change at the head is seen at the head only. -/
theorem getD_modify_head {u : Tape} (g : ℕ → ℕ) (z : ℕ) :
    (u.cells.modify u.head g)[z]?.getD 0 =
      if u.head = z then g u.current.value else u.cells[z]?.getD 0 := by
  split
  · next hz =>
    subst hz
    rw [List.getElem?_modify_eq, getElem?_cells_head]
    rfl
  · next hz => rw [List.getElem?_modify_ne _ _ hz]

/-- A new empty cell changes no value. -/
theorem getD_append_zero (l : List ℕ) (z : ℕ) : (l ++ [0])[z]?.getD 0 = l[z]?.getD 0 := by
  rcases lt_or_ge z l.length with hz | hz
  · rw [List.getElem?_append_left hz]
  · rw [List.getElem?_append_right hz, List.getElem?_eq_none hz]
    cases z - l.length <;> rfl

theorem getD_cells_effect {u v : Tape} (h : x.effect u = .ok v) (z : ℕ) :
    (v.cells[z]?.getD 0 : ℤ) = u.cells[z]?.getD 0 + if u.head = z then x.gain else 0 := by
  have hcur : u.cells[u.head]?.getD 0 = u.current.value := by
    rw [getElem?_cells_head]
    rfl
  cases x with
  | left => simp [(cells_moveLeft h).1, Token.gain]
  | right =>
    cases h
    rw [cells_moveRight]
    split
    · simp [Token.gain]
    · simp [getD_append_zero, Token.gain]
  | inc =>
    cases h
    rw [cells_increment, getD_modify_head]
    split
    · next hz =>
      subst hz
      rw [hcur]
      rfl
    · simp
  | dec =>
    obtain ⟨hc, hh⟩ := cells_decrement h
    rw [hc, getD_modify_head]
    split
    · next hz =>
      subst hz
      have hpos := current_pos_of_decrement h
      rw [hcur]
      simp only [Token.gain]
      omega
    · simp
  | mark =>
    cases h
    simp [Token.gain]

/-! ### A tape that agrees with the counts -/

/-- The tape `u` is what the counts before instruction number `i` say. -/
structure Counted (t : Tape) (p : List Token) (i : ℕ) (u : Tape) : Prop where
  head : (u.head : ℤ) = t.headBefore p i
  value : ∀ z : ℕ, (u.cells[z]?.getD 0 : ℤ) = t.valueBefore p i z
  size : (u.cells.length : ℤ) = max (t.cells.length : ℤ) (1 + t.peak p i)

theorem counted_zero (t : Tape) (p : List Token) : t.Counted p 0 t where
  head := headBefore_zero.symm
  value z := by rw [valueBefore_zero, startValue_natCast]
  size := by
    have := t.head_lt_length_cells
    rw [peak_zero, headBefore_zero]
    omega

/-- Every instruction preserves the agreement. -/
theorem Counted.step {u v : Tape} (hu : t.Counted p i u) (hx : p[i]? = some x)
    (h : x.effect u = .ok v) : t.Counted p (i + 1) v := by
  have hhead : (v.head : ℤ) = t.headBefore p (i + 1) := by
    rw [head_effect h, hu.head, headBefore_succ hx]
  refine ⟨hhead, fun z => ?_, ?_⟩
  · rw [getD_cells_effect h, hu.value, valueBefore_succ hx, ← hu.head]
    simp only [Nat.cast_inj]
  · have hsize := hu.size
    rw [length_cells_effect h, peak_succ, ← hhead]
    omega

theorem counted_of_after (hi : i ≤ p.length) {u : Tape} (h : t.after (p.take i) = .ok u) :
    t.Counted p i u := by
  induction i generalizing u with
  | zero =>
    cases h
    exact counted_zero t p
  | succ i ih =>
    have hx : p[i]? = some p[i] := List.getElem?_eq_getElem hi
    rw [after_take_succ hx] at h
    obtain ⟨v, hv, hu⟩ := bind_eq_ok_iff.1 h
    exact (ih (Nat.le_of_succ_le hi) hv).step hx hu

/-- The counts say exactly whether the rule of an instruction fails. -/
theorem Counted.not_applies_iff {u : Tape} (hu : t.Counted p i u) (hx : p[i]? = some x) :
    ¬ t.Applies p i ↔ ∃ f, x.effect u = .error f := by
  have hhead := hu.head
  have hval := hu.value u.head
  rw [hhead, getElem?_cells_head, Option.getD_some] at hval
  cases x with
  | left =>
    simp only [Applies, hx, Token.effect_left, moveLeft_eq_error_iff, forall_const,
      Option.some.injEq, reduceCtorEq, IsEmpty.forall_iff, and_true, not_le, ↓existsAndEq,
      true_and]
    omega
  | dec =>
    simp only [Applies, hx, Token.effect_dec, decrement_eq_error_iff, getElem?_cells_head,
      Option.some.injEq, reduceCtorEq, IsEmpty.forall_iff, forall_const, true_and, not_le,
      ↓existsAndEq]
    omega
  | right => simp [Applies, hx]
  | inc => simp [Applies, hx]
  | mark => simp [Applies, hx, Token.effect, Token.rule?]

theorem applies_of_after {u : Tape} {q r : List Token} (h : t.after q = .ok u)
    (hi : i < q.length) : t.Applies (q ++ r) i := by
  obtain ⟨v, hv, hd⟩ := after_take_of_ok h i
  rw [List.drop_eq_getElem_cons hi] at hd
  obtain ⟨w, hw, -⟩ := after_cons_eq_ok_iff.1 hd
  have htake : t.after ((q ++ r).take i) = .ok v := by
    rw [List.take_append_of_le_length hi.le, hv]
  have hx : (q ++ r)[i]? = some q[i] := by
    rw [List.getElem?_append_left hi, List.getElem?_eq_getElem hi]
  have hcount := counted_of_after (p := q ++ r) (by rw [List.length_append]; omega) htake
  by_contra hnot
  obtain ⟨f, hf⟩ := (hcount.not_applies_iff hx).1 hnot
  rw [hw] at hf
  cases hf

theorem not_applies_of_fault {u : Tape} {q r : List Token} {f : Fault} (h : t.after q = .ok u)
    (hx : x.effect u = .error f) : ¬ t.Applies (q ++ x :: r) q.length := by
  have htake : t.after ((q ++ x :: r).take q.length) = .ok u := by rw [List.take_left, h]
  have hcount := counted_of_after (by simp) htake
  exact (hcount.not_applies_iff (by simp)).2 ⟨f, hx⟩

end Tape

/-- **A run by counting.** A run without a limit succeeds exactly when the counts let every
instruction be carried out. Then its last tape has its head, its number of cells and the value of
every cell as they are counted; otherwise the run fails at the first instruction that the counts
do not let through. -/
theorem Machine.run_by_counting (trace : Bool) (p : List Token) (hp : Token.mark ∉ p)
    (t : Tape) :
    ((∃ s, (⟨none, trace⟩ : Machine).run p t = .ok s) ↔ ∀ i < p.length, t.Applies p i) ∧
    (∀ s, (⟨none, trace⟩ : Machine).run p t = .ok s →
      (s.tape.back.length : ℤ) = t.headBefore p p.length + 1 ∧
      (s.tape.back.length + s.tape.front.length : ℤ) =
        max (t.back.length + t.front.length : ℤ) (1 + t.peak p p.length) ∧
      ∀ x : ℕ, (s.tape.cells[x]?.getD 0 : ℤ) = t.valueBefore p p.length x) ∧
    ∀ e, (⟨none, trace⟩ : Machine).run p t = .error e →
      ∃ (f : Failure) (i : ℕ), e = .failed f ∧ f.step = some (i : ℤ) ∧ i < p.length ∧
        (∀ j < i, t.Applies p j) ∧ ¬ t.Applies p i ∧
        ((p[i]? = some .left ∧ f.kind = .underflow) ∨ (p[i]? = some .dec ∧ f.kind = .stuck)) := by
  rcases t.after_ok_or_fault p with ⟨u, hu⟩ | ⟨q, x, r, u, f, rfl, hu, hx⟩
  · obtain ⟨s, hrun, hat⟩ := run_of_ok hp forall_limit_of_none hu
    have hall : ∀ i < p.length, t.Applies p i := fun i hi => by
      simpa using Tape.applies_of_after (r := []) hu hi
    have hcount : t.Counted p p.length u :=
      Tape.counted_of_after le_rfl (by rw [List.take_length, hu])
    rw [hrun]
    refine ⟨⟨fun _ => hall, fun _ => ⟨s, rfl⟩⟩, ?_, fun e he => by cases he⟩
    rintro s' ⟨⟩
    rw [hat.tape]
    refine ⟨?_, ?_, hcount.value⟩
    · rw [← hcount.head]
      simp [Tape.back, Tape.head_eq]
    · have hsize := hcount.size
      rw [Tape.length_cells, Tape.length_cells] at hsize
      exact_mod_cast hsize
  · have hnot : ¬ t.Applies (q ++ x :: r) q.length := Tape.not_applies_of_fault hu hx
    rw [run_of_fault hp forall_limit_of_none hu hx]
    refine ⟨⟨?_, fun h => absurd (h q.length (by simp)) hnot⟩, ?_, ?_⟩
    · rintro ⟨s, ⟨⟩⟩
    · rintro s ⟨⟩
    · rintro e ⟨⟩
      refine ⟨_, q.length, rfl, rfl, by simp, fun j hj => Tape.applies_of_after hu hj, hnot, ?_⟩
      rw [List.getElem?_append_right le_rfl, Nat.sub_self, List.getElem?_cons_zero]
      simpa [Fault.failureAt, Failure.within, Fault.failure] using Token.kind_of_fault hx

/-- Five instructions that leave a two in the third cell, on a tape that had one cell: the counts
let all of them through, and the run succeeds. -/
theorem Machine.run_by_counting_growth :
    Token.mark ∉ [Token.right, .right, .inc, .inc, .left] ∧
      (∀ i < 5, Tape.initial.Applies [.right, .right, .inc, .inc, .left] i) ∧
      Tape.initial.peak [.right, .right, .inc, .inc, .left] 5 = 2 ∧
      Tape.initial.valueBefore [.right, .right, .inc, .inc, .left] 5 2 = 2 ∧
      ∃ s, (⟨none, false⟩ : Machine).run [.right, .right, .inc, .inc, .left] .initial = .ok s :=
  ⟨by decide, by decide, by decide, by decide,
    (run_by_counting false [.right, .right, .inc, .inc, .left] (by decide) .initial).1.2
      (by decide)⟩

end MarkTape
