import MarkTape.Proofs.Counting
import MarkTape.Proofs.TwoTapes

/-!
# What a program does not touch

A program acts on the cells that its head visits, and on no others. Cells beyond the left end of
the tape stay where they are, and are met only by a run that would have left the tape. Cells beyond
the right end stay where they are too, unless the run would have made a cell there, which it then
finds. Whatever lies off the way of the head is neither changed nor looked at.

* `Tape.extend`: a tape with more cells at both ends;
* `Tape.effect_extend`, `Tape.shadows_extend`: an instruction and a program leave them alone;
* `Tape.Visits`: the places of the head on its way;
* `Tape.cells_of_not_visits`: a cell off the way is not changed;
* `Tape.Alike`, `Tape.Alike.effect`, `Tape.shadows_alike`: and not looked at;
* `Machine.run_frame`: all this for runs.
-/

namespace MarkTape

/-- A rule faults on a tape as it does on another with the same current cell, if the head can go to
the left on both or on none. -/
theorem Token.effect_eq_error_congr {x : Token} {t t' : Tape} {f : Fault}
    (hleft : t'.left = [] ↔ t.left = []) (hcurrent : t'.current = t.current) :
    x.effect t' = .error f ↔ x.effect t = .error f := by
  rw [effect_eq_error_iff, effect_eq_error_iff, hleft, hcurrent]

namespace Tape

/-! ### Cells beyond the ends -/

/-- The tape with the cells `l` beyond its left end and `r` beyond its right end. -/
def extend (t : Tape) (l r : CellStack) : Tape :=
  { t with left := t.left ++ l, right := t.right ++ r }

@[simp] theorem back_extend (t : Tape) (l r : CellStack) : (t.extend l r).back = t.back ++ l := rfl

@[simp] theorem front_extend (t : Tape) (l r : CellStack) :
    (t.extend l r).front = t.front ++ r := rfl

/-- An instruction leaves the cells beyond the ends alone, unless it makes a cell where there are
some. -/
theorem effect_extend {x : Token} {t u : Tape} {l r : CellStack} (h : x.effect t = .ok u)
    (hr : r = [] ∨ u.cells.length = t.cells.length) :
    x.effect (t.extend l r) = .ok (u.extend l r) := by
  obtain ⟨⟨n⟩, left, right⟩ := t
  cases x with
  | left =>
    cases left with
    | nil => cases h
    | cons d left =>
      cases h
      rfl
  | right =>
    cases h
    cases right with
    | cons d right => rfl
    | nil =>
      rcases hr with rfl | hlen
      · rfl
      · simp [length_cells_eq, head_eq] at hlen
  | inc =>
    cases h
    rfl
  | dec =>
    cases n with
    | zero => cases h
    | succ n =>
      cases h
      rfl
  | mark =>
    cases h
    rfl

/-- If a program makes no cell, then none of its instructions does. -/
theorem length_cells_of_after {t u v : Tape} {p : List Token} (h : t.after p = .ok u)
    (hlen : u.cells.length = t.cells.length) {i : Nat} (hv : t.after (p.take i) = .ok v) :
    v.cells.length = t.cells.length := by
  obtain ⟨w, hw, hu⟩ := after_take_of_ok h i
  cases hv.symm.trans hw
  have := length_cells_le_of_after hv
  have := length_cells_le_of_after hu
  omega

/-- A program leaves the cells beyond the ends alone, unless it makes cells where there are some. -/
theorem shadows_extend {t : Tape} {p : List Token} {l r : CellStack}
    (hr : r = [] ∨ ∃ u, t.after p = .ok u ∧ u.cells.length = t.cells.length) :
    Shadows (fun v v' => v' = v.extend l r) p t (t.extend l r) := by
  apply shadows_of_step
  · rfl
  · rintro i x v _ w hx hv rfl hw
    refine ⟨_, effect_extend hw ?_, rfl⟩
    rcases hr with hr | ⟨u, hu, hlen⟩
    · exact .inl hr
    · have hw' : t.after (p.take (i + 1)) = .ok w := by rw [after_take_succ hx, hv, ok_bind, hw]
      rw [length_cells_of_after hu hlen hv, length_cells_of_after hu hlen hw']
      exact .inr rfl

/-- A zero stays a zero. -/
theorem effect_extend_of_zeroCell {x : Token} {v : Tape} (l r : CellStack)
    (h : x.effect v = .error .zeroCell) : x.effect (v.extend l r) = .error .zeroCell := by
  rcases Token.effect_eq_error_iff.1 h with ⟨-, hf, -⟩ | ⟨rfl, -, hzero⟩
  · cases hf
  · exact Token.effect_eq_error_iff.2 (.inr ⟨rfl, rfl, hzero⟩)

/-! ### Cells off the way -/

/-- The head visits the place `z` on the way that `p` leads from `t`. -/
def Visits (t : Tape) (p : List Token) (z : Nat) : Prop :=
  ∃ i u, t.after (p.take i) = .ok u ∧ u.head = z

/-- An instruction changes no cell but the one it comes from and the one it goes to. -/
theorem getElem?_cells_effect {x : Token} {t u : Tape} {z : Nat} (h : x.effect t = .ok u)
    (hz : t.head ≠ z) (hz' : u.head ≠ z) : u.cells[z]? = t.cells[z]? := by
  cases x with
  | left => rw [(cells_moveLeft h).1]
  | right =>
    cases h
    rw [head_moveRight] at hz'
    rw [cells_moveRight]
    split
    · rfl
    · next hend =>
      -- the new cell is the one that is entered
      have hlen : t.cells.length ≠ z := by
        have := t.head_lt_length_cells
        omega
      rcases Nat.lt_or_gt_of_ne hlen with hlt | hlt
      · rw [List.getElem?_eq_none (by simp; omega), List.getElem?_eq_none hlt.le]
      · rw [List.getElem?_append_left hlt]
  | inc =>
    cases h
    rw [cells_increment, List.getElem?_modify_ne _ _ hz]
  | dec => rw [(cells_decrement h).1, List.getElem?_modify_ne _ _ hz]
  | mark =>
    cases h
    rfl

/-- A cell off the way is not changed. -/
theorem cells_of_not_visits {t u : Tape} {p : List Token} {z i : Nat} (hz : ¬ t.Visits p z)
    (h : t.after (p.take i) = .ok u) : u.cells[z]? = t.cells[z]? := by
  induction i generalizing u with
  | zero =>
    cases h
    rfl
  | succ i ih =>
    have hu : u.head ≠ z := fun hu => hz ⟨i + 1, u, h, hu⟩
    cases hx : p[i]? with
    | none =>
      rw [List.take_add_one, hx, Option.toList_none, List.append_nil] at h
      exact ih h
    | some x =>
      rw [after_take_succ hx] at h
      obtain ⟨v, hv, hxu⟩ := bind_eq_ok_iff.1 h
      have hhead : v.head ≠ z := fun hhead => hz ⟨i, v, hv, hhead⟩
      rw [getElem?_cells_effect hxu hhead hu, ih hv]

/-- The two tapes have their heads at the same place, and the same values at the places in `V`;
outside the row there are only zeros. -/
structure Alike (V : Nat → Prop) (t t' : Tape) : Prop where
  head : t'.head = t.head
  value : ∀ z, V z → t'.cells[z]?.getD 0 = t.cells[z]?.getD 0

namespace Alike

variable {V : Nat → Prop} {x : Token} {t t' u : Tape}

/-- The same rules fault on both tapes. -/
theorem effect_eq_error (h : Alike V t t') (hV : V t.head) (f : Fault) :
    x.effect t' = .error f ↔ x.effect t = .error f := by
  apply Token.effect_eq_error_congr
  · have hlen : t'.left.length = t.left.length := h.head
    rw [← List.length_eq_zero_iff, ← List.length_eq_zero_iff, hlen]
  · have hvalue := h.value t.head hV
    rw [getElem?_cells_head, ← h.head, getElem?_cells_head] at hvalue
    exact congrArg Counter.mk hvalue

/-- An instruction looks at the current cell only, and acts alike on both tapes. -/
theorem effect (h : Alike V t t') (hV : V t.head) (hx : x.effect t = .ok u) :
    ∃ u', x.effect t' = .ok u' ∧ Alike V u u' := by
  cases hx' : x.effect t' with
  | error f =>
    rw [(h.effect_eq_error hV f).1 hx'] at hx
    cases hx
  | ok u' =>
    refine ⟨u', rfl, ?_, fun z hz => ?_⟩
    · have hhead := h.head
      have hu := head_effect hx
      have hu' := head_effect hx'
      omega
    · have hu := getD_cells_effect hx z
      have hu' := getD_cells_effect hx' z
      rw [h.head, h.value z hz] at hu'
      exact_mod_cast hu'.trans hu.symm

end Alike

/-- A program looks at no cell off its way. -/
theorem shadows_alike {t t' : Tape} {p : List Token} (h : Alike (t.Visits p) t t') :
    Shadows (fun v v' => t.Visits p v.head ∧ Alike (t.Visits p) v v') p t t' := by
  apply shadows_of_step ⟨⟨0, t, rfl, rfl⟩, h⟩
  rintro i x v v' w hx hv ⟨hvisit, halike⟩ hw
  obtain ⟨w', hw', halike'⟩ := halike.effect hvisit hw
  have hafter : t.after (p.take (i + 1)) = .ok w := by rw [after_take_succ hx, hv, ok_bind, hw]
  exact ⟨w', hw', ⟨i + 1, w, hafter, rfl⟩, halike'⟩

end Tape

/-- The tape of a failure is one that the program leads to. -/
theorem Machine.exists_after_of_run_eq_error {m : Machine} {p : List Token} {t : Tape} {f : Failure}
    (hp : Token.mark ∉ p) (h : m.run p t = .error (.failed f)) :
    ∃ i u, f.tape = some u ∧ t.after (p.take i) = .ok u := by
  obtain ⟨q, x, r, v, rfl, hv, ⟨-, he⟩ | ⟨-, g, -, he⟩⟩ := run_eq_error hp h
  all_goals
    cases he
    exact ⟨q.length, v, rfl, by rw [List.take_left, hv]⟩

/-- **The frame of a program.** If a run succeeds, it succeeds from the tape with more cells beyond
its left end, which it leaves where they are; if it made no cell, the same goes for more cells
beyond the right end. If it fails on a zero, it fails so with more cells beyond the left end, which
are still there. Cells off the way of the head are not changed, neither by a run that succeeds nor
by one that fails. They are not looked at either: from a tape that agrees with the first one on the
way of its head the run ends alike, and the tapes still agree there. -/
theorem Machine.run_frame (m : Machine) (p : List Token) (hp : Token.mark ∉ p) (t : Tape) :
    (∀ l s, m.run p t = .ok s → ∃ s', m.run p (t.extend l []) = .ok s' ∧
      s'.tape.back = s.tape.back ++ l ∧ s'.tape.front = s.tape.front) ∧
    (∀ l r s, m.run p t = .ok s →
      s.tape.back.length + s.tape.front.length = t.back.length + t.front.length →
      ∃ s', m.run p (t.extend l r) = .ok s' ∧
        s'.tape.back = s.tape.back ++ l ∧ s'.tape.front = s.tape.front ++ r) ∧
    (∀ l f, m.run p t = .error (.failed f) → f.kind = .stuck → ∃ u, f.tape = some u ∧
      m.run p (t.extend l []) = .error (.failed { f with tape := some (u.extend l []) })) ∧
    (∀ z, ¬ t.Visits p z →
      (∀ s, m.run p t = .ok s → s.tape.cells[z]? = t.cells[z]?) ∧
      ∀ f, m.run p t = .error (.failed f) → ∃ u, f.tape = some u ∧ u.cells[z]? = t.cells[z]?) ∧
    ∀ t', t.Alike (t.Visits p) t' →
      (∀ s, m.run p t = .ok s → ∃ s', m.run p t' = .ok s' ∧
        s.tape.Alike (t.Visits p) s'.tape) ∧
      ∀ f, m.run p t = .error (.failed f) → ∃ u u', f.tape = some u ∧
        u.Alike (t.Visits p) u' ∧ m.run p t' = .error (.failed { f with tape := some u' }) := by
  have hextend : ∀ l r s, m.run p t = .ok s →
      (r = [] ∨ ∃ u, t.after p = .ok u ∧ u.cells.length = t.cells.length) →
      ∃ s', m.run p (t.extend l r) = .ok s' ∧
        s'.tape.back = s.tape.back ++ l ∧ s'.tape.front = s.tape.front ++ r := by
    intro l r s hs hr
    obtain ⟨s', hs', htape⟩ := run_ok_of_shadows hp (Tape.shadows_extend hr) hs
    exact ⟨s', hs', by rw [htape, Tape.back_extend], by rw [htape, Tape.front_extend]⟩
  refine ⟨fun l s hs => ?_, fun l r s hs hlen => ?_, fun l f hf hkind => ?_,
    fun z hz => ⟨fun s hs => ?_, fun f hf => ?_⟩, fun t' halike => ⟨fun s hs => ?_, fun f hf => ?_⟩⟩
  · obtain ⟨s', hs', hback, hfront⟩ := hextend l [] s hs (.inl rfl)
    exact ⟨s', hs', hback, by rw [hfront, List.append_nil]⟩
  · obtain ⟨-, -, hafter⟩ := run_eq_ok hp hs
    rw [← Tape.length_cells, ← Tape.length_cells] at hlen
    exact hextend l r s hs (.inr ⟨s.tape, hafter, hlen⟩)
  · obtain ⟨u, _, hu, rfl, hrun⟩ := run_error_of_shadows hp
      (Tape.shadows_extend (l := l) (.inl rfl)) (fun x v v' g hR hg hgkind => by
        rw [hkind] at hgkind
        cases g with
        | underflow => cases hgkind
        | zeroCell => rw [hR, Tape.effect_extend_of_zeroCell l [] hg]) hf
    exact ⟨u, hu, hrun⟩
  · obtain ⟨-, -, hafter⟩ := run_eq_ok hp hs
    rw [← List.take_length (l := p)] at hafter
    exact Tape.cells_of_not_visits hz hafter
  · obtain ⟨i, u, hu, hafter⟩ := exists_after_of_run_eq_error hp hf
    exact ⟨u, hu, Tape.cells_of_not_visits hz hafter⟩
  · obtain ⟨s', hs', -, halike'⟩ := run_ok_of_shadows hp (Tape.shadows_alike halike) hs
    exact ⟨s', hs', halike'⟩
  · obtain ⟨u, u', hu, ⟨-, halike'⟩, hrun⟩ := run_error_of_shadows hp (Tape.shadows_alike halike)
      (fun x v v' g hR hg _ => (hR.2.effect_eq_error hR.1 g).2 hg) hf
    exact ⟨u, u', hu, halike', hrun⟩

/-- A head that goes to the left end and back, with a cell beyond each end, and a zero with a cell
beyond the left end. The cell to the right of an increment is neither changed nor looked at. -/
theorem Machine.run_frame_ends :
    Token.mark ∉ [Token.left, .inc, .right, .dec] ∧
      (∃ s s', (⟨none, false⟩ : Machine).run [.left, .inc, .right, .dec] ⟨⟨2⟩, [⟨0⟩], []⟩ = .ok s ∧
        (⟨none, false⟩ : Machine).run [.left, .inc, .right, .dec]
          ⟨⟨2⟩, [⟨0⟩, ⟨5⟩], [⟨7⟩]⟩ = .ok s' ∧
        s'.tape.back = s.tape.back ++ [⟨5⟩] ∧ s'.tape.front = s.tape.front ++ [⟨7⟩]) ∧
      (∃ f u, (⟨none, false⟩ : Machine).run [.dec] .initial = .error (.failed f) ∧
        f.tape = some u ∧ (⟨none, false⟩ : Machine).run [.dec] ⟨.zero, [⟨5⟩], []⟩ =
          .error (.failed { f with tape := some (u.extend [⟨5⟩] []) })) ∧
      ¬ (⟨⟨2⟩, [], [⟨3⟩]⟩ : Tape).Visits [.inc] 1 ∧
      ∃ s s', (⟨none, false⟩ : Machine).run [.inc] ⟨⟨2⟩, [], [⟨3⟩]⟩ = .ok s ∧
        (⟨none, false⟩ : Machine).run [.inc] ⟨⟨2⟩, [], [⟨4⟩]⟩ = .ok s' ∧
        s.tape.cells[1]? = some 3 ∧ s'.tape.cells[0]?.getD 0 = s.tape.cells[0]?.getD 0 := by
  obtain ⟨-, hboth, -⟩ :=
    run_frame ⟨none, false⟩ [.left, .inc, .right, .dec] (by decide) ⟨⟨2⟩, [⟨0⟩], []⟩
  obtain ⟨s, hs, hback, hfront⟩ := hboth [⟨5⟩] [⟨7⟩] _ rfl rfl
  obtain ⟨-, -, hstuck, -⟩ := run_frame ⟨none, false⟩ [.dec] (by decide) .initial
  obtain ⟨u, hu, hrun⟩ := hstuck [⟨5⟩] _ rfl rfl
  have hplace : ∀ z, (⟨⟨2⟩, [], [⟨3⟩]⟩ : Tape).Visits [.inc] z → z = 0 := by
    rintro z ⟨i, v, hv, rfl⟩
    cases i with
    | zero =>
      cases hv
      rfl
    | succ i =>
      rw [List.take_succ_cons, List.take_nil] at hv
      cases hv
      rfl
  have hoff : ¬ (⟨⟨2⟩, [], [⟨3⟩]⟩ : Tape).Visits [.inc] 1 := fun h => by cases hplace 1 h
  have halike : Tape.Alike (Tape.Visits ⟨⟨2⟩, [], [⟨3⟩]⟩ [.inc]) ⟨⟨2⟩, [], [⟨3⟩]⟩
      ⟨⟨2⟩, [], [⟨4⟩]⟩ := by
    refine ⟨rfl, fun z hz => ?_⟩
    cases hplace z hz
    rfl
  obtain ⟨-, -, -, hkept, hlooked⟩ :=
    run_frame ⟨none, false⟩ [.inc] (by decide) ⟨⟨2⟩, [], [⟨3⟩]⟩
  obtain ⟨s', hs', hsame⟩ := (hlooked _ halike).1 _ rfl
  exact ⟨by decide, ⟨_, s, rfl, hs, hback, hfront⟩, ⟨_, u, rfl, hu, hrun⟩, hoff, _, s', rfl, hs',
    (hkept 1 hoff).1 _ rfl, hsame.value 0 ⟨0, _, rfl, rfl⟩⟩

end MarkTape
