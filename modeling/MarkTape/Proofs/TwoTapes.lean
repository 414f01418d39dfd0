import MarkTape.Proofs.Undo

/-!
# The same program from two tapes

Two tapes may differ in ways that a program cannot see. To show this of two given tapes, it is
enough to name a relation between them which every instruction preserves and under which the same
rules fault: then the two runs end alike, at the same step, on tapes in the relation.

The first such pair is a tape and the same tape with empty cells added at its right end. The
program finds a cell there where it would have made one, so the added cells are used up one by one
as the other tape grows.

* `Tape.Shadows`: a program leads from one tape wherever it leads from another;
* `Tape.shadows_of_step`: from one instruction to a program;
* `Machine.run_ok_of_shadows`, `Machine.run_error_of_shadows`: from the tapes to the runs;
* `Tape.shadows_pad`: empty cells at the right end;
* `Machine.run_pad`: what becomes of them in a run.
-/

namespace MarkTape

/-! ### Two tapes in a relation -/

namespace Tape

variable {R : Tape → Tape → Prop} {p : List Token} {t t' : Tape}

/-- As far as the program `p` leads from `t` it leads from `t'`, to tapes in the relation `R`. -/
def Shadows (R : Tape → Tape → Prop) (p : List Token) (t t' : Tape) : Prop :=
  ∀ i v, t.after (p.take i) = .ok v → ∃ v', t'.after (p.take i) = .ok v' ∧ R v v'

/-- It is enough that every instruction which is reached preserves the relation. -/
theorem shadows_of_step (hR : R t t')
    (hstep : ∀ i x v v' w, p[i]? = some x → t.after (p.take i) = .ok v → R v v' →
      x.effect v = .ok w → ∃ w', x.effect v' = .ok w' ∧ R w w') : Shadows R p t t' := by
  intro i
  induction i with
  | zero =>
    intro v h
    cases h
    exact ⟨t', rfl, hR⟩
  | succ i ih =>
    intro w h
    cases hx : p[i]? with
    | none =>
      have hall : p.take (i + 1) = p.take i := by
        rw [List.take_add_one, hx, Option.toList_none, List.append_nil]
      rw [hall] at h ⊢
      exact ih w h
    | some x =>
      rw [after_take_succ hx] at h ⊢
      obtain ⟨v, hv, hw⟩ := bind_eq_ok_iff.1 h
      obtain ⟨v', hv', hvv'⟩ := ih v hv
      obtain ⟨w', hw', hww'⟩ := hstep i x v v' w hx hv hvv' hw
      exact ⟨w', by rw [hv', ok_bind, hw'], hww'⟩

end Tape

namespace Machine

variable {m : Machine} {p : List Token} {t t' : Tape} {R : Tape → Tape → Prop}

theorem run_ok_of_shadows (hp : Token.mark ∉ p) (h : Tape.Shadows R p t t') {s : State}
    (hrun : m.run p t = .ok s) : ∃ s', m.run p t' = .ok s' ∧ R s.tape s'.tape := by
  obtain ⟨hroom, -, hafter⟩ := run_eq_ok hp hrun
  obtain ⟨v', hv', hR⟩ := h p.length s.tape (by rw [List.take_length, hafter])
  rw [List.take_length] at hv'
  obtain ⟨s', hrun', hat⟩ := run_of_ok hp hroom hv'
  exact ⟨s', hrun', by rwa [hat.tape]⟩

/-- A run that fails does so from the other tape too, if faults of this kind carry over; the two
failures differ in the tape only. -/
theorem run_error_of_shadows (hp : Token.mark ∉ p) (h : Tape.Shadows R p t t') {e : Failure}
    (hfault : ∀ (x : Token) (v v' : Tape) (f : Fault), R v v' → x.effect v = .error f →
      f.kind = e.kind → x.effect v' = .error f)
    (hrun : m.run p t = .error (.failed e)) :
    ∃ v v', e.tape = some v ∧ R v v' ∧
      m.run p t' = .error (.failed { e with tape := some v' }) := by
  obtain ⟨q, x, r, v, rfl, hv, hend⟩ := run_eq_error hp hrun
  obtain ⟨v', hv', hR⟩ := h q.length v (by rw [List.take_left, hv])
  rw [List.take_left] at hv'
  rcases hend with ⟨hl, he⟩ | ⟨hroom, f, hf, he⟩
  · cases he
    exact ⟨v, v', rfl, hR, run_of_limit hp hl hv'⟩
  · cases he
    exact ⟨v, v', rfl, hR, run_of_fault hp hroom hv' (hfault x v v' f hR hf rfl)⟩

/-- Instructions fail with a failure, and not otherwise. -/
theorem exists_failed_of_run {e : Error} (hp : Token.mark ∉ p) (hrun : m.run p t = .error e) :
    ∃ f, e = .failed f := by
  obtain ⟨f, k, hf, -⟩ := exists_step_of_run_eq_error hp hrun
  exact ⟨f, hf⟩

end Machine

/-! ### Empty cells at the right end -/

namespace Tape

/-- How many of `n` empty cells are still to the right of everything, when the tape `t` has become
`u`. -/
def spare (t u : Tape) (n : Nat) : Nat := n - (u.cells.length - t.cells.length)

theorem shadows_pad (p : List Token) (t : Tape) (n : Nat) :
    Shadows (fun v v' => v' = v.pad (t.spare v n)) p t (t.pad n) := by
  apply shadows_of_step
  · rw [spare, Nat.sub_self, Nat.sub_zero]
  · rintro i x v _ w hx hv rfl hw
    have hle := length_cells_le_of_after hv
    have hle' := length_cells_le_of_effect hw
    have hspare : t.spare v n - (w.cells.length - v.cells.length) = t.spare w n := by
      unfold spare
      omega
    refine ⟨_, ?_, rfl⟩
    rw [effect_pad, hw, ← hspare]
    rfl

theorem effect_pad_of_error {x : Token} {v : Tape} {f : Fault} (n : Nat)
    (h : x.effect v = .error f) : x.effect (v.pad n) = .error f := by
  rw [effect_pad, h]
  rfl

end Tape

/-- **Cells that a run makes are empty cells.** Let a program be run from a tape and from the same
tape with `n` more empty cells at its right end. Both runs succeed or both fail. If they fail, the
failures differ only in empty cells at the right end of the tape. If they succeed, and the first
one made `g` cells, the backs are equal, and the second front has as many more empty cells as are
left of `n` after `g` have been used. -/
theorem Machine.run_pad (m : Machine) (p : List Token) (hp : Token.mark ∉ p) (t : Tape) (n : Nat) :
    ((∃ s, m.run p t = .ok s) ↔ ∃ s', m.run p (t.pad n) = .ok s') ∧
    (∀ s s', m.run p t = .ok s → m.run p (t.pad n) = .ok s' →
      s'.tape.back = s.tape.back ∧
      ∃ g, s.tape.back.length + s.tape.front.length = t.back.length + t.front.length + g ∧
        s'.tape.front = s.tape.front ++ List.replicate (n - min n g) .zero) ∧
    ∀ e, m.run p t = .error e → ∃ f u k, e = .failed f ∧ f.tape = some u ∧
      m.run p (t.pad n) = .error (.failed
        { kind := f.kind
          message := f.message
          remaining := f.remaining
          tape := some { u with right := u.right ++ List.replicate k .zero }
          step := f.step }) := by
  have hok : ∀ s, m.run p t = .ok s → ∃ s', m.run p (t.pad n) = .ok s' ∧
      s'.tape = s.tape.pad (t.spare s.tape n) := fun s hs =>
    run_ok_of_shadows hp (t.shadows_pad p n) hs
  have herror : ∀ e, m.run p t = .error e → ∃ f u k, e = .failed f ∧ f.tape = some u ∧
      m.run p (t.pad n) = .error (.failed { f with tape := some (u.pad k) }) := by
    intro e he
    obtain ⟨f, rfl⟩ := exists_failed_of_run hp he
    obtain ⟨u, u', hu, rfl, hrun⟩ := run_error_of_shadows hp (t.shadows_pad p n)
      (by rintro x v _ g rfl hg -; exact Tape.effect_pad_of_error _ hg) he
    exact ⟨f, u, _, rfl, hu, hrun⟩
  refine ⟨⟨?_, ?_⟩, ?_, herror⟩
  · rintro ⟨s, hs⟩
    obtain ⟨s', hs', -⟩ := hok s hs
    exact ⟨s', hs'⟩
  · rintro ⟨s', hs'⟩
    cases hs : m.run p t with
    | ok s => exact ⟨s, rfl⟩
    | error e =>
      obtain ⟨f, u, k, -, -, hrun⟩ := herror e hs
      rw [hs'] at hrun
      cases hrun
  · intro s s' hs hs'
    obtain ⟨s'', hs'', htape⟩ := hok s hs
    cases hs'.symm.trans hs''
    obtain ⟨-, -, hafter⟩ := run_eq_ok hp hs
    have hle := Tape.length_cells_le_of_after hafter
    rw [htape]
    refine ⟨rfl, s.tape.cells.length - t.cells.length, ?_, ?_⟩
    · rw [← Tape.length_cells, ← Tape.length_cells, Nat.add_sub_cancel' hle]
    · have hspare : n - min n (s.tape.cells.length - t.cells.length) = t.spare s.tape n := by
        unfold Tape.spare
        omega
      rw [hspare]
      rfl

/-- Two cells are entered where three empty ones were added, and one of these is left. A move off
the left end fails from both tapes in the same way. -/
theorem Machine.run_pad_entered :
    Token.mark ∉ [Token.right, .right, .inc] ∧
      (∃ s s', (⟨none, false⟩ : Machine).run [.right, .right, .inc] .initial = .ok s ∧
        (⟨none, false⟩ : Machine).run [.right, .right, .inc] (Tape.initial.pad 3) = .ok s' ∧
        s'.tape.back = s.tape.back ∧ s'.tape.front = s.tape.front ++ [.zero]) ∧
      ∃ f u k, (⟨none, false⟩ : Machine).run [.right, .left, .left] .initial = .error (.failed f) ∧
        f.tape = some u ∧
        (⟨none, false⟩ : Machine).run [.right, .left, .left] (Tape.initial.pad 3) =
          .error (.failed { f with tape := some (u.pad k) }) := by
  obtain ⟨-, hfront, -⟩ := run_pad ⟨none, false⟩ [.right, .right, .inc] (by decide) .initial 3
  obtain ⟨-, -, herror⟩ := run_pad ⟨none, false⟩ [.right, .left, .left] (by decide) .initial 3
  obtain ⟨hback, g, hg, hfront⟩ := hfront _ _ rfl rfl
  obtain ⟨f, u, k, hf, hu, hrun⟩ := herror _ rfl
  cases hf
  have hg : g = 2 := by
    have hlen : 3 = 1 + g := hg
    omega
  subst hg
  exact ⟨by decide, ⟨_, _, rfl, rfl, hback, hfront⟩, _, u, k, rfl, hu, hrun⟩

end MarkTape
