import MarkTape.Proofs.Sequence

/-!
# Running in slices

A run that reaches its limit reports what is left of the program and the tape it stopped on, so
another run can go on from there. Repeated until a round ends in another way, this comes to the
same as one run without a limit: no instruction is lost or carried out twice between two rounds.

* `Error.checkpoint?`: from where a run can go on;
* `Machine.run_eq_checkpoint`: how the report of a round cuts its program;
* `Machine.runSliced`: round after round, as long as the limit is reached, which comes to an end
  since every round leaves a shorter program;
* `Machine.Agrees`: the last round ends as another run does, up to the number of the step;
* `Machine.agrees_runSliced`: how many rounds a run in slices takes, and that its last round agrees
  with the run at once;
* `Machine.runSliced_eq_run`: what that says about tapes and failures.
-/

namespace MarkTape

/-- The program and the tape from which a run can go on that reached its limit. -/
def Error.checkpoint? : Error → Option (List Token × Tape)
  | .failed ⟨.exhausted, _, remaining, some tape, _⟩ => some (remaining, tape)
  | _ => none

theorem Fault.kind_cases (f : Fault) : f.kind = .underflow ∨ f.kind = .stuck := by
  cases f
  · exact .inl rfl
  · exact .inr rfl

namespace Machine

variable {p q r : List Token} {x : Token} {t u : Tape} {s : State} {e : Error} {k : Nat}

/-! ### The loop -/

theorem checkpoint?_failureAt (f : Fault) (x : Token) (i : Int) (rest : List Token) (u : Tape) :
    (Error.failed (f.failureAt x i rest u)).checkpoint? = none := by
  cases f <;> rfl

/-- A run that can be continued has carried out as many instructions as its limit allows, and the
others are left, at least one. -/
theorem run_eq_checkpoint {trace : Bool} (h : (⟨some k, trace⟩ : Machine).run p t = .error e)
    (he : e.checkpoint? = some (r, u)) :
    ∃ q, p = q ++ r ∧ q.length = k ∧ t.after q = .ok u ∧ 1 ≤ r.length := by
  by_cases hp : Token.mark ∈ p
  · rw [run_of_mark_mem hp] at h
    cases h
    cases he
  · obtain ⟨q, x, r', v, rfl, hv, ⟨hl, rfl⟩ | ⟨-, f, -, rfl⟩⟩ := run_eq_error hp h
    · cases hl
      cases he
      exact ⟨q, rfl, rfl, hv, Nat.le_add_left _ _⟩
    · rw [checkpoint?_failureAt] at he
      cases he

/-- A round of at least one step leaves a shorter program. -/
theorem length_lt_of_checkpoint {trace : Bool} (hk : 1 ≤ k)
    (h : (⟨some k, trace⟩ : Machine).run p t = .error e) (he : e.checkpoint? = some (r, u)) :
    r.length < p.length := by
  obtain ⟨q, rfl, rfl, -, -⟩ := run_eq_checkpoint h he
  rw [List.length_append]
  omega

/-- The end of a run in slices: how many rounds it took, and how the last one ended. -/
structure Sliced where
  rounds : Nat
  outcome : Except Error State

/-- Run `p` for `k` steps, and as long as a round reaches this limit, go on from where it
stopped. -/
def runSliced (trace : Bool) (hk : 1 ≤ k) (p : List Token) (t : Tape) : Sliced :=
  match h : (⟨some k, trace⟩ : Machine).run p t with
  | .ok s => ⟨1, .ok s⟩
  | .error e =>
    match he : e.checkpoint? with
    | none => ⟨1, .error e⟩
    | some (rest, u) =>
      have := length_lt_of_checkpoint hk h he
      let last := runSliced trace hk rest u
      { last with rounds := last.rounds + 1 }
termination_by p.length

theorem runSliced_of_error {trace : Bool} (hk : 1 ≤ k)
    (h : (⟨some k, trace⟩ : Machine).run p t = .error e) (he : e.checkpoint? = none) :
    runSliced trace hk p t = ⟨1, .error e⟩ := by
  fun_cases runSliced trace hk p t with
  | case1 s hs => rw [h] at hs; cases hs
  | case2 e' he' hnone => rw [h] at he'; cases he'; rfl
  | case3 e' he' r u hsome => rw [h] at he'; cases he'; rw [he] at hsome; cases hsome

theorem runSliced_of_checkpoint {trace : Bool} (hk : 1 ≤ k)
    (h : (⟨some k, trace⟩ : Machine).run p t = .error e) (he : e.checkpoint? = some (r, u)) :
    runSliced trace hk p t =
      { runSliced trace hk r u with rounds := (runSliced trace hk r u).rounds + 1 } := by
  fun_cases runSliced trace hk p t with
  | case1 s hs => rw [h] at hs; cases hs
  | case2 e' he' hnone => rw [h] at he'; cases he'; rw [he] at hnone; cases hnone
  | case3 e' he' r' u' hsome =>
    rw [h] at he'
    cases he'
    rw [he] at hsome
    cases hsome
    rfl

/-! ### The last round and the run at once -/

/-- The first outcome is the second up to the number of the step: the same tape at the end, or the
same fault with a step that is `n` less. -/
inductive Agrees (n : Nat) : Except Error State → Except Error State → Prop
  | ok {s s' : State} (tape : s.tape = s'.tape) : Agrees n (.ok s) (.ok s')
  | failed {f g : Failure} {i : Int} (kind : f.kind = g.kind)
      (fault : f.kind = .underflow ∨ f.kind = .stuck) (remaining : f.remaining = g.remaining)
      (tape : f.tape = g.tape) (step : f.step = some i) (later : g.step = some (i + n)) :
      Agrees n (.error (.failed f)) (.error (.failed g))

theorem Agrees.later {n : Nat} {a b : Except Error State} (h : Agrees n a b) (p : List Token)
    (log : Array String) :
    Agrees (n + p.length) a ((b.map (State.following p log)).mapError
      (Error.mapFailure (Failure.later p.length))) := by
  cases h with
  | ok tape => exact .ok tape
  | failed kind fault remaining tape step later =>
    refine .failed kind fault remaining tape step ?_
    rw [Failure.later, later, Option.map_some, Int.natCast_add, Int.add_assoc]

theorem Agrees.exists_ok_iff {n : Nat} {a b : Except Error State} (h : Agrees n a b) (u : Tape) :
    (∃ s, a = .ok s ∧ s.tape = u) ↔ ∃ s, b = .ok s ∧ s.tape = u := by
  cases h with
  | ok tape => simp [tape]
  | failed => simp

theorem Agrees.exists_failed_iff {n : Nat} {a b : Except Error State} (h : Agrees n a b)
    (kind : Failure.Kind) (rest : List Token) (u : Tape) (i : Int) :
    (∃ f, a = .error (.failed f) ∧ f.kind = kind ∧ f.remaining = rest ∧ f.tape = some u ∧
      f.step = some i) ↔
    ∃ f, b = .error (.failed f) ∧ f.kind = kind ∧ f.remaining = rest ∧ f.tape = some u ∧
      f.step = some (i + n) := by
  cases h with
  | ok tape => simp
  | failed hkind fault remaining tape step later =>
    simp only [Except.error.injEq, Error.failed.injEq, exists_eq_left', hkind, remaining, tape,
      step, later, Option.some.injEq, Int.add_left_inj]

theorem Agrees.exists_fault {n : Nat} {a b : Except Error State} (h : Agrees n a b)
    (ha : a = .error e) : ∃ f, e = .failed f ∧ (f.kind = .underflow ∨ f.kind = .stuck) := by
  cases h with
  | ok tape => cases ha
  | failed kind fault remaining tape step later =>
    cases ha
    exact ⟨_, rfl, fault⟩

/-- A round that completes agrees with the run at once. -/
theorem agrees_of_ok {trace trace' : Bool} (hp : Token.mark ∉ p)
    (h : (⟨some k, trace⟩ : Machine).run p t = .ok s) :
    Agrees 0 (.ok s) ((⟨none, trace'⟩ : Machine).run p t) := by
  obtain ⟨-, -, hafter⟩ := run_eq_ok hp h
  obtain ⟨s', hrun, hat⟩ := run_of_ok (m := ⟨none, trace'⟩) hp forall_limit_of_none hafter
  rw [hrun]
  exact .ok hat.tape.symm

/-- A round that meets a fault agrees with the run at once. -/
theorem agrees_of_fault {trace' : Bool} {f : Fault} (hp : Token.mark ∉ q ++ x :: r)
    (hu : t.after q = .ok u) (hx : x.effect u = .error f) :
    Agrees 0 (.error (.failed (f.failureAt x q.length (x :: r) u)))
      ((⟨none, trace'⟩ : Machine).run (q ++ x :: r) t) := by
  rw [run_of_fault hp forall_limit_of_none hu hx]
  exact .failed rfl f.kind_cases rfl rfl rfl (congrArg some (Int.add_zero _).symm)

/-- A round that reaches its limit is the first part of the run at once. -/
theorem agrees_of_limit {trace' : Bool} {n : Nat} {a : Except Error State}
    (hp : Token.mark ∉ q ++ r) (hu : t.after q = .ok u)
    (h : Agrees n a ((⟨none, trace'⟩ : Machine).run r u)) :
    Agrees (n + q.length) a ((⟨none, trace'⟩ : Machine).run (q ++ r) t) := by
  obtain ⟨hq, hr⟩ : Token.mark ∉ q ∧ Token.mark ∉ r := by simpa using hp
  obtain ⟨s, hrun, hat⟩ := run_of_ok (m := ⟨none, trace'⟩) hq forall_limit_of_none hu
  rw [run_append_of_ok hq hr hrun, hat.tape]
  exact h.later q s.trace

/-! ### All rounds -/

/-- One round of `k` steps less is left to do. -/
theorem rounds_succ_le {n rounds : Nat} (hk : 1 ≤ k) (hn : 1 ≤ n)
    (h : rounds ≤ max 1 ((n + k - 1) / k)) : rounds + 1 ≤ max 1 ((k + n + k - 1) / k) := by
  have hpos : 1 ≤ (n + k - 1) / k := Nat.div_pos (by omega) hk
  have hall : (k + n + k - 1) / k = (n + k - 1) / k + 1 := by
    rw [show k + n + k - 1 = n + k - 1 + k by omega, Nat.add_div_right _ hk]
  rw [hall]
  omega

/-- A run in slices takes no more rounds than the program has slices, and its last round agrees
with the run at once. -/
theorem agrees_runSliced (trace trace' : Bool) (hk : 1 ≤ k) (hp : Token.mark ∉ p) (t : Tape) :
    1 ≤ (runSliced trace hk p t).rounds ∧
      (runSliced trace hk p t).rounds ≤ max 1 ((p.length + k - 1) / k) ∧
      Agrees (k * ((runSliced trace hk p t).rounds - 1)) (runSliced trace hk p t).outcome
        ((⟨none, trace'⟩ : Machine).run p t) := by
  fun_induction runSliced trace hk p t with
  | case1 p t s h =>
    exact ⟨Nat.le_refl 1, Nat.le_max_left _ _, agrees_of_ok hp h⟩
  | case2 p t e h he =>
    obtain ⟨q, x, r, u, rfl, hu, ⟨-, rfl⟩ | ⟨-, f, hx, rfl⟩⟩ := run_eq_error hp h
    · cases he
    · exact ⟨Nat.le_refl 1, Nat.le_max_left _ _, agrees_of_fault hp hu hx⟩
  | case3 p t e h r u he _ last ih =>
    -- the round stops after `k` instructions, and the others are left for the next
    obtain ⟨q, rfl, rfl, hu, hr⟩ := run_eq_checkpoint h he
    obtain ⟨hpos, hle, hagree⟩ := ih fun hmem => hp (List.mem_append_right q hmem)
    refine ⟨Nat.le_add_left _ _, ?_, ?_⟩
    · rw [List.length_append]
      exact rounds_succ_le hk hr hle
    · have hsteps : q.length * (last.rounds + 1 - 1) =
          q.length * (last.rounds - 1) + q.length := by
        rw [Nat.add_sub_cancel, ← Nat.mul_succ, Nat.succ_eq_add_one, Nat.sub_add_cancel hpos]
      rw [hsteps]
      exact agrees_of_limit hp hu hagree

/-- **Running in slices.** With a limit of at least one step, round after round comes to an end,
after no more rounds than the program has slices, and it ends with success or at a fault. It
succeeds exactly when the run without a limit does, on the same tape, and meets a fault exactly
when that does, with the same instructions left and on the same tape; the step of the fault counts
on from all the rounds before. -/
theorem runSliced_eq_run (trace : Bool) (p : List Token) (hp : Token.mark ∉ p) (t : Tape) (k : Nat)
    (hk : 1 ≤ k) :
    1 ≤ (runSliced trace hk p t).rounds ∧
      (runSliced trace hk p t).rounds ≤ max 1 ((p.length + k - 1) / k) ∧
      (∀ e, (runSliced trace hk p t).outcome = .error e →
        ∃ f, e = .failed f ∧ (f.kind = .underflow ∨ f.kind = .stuck)) ∧
      (∀ u, (∃ s, (runSliced trace hk p t).outcome = .ok s ∧ s.tape = u) ↔
        ∃ s, (⟨none, trace⟩ : Machine).run p t = .ok s ∧ s.tape = u) ∧
      ∀ kind rest u i,
        (∃ f, (runSliced trace hk p t).outcome = .error (.failed f) ∧ f.kind = kind ∧
          f.remaining = rest ∧ f.tape = some u ∧ f.step = some i) ↔
        ∃ f, (⟨none, trace⟩ : Machine).run p t = .error (.failed f) ∧ f.kind = kind ∧
          f.remaining = rest ∧ f.tape = some u ∧
          f.step = some (i + (k * ((runSliced trace hk p t).rounds - 1) : Nat)) := by
  obtain ⟨hpos, hle, hagree⟩ := agrees_runSliced trace trace hk hp t
  exact ⟨hpos, hle, fun e => hagree.exists_fault, hagree.exists_ok_iff, hagree.exists_failed_iff⟩

/-- Five instructions in slices of two, of which the last fails: that is the first instruction of
the third round, and the fifth of all. -/
theorem runSliced_eq_run_boundary :
    Token.mark ∉ [Token.inc, .inc, .dec, .dec, .dec] ∧ ∃ hk : 1 ≤ 2,
      (runSliced false hk [.inc, .inc, .dec, .dec, .dec] .initial).rounds = 3 ∧
      (∃ f, (runSliced false hk [.inc, .inc, .dec, .dec, .dec] .initial).outcome =
        .error (.failed f) ∧ f.step = some 0) ∧
      ∃ f, (⟨none, false⟩ : Machine).run [.inc, .inc, .dec, .dec, .dec] .initial =
          .error (.failed f) ∧ f.kind = .stuck ∧ f.remaining = [.dec] ∧
        f.tape = some .initial ∧ f.step = some 4 := by
  have hk : 1 ≤ 2 := by decide
  obtain ⟨-, -, -, -, hfault⟩ := runSliced_eq_run false [.inc, .inc, .dec, .dec, .dec]
    (by decide) .initial 2 hk
  have hrounds : runSliced false hk [.inc, .inc, .dec, .dec, .dec] .initial =
      ⟨3, .error (.failed (Fault.zeroCell.failureAt .dec 0 [.dec] .initial))⟩ := by
    rw [runSliced_of_checkpoint hk rfl rfl, runSliced_of_checkpoint hk rfl rfl,
      runSliced_of_error hk rfl rfl]
    rfl
  rw [hrounds] at hfault
  refine ⟨by decide, hk, ?_⟩
  rw [hrounds]
  exact ⟨rfl, ⟨_, rfl, rfl⟩, (hfault .stuck [.dec] .initial 0).1 ⟨_, rfl, rfl, rfl, rfl, rfl⟩⟩

end Machine

end MarkTape
