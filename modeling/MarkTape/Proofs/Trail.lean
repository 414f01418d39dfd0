import MarkTape.Proofs.Outcome

/-!
# Watching a run

A run can be watched state by state, by someone who may stop asking at any time. What is seen
does not depend on when that is: fewer states are a front part of all of them, and what ends the
run is seen only by one who asks for a state beyond the last. The states are those which single
steps lead to, and the last of them is where the run at once ends or fails.

* `Machine.Trail.cut`: what is seen of a trail by one who asks for some states only;
* `Machine.follow_some`, `Machine.observe_some`: asking for some states cuts the whole trail;
* `Machine.foldlM_of_follow`, `Machine.follow_ends`: every state of a trail is reached by the
  instructions before it, and what comes after the last one;
* `Machine.step_of_at`: a step carries out the instruction at the counter;
* `Machine.Passes`: the states of a run, by what each of them is;
* `Machine.observe_eq_run`: watching, stepping and running agree.
-/

namespace MarkTape

namespace Machine

variable {m : Machine} {s s' : State} {p r : List Token} {x : Token} {i : Nat} {t u : Tape}
  {wanted : Option Nat} {e : Error}

/-! ### Asking for fewer states -/

/-- The trail with one more state in front. -/
def Trail.cons (s : State) (trail : Trail) : Trail := { trail with states := s :: trail.states }

/-- What is seen of a trail by one who asks for `n` states: these, and what ended the run only if
there were not enough of them. -/
def Trail.cut (n : Nat) (trail : Trail) : Trail :=
  ⟨trail.states.take n, if trail.states.length < n then trail.failure else none⟩

theorem Trail.cut_nil (n : Nat) (failure : Option Error) :
    Trail.cut n ⟨[], failure⟩ = ⟨[], if 0 < n then failure else none⟩ := by
  simp [cut]

theorem Trail.cut_succ_cons (n : Nat) (s : State) (trail : Trail) :
    (trail.cons s).cut (n + 1) = (trail.cut n).cons s := by
  simp [cut, cons]

/-- Asking for all states is not asking for none. -/
theorem none_ne_zero : (none : Option Nat) ≠ some 0 := nofun

theorem follow_nil : m.follow wanted s [] = ⟨[], none⟩ := rfl

theorem follow_cons_of_error (hw : wanted ≠ some 0) (h : m.perform s x = .error e) :
    m.follow wanted s (x :: r) = ⟨[], some e⟩ := by
  simp only [follow, if_neg hw, h]

theorem follow_cons_of_ok (hw : wanted ≠ some 0) (h : m.perform s x = .ok s') :
    m.follow wanted s (x :: r) = (m.follow (wanted.map (· - 1)) s' r).cons s' := by
  simp only [follow, if_neg hw, h, Trail.cons]

theorem follow_some (m : Machine) (n : Nat) (s : State) (r : List Token) :
    m.follow (some n) s r = (m.follow none s r).cut n := by
  induction r generalizing n s with
  | nil => rw [follow_nil, follow_nil, Trail.cut_nil, ite_self]
  | cons x r ih =>
    cases n with
    | zero => rfl
    | succ n =>
      have hn : some (n + 1) ≠ some 0 := nofun
      cases h : m.perform s x with
      | error e =>
        rw [follow_cons_of_error hn h, follow_cons_of_error none_ne_zero h, Trail.cut_nil,
          if_pos (Nat.succ_pos n)]
      | ok next =>
        rw [follow_cons_of_ok hn h, follow_cons_of_ok none_ne_zero h, Trail.cut_succ_cons]
        exact congrArg (Trail.cons next) (ih n next)

theorem observe_of_error (hw : wanted ≠ some 0) (h : m.start p t = .error e) :
    m.observe wanted p t = ⟨[], some e⟩ := by
  simp only [observe, if_neg hw, h]

theorem observe_of_ok (hw : wanted ≠ some 0) (h : m.start p t = .ok s) :
    m.observe wanted p t = (m.follow (wanted.map (· - 1)) s p).cons s := by
  simp only [observe, if_neg hw, h, Trail.cons]

/-- Asking for some states shows as many of all of them. -/
theorem observe_some (m : Machine) (n : Nat) (p : List Token) (t : Tape) :
    m.observe (some n) p t = (m.observe none p t).cut n := by
  cases n with
  | zero => rfl
  | succ n =>
    have hn : some (n + 1) ≠ some 0 := nofun
    cases h : m.start p t with
    | error e =>
      rw [observe_of_error hn h, observe_of_error none_ne_zero h, Trail.cut_nil,
        if_pos (Nat.succ_pos n)]
    | ok s =>
      rw [observe_of_ok hn h, observe_of_ok none_ne_zero h, Trail.cut_succ_cons]
      exact congrArg (Trail.cons s) (m.follow_some n s p)

/-! ### All states -/

/-- Every state of a trail is reached by the instructions before it. -/
theorem foldlM_of_follow (h : (s :: (m.follow none s r).states)[i]? = some s') :
    (r.take i).foldlM m.perform s = .ok s' := by
  induction r generalizing s i with
  | nil =>
    cases i with
    | zero =>
      cases h
      rfl
    | succ i => cases h
  | cons x r ih =>
    cases i with
    | zero =>
      cases h
      rfl
    | succ i =>
      rw [List.getElem?_cons_succ] at h
      cases hx : m.perform s x with
      | error e =>
        rw [follow_cons_of_error none_ne_zero hx] at h
        cases h
      | ok next =>
        rw [follow_cons_of_ok none_ne_zero hx] at h
        rw [List.take_succ_cons, List.foldlM_cons, hx, ok_bind]
        exact ih h

/-- The trail reaches the end of the instructions, and then no error is met, or the instruction
after its last state meets the error that ends it. -/
theorem follow_ends (m : Machine) (s : State) (r : List Token) :
    ((m.follow none s r).states.length = r.length ∧ (m.follow none s r).failure = none) ∨
      ∃ x last e, r[(m.follow none s r).states.length]? = some x ∧
        (s :: (m.follow none s r).states)[(m.follow none s r).states.length]? = some last ∧
        m.perform last x = .error e ∧ (m.follow none s r).failure = some e := by
  induction r generalizing s with
  | nil => exact .inl ⟨rfl, rfl⟩
  | cons x r ih =>
    cases hx : m.perform s x with
    | error e =>
      rw [follow_cons_of_error none_ne_zero hx]
      exact .inr ⟨x, s, e, rfl, rfl, hx, rfl⟩
    | ok next =>
      rw [follow_cons_of_ok none_ne_zero hx]
      rcases ih next with ⟨hlen, hnone⟩ | ⟨y, last, e, hy, hlast, he, hsome⟩
      · exact .inl ⟨congrArg (· + 1) hlen, hnone⟩
      · exact .inr ⟨y, last, e, hy, hlast, he, hsome⟩

/-! ### Steps -/

/-- A step carries out the instruction at the counter. -/
theorem step_of_at (hs : s.At p i u) (hx : p[i]? = some x) : m.step s = m.perform s x := by
  have hi : i < p.length := (List.getElem?_eq_some_iff.1 hx).1
  have hdone : s.toCursor.done = false := by
    simp only [hs.cursor, Cursor.done, decide_eq_false_iff_not, Int.not_le, Int.ofNat_lt, hi]
  have hfetch : s.toCursor.fetch = .ok x := by
    simp [hs.cursor, Cursor.fetch, Cursor.fetch?, Cursor.index, hx]
  simp only [step, next, perform, hdone, hfetch]
  cases m.permit s.toCursor (some s.tape) <;> rfl

/-- The state reached by the first `i` instructions stands before the next one, on the tape that a
run of these instructions ends on. -/
theorem at_of_foldlM_take (hp : Token.mark ∉ p) (hi : i ≤ p.length)
    (h : (p.take i).foldlM m.perform (m.opening p t) = .ok s) :
    s.At p i s.tape ∧ ∃ s', m.run (p.take i) t = .ok s' ∧ s'.tape = s.tape := by
  have hmark : Token.mark ∉ p.take i := fun hmem => hp (List.mem_of_mem_take hmem)
  obtain ⟨hroom, ⟨v, hv, hat⟩, -⟩ :=
    foldlM_perform_eq_ok (m.opening_at p t) hmark (fun l _ => Nat.zero_le l) h
  rw [Nat.zero_add, List.length_take_of_le hi] at hat
  rw [Nat.zero_add] at hroom
  obtain ⟨s', hrun, hat'⟩ := run_of_ok hmark hroom hv
  exact ⟨⟨hat.cursor, rfl⟩, s', hrun, hat'.tape.trans hat.tape.symm⟩

/-! ### The whole -/

/-- The states are those of a run of `p` from `t`, in order from the first on: each comes from the
one before by a step, stands before the instruction of its own number, and has the tape on which
the instructions before that end. -/
structure Passes (m : Machine) (p : List Token) (t : Tape) (states : List State) : Prop where
  first : ∃ s, m.start p t = .ok s ∧ states[0]? = some s
  next : ∀ (i : Nat) s s', states[i]? = some s → states[i + 1]? = some s' → m.step s = .ok s'
  place : ∀ (i : Nat) s, states[i]? = some s → s.pc = i ∧ s.remaining = p.drop i ∧
    (s.done = true ↔ i = p.length)
  tape : ∀ (i : Nat) s, states[i]? = some s → ∃ s', m.run (p.take i) t = .ok s' ∧ s'.tape = s.tape

theorem length_follow_le (m : Machine) (s : State) (r : List Token) :
    (m.follow none s r).states.length ≤ r.length := by
  rcases m.follow_ends s r with ⟨hlen, -⟩ | ⟨x, last, e, hx, -⟩
  · exact Nat.le_of_eq hlen
  · exact Nat.le_of_lt (List.getElem?_eq_some_iff.1 hx).1

theorem passes_follow (hp : Token.mark ∉ p) (t : Tape) :
    m.Passes p t (m.opening p t :: (m.follow none (m.opening p t) p).states) := by
  have hle := m.length_follow_le (m.opening p t) p
  generalize hall : m.opening p t :: (m.follow none (m.opening p t) p).states = states
  have hreach : ∀ i s, states[i]? = some s → i ≤ p.length ∧
      (p.take i).foldlM m.perform (m.opening p t) = .ok s := by
    intro i s h
    have hi := (List.getElem?_eq_some_iff.1 h).1
    rw [← hall] at h hi
    rw [List.length_cons] at hi
    exact ⟨by omega, foldlM_of_follow h⟩
  have hat : ∀ i s, states[i]? = some s → s.At p i s.tape ∧
      ∃ s', m.run (p.take i) t = .ok s' ∧ s'.tape = s.tape := fun i s h =>
    at_of_foldlM_take hp (hreach i s h).1 (hreach i s h).2
  refine ⟨⟨_, start_of_mark_notMem hp, by rw [← hall]; rfl⟩, fun i s s' h h' => ?_,
    fun i s h => ?_, fun i s h => (hat i s h).2⟩
  · -- the instructions before the second state are those before the first, and one more
    obtain ⟨hi, hs'⟩ := hreach (i + 1) s' h'
    have hx : p[i]? = some p[i] := List.getElem?_eq_getElem hi
    rw [List.take_add_one, hx, Option.toList_some, List.foldlM_append, (hreach i s h).2,
      ok_bind] at hs'
    rw [step_of_at (hat i s h).1 hx]
    cases hperform : m.perform s p[i] with
    | error e => rw [List.foldlM_cons, hperform] at hs'; cases hs'
    | ok next => rw [List.foldlM_cons, hperform] at hs'; exact hs'
  · obtain ⟨hcursor, -⟩ := (hat i s h).1
    have hi := (hreach i s h).1
    rw [hcursor]
    refine ⟨rfl, Cursor.remaining_natCast p i, ?_⟩
    simp only [Cursor.done, decide_eq_true_eq, Int.ofNat_le]
    omega

/-- A step that fails reports where it failed: its own number and the tape as it was. -/
theorem failed_of_perform {e : Error} (hs : s.At p i u) (hx : x ≠ .mark)
    (h : m.perform s x = .error e) :
    ∃ f, e = .failed f ∧ f.step = some (i : Int) ∧ f.tape = some u := by
  rcases m.perform_cases hs hx with ⟨l, -, -, h'⟩ | ⟨-, f, -, h'⟩ | ⟨-, v, -, h'⟩
  all_goals
    rw [h] at h'
    cases h'
  · exact ⟨_, rfl, rfl, rfl⟩
  · exact ⟨_, rfl, rfl, rfl⟩

/-- The instructions up to the one that fails are those before it and itself. -/
theorem run_of_perform_error {e : Error} (hp : Token.mark ∉ p) (hx : p[i]? = some x)
    (hreach : (p.take i).foldlM m.perform (m.opening p t) = .ok s)
    (h : m.perform s x = .error e) : m.run p t = .error e := by
  obtain ⟨hi, rfl⟩ := List.getElem?_eq_some_iff.1 hx
  have hcut : p.foldlM m.perform (m.opening p t) =
      (p.take i ++ p[i] :: p.drop (i + 1)).foldlM m.perform (m.opening p t) := by
    rw [← List.drop_eq_getElem_cons hi, List.take_append_drop]
  rw [run_eq_foldlM hp, hcut, List.foldlM_append, hreach, ok_bind, List.foldlM_cons, h, error_bind]

/-- The trail of a run: the states it passes, and the failure of the step after the last of them,
which is also that of the run at once. -/
theorem exists_trail (m : Machine) (hp : Token.mark ∉ p) (t : Tape) :
    ∃ states k last failure, states.length = k + 1 ∧ states[k]? = some last ∧
      m.Passes p t states ∧ m.observe none p t = ⟨states, failure⟩ ∧
      ((k = p.length ∧ failure = none ∧ m.run p t = .ok last) ∨
        ∃ f, k < p.length ∧ failure = some (.failed f) ∧ m.step last = .error (.failed f) ∧
          m.run p t = .error (.failed f) ∧ f.step = some (k : Int) ∧
          f.tape = some last.tape) := by
  have hpass := passes_follow (m := m) hp t
  have hobserve := observe_of_ok none_ne_zero (start_of_mark_notMem (m := m) (t := t) hp)
  rcases m.follow_ends (m.opening p t) p with ⟨hlen, hnone⟩ | ⟨x, last, e, hx, hlast, he, hsome⟩
  · have hlt : p.length < (m.opening p t :: (m.follow none (m.opening p t) p).states).length := by
      rw [List.length_cons, hlen]
      exact Nat.lt_succ_self _
    have hlast := List.getElem?_eq_getElem hlt
    refine ⟨_, p.length, _, _, congrArg (· + 1) hlen, hlast, hpass, hobserve, .inl ⟨rfl, hnone, ?_⟩⟩
    have hrun := foldlM_of_follow hlast
    rwa [List.take_length, ← run_eq_foldlM hp] at hrun
  · have hreach := foldlM_of_follow hlast
    have hi := (List.getElem?_eq_some_iff.1 hx).1
    have hmark : x ≠ .mark := fun h => hp (h ▸ List.mem_of_getElem? hx)
    obtain ⟨hat, -⟩ := at_of_foldlM_take hp (Nat.le_of_lt hi) hreach
    obtain ⟨f, rfl, hstep, htape⟩ := failed_of_perform hat hmark he
    refine ⟨_, _, last, _, rfl, hlast, hpass, hobserve, .inr ⟨f, hi, hsome, ?_, ?_, hstep, htape⟩⟩
    · rw [step_of_at hat hx, he]
    · exact run_of_perform_error hp hx hreach he

/-- **Watching, stepping and running agree.** Whoever watches a run of instructions sees the states
that single steps lead to, from the opening one on, each with its own number and on the tape to
which the instructions before it lead. Either the last of them has carried out the program, and
the run at once ends in this state, or the next step fails, and the run at once fails in the same
way, at that step and on that tape. Asking for some states only shows the first of the same
states, and the failure only to one who asks for more than there are. A program that holds a mark
has no state, and is refused as soon as one is asked for. -/
theorem observe_eq_run (m : Machine) (p : List Token) (t : Tape) :
    (Token.mark ∉ p → ∃ states k last, states.length = k + 1 ∧ states[k]? = some last ∧
      m.Passes p t states ∧
      ((k = p.length ∧ m.run p t = .ok last ∧ m.observe none p t = ⟨states, none⟩ ∧
          ∀ n, m.observe (some n) p t = ⟨states.take n, none⟩) ∨
        ∃ f, k < p.length ∧ m.step last = .error (.failed f) ∧ m.run p t = .error (.failed f) ∧
          f.step = some (k : Int) ∧ f.tape = some last.tape ∧
          m.observe none p t = ⟨states, some (.failed f)⟩ ∧
          ∀ n, m.observe (some n) p t =
            ⟨states.take n, if k + 1 < n then some (.failed f) else none⟩)) ∧
    (Token.mark ∈ p →
      m.start p t = .error (.misuse (.notInstruction .mark)) ∧
      m.run p t = .error (.misuse (.notInstruction .mark)) ∧
      m.observe none p t = ⟨[], some (.misuse (.notInstruction .mark))⟩ ∧
      ∀ n, m.observe (some n) p t =
        ⟨[], if 1 ≤ n then some (.misuse (.notInstruction .mark)) else none⟩) := by
  refine ⟨fun hp => ?_, fun hp => ?_⟩
  · obtain ⟨states, k, last, failure, hlen, hlast, hpass, hobserve,
      ⟨hk, rfl, hrun⟩ | ⟨f, hk, rfl, hstep, hrun, hfstep, hftape⟩⟩ := m.exists_trail hp t
    · refine ⟨states, k, last, hlen, hlast, hpass, .inl ⟨hk, hrun, hobserve, fun n => ?_⟩⟩
      rw [observe_some, hobserve, Trail.cut, ite_self]
    · refine ⟨states, k, last, hlen, hlast, hpass,
        .inr ⟨f, hk, hstep, hrun, hfstep, hftape, hobserve, fun n => ?_⟩⟩
      rw [observe_some, hobserve, Trail.cut, hlen]
  · have hstart := start_of_mark_mem (m := m) (t := t) hp
    have hobserve := observe_of_error none_ne_zero hstart
    refine ⟨hstart, run_of_mark_mem hp, hobserve, fun n => ?_⟩
    rw [observe_some, hobserve, Trail.cut_nil]
    rfl

/-- Three instructions with a limit of two: there are three states, and whoever asks for a fourth
sees the failure. A mark is seen as soon as one state is asked for. -/
theorem observe_eq_run_limit :
    Token.mark ∉ [Token.inc, .right, .dec] ∧ Token.mark ∈ [Token.inc, .mark] ∧
      (∃ states f, states.length = 3 ∧
        (⟨some 2, true⟩ : Machine).Passes [.inc, .right, .dec] .initial states ∧
        (⟨some 2, true⟩ : Machine).run [.inc, .right, .dec] .initial = .error (.failed f) ∧
        f.kind = .exhausted ∧ f.step = some 2 ∧
        (⟨some 2, true⟩ : Machine).observe (some 3) [.inc, .right, .dec] .initial =
          ⟨states, none⟩ ∧
        (⟨some 2, true⟩ : Machine).observe (some 4) [.inc, .right, .dec] .initial =
          ⟨states, some (.failed f)⟩) ∧
      (⟨some 2, true⟩ : Machine).observe (some 0) [.inc, .mark] .initial = ⟨[], none⟩ ∧
      (⟨some 2, true⟩ : Machine).observe (some 1) [.inc, .mark] .initial =
        ⟨[], some (.misuse (.notInstruction .mark))⟩ := by
  have hmark := (observe_eq_run ⟨some 2, true⟩ [.inc, .mark] .initial).2 (by decide)
  refine ⟨by decide, by decide, ?_, hmark.2.2.2 0, hmark.2.2.2 1⟩
  obtain ⟨states, k, last, hlen, -, hpass,
    ⟨-, hrun, -⟩ | ⟨f, -, -, hrun, hstep, -, -, hsome⟩⟩ :=
      (observe_eq_run ⟨some 2, true⟩ [.inc, .right, .dec] .initial).1 (by decide)
  · cases hrun
  · cases hrun
    have hk : (2 : Int) = k := Option.some.inj hstep
    obtain rfl : k = 2 := by omega
    have hall : ∀ n, 3 ≤ n → states.take n = states := fun n hn =>
      List.take_of_length_le (by omega)
    refine ⟨states, _, hlen, hpass, rfl, rfl, rfl, ?_, ?_⟩
    · rw [hsome, hall 3 (by decide)]
      rfl
    · rw [hsome, hall 4 (by decide)]
      rfl

end Machine

end MarkTape
