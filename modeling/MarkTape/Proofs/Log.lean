import MarkTape.Proofs.Trail
import MarkTape.Run

/-!
# The log of a run

A run that keeps a log writes one line for every instruction that it carries out: its number, its
symbol, and the tape after it. Whether there is a log is decided when the run is started; it does
not matter which machines make the steps. A log is for reading only: with or without it a run ends
on the same tape after the same number of steps, or with the same error.

* `State.Logged`: a state with the lines that belong to it;
* `State.Logged.advance`, `State.Logged.step`: one more instruction;
* `State.Logged.relay`, `Machine.Passes.logged`: any number of steps, by several machines or by one;
* `Machine.Passes.trace_eq_take`: the log of an earlier state;
* `State.mute`, `Machine.run_mute`, `runTokens_result`: a run without its log.
-/

namespace MarkTape

namespace State

variable {s s' : State} {p : List Token} {t v : Tape} {x : Token} {i : Nat} {m : Machine}

/-! ### One more line -/

/-- The state has carried out the first `i` instructions of `p`, from `t` on, and if it keeps a log,
then this has a line for each of them; otherwise the log is empty. -/
structure Logged (s : State) (p : List Token) (t : Tape) (i : Nat) : Prop where
  place : s.At p i s.tape
  tape : t.after (p.take i) = .ok s.tape
  size : s.trace.size = if s.isTracing then i else 0
  line : s.isTracing = true → ∀ j x u, j < i → p[j]? = some x → t.after (p.take (j + 1)) = .ok u →
    s.trace[j]? = some (traceLine j x u)

theorem logged_opening (m : Machine) (p : List Token) (t : Tape) :
    (m.opening p t).Logged p t 0 where
  place := m.opening_at p t
  tape := rfl
  size := (ite_self 0).symm
  line _ j _ _ hj := absurd hj (Nat.not_lt_zero j)

theorem trace_advance (s : State) (x : Token) (v : Tape) :
    (s.advance x v).trace =
      if s.isTracing then s.trace.push (traceLine s.pc x v) else s.trace := by
  unfold advance note
  split <;> rfl

theorem isTracing_advance (s : State) (x : Token) (v : Tape) :
    (s.advance x v).isTracing = s.isTracing := by
  rw [advance, note_isTracing]

/-- An instruction that is carried out is logged under its own number, with the tape after it. -/
theorem Logged.advance (hs : s.Logged p t i) (hx : p[i]? = some x) (hv : x.effect s.tape = .ok v) :
    (s.advance x v).Logged p t (i + 1) := by
  have hat := hs.place.advance x v
  have hafter : t.after (p.take (i + 1)) = .ok v := by
    rw [Tape.after_take_succ hx, hs.tape, ok_bind, hv]
  have hpc : s.pc = i := by rw [hs.place.cursor]
  refine ⟨⟨hat.cursor, rfl⟩, by rw [hat.tape, hafter], ?_, fun htracing j y u hj hy hu => ?_⟩
  · rw [trace_advance, isTracing_advance]
    have hsize := hs.size
    split
    · next htracing =>
      rw [if_pos htracing] at hsize
      rw [Array.size_push, hsize]
    · next htracing =>
      rw [if_neg htracing] at hsize
      exact hsize
  · rw [isTracing_advance] at htracing
    have hsize := hs.size
    rw [if_pos htracing] at hsize
    rw [trace_advance, if_pos htracing, Array.getElem?_push, hsize]
    split
    · next hji =>
      -- the new line is that of the instruction which was up
      subst hji
      cases hx.symm.trans hy
      cases hafter.symm.trans hu
      rw [hpc]
    · next hji => exact hs.line htracing j y u (by omega) hy hu

/-- A step is made by carrying out the instruction that is up, whichever machine makes it. -/
theorem At.step_eq_ok {u : Tape} (hp : Token.mark ∉ p) (hs : s.At p i u) (h : m.step s = .ok s') :
    ∃ x v, p[i]? = some x ∧ x.effect u = .ok v ∧ s' = s.advance x v := by
  cases hx : p[i]? with
  | none =>
    have hlen : p.length ≤ i := List.getElem?_eq_none_iff.1 hx
    have hdone : s.toCursor.done = true := by
      simp only [hs.cursor, Cursor.done, decide_eq_true_eq, Int.ofNat_le, hlen]
    rw [Machine.step, Machine.next, hdone] at h
    cases h
  | some x =>
    have hmark : x ≠ .mark := fun hx' => hp (hx' ▸ List.mem_of_getElem? hx)
    rw [Machine.step_of_at hs hx] at h
    rcases m.perform_cases hs hmark with ⟨l, -, -, hperform⟩ | ⟨-, f, -, hperform⟩ |
      ⟨-, v, hv, hperform⟩
    all_goals
      rw [hperform] at h
      cases h
    exact ⟨x, v, rfl, hv, rfl⟩

/-- What one step preserves. -/
theorem Logged.step (hp : Token.mark ∉ p) (hs : s.Logged p t i) (h : m.step s = .ok s') :
    s'.Logged p t (i + 1) ∧ s'.isTracing = s.isTracing ∧
      s.trace.toList <+: s'.trace.toList := by
  obtain ⟨x, v, hx, hv, rfl⟩ := hs.place.step_eq_ok hp h
  refine ⟨hs.advance hx hv, isTracing_advance s x v, ?_⟩
  rw [trace_advance]
  split
  · rw [Array.toList_push]
    exact List.prefix_append _ _
  · exact List.prefix_rfl

/-! ### Any number of steps -/

/-- Steps may be made by several machines, one after the other. -/
theorem Logged.relay {ms : List Machine} (hp : Token.mark ∉ p) (hs : s.Logged p t i)
    (h : ms.foldlM (fun s m => m.step s) s = .ok s') :
    s'.Logged p t (i + ms.length) ∧ s'.isTracing = s.isTracing := by
  induction ms generalizing s i with
  | nil =>
    cases h
    exact ⟨hs, rfl⟩
  | cons m ms ih =>
    rw [List.foldlM_cons] at h
    obtain ⟨next, hnext, h⟩ := bind_eq_ok_iff.1 h
    obtain ⟨hlogged, htracing, -⟩ := hs.step hp hnext
    obtain ⟨hlogged', htracing'⟩ := ih hlogged h
    rw [List.length_cons, show i + (ms.length + 1) = i + 1 + ms.length by omega]
    exact ⟨hlogged', htracing'.trans htracing⟩

/-- The lines of a log, written out. -/
theorem Logged.lines (hs : s.Logged p t i) (htracing : s.isTracing = true) :
    s.trace.size = i ∧ ∀ j x, j < i → p[j]? = some x → ∃ u, t.after (p.take (j + 1)) = .ok u ∧
      s.trace[j]? = some (Text.natural j ++ ": " ++ String.singleton x.symbol ++
        " back=" ++ Text.bracketedNumbers u.back.values ++
        " front=" ++ Text.bracketedNumbers u.front.values) := by
  refine ⟨by rw [hs.size, if_pos htracing], fun j x hj hx => ?_⟩
  obtain ⟨u, hu, -⟩ := Tape.after_take_of_ok hs.tape (j + 1)
  rw [List.take_take, Nat.min_eq_left hj] at hu
  exact ⟨u, hu, hs.line htracing j x u hj hx hu⟩

theorem Logged.trace_eq_empty (hs : s.Logged p t i) (htracing : s.isTracing = false) :
    s.trace = #[] := by
  have hsize := hs.size
  rw [htracing] at hsize
  exact Array.eq_empty_of_size_eq_zero hsize

end State

namespace Machine

variable {m : Machine} {p : List Token} {t : Tape} {states : List State} {s s' : State}

/-- The states that a run passes have the log that belongs to them. -/
theorem Passes.logged (hp : Token.mark ∉ p) (hpass : m.Passes p t states) {i : Nat}
    (hs : states[i]? = some s) : s.Logged p t i ∧ s.isTracing = m.trace := by
  induction i generalizing s with
  | zero =>
    obtain ⟨s₀, hstart, hfirst⟩ := hpass.first
    rw [start_of_mark_notMem hp] at hstart
    cases hstart
    cases hfirst.symm.trans hs
    exact ⟨State.logged_opening m p t, rfl⟩
  | succ i ih =>
    have hi := (List.getElem?_eq_some_iff.1 hs).1
    have hbefore := List.getElem?_eq_getElem (Nat.lt_of_succ_lt hi)
    obtain ⟨hlogged, htracing⟩ := ih hbefore
    obtain ⟨hlogged', htracing', -⟩ := hlogged.step hp (hpass.next i _ s hbefore hs)
    exact ⟨hlogged', htracing'.trans htracing⟩

/-- The log of a state is continued by the states after it. -/
theorem Passes.trace_prefix (hp : Token.mark ∉ p) (hpass : m.Passes p t states) {i : Nat} (k : Nat)
    (hs : states[i]? = some s) (hs' : states[i + k]? = some s') :
    s.trace.toList <+: s'.trace.toList := by
  induction k generalizing s' with
  | zero =>
    cases hs.symm.trans hs'
    exact List.prefix_rfl
  | succ k ih =>
    have hk := (List.getElem?_eq_some_iff.1 hs').1
    have hbefore := List.getElem?_eq_getElem (Nat.lt_of_succ_lt hk)
    obtain ⟨hlogged, -⟩ := hpass.logged hp hbefore
    exact (ih hbefore).trans (hlogged.step hp (hpass.next (i + k) _ s' hbefore hs')).2.2

/-- The log of a state is a front part of the log of every state after it, of the length of its own
number. -/
theorem Passes.trace_eq_take (hp : Token.mark ∉ p) (hpass : m.Passes p t states) {i j : Nat}
    (hij : i ≤ j) (hs : states[i]? = some s) (hs' : states[j]? = some s') :
    s.trace.toList = s'.trace.toList.take i := by
  obtain ⟨hlogged, htracing⟩ := hpass.logged hp hs
  obtain ⟨hlogged', htracing'⟩ := hpass.logged hp hs'
  cases hm : m.trace with
  | false =>
    rw [hlogged.trace_eq_empty (htracing.trans hm), hlogged'.trace_eq_empty (htracing'.trans hm)]
    exact List.take_nil.symm
  | true =>
    obtain ⟨k, rfl⟩ := Nat.exists_eq_add_of_le hij
    have hsize := hlogged.size
    rw [if_pos (htracing.trans hm)] at hsize
    have htake := List.prefix_iff_eq_take.1 (hpass.trace_prefix hp k hs hs')
    rwa [Array.length_toList, hsize] at htake

/-- Whatever is seen of a run is one of the states that it passes. -/
theorem exists_passes_observe (m : Machine) (hp : Token.mark ∉ p) (t : Tape) :
    ∃ states, m.Passes p t states ∧
      (∀ s, m.run p t = .ok s → states[p.length]? = some s) ∧
      ∀ wanted (i : Nat) s, (m.observe wanted p t).states[i]? = some s → states[i]? = some s := by
  obtain ⟨states, k, last, failure, -, hlast, hpass, hobserve, hend⟩ := m.exists_trail hp t
  refine ⟨states, hpass, fun s hs => ?_, fun wanted i s h => ?_⟩
  · rcases hend with ⟨rfl, -, hrun⟩ | ⟨f, -, -, -, hrun, -⟩
    · cases hrun.symm.trans hs
      exact hlast
    · rw [hs] at hrun
      cases hrun
  · cases wanted with
    | none => rwa [hobserve] at h
    | some n =>
      rw [observe_some, hobserve, Trail.cut, List.getElem?_take] at h
      split at h
      · exact h
      · cases h

end Machine

/-! ### Without a log -/

/-- The state without its log. -/
def State.mute (s : State) : State := { s with trace := #[], isTracing := false }

theorem State.mute_advance (s : State) (x : Token) (v : Tape) :
    (s.advance x v).mute = s.mute.advance x v := by
  unfold advance note
  split <;> rfl

theorem State.execute_mute (s : State) (x : Token) :
    s.mute.execute x = (s.execute x).map State.mute := by
  have htape : s.mute.tape = s.tape := rfl
  unfold execute
  cases x.rule? with
  | none => rfl
  | some rule =>
    simp only [htape]
    cases rule s.tape with
    | error f => rfl
    | ok v => exact congrArg Except.ok (s.mute_advance x v).symm

namespace Machine

theorem perform_mute (m : Machine) (s : State) (x : Token) :
    (⟨m.limit, false⟩ : Machine).perform s.mute x = (m.perform s x).map State.mute := by
  have hpermit : (⟨m.limit, false⟩ : Machine).permit s.mute.toCursor (some s.mute.tape) =
      m.permit s.toCursor (some s.tape) := rfl
  rw [perform, perform, hpermit]
  cases m.permit s.toCursor (some s.tape) with
  | error e => rfl
  | ok _ => exact s.execute_mute x

theorem foldlM_perform_mute (m : Machine) (s : State) (r : List Token) :
    r.foldlM (⟨m.limit, false⟩ : Machine).perform s.mute =
      (r.foldlM m.perform s).map State.mute := by
  induction r generalizing s with
  | nil => rfl
  | cons x r ih =>
    rw [List.foldlM_cons, List.foldlM_cons, perform_mute]
    cases m.perform s x with
    | error e => rfl
    | ok next => exact ih next

/-- A run without a log is the run with its log left out. -/
theorem run_mute (m : Machine) (p : List Token) (t : Tape) :
    (⟨m.limit, false⟩ : Machine).run p t = (m.run p t).map State.mute := by
  unfold run start
  cases p.find? fun x => !x.isInstruction with
  | some x => rfl
  | none => exact m.foldlM_perform_mute (m.opening p t) p

end Machine

/-- What a run gives apart from the picture and the log. -/
def Report.result (r : Report) : Tape × Int := (r.tape, r.steps)

theorem runTokens_result (o : Options) (ts : List Token) (t : Tape) :
    (runTokens o ts t).map Report.result =
      ((⟨o.limit, false⟩ : Machine).run ts t).map fun s => (s.tape, s.pc) := by
  have hmute := o.machine.run_mute ts t
  rw [show (⟨o.limit, false⟩ : Machine) = ⟨o.machine.limit, false⟩ from rfl, hmute, runTokens]
  cases o.machine.run ts t <;> rfl

end MarkTape
