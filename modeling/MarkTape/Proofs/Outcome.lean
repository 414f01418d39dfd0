import MarkTape.Machine
import MarkTape.Proofs.Effect

/-!
# How a run ends

A run follows the effects of its program until the program is carried out, the limit is reached,
or a rule does not apply. The limit is looked at first, so at a step where both the limit and
the rule would end the run, the limit does.

* `State.At`: a state that stands before a given instruction with a given tape;
* `Machine.perform_of_ok`, `Machine.perform_of_fault`, `Machine.perform_of_limit`,
  `Machine.perform_cases`: the three things that one step can do;
* `Machine.run_of_after`: a run reaches every instruction to which the effects lead within the
  limit;
* `Machine.run_eq_ok`, `Machine.run_eq_error`: what a run that succeeds or fails tells;
* `Machine.run_trichotomy`: the exact outcome of every run.
-/

namespace MarkTape

/-- The state `s` stands before instruction number `i` of `p`, with the tape `u`. -/
structure State.At (s : State) (p : List Token) (i : Nat) (u : Tape) : Prop where
  cursor : s.toCursor = ⟨p, i⟩
  tape : s.tape = u

/-- An instruction number counts from the front. -/
@[simp] theorem Cursor.remaining_natCast (p : List Token) (i : Nat) :
    Cursor.remaining ⟨p, i⟩ = p.drop i := by
  simp [Cursor.remaining, Cursor.index]

theorem State.At.advance {s : State} {p : List Token} {i : Nat} {u : Tape} (hs : s.At p i u)
    (x : Token) (v : Tape) : (s.advance x v).At p (i + 1) v := by
  constructor
  · have hp := congrArg Cursor.program hs.cursor
    have hpc := congrArg Cursor.pc hs.cursor
    simp only at hp hpc
    simp only [State.advance, State.note_toCursor, hp, hpc]
    rfl
  · simp only [State.advance, State.note_tape]

/-- The symbol of a token needs no escape between quotes. -/
theorem Token.quote_symbol (x : Token) :
    Text.quote (String.singleton x.symbol) = "'" ++ String.singleton x.symbol ++ "'" := by
  cases x <;> decide +kernel

/-- Within a run the text of a fault ends with the step and the symbol. -/
theorem Fault.failureAt_natCast (f : Fault) (x : Token) (k : Nat) (rest : List Token) (u : Tape) :
    f.failureAt x k rest u =
      { kind := f.kind
        message := f.message ++ " (step " ++ Text.natural k ++ ", instruction '" ++
          String.singleton x.symbol ++ "')"
        remaining := rest
        tape := some u
        step := some k } := by
  have hopen : (", instruction '" : String) = ", instruction " ++ "'" := by decide
  have hclose : ("')" : String) = "'" ++ ")" := by decide
  simp only [Fault.failureAt, Failure.within, Fault.failure, Text.integer_natCast,
    Token.quote_symbol, hopen, hclose, String.append_assoc]

/-- The kind of failure tells which instruction met the fault. -/
theorem Token.kind_of_fault {x : Token} {u : Tape} {f : Fault} (h : x.effect u = .error f) :
    (x = .left ∧ f.kind = .underflow) ∨ (x = .dec ∧ f.kind = .stuck) := by
  rcases Token.effect_eq_error_iff.1 h with ⟨rfl, rfl, -⟩ | ⟨rfl, rfl, -⟩
  · exact .inl ⟨rfl, rfl⟩
  · exact .inr ⟨rfl, rfl⟩

namespace Machine

variable {m : Machine} {s s' : State} {p q r : List Token} {x : Token} {i : Nat} {t u v : Tape}
  {f : Fault}

/-! ### One step -/

theorem permit_of_lt (h : ∀ l ∈ m.limit, i < l) (tape : Option Tape) :
    m.permit ⟨p, i⟩ tape = .ok () := by
  unfold permit
  cases hl : m.limit with
  | none => rfl
  | some l =>
    have hlt : i < l := h l hl
    exact if_neg (Int.not_le.2 (Int.ofNat_lt.2 hlt))

theorem permit_of_le {l : Nat} (hl : l ∈ m.limit) (hle : l ≤ i) (tape : Option Tape) :
    m.permit ⟨p, i⟩ tape = .error (.failed (.limitReached l i (p.drop i) tape)) := by
  have hm : m.limit = some l := hl
  simp only [permit, hm, Cursor.remaining_natCast]
  exact if_pos (Int.ofNat_le.2 hle)

theorem perform_of_ok (hs : s.At p i u) (hlim : ∀ l ∈ m.limit, i < l) (hx : x ≠ .mark)
    (h : x.effect u = .ok v) : m.perform s x = .ok (s.advance x v) := by
  simp only [perform, hs.cursor, permit_of_lt hlim, ok_bind, State.execute,
    Token.rule?_eq_effect hx, hs.tape, h]

theorem perform_of_fault (hs : s.At p i u) (hlim : ∀ l ∈ m.limit, i < l) (hx : x ≠ .mark)
    (h : x.effect u = .error f) :
    m.perform s x = .error (.failed (f.failureAt x i (p.drop i) u)) := by
  simp only [perform, hs.cursor, permit_of_lt hlim, ok_bind, State.execute,
    Token.rule?_eq_effect hx, hs.tape, h, Cursor.remaining_natCast]

theorem perform_of_limit {l : Nat} (hs : s.At p i u) (hl : l ∈ m.limit) (hle : l ≤ i) :
    m.perform s x = .error (.failed (.limitReached l i (p.drop i) (some u))) := by
  simp only [perform, hs.cursor, hs.tape, permit_of_le hl hle, error_bind]

/-- Everything that one step can do: it meets the limit, or the rule of the instruction faults, or
the state advances. -/
theorem perform_cases (m : Machine) (hs : s.At p i u) (hx : x ≠ .mark) :
    (∃ l ∈ m.limit, l ≤ i ∧
      m.perform s x = .error (.failed (.limitReached l i (p.drop i) (some u)))) ∨
    ((∀ l ∈ m.limit, i < l) ∧ ∃ f, x.effect u = .error f ∧
      m.perform s x = .error (.failed (f.failureAt x i (p.drop i) u))) ∨
    ((∀ l ∈ m.limit, i < l) ∧ ∃ v, x.effect u = .ok v ∧
      m.perform s x = .ok (s.advance x v)) := by
  by_cases hlim : ∃ l ∈ m.limit, l ≤ i
  · obtain ⟨l, hl, hle⟩ := hlim
    exact .inl ⟨l, hl, hle, perform_of_limit hs hl hle⟩
  · have hroom : ∀ l ∈ m.limit, i < l := fun l hl => Nat.lt_of_not_le fun hle => hlim ⟨l, hl, hle⟩
    cases h : x.effect u with
    | error f => exact .inr (.inl ⟨hroom, f, rfl, perform_of_fault hs hroom hx h⟩)
    | ok v => exact .inr (.inr ⟨hroom, v, rfl, perform_of_ok hs hroom hx h⟩)

/-! ### A whole run -/

/-- The steps of `q` follow its effects, as long as the limit allows. -/
theorem foldlM_perform_of_after (hs : s.At p i t) (hq : Token.mark ∉ q)
    (hlim : ∀ l ∈ m.limit, i + q.length ≤ l) (h : t.after q = .ok u) :
    ∃ s', q.foldlM m.perform s = .ok s' ∧ s'.At p (i + q.length) u := by
  induction q generalizing s i t with
  | nil =>
    cases h
    exact ⟨s, rfl, hs⟩
  | cons x q ih =>
    obtain ⟨v, hv, hu⟩ := Tape.after_cons_eq_ok_iff.1 h
    rw [List.mem_cons, not_or] at hq
    rw [List.length_cons] at hlim ⊢
    have hstep : m.perform s x = .ok (s.advance x v) :=
      perform_of_ok hs (fun l hl => by have := hlim l hl; omega) (Ne.symm hq.1) hv
    obtain ⟨s', hs', hat⟩ := ih (hs.advance x v) hq.2
      (fun l hl => by have := hlim l hl; omega) hu
    refine ⟨s', ?_, ?_⟩
    · rw [List.foldlM_cons, hstep, ok_bind, hs']
    · rwa [show i + (q.length + 1) = i + 1 + q.length by omega]

/-- The state before the first instruction of `p`. -/
def opening (m : Machine) (p : List Token) (t : Tape) : State := ⟨⟨p, 0⟩, t, #[], m.trace⟩

theorem opening_at (m : Machine) (p : List Token) (t : Tape) : (m.opening p t).At p 0 t :=
  ⟨rfl, rfl⟩

theorem start_of_mark_notMem (hp : Token.mark ∉ p) : m.start p t = .ok (m.opening p t) := by
  have hfind : p.find? (fun x => !x.isInstruction) = none := by
    rw [List.find?_eq_none]
    intro x hx
    have hins := Token.isInstruction_iff.2 (ne_of_mem_of_not_mem hx hp)
    simp [hins]
  simp only [start, hfind]
  rfl

/-- A run of instructions carries them out from the opening state. -/
theorem run_eq_foldlM (hp : Token.mark ∉ p) :
    m.run p t = p.foldlM m.perform (m.opening p t) := by
  rw [run, start_of_mark_notMem hp, ok_bind]

/-- A program that holds a mark is refused before the first step. -/
theorem start_of_mark_mem (hp : Token.mark ∈ p) :
    m.start p t = .error (.misuse (.notInstruction .mark)) := by
  have hfind : (p.find? fun x => !x.isInstruction).isSome :=
    List.find?_isSome.2 ⟨.mark, hp, rfl⟩
  obtain ⟨x, hx⟩ := Option.isSome_iff_exists.1 hfind
  have hmark : x = .mark := Decidable.byContradiction fun hne => by
    have hnot := List.find?_some hx
    rw [Token.isInstruction_iff.2 hne] at hnot
    cases hnot
  rw [start, hx, hmark]

theorem run_of_mark_mem (hp : Token.mark ∈ p) :
    m.run p t = .error (.misuse (.notInstruction .mark)) := by
  rw [run, start_of_mark_mem hp, error_bind]

/-- A run reaches every instruction to which the effects of its program lead within the
limit. -/
theorem run_of_after (hp : Token.mark ∉ q ++ r) (hlim : ∀ l ∈ m.limit, q.length ≤ l)
    (h : t.after q = .ok u) :
    ∃ s, s.At (q ++ r) q.length u ∧ m.run (q ++ r) t = r.foldlM m.perform s := by
  have hq : Token.mark ∉ q := fun hmem => hp (List.mem_append_left r hmem)
  obtain ⟨s, hs, hat⟩ :=
    foldlM_perform_of_after (m.opening_at (q ++ r) t) hq (by simpa using hlim) h
  refine ⟨s, by simpa using hat, ?_⟩
  rw [run_eq_foldlM hp, List.foldlM_append, hs, ok_bind]

theorem run_of_ok (hp : Token.mark ∉ p) (hlim : ∀ l ∈ m.limit, p.length ≤ l)
    (h : t.after p = .ok u) : ∃ s, m.run p t = .ok s ∧ s.At p p.length u := by
  obtain ⟨s, hat, hrun⟩ := run_of_after (r := []) (by simpa using hp) hlim h
  rw [List.append_nil] at hat hrun
  exact ⟨s, hrun, hat⟩

theorem run_of_fault (hp : Token.mark ∉ q ++ x :: r) (hlim : ∀ l ∈ m.limit, q.length < l)
    (h : t.after q = .ok u) (hx : x.effect u = .error f) :
    m.run (q ++ x :: r) t = .error (.failed (f.failureAt x q.length (x :: r) u)) := by
  obtain ⟨s, hat, hrun⟩ := run_of_after hp (fun l hl => Nat.le_of_lt (hlim l hl)) h
  have hmark : x ≠ .mark := by
    rintro rfl
    simp at hp
  rw [hrun, List.foldlM_cons, perform_of_fault hat hlim hmark hx, error_bind,
    List.drop_left]

theorem run_of_limit (hp : Token.mark ∉ q ++ x :: r) (hl : q.length ∈ m.limit)
    (h : t.after q = .ok u) :
    m.run (q ++ x :: r) t =
      .error (.failed (.limitReached q.length q.length (x :: r) (some u))) := by
  have hlim : ∀ l ∈ m.limit, q.length ≤ l := by
    intro l hl'
    exact Nat.le_of_eq (Option.mem_unique hl hl')
  obtain ⟨s, hat, hrun⟩ := run_of_after hp hlim h
  rw [hrun, List.foldlM_cons, perform_of_limit hat hl (Nat.le_refl _), error_bind,
    List.drop_left]

/-- Steps that are all made follow the effects, and the limit leaves room for them. -/
theorem foldlM_perform_eq_ok (hs : s.At p i u) (hr : Token.mark ∉ r)
    (hlim : ∀ l ∈ m.limit, i ≤ l) (h : r.foldlM m.perform s = .ok s') :
    (∀ l ∈ m.limit, i + r.length ≤ l) ∧
      (∃ v, u.after r = .ok v ∧ s'.At p (i + r.length) v) ∧ s'.isTracing = s.isTracing := by
  induction r generalizing s i u with
  | nil =>
    cases h
    exact ⟨hlim, ⟨u, rfl, hs⟩, rfl⟩
  | cons x r ih =>
    rw [List.mem_cons, not_or] at hr
    rw [List.foldlM_cons] at h
    rcases m.perform_cases hs (Ne.symm hr.1) with
      ⟨_, _, _, hx⟩ | ⟨_, _, _, hx⟩ | ⟨hlt, v, hv, hx⟩
    · rw [hx] at h
      cases h
    · rw [hx] at h
      cases h
    · rw [hx, ok_bind] at h
      obtain ⟨hroom, ⟨w, hw, hat⟩, htracing⟩ := ih (hs.advance x v) hr.2 hlt h
      have hadd : i + 1 + r.length = i + (x :: r).length := by
        rw [List.length_cons]
        omega
      rw [hadd] at hroom hat
      refine ⟨hroom, ⟨w, ?_, hat⟩, ?_⟩
      · rw [Tape.after_cons, hv, ok_bind, hw]
      · rw [htracing, State.advance, State.note_isTracing]

/-- A step that is not made is the first one at the limit, or the first one whose rule faults. -/
theorem foldlM_perform_eq_error {e : Error} (hs : s.At p i u) (hr : Token.mark ∉ r)
    (hlim : ∀ l ∈ m.limit, i ≤ l) (h : r.foldlM m.perform s = .error e) :
    ∃ q x r' v, r = q ++ x :: r' ∧ u.after q = .ok v ∧
      ((i + q.length ∈ m.limit ∧ e = .failed
          (.limitReached (i + q.length) (i + q.length : Nat) (p.drop (i + q.length)) (some v))) ∨
        ((∀ l ∈ m.limit, i + q.length < l) ∧ ∃ f, x.effect v = .error f ∧
          e = .failed (f.failureAt x (i + q.length : Nat) (p.drop (i + q.length)) v))) := by
  induction r generalizing s i u with
  | nil => cases h
  | cons x r ih =>
    rw [List.mem_cons, not_or] at hr
    rw [List.foldlM_cons] at h
    rcases m.perform_cases hs (Ne.symm hr.1) with
      ⟨l, hl, hle, hx⟩ | ⟨hlt, f, hf, hx⟩ | ⟨hlt, v, hv, hx⟩
    · rw [hx, error_bind] at h
      cases Nat.le_antisymm hle (hlim l hl)
      exact ⟨[], x, r, u, rfl, rfl, .inl ⟨hl, (Except.error.inj h).symm⟩⟩
    · rw [hx, error_bind] at h
      exact ⟨[], x, r, u, rfl, rfl, .inr ⟨hlt, f, hf, (Except.error.inj h).symm⟩⟩
    · rw [hx, ok_bind] at h
      obtain ⟨q, y, r', w, rfl, hw, hend⟩ := ih (hs.advance x v) hr.2 hlt h
      have hadd : i + 1 + q.length = i + (x :: q).length := by
        rw [List.length_cons]
        omega
      rw [hadd] at hend
      refine ⟨x :: q, y, r', w, rfl, ?_, hend⟩
      rw [Tape.after_cons, hv, ok_bind, hw]

/-- The state at the end of a run, and the room that its limit had. -/
theorem run_eq_ok (hp : Token.mark ∉ p) (h : m.run p t = .ok s) :
    (∀ l ∈ m.limit, p.length ≤ l) ∧
      s = ⟨⟨p, p.length⟩, s.tape, s.trace, m.trace⟩ ∧ t.after p = .ok s.tape := by
  rw [run_eq_foldlM hp] at h
  obtain ⟨hroom, ⟨v, hv, hat⟩, htracing⟩ :=
    foldlM_perform_eq_ok (m.opening_at p t) hp (fun l _ => Nat.zero_le l) h
  rw [Nat.zero_add] at hroom hat
  obtain ⟨cursor, tape, trace, isTracing⟩ := s
  obtain ⟨hc, rfl⟩ := hat
  cases hc
  cases htracing
  exact ⟨hroom, rfl, hv⟩

/-- Where a run fails: at the limit, or at the first fault. -/
theorem run_eq_error {e : Error} (hp : Token.mark ∉ p) (h : m.run p t = .error e) :
    ∃ q x r v, p = q ++ x :: r ∧ t.after q = .ok v ∧
      ((q.length ∈ m.limit ∧
          e = .failed (.limitReached q.length q.length (x :: r) (some v))) ∨
        ((∀ l ∈ m.limit, q.length < l) ∧ ∃ f, x.effect v = .error f ∧
          e = .failed (f.failureAt x q.length (x :: r) v))) := by
  rw [run_eq_foldlM hp] at h
  obtain ⟨q, x, r, v, rfl, hv, hend⟩ :=
    foldlM_perform_eq_error (m.opening_at p t) hp (fun l _ => Nat.zero_le l) h
  rw [Nat.zero_add, List.drop_left] at hend
  exact ⟨q, x, r, v, rfl, hv, hend⟩

/-- A failure names the step. -/
theorem exists_step_of_run_eq_error {e : Error} (hp : Token.mark ∉ p) (h : m.run p t = .error e) :
    ∃ f k, e = .failed f ∧ f.step = some k := by
  obtain ⟨q, x, r, v, -, -, ⟨-, rfl⟩ | ⟨-, f, -, rfl⟩⟩ := run_eq_error hp h
  · exact ⟨_, _, rfl, rfl⟩
  · exact ⟨_, _, rfl, rfl⟩

/-- Without a limit there is always room. -/
theorem forall_limit_of_none {trace : Bool} {P : Nat → Prop} :
    ∀ l ∈ (⟨none, trace⟩ : Machine).limit, P l := by
  intro l hl
  cases hl

/-! ### The three outcomes -/

/-- Nothing fails and the limit leaves room for every instruction: the program is carried out. -/
structure Completes (m : Machine) (p : List Token) (t : Tape) : Prop where
  noFault : t.faultIndex p = p.length
  room : ∀ l ∈ m.limit, p.length ≤ l
  result : ∃ s, m.run p t = .ok s ∧ s.done = true ∧ s.pc = p.length ∧ t.after p = .ok s.tape

/-- The limit `l` comes before the end of the program and not after the first fault: the run
stops there and reports the instructions from number `l` on. -/
structure Exhausts (m : Machine) (p : List Token) (t : Tape) (l : Nat) : Prop where
  isLimit : l ∈ m.limit
  inside : l < p.length
  noFault : l ≤ t.faultIndex p
  result : ∃ u, t.after (p.take l) = .ok u ∧ m.run p t = .error (.failed
    { kind := .exhausted
      message := "ResourceExhausted: step limit of " ++ Text.natural l ++ " reached"
      remaining := p.drop l
      tape := some u
      step := some l })

/-- Instruction number `k` is the first that fails, and the limit lets it be tried: the run
reports the fault of its rule, the place, and the tape on which it failed. -/
structure Faults (m : Machine) (p : List Token) (t : Tape) (k : Nat) : Prop where
  isFirst : t.faultIndex p = k
  inside : k < p.length
  room : ∀ l ∈ m.limit, k < l
  result : ∃ x u f, p[k]? = some x ∧ t.after (p.take k) = .ok u ∧ x.effect u = .error f ∧
    ((x = .left ∧ f.kind = .underflow) ∨ (x = .dec ∧ f.kind = .stuck)) ∧
    m.run p t = .error (.failed
      { kind := f.kind
        message := f.message ++ " (step " ++ Text.natural k ++ ", instruction '" ++
          String.singleton x.symbol ++ "')"
        remaining := p.drop k
        tape := some u
        step := some k })

theorem completes_of_room (hp : Token.mark ∉ p) (hk : t.faultIndex p = p.length)
    (hlim : ∀ l ∈ m.limit, p.length ≤ l) : m.Completes p t := by
  obtain ⟨u, hu⟩ := Tape.after_ok_of_faultIndex_eq hk
  obtain ⟨s, hrun, hat⟩ := run_of_ok hp hlim hu
  refine ⟨hk, hlim, s, hrun, ?_, ?_, ?_⟩
  · simp [hat.cursor, Cursor.done]
  · rw [hat.cursor]
  · rw [hat.tape, hu]

theorem exhausts_of_limit {l : Nat} (hp : Token.mark ∉ p) (hl : l ∈ m.limit)
    (hlen : l < p.length) (hk : l ≤ t.faultIndex p) : m.Exhausts p t l := by
  obtain ⟨u, hu⟩ := Tape.after_take_of_le_faultIndex hk
  have hcut : p = p.take l ++ p[l] :: p.drop (l + 1) := by
    rw [← List.drop_eq_getElem_cons hlen, List.take_append_drop]
  have htake : (p.take l).length = l := List.length_take_of_le (Nat.le_of_lt hlen)
  refine ⟨hl, hlen, hk, u, hu, ?_⟩
  have hrun := run_of_limit (hcut ▸ hp) (htake.symm ▸ hl) hu
  rw [← hcut, htake, ← List.drop_eq_getElem_cons hlen] at hrun
  exact hrun

theorem faults_of_room (hp : Token.mark ∉ p) (hk : t.faultIndex p < p.length)
    (hlim : ∀ l ∈ m.limit, t.faultIndex p < l) : m.Faults p t (t.faultIndex p) := by
  obtain ⟨q, x, r, u, f, rfl, hlen, hu, hx⟩ := Tape.exists_fault_of_faultIndex_lt hk
  refine ⟨rfl, hk, hlim, x, u, f, ?_, ?_, hx, Token.kind_of_fault hx, ?_⟩
  · simp [← hlen]
  · rw [← hlen, List.take_left, hu]
  · rw [← hlen, List.drop_left, run_of_fault hp (hlen.symm ▸ hlim) hu hx,
      Fault.failureAt_natCast]

theorem Completes.not_exhausts (h : m.Completes p t) (l : Nat) : ¬ m.Exhausts p t l := by
  intro h'
  have := h.room l h'.isLimit
  have := h'.inside
  omega

theorem Completes.not_faults (h : m.Completes p t) (k : Nat) : ¬ m.Faults p t k := by
  intro h'
  have := h.noFault.symm.trans h'.isFirst
  have := h'.inside
  omega

theorem Exhausts.not_faults {l : Nat} (h : m.Exhausts p t l) (k : Nat) : ¬ m.Faults p t k := by
  intro h'
  have hle : l ≤ k := h'.isFirst ▸ h.noFault
  have hlt : k < l := h'.room l h.isLimit
  omega

/-- **The outcome of a run.** Every run completes, exhausts its limit or meets a fault, and only
one of the three. At the step of the first fault the limit wins, and a limit of the length of
the program is never reached. -/
theorem run_trichotomy (m : Machine) (p : List Token) (t : Tape) (hp : Token.mark ∉ p) :
    ((m.Completes p t ∧ (∀ l, ¬ m.Exhausts p t l) ∧ ∀ k, ¬ m.Faults p t k) ∨
      (¬ m.Completes p t ∧ (∃ l, m.Exhausts p t l) ∧ ∀ k, ¬ m.Faults p t k) ∨
      (¬ m.Completes p t ∧ (∀ l, ¬ m.Exhausts p t l) ∧ ∃ k, m.Faults p t k)) ∧
    (t.faultIndex p < p.length → t.faultIndex p ∈ m.limit → m.Exhausts p t (t.faultIndex p)) ∧
    (p.length ∈ m.limit → ∀ l, ¬ m.Exhausts p t l) := by
  have hle := t.faultIndex_le_length p
  refine ⟨?_, fun hk hl => exhausts_of_limit hp hl hk (Nat.le_refl _), fun hl l h => ?_⟩
  -- the limit decides first, then whether there is a fault at all
  · by_cases hearly : ∃ l ∈ m.limit, l < p.length ∧ l ≤ t.faultIndex p
    · obtain ⟨l, hl, hlen, hk⟩ := hearly
      have h := exhausts_of_limit hp hl hlen hk
      exact .inr (.inl ⟨fun hc => hc.not_exhausts l h, ⟨l, h⟩, h.not_faults⟩)
    · have hroom : ∀ l ∈ m.limit, ¬ (l < p.length ∧ l ≤ t.faultIndex p) :=
        fun l hl h => hearly ⟨l, hl, h⟩
      by_cases hk : t.faultIndex p = p.length
      · have h : m.Completes p t :=
          completes_of_room hp hk fun l hl => by have := hroom l hl; omega
        exact .inl ⟨h, h.not_exhausts, h.not_faults⟩
      · have h : m.Faults p t (t.faultIndex p) :=
          faults_of_room hp (by omega) fun l hl => by have := hroom l hl; omega
        exact .inr (.inr ⟨fun hc => hc.not_faults _ h, fun l he => he.not_faults _ h, _, h⟩)
  · have heq : l = p.length := Option.mem_unique h.isLimit hl
    have := h.inside
    omega

/-- The second of two decrements of a one fails at step `2`, where a limit of two steps is
reached first. -/
theorem run_trichotomy_limit_first :
    Token.mark ∉ [Token.inc, .dec, .dec] ∧ Tape.initial.faultIndex [.inc, .dec, .dec] = 2 ∧
      (⟨some 2, false⟩ : Machine).Exhausts [.inc, .dec, .dec] .initial 2 :=
  ⟨by decide, by decide,
    (run_trichotomy ⟨some 2, false⟩ [.inc, .dec, .dec] .initial (by decide)).2.1
      (by decide) (by decide)⟩

end Machine

end MarkTape
