import MarkTape.Proofs.Outcome

/-!
# Programs one after the other

A program that is made of two parts is run by running the first part and then the second from the
tape it left, on what is left of the limit. What the second run reports is what the whole run
reports, up to the numbers of the steps.

* `Text.addToNumber`: a text with the first number in it raised;
* `Machine.spend`: a machine that has used up some of its steps;
* `State.before`, `State.following`: a state seen from a program with more to come, and from one
  with more done;
* `Machine.perform_before`, `Machine.perform_following`: one step is the same seen so;
* `Machine.foldlM_perform_simulates`: so are any number of steps;
* `Machine.run_append`: the law of the two parts.
-/

namespace MarkTape

/-! ### The first number of a text -/

namespace Text

/-- The characters with `n` added to the first number among them, whose digits run on as far as
they can. -/
def raiseFirst (n : Nat) : List Char → List Char
  | [] => []
  | c :: cs =>
    if c.isDigit then
      Nat.toDigits 10 (Nat.ofDigitChars 10 (c :: cs.takeWhile Char.isDigit) 0 + n) ++
        cs.dropWhile Char.isDigit
    else c :: raiseFirst n cs

/-- The text `s` with `n` added to the first number in it. -/
def addToNumber (n : Nat) (s : String) : String := String.ofList (raiseFirst n s.toList)

theorem raiseFirst_toDigits (n k : Nat) {tail : List Char}
    (htail : ∀ c ∈ tail.head?, c.isDigit = false) :
    raiseFirst n (Nat.toDigits 10 k ++ tail) = Nat.toDigits 10 (k + n) ++ tail := by
  have hdigit : ∀ c ∈ Nat.toDigits 10 k, c.isDigit = true := fun c hc =>
    Nat.isDigit_of_mem_toDigits (by decide) (by decide) hc
  have hvalue : Nat.ofDigitChars 10 (Nat.toDigits 10 k) 0 = k := Nat.ofDigitChars_ten_toDigits
  have hends : tail.takeWhile Char.isDigit = [] ∧ tail.dropWhile Char.isDigit = tail := by
    cases tail with
    | nil => exact ⟨rfl, rfl⟩
    | cons c tail => simp [htail c rfl]
  cases hk : Nat.toDigits 10 k with
  | nil => exact absurd hk Nat.toDigits_ne_nil
  | cons c cs =>
    rw [hk] at hdigit hvalue
    have hcs : ∀ d ∈ cs, d.isDigit = true := fun d hd => hdigit d (List.mem_cons_of_mem c hd)
    rw [List.cons_append, raiseFirst, if_pos (hdigit c List.mem_cons_self),
      List.takeWhile_append_of_pos hcs, List.dropWhile_append_of_pos hcs, hends.1, hends.2,
      List.append_nil, hvalue]

theorem raiseFirst_append (n : Nat) {front cs : List Char}
    (hfront : ∀ c ∈ front, c.isDigit = false) :
    raiseFirst n (front ++ cs) = front ++ raiseFirst n cs := by
  induction front with
  | nil => rfl
  | cons c front ih =>
    have hc : ¬ c.isDigit = true := by simp [hfront c List.mem_cons_self]
    rw [List.cons_append, raiseFirst, if_neg hc,
      ih fun d hd => hfront d (List.mem_cons_of_mem c hd), List.cons_append]

/-- A number that stands alone behind `front` is found and raised. -/
theorem addToNumber_append (n k : Nat) {front tail : String}
    (hfront : front.toList.all (!·.isDigit) = true)
    (htail : tail.toList.head?.all (!·.isDigit) = true) :
    addToNumber n (front ++ natural k ++ tail) = front ++ natural (k + n) ++ tail := by
  have hfront' : ∀ c ∈ front.toList, c.isDigit = false := by simpa using hfront
  have htail' : ∀ c ∈ tail.toList.head?, c.isDigit = false := by
    intro c hc
    rw [Option.mem_def] at hc
    simpa [hc] using htail
  simp only [addToNumber, natural, String.append_assoc, String.toList_append,
    String.toList_ofList, raiseFirst_append n hfront', raiseFirst_toDigits n k htail',
    String.ofList_append, String.ofList_toList]

-- the digits of the first number are taken together, and later numbers stay
example : addToNumber 5 "17: + back=[1] front=[0]" = "22: + back=[1] front=[0]" := by cbv

end Text

/-! ### What is raised in reports and logs -/

theorem Fault.isDigit_message (f : Fault) :
    (f.message ++ " (step ").toList.all (!·.isDigit) = true := by
  cases f <;> decide

/-- The failure as a run reports it that has made `n` steps before. -/
def Failure.later (n : Nat) (e : Failure) : Failure :=
  { e with message := Text.addToNumber n e.message, step := e.step.map (· + n) }

theorem Fault.failureAt_later (f : Fault) (x : Token) (n i : Nat) (rest : List Token) (u : Tape) :
    f.failureAt x (i + n : Nat) rest u = (f.failureAt x i rest u).later n := by
  have htail : (", instruction '" ++ (String.singleton x.symbol ++ "')")).toList.head?.all
      (!·.isDigit) = true := by
    cases x <;> decide
  have hmessage := Text.addToNumber_append n i f.isDigit_message htail
  rw [failureAt_natCast, failureAt_natCast]
  simp only [String.append_assoc] at hmessage ⊢
  simp only [Failure.later, hmessage, Option.map_some, Int.natCast_add]

theorem Failure.limitReached_later (l n i : Nat) (rest : List Token) (u : Option Tape) :
    Failure.limitReached (l + n) (i + n : Nat) rest u =
      (Failure.limitReached l i rest u).later n := by
  have hmessage : Text.addToNumber n
      ("ResourceExhausted: step limit of " ++ Text.natural l ++ " reached") =
        "ResourceExhausted: step limit of " ++ Text.natural (l + n) ++ " reached" :=
    Text.addToNumber_append n l (by decide) (by decide)
  simp only [limitReached, later, hmessage, Option.map_some, Int.natCast_add]

theorem State.traceLine_later (n i : Nat) (x : Token) (u : Tape) :
    State.traceLine (i + n : Nat) x u = Text.addToNumber n (State.traceLine i x u) := by
  have hline : ∀ k : Nat, State.traceLine k x u = "" ++ Text.natural k ++
      (": " ++ String.singleton x.symbol ++
        (" back=" ++ Text.bracketedNumbers u.back.values ++
          " front=" ++ Text.bracketedNumbers u.front.values)) := by
    intro k
    simp only [State.traceLine, Text.integer_natCast, String.empty_append, String.append_assoc]
  rw [hline, hline]
  refine (Text.addToNumber_append n i rfl ?_).symm
  simp only [String.toList_append]
  rfl

/-! ### The two views of a state -/

/-- The state in a program that goes on with `q`. -/
def State.before (q : List Token) (s : State) : State := { s with program := s.program ++ q }

/-- The failure in a program that goes on with `q`. -/
def Failure.before (q : List Token) (e : Failure) : Failure :=
  { e with remaining := e.remaining ++ q }

/-- The state in a program that began with `p`, whose steps were logged in `log`. -/
def State.following (p : List Token) (log : Array String) (s : State) : State :=
  { program := p ++ s.program
    pc := s.pc + p.length
    tape := s.tape
    trace := log ++ s.trace.map (Text.addToNumber p.length)
    isTracing := s.isTracing }

/-- The machine that has `n` steps less to make. -/
def Machine.spend (m : Machine) (n : Nat) : Machine := { m with limit := m.limit.map (· - n) }

/-- A change of the failure, if the error is one. -/
def Error.mapFailure (g : Failure → Failure) : Error → Error
  | .failed e => .failed (g e)
  | e => e

namespace State

variable {s : State} {p q : List Token} {i : Nat} {u : Tape}

theorem At.before (hs : s.At p i u) (q : List Token) : (s.before q).At (p ++ q) i u := by
  obtain ⟨⟨p', pc⟩, t, log, isTracing⟩ := s
  obtain ⟨hc, ht⟩ := hs
  cases hc
  exact ⟨rfl, ht⟩

theorem At.following (hs : s.At q i u) (p : List Token) (log : Array String) :
    (s.following p log).At (p ++ q) (i + p.length) u := by
  obtain ⟨⟨q', pc⟩, t, log', isTracing⟩ := s
  obtain ⟨hc, ht⟩ := hs
  cases hc
  exact ⟨rfl, ht⟩

theorem before_advance (s : State) (q : List Token) (x : Token) (v : Tape) :
    (s.before q).advance x v = (s.advance x v).before q := by
  cases h : s.isTracing <;> simp [advance, note, before, h]

theorem following_advance (hs : s.At q i u) (p : List Token) (log : Array String) (x : Token)
    (v : Tape) : (s.following p log).advance x v = (s.advance x v).following p log := by
  obtain ⟨⟨q', pc⟩, t, log', isTracing⟩ := s
  obtain ⟨hc, ht⟩ := hs
  cases hc
  have hline : State.traceLine (i + p.length) x v =
    Text.addToNumber p.length (State.traceLine i x v) := traceLine_later p.length i x v
  have hpc : (i + p.length + 1 : Int) = i + 1 + p.length := by omega
  cases isTracing <;> simp [advance, note, following, hline, hpc]

end State

namespace Machine

variable {m : Machine} {s s' : State} {p q r : List Token} {x : Token} {i : Nat} {t u : Tape}

/-! ### One step in both views -/

/-- A step within the program is the same when more is to come. -/
theorem perform_before (hs : s.At p i u) (hi : i ≤ p.length) (hx : x ≠ .mark) (q : List Token) :
    m.perform (s.before q) x =
      ((m.perform s x).map (State.before q)).mapError (Error.mapFailure (Failure.before q)) := by
  have hdrop : (p ++ q).drop i = p.drop i ++ q := List.drop_append_of_le_length hi
  rcases m.perform_cases hs hx with ⟨l, hl, hle, h⟩ | ⟨hlim, f, hf, h⟩ | ⟨hlim, v, hv, h⟩
  · rw [h, perform_of_limit (hs.before q) hl hle, hdrop]
    rfl
  · rw [h, perform_of_fault (hs.before q) hlim hx hf, hdrop]
    rfl
  · rw [h, perform_of_ok (hs.before q) hlim hx hv, State.before_advance]
    rfl

theorem mem_limit_spend {n l : Nat} (hl : l ∈ (m.spend n).limit) : ∃ k ∈ m.limit, k - n = l :=
  Option.map_eq_some_iff.1 hl

/-- A step is the same, up to the numbers, when `p` was done before and the limit left room
for it. -/
theorem perform_following (hs : s.At q i u) (hx : x ≠ .mark)
    (hlim : ∀ l ∈ m.limit, p.length ≤ l) (log : Array String) :
    m.perform (s.following p log) x =
      (((m.spend p.length).perform s x).map (State.following p log)).mapError
        (Error.mapFailure (Failure.later p.length)) := by
  have hat := hs.following p log
  have hdrop : (p ++ q).drop (i + p.length) = q.drop i := by
    rw [Nat.add_comm, List.drop_length_add_append]
  have hroom : (∀ l ∈ (m.spend p.length).limit, i < l) → ∀ l ∈ m.limit, i + p.length < l := by
    intro h l hl
    have := h (l - p.length) (Option.mem_map_of_mem _ hl)
    omega
  rcases (m.spend p.length).perform_cases hs hx with
    ⟨l, hl, hle, h⟩ | ⟨hlt, f, hf, h⟩ | ⟨hlt, v, hv, h⟩
  · obtain ⟨k, hk, rfl⟩ := mem_limit_spend hl
    have hpk := hlim k hk
    have hlater := Failure.limitReached_later (k - p.length) p.length i (q.drop i) (some u)
    rw [Nat.sub_add_cancel hpk] at hlater
    rw [h, perform_of_limit hat hk (by omega), hdrop, hlater]
    rfl
  · rw [h, perform_of_fault hat (hroom hlt) hx hf, hdrop, Fault.failureAt_later]
    rfl
  · rw [h, perform_of_ok hat (hroom hlt) hx hv, State.following_advance hs]
    rfl

/-! ### Any number of steps -/

/-- Two machines whose single steps agree in two views of a state agree on any row of steps. -/
theorem foldlM_perform_simulates {m' : Machine} {g : State → State} {e : Error → Error}
    (hstep : ∀ s i u x, s.At p i u → i < p.length → x ≠ .mark →
      m'.perform (g s) x = ((m.perform s x).map g).mapError e)
    (hs : s.At p i u) (hlen : i + r.length ≤ p.length) (hr : Token.mark ∉ r) :
    r.foldlM m'.perform (g s) = ((r.foldlM m.perform s).map g).mapError e := by
  induction r generalizing s i u with
  | nil => rfl
  | cons x r ih =>
    rw [List.mem_cons, not_or] at hr
    rw [List.length_cons] at hlen
    have hx : x ≠ .mark := Ne.symm hr.1
    rw [List.foldlM_cons, List.foldlM_cons, hstep s i u x hs (by omega) hx]
    rcases m.perform_cases hs hx with ⟨_, _, _, h⟩ | ⟨_, _, _, h⟩ | ⟨_, v, _, h⟩
    · rw [h]
      rfl
    · rw [h]
      rfl
    · rw [h]
      exact ih (hs.advance x v) (by omega) hr.2

/-! ### The two parts of a run -/

theorem foldlM_opening_append (hp : Token.mark ∉ p) :
    p.foldlM m.perform (m.opening (p ++ q) t) =
      ((m.run p t).map (State.before q)).mapError (Error.mapFailure (Failure.before q)) := by
  rw [run_eq_foldlM hp]
  refine foldlM_perform_simulates (g := State.before q) ?_ (m.opening_at p t) (by simp) hp
  intro s i u x hs hi hx
  exact perform_before hs (Nat.le_of_lt hi) hx q

/-- A run that fails does so whatever comes after. -/
theorem run_append_of_error {e : Error} (hp : Token.mark ∉ p) (hq : Token.mark ∉ q)
    (h : m.run p t = .error e) :
    m.run (p ++ q) t = .error (e.mapFailure (Failure.before q)) := by
  have hpq : Token.mark ∉ p ++ q := by simp [hp, hq]
  rw [run_eq_foldlM hpq, List.foldlM_append, foldlM_opening_append hp, h]
  rfl

/-- A run that succeeds is followed by a run of the second part on what is left of the limit. -/
theorem run_append_of_ok (hp : Token.mark ∉ p) (hq : Token.mark ∉ q) (h : m.run p t = .ok s) :
    m.run (p ++ q) t =
      (((m.spend p.length).run q s.tape).map (State.following p s.trace)).mapError
        (Error.mapFailure (Failure.later p.length)) := by
  have hpq : Token.mark ∉ p ++ q := by simp [hp, hq]
  obtain ⟨hroom, hs, -⟩ := run_eq_ok hp h
  -- the state between the two parts opens the second run, seen from the end of the first
  have hmiddle : s.before q = ((m.spend p.length).opening q s.tape).following p s.trace := by
    rw [hs]
    simp [State.before, State.following, opening, spend]
  rw [run_eq_foldlM hpq, List.foldlM_append, foldlM_opening_append hp, h, run_eq_foldlM hq]
  show q.foldlM m.perform (s.before q) = _
  rw [hmiddle]
  refine foldlM_perform_simulates ?_ (opening_at _ q s.tape) (by simp) hq
  intro s' i u x hs' _ hx
  exact perform_following hs' hx hroom s.trace

/-- **Programs one after the other.** If the first part fails, the whole fails in the same way, with
the second part added to what remains. If it succeeds, the whole does what the second part does
from the tape that was reached and on what is left of the limit: it ends on the same tape, with
one log after the other, or fails in the same way, where the numbers of the second log and of the
second failure count on from the length of the first part. -/
theorem run_append (m : Machine) (p q : List Token) (hp : Token.mark ∉ p) (hq : Token.mark ∉ q)
    (t : Tape) :
    (∀ e, m.run p t = .error e → ∃ f, e = .failed f ∧
      m.run (p ++ q) t = .error (.failed { f with remaining := f.remaining ++ q })) ∧
    ∀ s₁, m.run p t = .ok s₁ → (∀ l ∈ m.limit, p.length ≤ l) ∧
      (∀ s₂, (m.spend p.length).run q s₁.tape = .ok s₂ → m.run (p ++ q) t = .ok
        { program := p ++ q
          pc := p.length + q.length
          tape := s₂.tape
          trace := s₁.trace ++ s₂.trace.map (Text.addToNumber p.length)
          isTracing := m.trace }) ∧
      ∀ e, (m.spend p.length).run q s₁.tape = .error e → ∃ f k, e = .failed f ∧
        f.step = some k ∧ m.run (p ++ q) t = .error (.failed
          { kind := f.kind
            message := Text.addToNumber p.length f.message
            remaining := f.remaining
            tape := f.tape
            step := some (k + p.length) }) := by
  refine ⟨fun e he => ?_, fun s₁ hs₁ => ⟨(run_eq_ok hp hs₁).1, fun s₂ hs₂ => ?_, fun e he => ?_⟩⟩
  · obtain ⟨f, k, rfl, -⟩ := exists_step_of_run_eq_error hp he
    exact ⟨f, rfl, run_append_of_error hp hq he⟩
  · obtain ⟨-, hend, -⟩ := run_eq_ok hq hs₂
    rw [run_append_of_ok hp hq hs₁, hs₂, hend, Int.add_comm]
    rfl
  · obtain ⟨f, k, rfl, hk⟩ := exists_step_of_run_eq_error hq he
    refine ⟨f, k, rfl, hk, ?_⟩
    have hlater : f.later p.length = ⟨f.kind, Text.addToNumber p.length f.message, f.remaining,
        f.tape, some (k + p.length)⟩ := by
      rw [Failure.later, hk, Option.map_some]
    rw [run_append_of_ok hp hq hs₁, he, ← hlater]
    rfl

/-- The last of five instructions fails within a limit of five: alone, the second part reports it
at step two, and after the first part at step four. -/
theorem run_append_fault :
    Token.mark ∉ [Token.inc, .right] ∧ Token.mark ∉ [Token.left, .dec, .dec] ∧
      ∃ s₁ f, (⟨some 5, true⟩ : Machine).run [.inc, .right] .initial = .ok s₁ ∧
        (⟨some 3, true⟩ : Machine).run [.left, .dec, .dec] s₁.tape = .error (.failed f) ∧
        f.step = some 2 ∧
        (⟨some 5, true⟩ : Machine).run [.inc, .right, .left, .dec, .dec] .initial =
          .error (.failed { f with message := Text.addToNumber 2 f.message, step := some 4 }) := by
  obtain ⟨f, k, he, hk, hrun⟩ := ((run_append ⟨some 5, true⟩ [.inc, .right] [.left, .dec, .dec]
    (by decide) (by decide) .initial).2 _ rfl).2.2 _ rfl
  cases he
  cases hk
  exact ⟨by decide, by decide, _, _, rfl, rfl, rfl, hrun⟩

end Machine

end MarkTape
