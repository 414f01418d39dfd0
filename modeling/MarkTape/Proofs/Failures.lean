import MarkTape.Proofs.Grammar
import MarkTape.Proofs.Linked
import MarkTape.Proofs.Outcome
import MarkTape.Run

/-!
# What a request can fail with

Running a program text fails in four ways only: the text is rejected, the head leaves the tape, a
zero is decremented, or the limit is reached. Much else could go wrong on the way. A token might
have no rule, the limit and the display mode are looked at again where they are used, and on a
linked tape a mark, a cell or a link might be missing. None of this can happen: the instructions
that reading gives are those that a program may hold and those that have rules, and options and
tapes that could be made are never refused later.

* `Source.mark_notMem_of_tokenize`: reading gives instructions only;
* `Source.tokenize_of_symbols`: and any of them can be given;
* `Failure.StopsIn`: what the report of a run says about its program;
* `Machine.stopsIn_of_run`: it is so for every run that fails;
* `runTextLinked_linked`: running on linked tapes, where every part looks at what it is given again,
  comes to the same;
* `runText_failures`: the closed set of failures;
* `runTextLinked_unmade`: tapes that could not be made in this way fail in others.
-/

namespace MarkTape

/-! ### Reading -/

namespace Source

theorem operator?_ne_mark (c : Char) : operator? c ≠ some .mark := by
  intro h
  obtain ⟨hins, -⟩ := operator?_eq_some h
  cases hins

theorem mark_notMem_of_scan {pos : Position} {cs : List Char} {ts : List Token}
    (h : scan pos cs = .ok ts) : Token.mark ∉ ts := by
  fun_induction scan pos cs generalizing ts with
  | case1 pos =>
    cases h
    exact List.not_mem_nil
  | case2 pos c cs hblank ih => exact ih h
  | case3 pos c cs hblank hop => cases h
  | case4 pos c cs hblank x hop ih =>
    cases hrest : scan (pos.next c) cs with
    | error stray =>
      rw [hrest] at h
      cases h
    | ok rest =>
      rw [hrest] at h
      cases h
      intro hmem
      rcases List.mem_cons.1 hmem with rfl | hmem
      · exact operator?_ne_mark c hop
      · exact ih hrest hmem

/-- Reading gives instructions only. -/
theorem mark_notMem_of_tokenize {source : String} {ts : List Token}
    (h : tokenize source = .ok ts) : Token.mark ∉ ts :=
  mark_notMem_of_scan (tokenize_ok_iff_scan.1 h)

theorem exists_items_of_tokens {ts : List Token} (h : Token.mark ∉ ts) :
    ∃ items, Placed items [] ∧ textOf items = ts.map Token.symbol ∧ tokensOf items = ts := by
  induction ts with
  | nil => exact ⟨[], trivial, rfl, rfl⟩
  | cons x ts ih =>
    obtain ⟨hx, hts⟩ := List.ne_and_not_mem_of_not_mem_cons h
    obtain ⟨items, hplaced, htext, htokens⟩ := ih hts
    exact ⟨.operator x (Token.isInstruction_iff.2 hx.symm) :: items, ⟨trivial, hplaced⟩,
      congrArg (x.symbol :: ·) htext, congrArg (x :: ·) htokens⟩

/-- The symbols of a program, read, give the program back. -/
theorem tokenize_of_symbols {source : String} {ts : List Token} (h : Token.mark ∉ ts)
    (hsource : Token.symbols ts = source) : tokenize source = .ok ts := by
  obtain ⟨items, hplaced, htext, rfl⟩ := exists_items_of_tokens h
  refine tokenize_of_items hplaced ?_
  rw [htext, ← hsource, Token.symbols, String.toList_ofList]

end Source

/-! ### Running -/

/-- The failure ends a run of `ts`: it names its kind, the tape and the step, and from this step on
the instructions are left, at least one. -/
structure Failure.StopsIn (f : Failure) (ts : List Token) : Prop where
  kind : f.kind = .underflow ∨ f.kind = .stuck ∨ f.kind = .exhausted
  tape : ∃ u, f.tape = some u
  remaining : f.remaining ≠ []
  step : ∃ k : Nat, f.step = some (k : Int) ∧ k + f.remaining.length = ts.length

theorem Machine.stopsIn_of_run {m : Machine} {p : List Token} {t : Tape} {e : Error}
    (hp : Token.mark ∉ p) (h : m.run p t = .error e) : ∃ f, e = .failed f ∧ f.StopsIn p := by
  obtain ⟨q, x, r, v, rfl, -, ⟨-, rfl⟩ | ⟨-, f, hf, rfl⟩⟩ := run_eq_error hp h
  · exact ⟨_, rfl, .inr (.inr rfl), ⟨v, rfl⟩, List.cons_ne_nil x r, q.length, rfl,
      List.length_append.symm⟩
  · refine ⟨_, rfl, ?_, ⟨v, rfl⟩, List.cons_ne_nil x r, q.length, rfl, List.length_append.symm⟩
    rcases Token.kind_of_fault hf with ⟨-, hkind⟩ | ⟨-, hkind⟩
    · exact .inl hkind
    · exact .inr (.inl hkind)

theorem runTokens_eq_error {o : Options} {ts : List Token} {t : Tape} {e : Error}
    (h : runTokens o ts t = .error e) : o.machine.run ts t = .error e := by
  unfold runTokens at h
  cases hrun : o.machine.run ts t with
  | error e' =>
    rw [hrun] at h
    cases h
    rfl
  | ok s =>
    rw [hrun] at h
    cases h

theorem runTokens_of_mark_mem {ts : List Token} (h : Token.mark ∈ ts) (o : Options) (t : Tape) :
    runTokens o ts t = .error (.misuse (.notInstruction .mark)) := by
  rw [runTokens, Machine.run_of_mark_mem h]
  rfl

theorem runText_of_error {source : String} {r : Source.Rejection}
    (h : Source.tokenize source = .error r) (o : Options) (t : Tape) :
    runText o source t = .error (.rejected r) := by
  rw [runText, h]
  rfl

theorem runText_of_ok {source : String} {ts : List Token} (h : Source.tokenize source = .ok ts)
    (o : Options) (t : Tape) : runText o source t = runTokens o ts t := by
  rw [runText, h]
  rfl

theorem stopsIn_of_runText {o : Options} {source : String} {ts : List Token} {t : Tape} {e : Error}
    (hts : Source.tokenize source = .ok ts) (h : runText o source t = .error e) :
    ∃ f, e = .failed f ∧ f.StopsIn ts := by
  rw [runText_of_ok hts] at h
  exact Machine.stopsIn_of_run (Source.mark_notMem_of_tokenize hts) (runTokens_eq_error h)

/-! ### Running on linked tapes -/

namespace Machine

theorem performLinked_linked (m : Machine) (s : State) (x : Token) :
    m.performLinked s.linked x = (m.perform s x).map State.linked := by
  have hread : s.linked.tape.read.toOption = some s.tape := by
    rw [show s.linked.tape = s.tape.linked from rfl, Tape.read_linked]
    rfl
  rw [performLinked, perform, hread, show s.linked.toCursor = s.toCursor from rfl]
  cases m.permit s.toCursor (some s.tape) with
  | error e => rfl
  | ok _ => exact s.execute_linked x

theorem foldlM_performLinked (m : Machine) (s : State) (r : List Token) :
    r.foldlM m.performLinked s.linked = (r.foldlM m.perform s).map State.linked := by
  induction r generalizing s with
  | nil => rfl
  | cons x r ih =>
    rw [List.foldlM_cons, List.foldlM_cons, performLinked_linked]
    cases m.perform s x with
    | error e => rfl
    | ok next => exact ih next

theorem runLinked_linked (m : Machine) (p : List Token) (t : Tape) :
    m.runLinked p t.linked = (m.run p t).map State.linked := by
  unfold runLinked run start
  cases p.find? fun x => !x.isInstruction with
  | some x => rfl
  | none => exact m.foldlM_performLinked (m.opening p t) p

end Machine

/-- Options that could be made are accepted again by the machine and by the picture. -/
theorem Options.of_ofFields {display : String} {limit : Option Int} {trace : Bool} {o : Options}
    (h : Options.ofFields display limit trace = .ok o) :
    Machine.ofLimit limit trace = .ok o.machine ∧ Display.ofName display = .ok o.display := by
  unfold Options.ofFields at h
  unfold Display.ofName
  cases hmode : Display.ofName? display with
  | none =>
    rw [hmode] at h
    cases h
  | some mode =>
    rw [hmode] at h
    obtain ⟨l, hl, h⟩ := bind_eq_ok_iff.1 h
    cases h
    exact ⟨by rw [Machine.ofLimit, hl]; rfl, rfl⟩

theorem runTokensLinked_linked {display : String} {limit : Option Int} {trace : Bool} {o : Options}
    (h : Options.ofFields display limit trace = .ok o) (ts : List Token) (t : Tape) :
    runTokensLinked display limit trace ts t.linked = runTokens o ts t := by
  obtain ⟨hmachine, hdisplay⟩ := Options.of_ofFields h
  rw [runTokensLinked, runTokens, hmachine, hdisplay]
  show (o.machine.runLinked ts t.linked >>= _) = _
  rw [Machine.runLinked_linked]
  cases o.machine.run ts t with
  | error e => rfl
  | ok s =>
    show (s.tape.linked.read >>= _) = _
    rw [Tape.read_linked]
    rfl

theorem runTextLinked_linked {display : String} {limit : Option Int} {trace : Bool} {o : Options}
    (h : Options.ofFields display limit trace = .ok o) (source : String) (t : Tape) :
    runTextLinked display limit trace source t.linked = runText o source t := by
  rw [runTextLinked, runText]
  cases Source.tokenize source with
  | error r => rfl
  | ok ts => exact runTokensLinked_linked h ts t

/-! ### The closed set -/

/-- **What a request can fail with.** Running a program text gives a report, or the text is
rejected, which is so exactly when reading it is, whatever the options and the tape are, or the
run stops at a fault or at the limit; then the tape, the step and the instructions from this step
on are known. Running tokens fails in the same ways, and is refused exactly when there is a mark
among them, which is before the first step. With options and linked tapes as they can be made,
where the limit, the display mode and every link are looked at again, the outcome is the same, so
nothing else can come up on the way. -/
theorem runText_failures (o : Options) (t : Tape) :
    (∀ source e, runText o source t = .error e →
      (∃ r, e = .rejected r ∧ Source.tokenize source = .error r) ∨
        ∃ ts f, e = .failed f ∧ Source.tokenize source = .ok ts ∧ f.StopsIn ts) ∧
    (∀ source r, runText o source t = .error (.rejected r) ↔ Source.tokenize source = .error r) ∧
    (∀ ts e, runTokens o ts t = .error e →
      (∃ cause, e = .misuse cause) ∨ ∃ f, e = .failed f ∧ f.StopsIn ts) ∧
    (∀ ts cause, runTokens o ts t = .error (.misuse cause) ↔
      Token.mark ∈ ts ∧ cause = .notInstruction .mark) ∧
    (∀ ts, Token.mark ∈ ts →
      o.machine.start ts t = .error (.misuse (.notInstruction .mark))) ∧
    ∀ display limit trace, Options.ofFields display limit trace = .ok o →
      ∀ x, LinkedValue.Made (.tape x) → ∃ u, x.read = .ok u ∧
        (∀ source, runTextLinked display limit trace source x = runText o source u) ∧
        ∀ ts, runTokensLinked display limit trace ts x = runTokens o ts u := by
  have htokens : ∀ ts e, runTokens o ts t = .error e →
      (Token.mark ∈ ts ∧ e = .misuse (.notInstruction .mark)) ∨
        ∃ f, e = .failed f ∧ f.StopsIn ts := by
    intro ts e h
    by_cases hmark : Token.mark ∈ ts
    · rw [runTokens_of_mark_mem hmark] at h
      exact .inl ⟨hmark, (Except.error.inj h).symm⟩
    · exact .inr (Machine.stopsIn_of_run hmark (runTokens_eq_error h))
  refine ⟨fun source e h => ?_, fun source r => ⟨fun h => ?_, fun h => runText_of_error h o t⟩,
    fun ts e h => ?_, fun ts cause => ⟨fun h => ?_, ?_⟩,
    fun ts hmark => Machine.start_of_mark_mem hmark, fun display limit trace ho x hx => ?_⟩
  · cases hts : Source.tokenize source with
    | error r =>
      rw [runText_of_error hts] at h
      exact .inl ⟨r, (Except.error.inj h).symm, rfl⟩
    | ok ts =>
      obtain ⟨f, hf, hstops⟩ := stopsIn_of_runText hts h
      exact .inr ⟨ts, f, hf, rfl, hstops⟩
  · cases hts : Source.tokenize source with
    | error r' =>
      rw [runText_of_error hts] at h
      cases h
      rfl
    | ok ts =>
      obtain ⟨f, hf, -⟩ := stopsIn_of_runText hts h
      cases hf
  · rcases htokens ts e h with ⟨-, he⟩ | hf
    · exact .inl ⟨_, he⟩
    · exact .inr hf
  · rcases htokens ts _ h with ⟨hmark, he⟩ | ⟨f, hf, -⟩
    · exact ⟨hmark, Error.misuse.inj he⟩
    · cases hf
  · rintro ⟨hmark, rfl⟩
    exact runTokens_of_mark_mem hmark o t
  · obtain ⟨u, rfl⟩ := hx.isPlain
    exact ⟨u, u.read_linked, fun source => runTextLinked_linked ho source u,
      fun ts => runTokensLinked_linked ho ts u⟩

/-- A text that leads off the tape at its second instruction, and tokens with a mark. -/
theorem runText_failures_underflow :
    (∃ e ts f, runText .default "+<" .initial = .error e ∧ e = .failed f ∧
      Source.tokenize "+<" = .ok ts ∧ f.StopsIn ts) ∧
    Token.mark ∈ [Token.inc, .mark] ∧
    runTokens .default [.inc, .mark] .initial = .error (.misuse (.notInstruction .mark)) ∧
    Options.ofFields "int" none false = .ok .default ∧ LinkedValue.Made (.tape .initial) ∧
    ∃ u, LinkedTape.initial.read = .ok u ∧
      runTextLinked "int" none false "+<" .initial = runText .default "+<" u := by
  obtain ⟨herror, -, -, hmark, -, hlinked⟩ := runText_failures .default .initial
  have htokens : Source.tokenize "+<" = .ok [.inc, .left] :=
    Source.tokenize_of_symbols (by decide) (by decide)
  have hrun : runText .default "+<" .initial = .error (.failed
      (Fault.underflow.failureAt .left 1 [.left] ⟨⟨1⟩, [], []⟩)) := by
    rw [runText_of_ok htokens]
    rfl
  have hoptions : Options.ofFields "int" none false = .ok .default := rfl
  obtain ⟨u, hu, htext, -⟩ := hlinked _ _ _ hoptions _ .initial
  refine ⟨?_, by decide, (hmark _ _).2 ⟨by decide, rfl⟩, hoptions, .initial, u, hu, htext "+<"⟩
  rcases herror "+<" _ hrun with ⟨r, hr, -⟩ | ⟨ts, f, hf, hts, hstops⟩
  · cases hr
  · exact ⟨_, ts, f, hrun, hf, hts, hstops⟩

/-- A tape that was put together from a counter or a stack whose size is at odds with its links is a
tape, but running a program on it fails in other ways: the counter has no mark to take, and the
stack no cell. -/
theorem runTextLinked_unmade :
    (∃ t, LinkedTape.ofStacks (some (.ofCells [.bare 1])) (some .empty) = .ok t ∧
      runTextLinked "int" none false "-" t = .error (.misuse .emptyCounter)) ∧
    (∃ t, LinkedTape.ofStacks (some (.link none .empty 1)) (some .empty) = .ok t ∧
      runTextLinked "int" none false "+" t = .error (.misuse .emptyStack)) ∧
    ¬ ∀ back front t, LinkedTape.ofStacks back front = .ok t →
      ∀ source e, runTextLinked "int" none false source t = .error e →
        (∃ r, e = .rejected r) ∨ ∃ f, e = .failed f := by
  have hdec : Source.tokenize "-" = .ok [.dec] :=
    Source.tokenize_of_symbols (by decide) (by decide)
  have hinc : Source.tokenize "+" = .ok [.inc] :=
    Source.tokenize_of_symbols (by decide) (by decide)
  have hbare : runTextLinked "int" none false "-" ⟨.ofCells [.bare 1], some .empty⟩ =
      .error (.misuse .emptyCounter) := by
    rw [runTextLinked, hdec]
    rfl
  have hhollow : runTextLinked "int" none false "+" ⟨.link none .empty 1, some .empty⟩ =
      .error (.misuse .emptyStack) := by
    rw [runTextLinked, hinc]
    rfl
  refine ⟨⟨_, rfl, hbare⟩, ⟨_, rfl, hhollow⟩, fun hall => ?_⟩
  rcases hall (some (.ofCells [.bare 1])) (some .empty) _ rfl _ _ hbare with ⟨r, hr⟩ | ⟨f, hf⟩
  · cases hr
  · cases hf

end MarkTape
