import MarkTape.Proofs.Log

/-!
# Logs that states refer to

The states of a run are handed out while it goes on, and a state only refers to its log. A step
copies the log before it writes to it, so that the states handed out before keep theirs; where no
log is kept, nothing is ever written, and the states of a run share one. Steps may be asked for in
any order, from any state that was handed out, and by any machine. Whoever reads the states in the
end sees what was there when they were handed out.

* `LogStore`, `LogStore.Keeps`: the logs, and that none of them has been changed;
* `SharedState`, `SharedState.read`: a state that refers to its log, and how it reads at a time;
* `SharedState.advance`, `Machine.stepShared`: copying, then writing;
* `SharedState.advance_spec`, `Machine.stepShared_spec`: what one step does to all states;
* `Request`, `Session`: what can be asked for, and all states that were handed out;
* `Session.read_foldl`: how they read in the end;
* `Machine.run_logged`: the log of a run.
-/

namespace MarkTape

/-! ### Copying and writing -/

/-- Logs by their numbers. -/
abbrev LogStore := Array (Array String)

/-- Every log of the first store is in the second one, as it was. -/
def LogStore.Keeps (store store' : LogStore) : Prop :=
  ∀ (i : Nat) (log : Array String), store[i]? = some log → store'[i]? = some log

/-- A state that refers to its log, which other states may refer to as well. -/
structure SharedState extends Cursor where
  tape : Tape
  log : Nat
  isTracing : Bool

namespace SharedState

/-- The log of the state as it is now. -/
def trace (store : LogStore) (s : SharedState) : Array String := store[s.log]?.getD #[]

/-- The state as it reads now. -/
def read (store : LogStore) (s : SharedState) : State :=
  ⟨s.toCursor, s.tape, s.trace store, s.isTracing⟩

/-- One more line in the log that the state refers to, if it keeps one. -/
def note (store : LogStore) (s : SharedState) (line : String) : LogStore :=
  if s.isTracing then store.modify s.log (·.push line) else store

/-- The state after `x` has led to `tape`. A log that is kept is copied first, and the line is
written to the copy. -/
def advance (store : LogStore) (s : SharedState) (x : Token) (tape : Tape) :
    LogStore × SharedState :=
  let (store, log) :=
    if s.isTracing then (store.push (s.trace store), store.size) else (store, s.log)
  let next : SharedState := { s with tape := tape, pc := s.pc + 1, log := log }
  (next.note store (State.traceLine s.pc x tape), next)

/-- Carry out the token `x`. -/
def execute (store : LogStore) (s : SharedState) (x : Token) :
    Except Error (LogStore × SharedState) :=
  match x.rule? with
  | none => .error (.misuse (.noRule x))
  | some rule =>
    match rule s.tape with
    | .error fault => .error (.failed (fault.failureAt x s.pc s.remaining s.tape))
    | .ok tape => .ok (s.advance store x tape)

end SharedState

/-- One step from a state that refers to its log. -/
def Machine.stepShared (m : Machine) (store : LogStore) (s : SharedState) :
    Except Error (LogStore × SharedState) := do
  s.execute store (← m.next s.toCursor (some s.tape))

/-! ### One step -/

namespace LogStore

variable {store store' : LogStore}

theorem Keeps.size_le (h : store.Keeps store') : store.size ≤ store'.size := by
  apply Nat.le_of_not_lt
  intro hlt
  have hlog := h _ _ (Array.getElem?_eq_getElem hlt)
  exact Nat.lt_irrefl _ (Array.getElem?_eq_some_iff.1 hlog).1

theorem keeps_push (store : LogStore) (log : Array String) : store.Keeps (store.push log) := by
  intro i log' h
  have hi := (Array.getElem?_eq_some_iff.1 h).1
  rw [Array.getElem?_push, if_neg (Nat.ne_of_lt hi), h]

/-- Writing to the last log, which is a copy, leaves those before it alone. -/
theorem keeps_modify_push (store : LogStore) (log : Array String)
    (g : Array String → Array String) : store.Keeps ((store.push log).modify store.size g) := by
  intro i log' h
  have hi := (Array.getElem?_eq_some_iff.1 h).1
  rw [Array.getElem?_modify, if_neg (Nat.ne_of_gt hi)]
  exact keeps_push store log i log' h

end LogStore

theorem SharedState.read_of_keeps {store store' : LogStore} {s : SharedState}
    (h : store.Keeps store') (hs : s.log < store.size) : s.read store' = s.read store := by
  have hlog := Array.getElem?_eq_getElem hs
  rw [read, read, trace, trace, h _ _ hlog, hlog]

theorem SharedState.advance_of_tracing {s : SharedState} (h : s.isTracing = true) (store : LogStore)
    (x : Token) (v : Tape) :
    s.advance store x v =
      ((store.push (s.trace store)).modify store.size (·.push (State.traceLine s.pc x v)),
        { s with tape := v, pc := s.pc + 1, log := store.size }) := by
  simp [advance, note, h]

theorem SharedState.advance_of_not_tracing {s : SharedState} (h : s.isTracing = false)
    (store : LogStore) (x : Token) (v : Tape) :
    s.advance store x v = (store, { s with tape := v, pc := s.pc + 1 }) := by
  simp [advance, note, h]

/-- A new state reads like one that has its log for itself, and no log is changed. -/
theorem SharedState.advance_spec (store : LogStore) {s : SharedState} (hs : s.log < store.size)
    (x : Token) (v : Tape) :
    (s.advance store x v).2.read (s.advance store x v).1 = (s.read store).advance x v ∧
      store.Keeps (s.advance store x v).1 ∧
      (s.advance store x v).2.log < (s.advance store x v).1.size := by
  cases h : s.isTracing with
  | false =>
    rw [advance_of_not_tracing h]
    refine ⟨?_, fun _ _ hlog => hlog, hs⟩
    simp [read, trace, State.advance, State.note, h]
  | true =>
    rw [advance_of_tracing h]
    refine ⟨?_, store.keeps_modify_push _ _, ?_⟩
    · have hcopy : ((store.push (s.trace store)).modify store.size
          (·.push (State.traceLine s.pc x v)))[store.size]? =
            some ((s.trace store).push (State.traceLine s.pc x v)) := by
        rw [Array.getElem?_modify, if_pos rfl, Array.getElem?_push_size, Option.map_some]
      simp only [read, State.advance, State.note, h, if_true]
      rw [trace, hcopy, Option.getD_some]
    · rw [Array.size_modify, Array.size_push]
      exact Nat.lt_succ_self _

/-- A step fails or succeeds whether logs are shared or not. If it succeeds, the new state reads as
it should, and no log is changed. -/
theorem Machine.stepShared_spec (m : Machine) (store : LogStore) {s : SharedState}
    (hs : s.log < store.size) :
    (∃ e, m.stepShared store s = .error e ∧ m.step (s.read store) = .error e) ∨
      ∃ store' s', m.stepShared store s = .ok (store', s') ∧
        m.step (s.read store) = .ok (s'.read store') ∧ store.Keeps store' ∧
        s'.log < store'.size := by
  have hcursor : (s.read store).toCursor = s.toCursor := rfl
  have htape : (s.read store).tape = s.tape := rfl
  simp only [stepShared, step, hcursor, htape]
  cases m.next s.toCursor (some s.tape) with
  | error e => exact .inl ⟨e, rfl, rfl⟩
  | ok x =>
    simp only [ok_bind, SharedState.execute, State.execute, hcursor, htape]
    cases x.rule? with
    | none => exact .inl ⟨_, rfl, rfl⟩
    | some rule =>
      cases hrule : rule s.tape with
      | error f =>
        refine .inl ⟨.failed (f.failureAt x s.pc s.remaining s.tape), ?_, ?_⟩
        · simp only [hrule]
        · simp only [hrule]
      | ok v =>
        obtain ⟨hread, hkeeps, hlog⟩ := s.advance_spec store hs x v
        exact .inr ⟨_, _, by simp only [hrule], by simp only [hrule, hread], hkeeps, hlog⟩

/-! ### Any number of steps -/

/-- What can be asked for: the first state of a run, and a step from a state that was handed out. -/
inductive Request
  | start (m : Machine) (program : List Token) (tape : Tape)
  | step (m : Machine) (number : Nat)

/-- The state that is asked for, unless the request fails, if each state has its log for itself. -/
def Request.answer? (states : List State) : Request → Option State
  | .start m program tape => (m.start program tape).toOption
  | .step m number => states[number]?.bind fun s => (m.step s).toOption

/-- The states that have been handed out after one more request. -/
def Request.handOut (states : List State) (r : Request) : List State :=
  states ++ (r.answer? states).toList

/-- The states that have been handed out, and the logs that they refer to. -/
structure Session where
  store : LogStore
  states : List SharedState

namespace Session

/-- Nothing has been handed out. -/
def empty : Session := ⟨#[], []⟩

/-- All states as they read now. -/
def read (session : Session) : List State := session.states.map (·.read session.store)

/-- The state that is asked for, unless the request fails. A run is started with a new log. -/
def answer? (session : Session) : Request → Option (LogStore × SharedState)
  | .start m program tape => (m.start program tape).toOption.map fun s =>
      (session.store.push s.trace, ⟨s.toCursor, s.tape, session.store.size, s.isTracing⟩)
  | .step m number =>
      session.states[number]?.bind fun s => (m.stepShared session.store s).toOption

/-- The session after one more request. -/
def handOut (session : Session) (r : Request) : Session :=
  match session.answer? r with
  | none => session
  | some (store, s) => ⟨store, session.states ++ [s]⟩

/-- Every state refers to a log that is there. -/
def Sound (session : Session) : Prop := ∀ s ∈ session.states, s.log < session.store.size

variable {session : Session}

/-- A request fails or is answered whether logs are shared or not, and no log is changed. -/
theorem answer?_spec (h : session.Sound) (r : Request) :
    (session.answer? r = none ∧ r.answer? session.read = none) ∨
      ∃ store s, session.answer? r = some (store, s) ∧
        r.answer? session.read = some (s.read store) ∧ session.store.Keeps store ∧
        s.log < store.size := by
  cases r with
  | start m program tape =>
    simp only [answer?, Request.answer?]
    cases m.start program tape with
    | error e => exact .inl ⟨rfl, rfl⟩
    | ok s =>
      refine .inr ⟨_, _, rfl, ?_, session.store.keeps_push _, ?_⟩
      · simp [SharedState.read, SharedState.trace, Except.toOption]
      · rw [Array.size_push]
        exact Nat.lt_succ_self _
  | step m number =>
    simp only [answer?, Request.answer?, read, List.getElem?_map]
    cases hs : session.states[number]? with
    | none => exact .inl ⟨rfl, rfl⟩
    | some s =>
      have hlog := h s (List.mem_of_getElem? hs)
      rcases m.stepShared_spec session.store hlog with
        ⟨e, hshared, hplain⟩ | ⟨store', s', hshared, hplain, hkeeps, hlog'⟩
      · exact .inl ⟨by simp [hshared, Except.toOption], by simp [hplain, Except.toOption]⟩
      · exact .inr ⟨store', s', by simp [hshared, Except.toOption],
          by simp [hplain, Except.toOption], hkeeps, hlog'⟩

/-- What one request preserves. -/
theorem handOut_read (h : session.Sound) (r : Request) :
    (session.handOut r).Sound ∧ (session.handOut r).read = r.handOut session.read := by
  rcases answer?_spec h r with ⟨hshared, hplain⟩ | ⟨store, s, hshared, hplain, hkeeps, hlog⟩
  · have hread : r.handOut session.read = session.read := by
      rw [Request.handOut, hplain, Option.toList_none, List.append_nil]
    have hsame : session.handOut r = session := by rw [handOut, hshared]
    rw [hread, hsame]
    exact ⟨h, rfl⟩
  · simp only [handOut, Request.handOut, hshared, hplain, Option.toList_some]
    constructor
    · intro s' hs'
      rcases List.mem_append.1 hs' with hs' | hs'
      · exact Nat.lt_of_lt_of_le (h s' hs') hkeeps.size_le
      · rwa [List.mem_singleton.1 hs']
    · have hold : session.states.map (·.read store) = session.read :=
        List.map_congr_left fun s' hs' => SharedState.read_of_keeps hkeeps (h s' hs')
      rw [read, List.map_append, hold]
      rfl

/-- Whatever is asked for, the states read in the end as they would if each had its log for
itself. -/
theorem read_foldl (requests : List Request) (h : session.Sound) :
    (requests.foldl handOut session).read = requests.foldl Request.handOut session.read := by
  induction requests generalizing session with
  | nil => rfl
  | cons r requests ih =>
    obtain ⟨hsound, hread⟩ := handOut_read h r
    rw [List.foldl_cons, List.foldl_cons, ih hsound, hread]

theorem sound_empty : empty.Sound := nofun

end Session

/-! ### The log of a run -/

/-- **The log of a run.** A successful run that keeps a log has one line for each instruction, with
the number and the symbol of the instruction and the tape after it; a run that keeps none has an
empty log. The log of a state that is seen on the way is a front part of the log of every later one,
of the length of its number. Whether there is a log is decided by the machine that starts the run,
whichever machines make the steps. States that refer to their logs read the same in the end,
whatever was asked for in between. And options that differ only in the display mode and in the log
give the same tape and the same number of steps, or the same error. -/
theorem Machine.run_logged (m : Machine) (p : List Token) (hp : Token.mark ∉ p) (t : Tape) :
    (∀ s, m.run p t = .ok s → m.trace = true → s.trace.size = p.length ∧
      ∀ i x, p[i]? = some x → ∃ u, t.after (p.take (i + 1)) = .ok u ∧
        s.trace[i]? = some (Text.natural i ++ ": " ++ String.singleton x.symbol ++
          " back=" ++ Text.bracketedNumbers u.back.values ++
          " front=" ++ Text.bracketedNumbers u.front.values)) ∧
    (∀ s, m.run p t = .ok s → m.trace = false → s.trace = #[]) ∧
    (∀ wanted (i j : Nat) (s s' : State), i ≤ j → (m.observe wanted p t).states[i]? = some s →
      (m.observe wanted p t).states[j]? = some s' →
      s.trace.toList = s'.trace.toList.take i ∧ (m.trace = true → s.trace.size = i)) ∧
    (∀ s s' (ms : List Machine), m.start p t = .ok s →
      ms.foldlM (fun s m' => m'.step s) s = .ok s' →
      (m.trace = true → s'.trace.size = ms.length ∧
        ∀ i x, i < ms.length → p[i]? = some x → ∃ u, t.after (p.take (i + 1)) = .ok u ∧
          s'.trace[i]? = some (State.traceLine i x u)) ∧
      (m.trace = false → s'.trace = #[])) ∧
    (∀ requests : List Request, (requests.foldl Session.handOut .empty).read =
      requests.foldl Request.handOut []) ∧
    ∀ o o' ts u, Options.limit o = Options.limit o' →
      (runTokens o ts u).map Report.result = (runTokens o' ts u).map Report.result := by
  obtain ⟨states, hpass, hlast, hseen⟩ := m.exists_passes_observe hp t
  refine ⟨fun s hs hm => ?_, fun s hs hm => ?_, fun wanted i j s s' hij hi hj => ?_,
    fun s s' ms hstart hms => ?_, fun requests => Session.read_foldl requests Session.sound_empty,
    fun o o' ts u ho => ?_⟩
  · obtain ⟨hlogged, htracing⟩ := hpass.logged hp (hlast s hs)
    obtain ⟨hsize, hlines⟩ := hlogged.lines (htracing.trans hm)
    exact ⟨hsize, fun i x hx => hlines i x (List.getElem?_eq_some_iff.1 hx).1 hx⟩
  · obtain ⟨hlogged, htracing⟩ := hpass.logged hp (hlast s hs)
    exact hlogged.trace_eq_empty (htracing.trans hm)
  · have hs := hseen wanted i s hi
    obtain ⟨hlogged, htracing⟩ := hpass.logged hp hs
    exact ⟨hpass.trace_eq_take hp hij hs (hseen wanted j s' hj),
      fun hm => (hlogged.lines (htracing.trans hm)).1⟩
  · rw [start_of_mark_notMem hp] at hstart
    cases hstart
    obtain ⟨hlogged, htracing⟩ := (State.logged_opening m p t).relay hp hms
    rw [Nat.zero_add] at hlogged
    exact ⟨fun hm => hlogged.lines (htracing.trans hm),
      fun hm => hlogged.trace_eq_empty (htracing.trans hm)⟩
  · rw [runTokens_result, runTokens_result, ho]

/-- Two instructions and the second line of their log. The same two steps, made by machines that
keep no log themselves, are logged as well, because the first state was asked for with a log; and
the state after one step still has one line when the second step has been made. -/
theorem Machine.run_logged_second :
    Token.mark ∉ [Token.inc, .right] ∧
      (∃ s, (⟨none, true⟩ : Machine).run [.inc, .right] .initial = .ok s ∧ s.trace.size = 2 ∧
        s.trace[1]? = some "1: > back=[0, 1] front=[]") ∧
      (∃ s s', (⟨none, true⟩ : Machine).start [.inc, .right] .initial = .ok s ∧
        [(⟨none, false⟩ : Machine), ⟨some 2, false⟩].foldlM (fun s m => m.step s) s = .ok s' ∧
        s'.trace.size = 2) ∧
      (∃ s s', ((⟨none, true⟩ : Machine).observe none [.inc, .right] .initial).states[1]? = some s ∧
        ((⟨none, true⟩ : Machine).observe none [.inc, .right] .initial).states[2]? = some s' ∧
        s.trace.toList = s'.trace.toList.take 1 ∧ s.trace.size = 1) ∧
      (runTokens ⟨.int, some 2, true⟩ [.inc, .right] .initial).map Report.result =
        (runTokens ⟨.markers, some 2, false⟩ [.inc, .right] .initial).map Report.result := by
  obtain ⟨hlines, -, hprefix, hrelay, -, hoptions⟩ :=
    run_logged ⟨none, true⟩ [.inc, .right] (by decide) .initial
  obtain ⟨hsize, hline⟩ := hlines _ rfl rfl
  obtain ⟨u, hu, hsecond⟩ := hline 1 .right rfl
  cases hu
  have htext : Text.natural 1 ++ ": " ++ String.singleton Token.right.symbol ++
      " back=" ++ Text.bracketedNumbers (CellStack.values [.zero, ⟨1⟩]) ++
      " front=" ++ Text.bracketedNumbers (CellStack.values []) = "1: > back=[0, 1] front=[]" := by
    decide +kernel
  have hrelayed := (hrelay _ _ [⟨none, false⟩, ⟨some 2, false⟩] rfl rfl).1 rfl
  obtain ⟨htake, hfirst⟩ := hprefix none 1 2 _ _ (by decide) rfl rfl
  exact ⟨by decide, ⟨_, rfl, hsize, hsecond.trans (congrArg some htext)⟩,
    ⟨_, _, rfl, rfl, hrelayed.1⟩, ⟨_, _, rfl, rfl, htake, hfirst rfl⟩, hoptions _ _ _ _ rfl⟩

end MarkTape
