import MarkTape.Linked
import MarkTape.Proofs.Effect

/-!
# Links and sizes agree

The operations on chains of links look at a size in one place and at the link itself in another, so
they go wrong on a chain whose size and links have drifted apart, or from which a link is missing.
Whatever is made by the operations themselves is well formed, and to it they do what they do to
plain counters, stacks and tapes.

* `LinkedCounter.WellFormed`, `LinkedStack.WellFormed`, `LinkedTape.WellFormed`: sizes and links
  agree;
* `Counter.linked`, `CellStack.linked`, `Tape.linked`: plain values as chains, which are well
  formed;
* `Tape.moveLeft_linked` and its like: the operations on chains are the plain ones;
* `LinkedValue.Made`: what is made by any sequence of operations;
* `LinkedValue.made_wellFormed`: that is well formed, and which operations on it fail.
-/

namespace MarkTape

/-! ### Counters -/

namespace LinkedCounter

/-- As many links as the size says lead to the empty counter, and each link down has a size that
is less by one. -/
structure WellFormed (c : LinkedCounter) : Prop where
  ends : c.down c.size = some zero
  sizes : ∀ k d, c.down k = some d → d.size + k = c.size ∧ (d.rest? = none ↔ d.size = 0)

end LinkedCounter

/-- A counter as a chain. -/
def Counter.linked (c : Counter) : LinkedCounter := .ofNat c.value

namespace Counter

open LinkedCounter

@[simp] theorem size_linked (c : Counter) : c.linked.size = c.value := by
  obtain ⟨n⟩ := c
  induction n with
  | zero => rfl
  | succ n ih => exact congrArg (· + 1) ih

@[simp] theorem linked_zero : linked ⟨0⟩ = .zero := rfl

@[simp] theorem linked_succ (n : Nat) : linked ⟨n + 1⟩ = (linked ⟨n⟩).addMark := rfl

/-- Links lead down to the smaller counters, and no further. -/
theorem down_linked (n k : Nat) :
    (linked ⟨n⟩).down k = if k ≤ n then some (linked ⟨n - k⟩) else none := by
  induction k generalizing n with
  | zero => rfl
  | succ k ih =>
    cases n with
    | zero => rfl
    | succ n =>
      show (linked ⟨n⟩).down k = _
      rw [ih, Nat.add_sub_add_right]
      simp only [Nat.add_le_add_iff_right]

theorem rest?_linked (n : Nat) : (linked ⟨n⟩).rest? = none ↔ n = 0 := by
  cases n <;> simp

theorem linked_wellFormed (c : Counter) : c.linked.WellFormed := by
  obtain ⟨n⟩ := c
  refine ⟨?_, fun k d hd => ?_⟩
  · rw [size_linked, down_linked, if_pos (Nat.le_refl n), Nat.sub_self, linked_zero]
  · rw [down_linked] at hd
    split at hd
    · next hk =>
      cases hd
      rw [size_linked, size_linked, rest?_linked]
      exact ⟨Nat.sub_add_cancel hk, Iff.rfl⟩
    · cases hd

end Counter

/-! ### Stacks -/

namespace LinkedStack

/-- As many links as the size says lead to the empty stack, each link down has a size that is less
by one, and all but the last have a cell, which is well formed. -/
structure WellFormed (s : LinkedStack) : Prop where
  ends : s.down s.size = some empty
  sizes : ∀ k d, s.down k = some d →
    d.size + k = s.size ∧ (d.head? = none ↔ d.size = 0) ∧ (d.tail? = none ↔ d.size = 0)
  heads : ∀ k d c, s.down k = some d → d.head? = some c → c.WellFormed

end LinkedStack

/-- A stack as a chain. -/
def CellStack.linked : CellStack → LinkedStack
  | [] => .empty
  | c :: s => (linked s).push c.linked

namespace CellStack

open LinkedStack

@[simp] theorem linked_nil : linked [] = .empty := rfl

@[simp] theorem linked_cons (c : Counter) (s : CellStack) :
    linked (c :: s) = (linked s).push c.linked := rfl

@[simp] theorem size_linked (s : CellStack) : (linked s).size = s.length := by
  induction s with
  | nil => rfl
  | cons c s ih => exact congrArg (· + 1) ih

theorem cells?_linked (s : CellStack) : (linked s).cells? = some (s.map Counter.linked) := by
  induction s with
  | nil => rfl
  | cons c s ih => exact congrArg (Option.map (c.linked :: ·)) ih

theorem down_linked (s : CellStack) (k : Nat) :
    (linked s).down k = if k ≤ s.length then some (linked (s.drop k)) else none := by
  induction k generalizing s with
  | zero => rfl
  | succ k ih =>
    cases s with
    | nil => rfl
    | cons c s =>
      show (linked s).down k = _
      rw [ih, List.length_cons, List.drop_succ_cons]
      simp only [Nat.add_le_add_iff_right]

theorem head?_linked (s : CellStack) : (linked s).head? = s.head?.map Counter.linked := by
  cases s <;> rfl

theorem tail?_linked (s : CellStack) : (linked s).tail? = none ↔ s = [] := by
  cases s <;> simp

theorem linked_wellFormed (s : CellStack) : (linked s).WellFormed := by
  refine ⟨?_, fun k d hd => ?_, fun k d c hd hc => ?_⟩
  · rw [size_linked, down_linked, if_pos (Nat.le_refl _), List.drop_length, linked_nil]
  · rw [down_linked] at hd
    split at hd
    · next hk =>
      cases hd
      rw [size_linked, size_linked, head?_linked, tail?_linked, List.length_drop]
      refine ⟨Nat.sub_add_cancel hk, ?_, ?_⟩
      · simp only [Option.map_eq_none_iff, List.head?_eq_none_iff, List.drop_eq_nil_iff]
        omega
      · rw [List.drop_eq_nil_iff]
        omega
    · cases hd
  · rw [down_linked] at hd
    split at hd
    · cases hd
      rw [head?_linked] at hc
      obtain ⟨b, -, rfl⟩ := Option.map_eq_some_iff.1 hc
      exact b.linked_wellFormed
    · cases hd

end CellStack

/-! ### Tapes -/

namespace LinkedTape

/-- Both stacks are there and well formed, and the back holds the current cell. -/
structure WellFormed (t : LinkedTape) : Prop where
  back : t.back.WellFormed
  front : ∃ front, t.front = some front ∧ front.WellFormed
  current : 1 ≤ t.back.size

end LinkedTape

/-- A tape as two chains. -/
def Tape.linked (t : Tape) : LinkedTape := ⟨t.back.linked, some t.front.linked⟩

/-- The result of a rule as one on chains: a fault is reported outside any run. -/
def Tape.linkedResult : Except Fault Tape → Except Error LinkedTape
  | .ok t => .ok t.linked
  | .error f => .error (.failed f.failure)

namespace Tape

theorem linked_wellFormed (t : Tape) : t.linked.WellFormed :=
  ⟨t.back.linked_wellFormed, ⟨_, rfl, t.front.linked_wellFormed⟩, Nat.le_add_left _ _⟩

theorem size_back_linked (t : Tape) : t.linked.back.size = t.left.length + 1 :=
  CellStack.size_linked t.back

@[simp] theorem read_linked (t : Tape) : t.linked.read = .ok t := by
  obtain ⟨c, l, r⟩ := t
  have hback : (linked ⟨c, l, r⟩).back.cells? = some (c.linked :: l.map Counter.linked) :=
    CellStack.cells?_linked (c :: l)
  have hfront : (linked ⟨c, l, r⟩).front.bind LinkedStack.cells? = some (r.map Counter.linked) :=
    CellStack.cells?_linked r
  simp only [LinkedTape.read, hback, hfront, List.map_map, Function.comp_def, Counter.size_linked,
    List.map_id']

theorem moveLeft_linked (t : Tape) : t.linked.moveLeft = linkedResult t.moveLeft := by
  obtain ⟨c, l, r⟩ := t
  cases l with
  | nil => rfl
  | cons d l =>
    have hsize : ¬ (linked ⟨c, d :: l, r⟩).back.size < 2 := by
      rw [size_back_linked, List.length_cons]
      omega
    rw [LinkedTape.moveLeft, if_neg hsize]
    exact LinkedTape.ofStacks_push _ _ _

theorem moveRight_linked (t : Tape) : t.linked.moveRight = .ok t.moveRight.linked := by
  obtain ⟨c, l, r⟩ := t
  cases r with
  | nil => exact LinkedTape.ofStacks_push _ _ _
  | cons d r => exact LinkedTape.ofStacks_push _ _ _

theorem increment_linked (t : Tape) : t.linked.increment = .ok t.increment.linked :=
  LinkedTape.ofStacks_push _ _ _

theorem decrement_linked (t : Tape) : t.linked.decrement = linkedResult t.decrement := by
  obtain ⟨⟨n⟩, l, r⟩ := t
  cases n with
  | zero => rfl
  | succ n => exact LinkedTape.ofStacks_push _ _ _

end Tape

/-! ### Steps -/

/-- A state as one on a linked tape. -/
def State.linked (s : State) : LinkedState := ⟨s.toCursor, s.tape.linked, s.trace, s.isTracing⟩

theorem Token.linkedRule?_linked (x : Token) (t : Tape) :
    x.linkedRule?.map (fun rule => rule t.linked) =
      x.rule?.map (fun rule => Tape.linkedResult (rule t)) := by
  cases x with
  | left => exact congrArg some t.moveLeft_linked
  | right => exact congrArg some t.moveRight_linked
  | inc => exact congrArg some t.increment_linked
  | dec => exact congrArg some t.decrement_linked
  | mark => rfl

namespace State

theorem advance_linked (s : State) (x : Token) (t : Tape) :
    s.linked.advance x t.linked = .ok (s.advance x t).linked := by
  obtain ⟨c, tape, trace, isTracing⟩ := s
  cases isTracing with
  | false => rfl
  | true => simp [linked, LinkedState.advance, advance, note, pure, Except.pure]

/-- Carrying out a token on a linked tape is carrying it out on the plain one. -/
theorem execute_linked (s : State) (x : Token) :
    s.linked.execute x = (s.execute x).map State.linked := by
  have hrule := x.linkedRule?_linked s.tape
  have htape : s.linked.tape = s.tape.linked := rfl
  unfold LinkedState.execute execute
  rw [htape]
  cases hx : x.rule? with
  | none =>
    rw [hx, Option.map_none, Option.map_eq_none_iff] at hrule
    rw [hrule]
    rfl
  | some rule =>
    rw [hx, Option.map_some, Option.map_eq_some_iff] at hrule
    obtain ⟨rule', hrule', happ⟩ := hrule
    simp only [hrule', happ]
    cases rule s.tape with
    | error f =>
      simp only [Tape.linkedResult, Tape.read_linked]
      rfl
    | ok t => exact s.advance_linked x t

end State

theorem Machine.stepLinked_linked (m : Machine) (s : State) :
    m.stepLinked s.linked = (m.step s).map State.linked := by
  have hnext : m.next s.linked.toCursor s.linked.tape.read.toOption =
      m.next s.toCursor (some s.tape) := by
    rw [show s.linked.tape = s.tape.linked from rfl, Tape.read_linked]
    rfl
  rw [stepLinked, step, hnext]
  cases m.next s.toCursor (some s.tape) with
  | error e => rfl
  | ok x => exact s.execute_linked x

/-! ### What can be made -/

namespace LinkedValue

/-- What can be made by operations, one after the other, each on what was made before. -/
inductive Made : LinkedValue → Prop
  | zero : Made (.counter .zero)
  | ofInt {n : Int} {c : LinkedCounter} (h : LinkedCounter.ofInt n = .ok c) : Made (.counter c)
  | ofMarks {ts : List Token} {c : LinkedCounter} (h : LinkedCounter.ofMarks ts = .ok c) :
      Made (.counter c)
  | addMark {c : LinkedCounter} (hc : Made (.counter c)) : Made (.counter c.addMark)
  | takeMark {c d : LinkedCounter} (hc : Made (.counter c)) (h : c.takeMark = .ok d) :
      Made (.counter d)
  | empty : Made (.stack .empty)
  | ofCells {cells : List LinkedCounter} (hcells : ∀ c ∈ cells, Made (.counter c)) :
      Made (.stack (.ofCells cells))
  | push {s : LinkedStack} {c : LinkedCounter} (hs : Made (.stack s)) (hc : Made (.counter c)) :
      Made (.stack (s.push c))
  | popCell {s : LinkedStack} {c : LinkedCounter} {rest? : Option LinkedStack}
      (hs : Made (.stack s)) (h : s.pop = .ok (c, rest?)) : Made (.counter c)
  | popRest {s rest : LinkedStack} {c : LinkedCounter} (hs : Made (.stack s))
      (h : s.pop = .ok (c, some rest)) : Made (.stack rest)
  | initial : Made (.tape .initial)
  | ofInts {back front : List Int} {t : LinkedTape} (h : LinkedTape.ofInts back front = .ok t) :
      Made (.tape t)
  | ofStacks {back front : LinkedStack} {t : LinkedTape} (hback : Made (.stack back))
      (hfront : Made (.stack front)) (h : LinkedTape.ofStacks (some back) (some front) = .ok t) :
      Made (.tape t)
  | back {t : LinkedTape} (ht : Made (.tape t)) : Made (.stack t.back)
  | front {t : LinkedTape} {s : LinkedStack} (ht : Made (.tape t)) (h : t.front = some s) :
      Made (.stack s)
  | current {t : LinkedTape} {c : LinkedCounter} (ht : Made (.tape t))
      (h : t.back.head? = some c) : Made (.counter c)
  | moveLeft {t u : LinkedTape} (ht : Made (.tape t)) (h : t.moveLeft = .ok u) : Made (.tape u)
  | moveRight {t u : LinkedTape} (ht : Made (.tape t)) (h : t.moveRight = .ok u) : Made (.tape u)
  | increment {t u : LinkedTape} (ht : Made (.tape t)) (h : t.increment = .ok u) : Made (.tape u)
  | decrement {t u : LinkedTape} (ht : Made (.tape t)) (h : t.decrement = .ok u) : Made (.tape u)
  | step {m : Machine} {s s' : LinkedState} (hs : Made (.tape s.tape))
      (h : m.stepLinked s = .ok s') : Made (.tape s'.tape)

/-- Sizes and links agree. -/
def WellFormed : LinkedValue → Prop
  | .counter c => c.WellFormed
  | .stack s => s.WellFormed
  | .tape t => t.WellFormed

/-- The value is a plain one as a chain. -/
def IsPlain : LinkedValue → Prop
  | .counter c => ∃ d : Counter, d.linked = c
  | .stack s => ∃ r : CellStack, r.linked = s
  | .tape t => ∃ u : Tape, u.linked = t

theorem IsPlain.wellFormed {v : LinkedValue} (h : v.IsPlain) : v.WellFormed := by
  cases v with
  | counter c =>
    obtain ⟨d, rfl⟩ := h
    exact d.linked_wellFormed
  | stack s =>
    obtain ⟨r, rfl⟩ := h
    exact r.linked_wellFormed
  | tape t =>
    obtain ⟨u, rfl⟩ := h
    exact u.linked_wellFormed

/-! ### Every operation leads from plain values to plain values -/

theorem exists_linked_ofInt {n : Int} {c : LinkedCounter} (h : LinkedCounter.ofInt n = .ok c) :
    ∃ d : Counter, d.linked = c := by
  cases n with
  | ofNat n =>
    cases h
    exact ⟨⟨n⟩, rfl⟩
  | negSucc n => cases h

theorem exists_linked_ofMarks {ts : List Token} {c : LinkedCounter}
    (h : LinkedCounter.ofMarks ts = .ok c) : ∃ d : Counter, d.linked = c := by
  unfold LinkedCounter.ofMarks at h
  split at h
  · exact exists_linked_ofInt h
  · cases h

theorem exists_linked_takeMark {d : Counter} {c : LinkedCounter}
    (h : d.linked.takeMark = .ok c) : ∃ e : Counter, e.linked = c := by
  obtain ⟨n⟩ := d
  cases n with
  | zero => cases h
  | succ n =>
    cases h
    exact ⟨⟨n⟩, rfl⟩

/-- A row of plain cells is a plain stack. -/
theorem exists_linked_ofCells {cells : List LinkedCounter}
    (h : ∀ c ∈ cells, ∃ d : Counter, d.linked = c) :
    ∃ s : CellStack, s.linked = .ofCells cells := by
  induction cells with
  | nil => exact ⟨[], rfl⟩
  | cons c cells ih =>
    obtain ⟨d, rfl⟩ := h c List.mem_cons_self
    obtain ⟨s, hs⟩ := ih fun c hc => h c (List.mem_cons_of_mem _ hc)
    exact ⟨d :: s, congrArg (LinkedStack.push · d.linked) hs⟩

theorem exists_linked_pop {s : CellStack} {c : LinkedCounter} {rest? : Option LinkedStack}
    (h : s.linked.pop = .ok (c, rest?)) :
    ∃ (d : Counter) (r : CellStack), s = d :: r ∧ d.linked = c ∧ rest? = some r.linked := by
  cases s with
  | nil => cases h
  | cons d r =>
    cases h
    exact ⟨d, r, rfl, rfl, rfl⟩

theorem exists_linked_mapM_ofInt {values : List Int} {cells : List LinkedCounter}
    (h : values.mapM LinkedCounter.ofInt = .ok cells) :
    ∀ c ∈ cells, ∃ d : Counter, d.linked = c := by
  induction values generalizing cells with
  | nil =>
    cases h
    simp
  | cons n values ih =>
    rw [List.mapM_cons] at h
    obtain ⟨b, hb, h⟩ := bind_eq_ok_iff.1 h
    obtain ⟨bs, hbs, h⟩ := bind_eq_ok_iff.1 h
    cases h
    intro c hc
    rcases List.mem_cons.1 hc with rfl | hc
    · exact exists_linked_ofInt hb
    · exact ih hbs c hc

/-- Two plain stacks make a plain tape, if they make one. -/
theorem exists_linked_ofStacks {back front : CellStack} {t : LinkedTape}
    (h : LinkedTape.ofStacks (some back.linked) (some front.linked) = .ok t) :
    ∃ u : Tape, u.linked = t := by
  cases back with
  | nil => cases h
  | cons c left =>
    rw [CellStack.linked_cons, LinkedTape.ofStacks_push] at h
    cases h
    exact ⟨⟨c, left, front⟩, rfl⟩

theorem exists_linked_result {r : Except Fault Tape} {t : LinkedTape}
    (h : Tape.linkedResult r = .ok t) : ∃ u : Tape, u.linked = t := by
  cases r with
  | error f => cases h
  | ok u =>
    cases h
    exact ⟨u, rfl⟩

theorem exists_linked_step {m : Machine} {s s' : LinkedState} {u : Tape}
    (hs : u.linked = s.tape) (h : m.stepLinked s = .ok s') : ∃ v : Tape, v.linked = s'.tape := by
  have hplain : s = State.linked ⟨s.toCursor, u, s.trace, s.isTracing⟩ := by
    rw [State.linked, hs]
  rw [hplain, m.stepLinked_linked] at h
  cases hstep : m.step ⟨s.toCursor, u, s.trace, s.isTracing⟩ with
  | error e =>
    rw [hstep] at h
    cases h
  | ok next =>
    rw [hstep] at h
    cases h
    exact ⟨next.tape, rfl⟩

/-- What is made by operations is plain. -/
theorem Made.isPlain {v : LinkedValue} (h : Made v) : v.IsPlain := by
  induction h with
  | zero => exact ⟨⟨0⟩, rfl⟩
  | ofInt h => exact exists_linked_ofInt h
  | ofMarks h => exact exists_linked_ofMarks h
  | addMark _ ih =>
    obtain ⟨⟨n⟩, rfl⟩ := ih
    exact ⟨⟨n + 1⟩, rfl⟩
  | takeMark _ h ih =>
    obtain ⟨d, rfl⟩ := ih
    exact exists_linked_takeMark h
  | empty => exact ⟨[], rfl⟩
  | ofCells _ ih => exact exists_linked_ofCells ih
  | push _ _ ihs ihc =>
    obtain ⟨r, rfl⟩ := ihs
    obtain ⟨d, rfl⟩ := ihc
    exact ⟨d :: r, rfl⟩
  | popCell _ h ih =>
    obtain ⟨s, rfl⟩ := ih
    obtain ⟨d, -, -, hd, -⟩ := exists_linked_pop h
    exact ⟨d, hd⟩
  | popRest _ h ih =>
    obtain ⟨s, rfl⟩ := ih
    obtain ⟨-, r, -, -, hr⟩ := exists_linked_pop h
    exact ⟨r, (Option.some.inj hr).symm⟩
  | initial => exact ⟨.initial, rfl⟩
  | ofInts h =>
    obtain ⟨back, hback, h⟩ := bind_eq_ok_iff.1 h
    obtain ⟨front, hfront, h⟩ := bind_eq_ok_iff.1 h
    obtain ⟨b, hb⟩ := exists_linked_ofCells (exists_linked_mapM_ofInt hback)
    obtain ⟨f, hf⟩ := exists_linked_ofCells (exists_linked_mapM_ofInt hfront)
    rw [← hb, ← hf] at h
    exact exists_linked_ofStacks h
  | ofStacks _ _ h ihb ihf =>
    obtain ⟨b, rfl⟩ := ihb
    obtain ⟨f, rfl⟩ := ihf
    exact exists_linked_ofStacks h
  | back _ ih =>
    obtain ⟨u, rfl⟩ := ih
    exact ⟨u.back, rfl⟩
  | front _ h ih =>
    obtain ⟨u, rfl⟩ := ih
    exact ⟨u.front, Option.some.inj h⟩
  | current _ h ih =>
    obtain ⟨u, rfl⟩ := ih
    exact ⟨u.current, Option.some.inj h⟩
  | moveLeft _ h ih =>
    obtain ⟨u, rfl⟩ := ih
    rw [u.moveLeft_linked] at h
    exact exists_linked_result h
  | moveRight _ h ih =>
    obtain ⟨u, rfl⟩ := ih
    rw [u.moveRight_linked] at h
    exact ⟨u.moveRight, Except.ok.inj h⟩
  | increment _ h ih =>
    obtain ⟨u, rfl⟩ := ih
    rw [u.increment_linked] at h
    exact ⟨u.increment, Except.ok.inj h⟩
  | decrement _ h ih =>
    obtain ⟨u, rfl⟩ := ih
    rw [u.decrement_linked] at h
    exact exists_linked_result h
  | step _ h ih =>
    obtain ⟨u, hu⟩ := ih
    exact exists_linked_step hu h

/-! ### Which operations fail -/

theorem takeMark_linked_eq_error_iff (c : Counter) (e : Error) :
    c.linked.takeMark = .error e ↔ e = .misuse .emptyCounter ∧ c.linked.size = 0 := by
  obtain ⟨n⟩ := c
  rw [Counter.size_linked]
  cases n <;> simp [eq_comm]

theorem pop_linked_eq_error_iff (s : CellStack) (e : Error) :
    s.linked.pop = .error e ↔ e = .misuse .emptyStack ∧ s.linked.size = 0 := by
  rw [CellStack.size_linked]
  cases s <;> simp [eq_comm]

theorem linkedResult_eq_error_iff (r : Except Fault Tape) (e : Error) :
    Tape.linkedResult r = .error e ↔ ∃ f, r = .error f ∧ e = .failed f.failure := by
  cases r <;> simp [Tape.linkedResult, eq_comm]

theorem moveLeft_linked_eq_error_iff (t : Tape) (e : Error) :
    t.linked.moveLeft = .error e ↔
      e = .failed Fault.underflow.failure ∧ t.linked.back.size = 1 := by
  rw [t.moveLeft_linked, linkedResult_eq_error_iff, t.size_back_linked, ← Token.effect_left]
  constructor
  · rintro ⟨f, hf, rfl⟩
    obtain ⟨-, rfl, hleft⟩ | ⟨hx, -⟩ := Token.effect_eq_error_iff.1 hf
    · exact ⟨rfl, by rw [hleft]; rfl⟩
    · cases hx
  · rintro ⟨rfl, hsize⟩
    have hleft : t.left = [] := List.eq_nil_of_length_eq_zero (Nat.succ.inj hsize)
    exact ⟨_, Token.effect_eq_error_iff.2 (.inl ⟨rfl, rfl, hleft⟩), rfl⟩

theorem decrement_linked_eq_error_iff (t : Tape) (e : Error) :
    t.linked.decrement = .error e ↔ e = .failed Fault.zeroCell.failure ∧
      ∃ c, t.linked.back.head? = some c ∧ c.size = 0 := by
  have hhead : t.linked.back.head? = some t.current.linked := rfl
  rw [t.decrement_linked, linkedResult_eq_error_iff, hhead, ← Token.effect_dec]
  constructor
  · rintro ⟨f, hf, rfl⟩
    obtain ⟨hx, -⟩ | ⟨-, rfl, hzero⟩ := Token.effect_eq_error_iff.1 hf
    · cases hx
    · exact ⟨rfl, _, rfl, by rw [hzero]; rfl⟩
  · rintro ⟨rfl, c, hc, hsize⟩
    cases hc
    rw [Counter.size_linked] at hsize
    have hzero : t.current = .zero := congrArg Counter.mk hsize
    exact ⟨_, Token.effect_eq_error_iff.2 (.inr ⟨rfl, rfl, hzero⟩), rfl⟩

/-- **Links and sizes agree.** Whatever is made by the operations is well formed. So a mark can be
taken from it, or a cell, unless its size is zero; its cells are as many as its size says; a move
to the left fails only where the back has size one, and a decrement only where the current cell
has size zero, each with its own fault; and a move to the right and an increment never fail. The
linked tape shows a plain one, whose chains it is made of. -/
theorem made_wellFormed :
    (∀ v, Made v → v.WellFormed) ∧
    (∀ c, Made (.counter c) →
      ∀ e, c.takeMark = .error e ↔ e = .misuse .emptyCounter ∧ c.size = 0) ∧
    (∀ s, Made (.stack s) →
      (∀ e, s.pop = .error e ↔ e = .misuse .emptyStack ∧ s.size = 0) ∧
      (∀ c rest?, s.pop = .ok (c, rest?) → ∃ rest, rest? = some rest) ∧
      ∃ cells, s.cells? = some cells ∧ cells.length = s.size) ∧
    ∀ t, Made (.tape t) →
      (∀ e, t.moveLeft = .error e ↔
        e = .failed Fault.underflow.failure ∧ t.back.size = 1) ∧
      (∀ e, t.decrement = .error e ↔ e = .failed Fault.zeroCell.failure ∧
        ∃ c, t.back.head? = some c ∧ c.size = 0) ∧
      (∃ u, t.moveRight = .ok u) ∧
      (∃ u, t.increment = .ok u) ∧
      ∃ u : Tape, t.read = .ok u ∧ u.linked = t := by
  refine ⟨fun v hv => hv.isPlain.wellFormed, fun c hc e => ?_, fun s hs => ?_, fun t ht => ?_⟩
  · obtain ⟨d, rfl⟩ := hc.isPlain
    exact takeMark_linked_eq_error_iff d e
  · obtain ⟨r, rfl⟩ := hs.isPlain
    refine ⟨pop_linked_eq_error_iff r, fun c rest? h => ?_, _, r.cells?_linked, ?_⟩
    · obtain ⟨-, rest, -, -, hrest⟩ := exists_linked_pop h
      exact ⟨rest.linked, hrest⟩
    · rw [List.length_map, CellStack.size_linked]
  · obtain ⟨u, rfl⟩ := ht.isPlain
    exact ⟨moveLeft_linked_eq_error_iff u, decrement_linked_eq_error_iff u,
      ⟨_, u.moveRight_linked⟩, ⟨_, u.increment_linked⟩, u, u.read_linked, rfl⟩

/-- A tape of two cells whose head is moved to the first, which is empty: neither another move to
the left nor a decrement is possible. -/
theorem made_wellFormed_moved :
    ∃ t, Made (.tape t) ∧ (LinkedValue.tape t).WellFormed ∧ t.back.size = 1 ∧
      t.moveLeft = .error (.failed Fault.underflow.failure) ∧
      t.decrement = .error (.failed Fault.zeroCell.failure) := by
  have hnumbers : LinkedTape.ofInts [2, 0] [] = .ok (Tape.linked ⟨⟨2⟩, [⟨0⟩], []⟩) := rfl
  have hmade : Made (.tape (Tape.linked ⟨⟨0⟩, [], [⟨2⟩]⟩)) := .moveLeft (.ofInts hnumbers) rfl
  obtain ⟨hleft, hdec, -⟩ := made_wellFormed.2.2.2 _ hmade
  exact ⟨_, hmade, made_wellFormed.1 _ hmade, rfl, (hleft _).2 ⟨rfl, rfl⟩,
    (hdec _).2 ⟨rfl, _, rfl, rfl⟩⟩

end LinkedValue

end MarkTape
