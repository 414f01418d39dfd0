import MarkTape.Proofs.Failures
import MarkTape.Proofs.Rendering
import MarkTape.Value

/-!
# When two values are the same

Values kept as chains of links are compared by what they carry on top: counters by their sizes
alone, stacks by their sizes and then cell by cell, tapes by their two stacks. The links below are
not looked at, yet they are what the operations follow. On whatever is made by the operations this
makes no difference: two values are the same exactly when they show the same numbers, and then
nothing that can be done with them tells them apart. A set that finds its members by a hash and then
by comparing them therefore has one member for each list of numbers.

* `LinkedValue.Numbers`, `LinkedValue.numbers?`: the numbers that a value shows;
* `CellStack.equals?_linked`, `Tape.equals?_linked`: chains of plain values are compared as these
  are;
* `LinkedValue.Shows`: a value of links, the plain value it is the chain of, and its numbers;
* `LinkedValue.Hashing`, `LinkedValue.members`: the members of a set;
* `LinkedValue.made_same_iff`: sameness is that of the numbers, in a set and in every run.
-/

namespace MarkTape

/-! ### Numbers -/

namespace LinkedValue

/-- The numbers that a value shows. -/
inductive Numbers
  | counter (value : Nat)
  | stack (values : List Nat)
  | tape (back front : List Nat)
  deriving DecidableEq

/-- The numbers that a value shows, unless a link is missing. -/
def numbers? : LinkedValue → Option Numbers
  | .counter c => some (.counter c.size)
  | .stack s => s.values?.map .stack
  | .tape t => t.values?.map fun v => .tape v.1 v.2

end LinkedValue

/-! ### Chains of plain values -/

@[simp] theorem Counter.equals_linked (c d : Counter) :
    c.linked.equals d.linked = decide (c = d) := by
  obtain ⟨n⟩ := c
  obtain ⟨k⟩ := d
  simp [LinkedCounter.equals]

namespace CellStack

@[simp] theorem values?_linked (s : CellStack) : (linked s).values? = some s.values := by
  simp [LinkedStack.values?, cells?_linked, values, Function.comp_def]

theorem agree?_linked {s r : CellStack} (h : s.length = r.length) :
    (linked s).agree? (some (linked r)) = some (decide (s = r)) := by
  induction s generalizing r with
  | nil =>
    obtain rfl : r = [] := List.eq_nil_of_length_eq_zero h.symm
    rfl
  | cons c s ih =>
    cases r with
    | nil => cases h
    | cons d r =>
      show (if c.linked.equals d.linked then (linked s).agree? (some (linked r))
        else some false) = _
      rw [Counter.equals_linked, ih (Nat.succ.inj h)]
      by_cases hc : c = d <;> simp [hc]

@[simp] theorem equals?_linked (s r : CellStack) :
    (linked s).equals? (linked r) = some (decide (s = r)) := by
  rw [LinkedStack.equals?, size_linked, size_linked]
  split
  · next h => exact agree?_linked h
  · next h =>
    have hne : s ≠ r := fun heq => h (congrArg List.length heq)
    simp [hne]

end CellStack

namespace Tape

theorem eq_iff_back_front {t u : Tape} : t = u ↔ t.back = u.back ∧ t.front = u.front := by
  obtain ⟨c, l, r⟩ := t
  obtain ⟨c', l', r'⟩ := u
  simp [back, front, and_assoc]

@[simp] theorem values?_linked (t : Tape) : t.linked.values? = some t.values := by
  have hback : t.linked.back.values? = some t.back.values := CellStack.values?_linked t.back
  have hfront : t.front.linked.values? = some t.front.values := CellStack.values?_linked t.front
  rw [LinkedTape.values?, hback]
  show (t.front.linked.values? >>= fun front => some (t.back.values, front)) = _
  rw [hfront]
  rfl

@[simp] theorem equals?_linked (t u : Tape) :
    t.linked.equals? u.linked = some (decide (t = u)) := by
  have hback : t.linked.back.equals? u.linked.back = some (decide (t.back = u.back)) :=
    CellStack.equals?_linked t.back u.back
  have hfront : t.front.linked.equals? u.front.linked = some (decide (t.front = u.front)) :=
    CellStack.equals?_linked t.front u.front
  rw [LinkedTape.equals?, hback]
  show (if decide (t.back = u.back) = true then t.front.linked.equals? u.front.linked
    else some false) = _
  rw [hfront]
  by_cases h : t.back = u.back <;> simp [eq_iff_back_front, h]

end Tape

namespace LinkedValue

/-- The plain value that the links show; nothing is shown where a link is missing. -/
def read : LinkedValue → Value
  | .counter c => .counter ⟨c.size⟩
  | .stack s => s.values?.elim .absent fun values => .stack (values.map Counter.mk)
  | .tape t => t.read.toOption.elim .absent .tape

/-- The value of links is the chain of the plain value, and shows these numbers. -/
inductive Shows : LinkedValue → Value → Numbers → Prop
  | counter (c : Counter) : Shows (.counter c.linked) (.counter c) (.counter c.value)
  | stack (s : CellStack) : Shows (.stack s.linked) (.stack s) (.stack s.values)
  | tape (t : Tape) : Shows (.tape t.linked) (.tape t) (.tape t.values.1 t.values.2)

/-- What is made by operations is the chain of a plain value. -/
theorem Made.exists_shows {v : LinkedValue} (h : Made v) : ∃ p x, Shows v p x := by
  have hplain := h.isPlain
  cases v with
  | counter c =>
    obtain ⟨d, rfl⟩ := hplain
    exact ⟨_, _, .counter d⟩
  | stack s =>
    obtain ⟨r, rfl⟩ := hplain
    exact ⟨_, _, .stack r⟩
  | tape t =>
    obtain ⟨u, rfl⟩ := hplain
    exact ⟨_, _, .tape u⟩

namespace Shows

variable {v w : LinkedValue} {p q : Value} {x y : Numbers}

theorem numbers?_eq (h : Shows v p x) : v.numbers? = some x := by
  cases h <;> simp [numbers?]

theorem read_eq (h : Shows v p x) : v.read = p := by
  cases h with
  | counter c => simp [read]
  | stack s => simp [read, CellStack.values, Function.comp_def]
  | tape t =>
    rw [read, Tape.read_linked]
    rfl

theorem isFit_eq (h : Shows v p x) : p.isFit = true := by
  cases h <;> rfl

/-- Plain values are the same exactly when their numbers are. -/
theorem eq_iff (hv : Shows v p x) (hw : Shows w q y) : p = q ↔ x = y := by
  cases hv with
  | counter c =>
    cases hw with
    | counter d =>
      obtain ⟨n⟩ := c
      obtain ⟨k⟩ := d
      simp
    | stack => simp
    | tape => simp
  | stack s =>
    cases hw with
    | counter => simp
    | stack r =>
      simp only [Value.stack.injEq, Numbers.stack.injEq]
      exact ⟨congrArg CellStack.values, CellStack.eq_of_values_eq⟩
    | tape => simp
  | tape t =>
    cases hw with
    | counter => simp
    | stack => simp
    | tape u =>
      simp only [Value.tape.injEq, Numbers.tape.injEq, ← Prod.ext_iff]
      exact ⟨congrArg Tape.values, Tape.eq_of_values_eq⟩

/-- Values with the same numbers are the same chains, down to their last links. -/
theorem chain_eq (hv : Shows v p x) (hw : Shows w q y) (h : x = y) : v = w := by
  obtain rfl : p = q := (hv.eq_iff hw).2 h
  cases hv <;> cases hw <;> rfl

/-- Values are compared as the plain values are, and that is to compare their numbers. -/
theorem equals?_eq (hv : Shows v p x) (hw : Shows w q y) : v.equals? w = some (decide (x = y)) := by
  have hdecide : decide (x = y) = decide (p = q) := decide_eq_decide.2 (hv.eq_iff hw).symm
  rw [hdecide]
  cases hv <;> cases hw <;> simp [equals?]

end Shows

/-! ### Sets -/

/-- How a number is hashed, and a row of hashes. -/
structure Hashing where
  number : Nat → Int
  row : List Int → Int

/-- A stack is hashed by the row of its cells. -/
def Hashing.ofValues (h : Hashing) (values : List Nat) : Int := h.row (values.map h.number)

/-- The hash of a value, unless a link is missing. -/
def hash? (h : Hashing) : LinkedValue → Option Int
  | .counter c => some (h.number c.size)
  | .stack s => s.values?.map h.ofValues
  | .tape t => t.values?.map fun v => h.row [h.ofValues v.1, h.ofValues v.2]

/-- A member is found by its hash, and then by comparing it. -/
def isFound (h : Hashing) (w v : LinkedValue) : Bool :=
  w.hash? h = v.hash? h && w.equals? v = some true

/-- The members of a set after one more value is put in. -/
def insert (h : Hashing) (members : List LinkedValue) (v : LinkedValue) : List LinkedValue :=
  if members.any fun w => isFound h w v then members else members ++ [v]

/-- The members of a set into which the values are put one after the other. -/
def members (h : Hashing) (vs : List LinkedValue) : List LinkedValue := vs.foldl (insert h) []

/-- Values with the same numbers also have the same hash, so a member is found by its numbers. -/
theorem isFound_iff (h : Hashing) {v w : LinkedValue} {p q : Value} {x y : Numbers}
    (hw : Shows w q y) (hv : Shows v p x) : isFound h w v = true ↔ y = x := by
  rw [isFound, hw.equals?_eq hv]
  by_cases heq : y = x
  · simp [heq, hw.chain_eq hv heq]
  · simp [heq]

section Members

variable {κ : Type} [BEq κ] [LawfulBEq κ] {P : LinkedValue → Prop} {h : Hashing}

/-- One more value: where members are found by a key, the keys of the members are those of the
values that were put in, each once. -/
theorem map_insert {key : LinkedValue → κ}
    (hkey : ∀ w v, P w → P v → (isFound h w v = true ↔ key w = key v))
    {members seen : List LinkedValue} {v : LinkedValue} (hmembers : ∀ w ∈ members, P w) (hv : P v)
    (heq : members.map key = (seen.map key).eraseDups) :
    (insert h members v).map key = ((seen ++ [v]).map key).eraseDups := by
  have hany : (members.any fun w => isFound h w v) = true ↔ key v ∈ seen.map key := by
    rw [← List.mem_eraseDups, ← heq, List.any_eq_true, List.mem_map]
    constructor
    · rintro ⟨w, hw, hfound⟩
      exact ⟨w, hw, (hkey w v (hmembers w hw) hv).1 hfound⟩
    · rintro ⟨w, hw, hwv⟩
      exact ⟨w, hw, (hkey w v (hmembers w hw) hv).2 hwv⟩
  rw [List.map_append, List.eraseDups_append, ← heq, insert]
  generalize seen.map key = keys at hany
  by_cases hmem : key v ∈ keys
  · have hold : ([v].map key).removeAll keys = [] := by simp [List.removeAll, hmem]
    rw [if_pos (hany.2 hmem), hold, List.eraseDups_nil, List.append_nil]
  · have hnew : ([v].map key).removeAll keys = [key v] := by simp [List.removeAll, hmem]
    rw [if_neg fun hfound => hmem (hany.1 hfound), hnew, List.map_append]
    rfl

theorem mem_insert {members : List LinkedValue} {v w : LinkedValue}
    (hw : w ∈ insert h members v) : w ∈ members ∨ w = v := by
  unfold insert at hw
  split at hw
  · exact .inl hw
  · simpa using hw

theorem map_members (key : LinkedValue → κ)
    (hkey : ∀ w v, P w → P v → (isFound h w v = true ↔ key w = key v))
    {vs : List LinkedValue} (hvs : ∀ v ∈ vs, P v) :
    (members h vs).map key = (vs.map key).eraseDups := by
  have hgeneral : ∀ (vs found seen : List LinkedValue), (∀ v ∈ vs, P v) → (∀ w ∈ found, P w) →
      found.map key = (seen.map key).eraseDups →
      (vs.foldl (insert h) found).map key = ((seen ++ vs).map key).eraseDups := by
    intro vs
    induction vs with
    | nil =>
      intro found seen _ _ heq
      rwa [List.append_nil]
    | cons v vs ih =>
      intro found seen hvs hfound heq
      have hv : P v := hvs v List.mem_cons_self
      have hnext := ih (insert h found v) (seen ++ [v])
        (fun w hw => hvs w (List.mem_cons_of_mem v hw))
        (fun w hw => (mem_insert hw).elim (hfound w) fun hwv => hwv ▸ hv)
        (map_insert hkey hfound hv heq)
      rwa [List.append_assoc] at hnext
  exact hgeneral vs [] [] hvs (fun w hw => absurd hw List.not_mem_nil) rfl

end Members

/-- The sets that the plain values make have as many members. -/
theorem distinct_read (h : Hashing) {vs : List LinkedValue} (hvs : ∀ v ∈ vs, ∃ p x, Shows v p x) :
    Value.distinct (vs.map read) = .ok (members h vs).length := by
  have hfit : (vs.map read).find? (fun v => !v.isFit) = none := by
    rw [List.find?_eq_none]
    intro p hp
    obtain ⟨v, hv, rfl⟩ := List.mem_map.1 hp
    obtain ⟨p, x, hshows⟩ := hvs v hv
    simp [hshows.read_eq, hshows.isFit_eq]
  have hmembers : (members h vs).map read = (vs.map read).eraseDups := by
    refine map_members read (fun w v hw hv => ?_) hvs
    obtain ⟨q, y, hw⟩ := hw
    obtain ⟨p, x, hv⟩ := hv
    rw [isFound_iff h hw hv, hw.read_eq, hv.read_eq]
    exact (hw.eq_iff hv).symm
  rw [Value.distinct, hfit, ← hmembers, List.length_map]

theorem length_members (h : Hashing) {vs : List LinkedValue}
    (hvs : ∀ v ∈ vs, ∃ p x, Shows v p x) :
    (members h vs).length = (vs.map numbers?).eraseDups.length := by
  have hmembers : (members h vs).map numbers? = (vs.map numbers?).eraseDups := by
    refine map_members numbers? (fun w v hw hv => ?_) hvs
    obtain ⟨q, y, hw⟩ := hw
    obtain ⟨p, x, hv⟩ := hv
    rw [isFound_iff h hw hv, hw.numbers?_eq, hv.numbers?_eq, Option.some.injEq]
  rw [← hmembers, List.length_map]

/-! ### Runs -/

/-- Both runs end in states that are the same, or both fail with the same report. -/
inductive SameOutcome : Except Error LinkedState → Except Error LinkedState → Prop
  | ended {s s' : LinkedState} (cursor : s.toCursor = s'.toCursor)
      (tape : s.tape.equals? s'.tape = some true) (trace : s.trace = s'.trace)
      (isTracing : s.isTracing = s'.isTracing) : SameOutcome (.ok s) (.ok s')
  | failed (f : Failure) : SameOutcome (.error (.failed f)) (.error (.failed f))

/-- A run of instructions on a chain ends, or it fails, in the same way each time. -/
theorem sameOutcome_linked (m : Machine) {p : List Token} (hp : Token.mark ∉ p) (a : Tape) :
    SameOutcome (m.runLinked p a.linked) (m.runLinked p a.linked) := by
  rw [m.runLinked_linked]
  cases hrun : m.run p a with
  | ok s => exact .ended rfl (by simp [State.linked]) rfl rfl
  | error e =>
    obtain ⟨f, rfl, -⟩ := Machine.stopsIn_of_run hp hrun
    exact .failed f

/-- **Sameness is that of the numbers.** Two values that are made by the operations, in whatever way
each, are the same exactly when they show the same numbers, and the comparison meets no missing
link. A set of such values has as many members as there are different numbers among them, however
they are hashed. Tapes that are the same cannot be told apart: they have the same picture in both
modes, and whatever the program, the limit and the log are, runs from them end in states that are
the same or fail with the same report, as the run from the plain tape does. -/
theorem made_same_iff :
    (∀ v w, Made v → Made w → ∃ x y, v.numbers? = some x ∧ w.numbers? = some y ∧
      v.equals? w = some (decide (x = y)) ∧ (v.read = w.read ↔ x = y)) ∧
    (∀ (h : Hashing) vs, (∀ v ∈ vs, Made v) →
      (members h vs).length = (vs.map numbers?).eraseDups.length ∧
      Value.distinct (vs.map read) = .ok (members h vs).length) ∧
    ∀ t u, Made (.tape t) → Made (.tape u) → t.equals? u = some true →
      (∀ display, ∃ text, t.render display = .ok text ∧ u.render display = .ok text) ∧
      (∀ (m : Machine) p, Token.mark ∉ p → SameOutcome (m.runLinked p t) (m.runLinked p u)) ∧
      ∃ a, t.read = .ok a ∧ u.read = .ok a ∧ ∀ (m : Machine) p,
        m.runLinked p t = (m.run p a).map State.linked ∧
        m.runLinked p u = (m.run p a).map State.linked := by
  refine ⟨fun v w hv hw => ?_, fun h vs hvs => ?_, fun t u ht hu hsame => ?_⟩
  · obtain ⟨p, x, hv⟩ := hv.exists_shows
    obtain ⟨q, y, hw⟩ := hw.exists_shows
    refine ⟨x, y, hv.numbers?_eq, hw.numbers?_eq, hv.equals?_eq hw, ?_⟩
    rw [hv.read_eq, hw.read_eq]
    exact hv.eq_iff hw
  · have hshows : ∀ v ∈ vs, ∃ p x, Shows v p x := fun v hv => (hvs v hv).exists_shows
    exact ⟨length_members h hshows, distinct_read h hshows⟩
  · -- the comparison looks at sizes, but what it finds equal are the same chains
    obtain ⟨a, rfl⟩ := ht.isPlain
    obtain ⟨b, rfl⟩ := hu.isPlain
    obtain rfl : a = b := by simpa using hsame
    refine ⟨fun display => ?_, fun m p hp => sameOutcome_linked m hp a, a, a.read_linked,
      a.read_linked, fun m p => ⟨m.runLinked_linked p a, m.runLinked_linked p a⟩⟩
    exact ⟨a.render display, by rw [LinkedTape.render, a.read_linked]; rfl,
      by rw [LinkedTape.render, a.read_linked]; rfl⟩

/-- A tape made from numbers and one made by an increment and a move: they count as one member of a
set, and a decrement fails on both in the same way. -/
theorem made_same_iff_moved :
    ∃ t u v, LinkedTape.ofInts [0, 1] [] = .ok t ∧ LinkedTape.initial.increment = .ok v ∧
      v.moveRight = .ok u ∧ t.equals? u = some true ∧
      (members ⟨Int.ofNat, fun _ => 0⟩ [.tape t, .tape u, .tape v]).length = 2 ∧
      ∀ m : Machine, SameOutcome (m.runLinked [.dec] t) (m.runLinked [.dec] u) := by
  have hnumbers : LinkedTape.ofInts [0, 1] [] = .ok (Tape.linked ⟨⟨0⟩, [⟨1⟩], []⟩) := rfl
  have hincrement : LinkedTape.initial.increment = .ok (Tape.linked ⟨⟨1⟩, [], []⟩) := rfl
  have hmove : (Tape.linked ⟨⟨1⟩, [], []⟩).moveRight = .ok (Tape.linked ⟨⟨0⟩, [⟨1⟩], []⟩) := rfl
  have ht : Made (.tape (Tape.linked ⟨⟨0⟩, [⟨1⟩], []⟩)) := .ofInts hnumbers
  have hv : Made (.tape (Tape.linked ⟨⟨1⟩, [], []⟩)) := .increment .initial hincrement
  have hu : Made (.tape (Tape.linked ⟨⟨0⟩, [⟨1⟩], []⟩)) := .moveRight hv hmove
  obtain ⟨-, hset, hruns⟩ := made_same_iff
  have hsame : (Tape.linked ⟨⟨0⟩, [⟨1⟩], []⟩).equals? (Tape.linked ⟨⟨0⟩, [⟨1⟩], []⟩) =
      some true := rfl
  refine ⟨_, _, _, hnumbers, hincrement, hmove, hsame, ?_, fun m => ?_⟩
  · rw [(hset _ _ (by simp [ht, hv])).1]
    decide
  · exact (hruns _ _ ht hu hsame).2.1 m [.dec] (by decide)

-- Without the agreement of sizes and links, counters of the same size are not interchangeable.
example : (LinkedCounter.bare 1).equals LinkedCounter.zero.addMark = true ∧
    (LinkedCounter.bare 1).takeMark = .error (.misuse .emptyCounter) ∧
    LinkedCounter.zero.addMark.takeMark = .ok .zero := ⟨rfl, rfl, rfl⟩

end LinkedValue

end MarkTape
