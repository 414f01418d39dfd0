import MarkTape.Proofs.Sameness

/-!
# Tapes from numbers

A tape is made from two lists of numbers by making a counter of each, first for the back and then
for the front, and stacking them up. Numbers below zero make no counter, and a tape needs a current
cell; what is wrong is looked for in this order, so of several faults the first is reported. Where
nothing is wrong, the numbers of the tape are those that it was made from, and the other way round a
tape is made again from its numbers. So is a counter from its marks. The same holds of the chains of
links that counters and tapes are kept as.

* `CellStack.ofInts_eq_match`: a stack from numbers, by the first that is negative;
* `Tape.ofInts_cases`: all that can come of two lists of numbers;
* `LinkedTape.ofInts_eq`, `LinkedCounter.ofMarks_eq`: chains are made in the same way;
* `Tape.Refused`: which fault is reported, and in which words;
* `Tape.ofInts_round_trip`: making a tape and reading its numbers undo each other.
-/

namespace MarkTape

/-! ### Stacks -/

namespace CellStack

/-- The first negative number is refused, and without one there is a cell for each number. -/
theorem ofInts_eq_match (numbers : List Int) :
    ofInts numbers =
      match numbers.find? (· < 0) with
      | some n => .error (.negativeCounter n)
      | none => .ok (numbers.map fun n => ⟨n.toNat⟩) := by
  unfold ofInts
  induction numbers with
  | nil => rfl
  | cons k numbers ih =>
    rw [List.mapM_cons, ih]
    cases k with
    | ofNat k =>
      rw [List.find?_cons_of_neg (by simp)]
      cases numbers.find? (· < 0) <;> rfl
    | negSucc k =>
      rw [List.find?_cons_of_pos (by simp)]
      rfl

theorem ofInts_of_negative {numbers : List Int} {n : Int} (h : numbers.find? (· < 0) = some n) :
    ofInts numbers = .error (.negativeCounter n) := by
  rw [ofInts_eq_match, h]

theorem ofInts_of_nonneg {numbers : List Int} (h : numbers.find? (· < 0) = none) :
    ofInts numbers = .ok (numbers.map fun n => ⟨n.toNat⟩) := by
  rw [ofInts_eq_match, h]

theorem find?_negative_eq_none_iff {numbers : List Int} :
    numbers.find? (· < 0) = none ↔ ∀ n ∈ numbers, 0 ≤ n := by
  simp [List.find?_eq_none]

theorem find?_map_ofNat (numbers : List Nat) :
    (numbers.map Int.ofNat).find? (· < 0) = none := by
  simp

/-- The values of the cells are the numbers that they were made from. -/
theorem values_map_toNat {numbers : List Int} (h : numbers.find? (· < 0) = none) :
    (values (numbers.map fun n => ⟨n.toNat⟩)).map Int.ofNat = numbers := by
  have hnonneg : ∀ n ∈ numbers, Int.ofNat n.toNat = n := fun n hn =>
    Int.toNat_of_nonneg (find?_negative_eq_none_iff.1 h n hn)
  rw [values, List.map_map, List.map_map]
  exact (List.map_congr_left hnonneg).trans (List.map_id numbers)

/-- Cells are made again from their values. -/
theorem map_toNat_values (s : CellStack) :
    (s.values.map Int.ofNat).map (fun n => Counter.mk n.toNat) = s := by
  rw [values, List.map_map, List.map_map]
  exact List.map_id s

end CellStack

/-! ### Tapes -/

namespace Tape

/-- All that can come of two lists of numbers. -/
theorem ofInts_cases (back front : List Int) :
    (∃ n, back.find? (· < 0) = some n ∧ ofInts back front = .error (.negativeCounter n)) ∨
    (back.find? (· < 0) = none ∧
      ∃ n, front.find? (· < 0) = some n ∧ ofInts back front = .error (.negativeCounter n)) ∨
    (back = [] ∧ front.find? (· < 0) = none ∧ ofInts back front = .error .noCurrentCell) ∨
    ∃ n rest, back = n :: rest ∧ back.find? (· < 0) = none ∧ front.find? (· < 0) = none ∧
      ofInts back front = .ok
        ⟨⟨n.toNat⟩, rest.map fun n => ⟨n.toNat⟩, front.map fun n => ⟨n.toNat⟩⟩ := by
  unfold ofInts
  cases hback : back.find? (· < 0) with
  | some n => exact .inl ⟨n, rfl, by rw [CellStack.ofInts_of_negative hback]; rfl⟩
  | none =>
    rw [CellStack.ofInts_of_nonneg hback, ok_bind]
    cases hfront : front.find? (· < 0) with
    | some n => exact .inr (.inl ⟨rfl, n, rfl, by rw [CellStack.ofInts_of_negative hfront]; rfl⟩)
    | none =>
      rw [CellStack.ofInts_of_nonneg hfront, ok_bind]
      cases back with
      | nil => exact .inr (.inr (.inl ⟨rfl, rfl, rfl⟩))
      | cons n rest => exact .inr (.inr (.inr ⟨n, rest, rfl, rfl, rfl, rfl⟩))

/-- A tape is made again from its values. -/
theorem ofInts_values (t : Tape) :
    ofInts (t.values.1.map Int.ofNat) (t.values.2.map Int.ofNat) = .ok t := by
  have hback := CellStack.ofInts_of_nonneg (CellStack.find?_map_ofNat t.values.1)
  have hfront := CellStack.ofInts_of_nonneg (CellStack.find?_map_ofNat t.values.2)
  rw [ofInts, hback, hfront, ok_bind, ok_bind, values, CellStack.map_toNat_values,
    CellStack.map_toNat_values, ofStacks_back_front]

/-- What is said about a negative number that was given for a counter. The number is named unless it
has too many digits to be written, and then only this is said. -/
inductive Reported (n : Int) : String → Prop
  | named (h : (Text.natural n.natAbs).length ≤ Text.maxDigits) :
      Reported n ("Counter value must be non-negative, got " ++ Text.integer n)
  | unnamed (h : Text.maxDigits < (Text.natural n.natAbs).length) : Reported n Text.tooManyDigits

theorem message_negativeCounter {n : Int} {text : String} :
    (Misuse.negativeCounter n).message = text ↔ Reported n text := by
  have hlength := Text.isWritable_iff_length n
  show Text.endingIn "Counter value must be non-negative, got " n = text ↔ _
  rw [Text.endingIn]
  by_cases h : Text.isWritable n = true
  · rw [if_pos h]
    constructor
    · rintro rfl
      exact .named (hlength.1 h)
    · intro hreported
      cases hreported with
      | named => rfl
      | unnamed hlong => exact absurd (hlength.1 h) (Nat.not_le.2 hlong)
  · rw [if_neg h]
    constructor
    · rintro rfl
      exact .unnamed (Nat.not_le.1 fun hle => h (hlength.2 hle))
    · intro hreported
      cases hreported with
      | named hshort => exact absurd (hlength.2 hshort) h
      | unnamed => rfl

/-- Why two lists of numbers make no tape, and what is said about it: the first negative number of
the back, or else of the front, or else that there is no current cell. -/
inductive Refused (back front : List Int) : Misuse → String → Prop
  | back {n : Int} {text : String} (hback : back.find? (· < 0) = some n)
      (htext : Reported n text) : Refused back front (.negativeCounter n) text
  | front {n : Int} {text : String} (hback : back.find? (· < 0) = none)
      (hfront : front.find? (· < 0) = some n) (htext : Reported n text) :
      Refused back front (.negativeCounter n) text
  | empty (hback : back = []) (hfront : front.find? (· < 0) = none) :
      Refused back front .noCurrentCell "Tape back must hold the current cell"

theorem ofInts_eq_error_iff {back front : List Int} {e : Misuse} {text : String} :
    (ofInts back front = .error e ∧ e.message = text) ↔ Refused back front e text := by
  constructor
  · rintro ⟨he, htext⟩
    obtain ⟨n, hback, h⟩ | ⟨hback, n, hfront, h⟩ | ⟨hback, hfront, h⟩ | ⟨n, rest, -, -, -, h⟩ :=
      ofInts_cases back front
    · cases h.symm.trans he
      exact .back hback (message_negativeCounter.1 htext)
    · cases h.symm.trans he
      exact .front hback hfront (message_negativeCounter.1 htext)
    · cases h.symm.trans he
      cases htext
      exact .empty hback hfront
    · cases h.symm.trans he
  · intro h
    cases h with
    | back hback htext =>
      refine ⟨?_, message_negativeCounter.2 htext⟩
      rw [ofInts, CellStack.ofInts_of_negative hback]
      rfl
    | front hback hfront htext =>
      refine ⟨?_, message_negativeCounter.2 htext⟩
      rw [ofInts, CellStack.ofInts_of_nonneg hback, CellStack.ofInts_of_negative hfront]
      rfl
    | empty hback hfront =>
      refine ⟨?_, rfl⟩
      rw [hback, ofInts, CellStack.ofInts_of_nonneg hfront]
      rfl

theorem exists_ofInts_iff (back front : List Int) :
    (∃ t, ofInts back front = .ok t) ↔ back ≠ [] ∧ ∀ n ∈ back ++ front, 0 ≤ n := by
  have hall : (∀ n ∈ back ++ front, 0 ≤ n) ↔
      back.find? (· < 0) = none ∧ front.find? (· < 0) = none := by
    rw [CellStack.find?_negative_eq_none_iff, CellStack.find?_negative_eq_none_iff,
      List.forall_mem_append]
  rw [hall]
  constructor
  · rintro ⟨t, ht⟩
    obtain ⟨n, -, h⟩ | ⟨-, n, -, h⟩ | ⟨-, -, h⟩ | ⟨n, rest, rfl, hback, hfront, -⟩ :=
      ofInts_cases back front
    · cases h.symm.trans ht
    · cases h.symm.trans ht
    · cases h.symm.trans ht
    · exact ⟨List.cons_ne_nil n rest, hback, hfront⟩
  · rintro ⟨hne, hback, hfront⟩
    obtain ⟨n, rest, rfl⟩ := List.exists_cons_of_ne_nil hne
    rw [ofInts, CellStack.ofInts_of_nonneg hback, CellStack.ofInts_of_nonneg hfront]
    exact ⟨_, rfl⟩

/-- The values of a tape are the numbers that it was made from, the first of them under the head. -/
theorem values_of_ofInts {back front : List Int} {t : Tape} (h : ofInts back front = .ok t) :
    t.values.1.map Int.ofNat = back ∧ t.values.2.map Int.ofNat = front ∧
      back.head? = some (t.current.value : Int) := by
  obtain ⟨n, -, he⟩ | ⟨-, n, -, he⟩ | ⟨-, -, he⟩ | ⟨n, rest, rfl, hback, hfront, ht⟩ :=
    ofInts_cases back front
  · cases he.symm.trans h
  · cases he.symm.trans h
  · cases he.symm.trans h
  · cases ht.symm.trans h
    have hvalues := CellStack.values_map_toNat hback
    refine ⟨hvalues, CellStack.values_map_toNat hfront, ?_⟩
    rw [List.head?_cons, ← (List.cons.inj hvalues).1]
    rfl

end Tape

/-! ### Chains -/

namespace LinkedCounter

/-- The marks of a counter, as many as its size says. -/
def marks (c : LinkedCounter) : List Token := List.replicate c.size .mark

theorem ofInt_eq (n : Int) :
    ofInt n = ((Counter.ofInt n).mapError Error.misuse).map Counter.linked := by
  cases n <;> rfl

theorem ofMarks_eq (ts : List Token) :
    ofMarks ts = ((Counter.ofMarks ts).mapError Error.misuse).map Counter.linked := by
  unfold ofMarks Counter.ofMarks
  split <;> rfl

theorem mapM_ofInt (numbers : List Int) :
    numbers.mapM ofInt =
      ((CellStack.ofInts numbers).mapError Error.misuse).map (List.map Counter.linked) := by
  unfold CellStack.ofInts
  induction numbers with
  | nil => rfl
  | cons n numbers ih =>
    rw [List.mapM_cons, List.mapM_cons, ih, ofInt_eq]
    cases Counter.ofInt n with
    | error e => rfl
    | ok c => cases numbers.mapM Counter.ofInt <;> rfl

end LinkedCounter

theorem LinkedStack.ofCells_linked (s : CellStack) :
    ofCells (s.map Counter.linked) = s.linked := by
  induction s with
  | nil => rfl
  | cons c s ih => exact congrArg (push · c.linked) ih

theorem LinkedTape.ofStacks_linked (back front : CellStack) :
    ofStacks (some back.linked) (some front.linked) =
      ((Tape.ofStacks back front).mapError Error.misuse).map Tape.linked := by
  cases back with
  | nil => rfl
  | cons c left => exact ofStacks_push _ _ _

/-- A linked tape is made from numbers as the plain one is. -/
theorem LinkedTape.ofInts_eq (back front : List Int) :
    ofInts back front = ((Tape.ofInts back front).mapError Error.misuse).map Tape.linked := by
  rw [ofInts, Tape.ofInts, LinkedCounter.mapM_ofInt, LinkedCounter.mapM_ofInt]
  cases CellStack.ofInts back with
  | error e => rfl
  | ok b =>
    cases CellStack.ofInts front with
    | error e => rfl
    | ok f =>
      show ofStacks (some (.ofCells (b.map Counter.linked)))
        (some (.ofCells (f.map Counter.linked))) = _
      rw [LinkedStack.ofCells_linked, LinkedStack.ofCells_linked, ofStacks_linked]
      rfl

theorem LinkedCounter.ofMarks_eq_error_iff (ts : List Token) (e : Error) :
    ofMarks ts = .error e ↔ e = .misuse .notMark ∧ ∃ x ∈ ts, x ≠ .mark := by
  have hall : (ts.all (· = .mark)) = true ↔ ¬ ∃ x ∈ ts, x ≠ Token.mark := by
    simp
  rw [ofMarks_eq, Counter.ofMarks]
  by_cases h : ts.all (· = .mark) = true
  · rw [if_pos h]
    constructor
    · intro he
      cases he
    · rintro ⟨-, hx⟩
      exact absurd hx (hall.1 h)
  · rw [if_neg h]
    have hx : ∃ x ∈ ts, x ≠ Token.mark := Classical.not_not.1 fun hx => h (hall.2 hx)
    exact ⟨fun he => ⟨(Except.error.inj he).symm, hx⟩, fun he => congrArg Except.error he.1.symm⟩

/-! ### There and back -/

/-- **Numbers and tapes.** Two lists of numbers make a tape exactly when the back is not empty and
no number is negative; then the values of the tape are these numbers, and that of the current cell
is the first. Otherwise the first negative number of the back is reported, or else that of the
front, or else that the current cell is missing. Every tape is made again from its values and every
counter from its marks, while tokens that are not all marks make no counter. With links it is the
same, and what is made again is the same as what was there. -/
theorem Tape.ofInts_round_trip :
    (∀ back front,
      ((∃ t, ofInts back front = .ok t) ↔ back ≠ [] ∧ ∀ n ∈ back ++ front, 0 ≤ n) ∧
      (∀ t, ofInts back front = .ok t →
        t.values.1.map Int.ofNat = back ∧ t.values.2.map Int.ofNat = front ∧
          back.head? = some (t.current.value : Int)) ∧
      (∀ e text, ofInts back front = .error e ∧ e.message = text ↔ Refused back front e text) ∧
      LinkedTape.ofInts back front = ((ofInts back front).mapError Error.misuse).map linked) ∧
    (∀ t : Tape, ofInts (t.values.1.map Int.ofNat) (t.values.2.map Int.ofNat) = .ok t) ∧
    (∀ t, LinkedValue.Made (.tape t) → ∃ back front u, t.values? = some (back, front) ∧
      LinkedTape.ofInts (back.map Int.ofNat) (front.map Int.ofNat) = .ok u ∧
      u.equals? t = some true) ∧
    (∀ c : LinkedCounter, ∃ d, LinkedCounter.ofMarks c.marks = .ok d ∧ d.equals c = true) ∧
    ∀ ts e, LinkedCounter.ofMarks ts = .error e ↔ e = .misuse .notMark ∧ ∃ x ∈ ts, x ≠ .mark := by
  refine ⟨fun back front => ⟨exists_ofInts_iff back front, fun t => values_of_ofInts,
    fun e text => ofInts_eq_error_iff, LinkedTape.ofInts_eq back front⟩, ofInts_values,
    fun t ht => ?_, fun c => ?_, LinkedCounter.ofMarks_eq_error_iff⟩
  · obtain ⟨a, rfl⟩ := ht.isPlain
    refine ⟨a.values.1, a.values.2, a.linked, a.values?_linked, ?_, by simp⟩
    rw [LinkedTape.ofInts_eq, a.ofInts_values]
    rfl
  · have hmarks : c.marks = Counter.marks ⟨c.size⟩ := rfl
    refine ⟨Counter.linked ⟨c.size⟩, ?_, by simp [LinkedCounter.equals]⟩
    rw [hmarks, LinkedCounter.ofMarks_eq, Counter.ofMarks_marks]
    rfl

/-- Numbers with two faults, of which that of the back is reported; a tape made from numbers, whose
values are these; and a counter of two marks, made again from them. -/
theorem Tape.ofInts_round_trip_faults :
    (ofInts [3, -1, -4] [-2] = .error (.negativeCounter (-1)) ∧
      (Misuse.negativeCounter (-1)).message = "Counter value must be non-negative, got -1") ∧
    (∃ t, ofInts [3, 0] [5] = .ok t ∧ t.values.1.map Int.ofNat = [3, 0] ∧
      LinkedValue.Made (.tape t.linked) ∧ ∃ back front u, t.linked.values? = some (back, front) ∧
        LinkedTape.ofInts (back.map Int.ofNat) (front.map Int.ofNat) = .ok u ∧
        u.equals? t.linked = some true) ∧
    ∃ d, LinkedCounter.ofMarks (LinkedCounter.bare 2).marks = .ok d ∧
      d.equals (.bare 2) = true := by
  obtain ⟨hnumbers, -, htapes, hcounters, -⟩ := Tape.ofInts_round_trip
  have hmade : ofInts [3, 0] [5] = .ok ⟨⟨3⟩, [⟨0⟩], [⟨5⟩]⟩ := rfl
  have htape : LinkedValue.Made (.tape (linked ⟨⟨3⟩, [⟨0⟩], [⟨5⟩]⟩)) :=
    .ofInts (show LinkedTape.ofInts [3, 0] [5] = _ from rfl)
  exact ⟨((hnumbers [3, -1, -4] [-2]).2.2.1 _ _).2 (.back rfl (.named (by decide))),
    ⟨_, hmade, ((hnumbers [3, 0] [5]).2.1 _ hmade).1, htape, htapes _ htape⟩,
    hcounters (.bare 2)⟩

/-- The greatest negative number of too many digits is refused like any other, but what is said does
not name it. And a stack that was given an absent cell has a size but no values, so that a tape of
it is not made again from its values. -/
theorem Tape.ofInts_long_number :
    (ofInts [-(Nat.pow 10 Text.maxDigits)] [] =
        .error (.negativeCounter (-(Nat.pow 10 Text.maxDigits))) ∧
      (Misuse.negativeCounter (-(Nat.pow 10 Text.maxDigits))).message = Text.tooManyDigits ∧
      Text.tooManyDigits ≠ "Counter value must be non-negative, got " ++
        Text.integer (-(Nat.pow 10 Text.maxDigits))) ∧
    ∃ t, LinkedTape.ofStacks (some (.link none .empty 1)) (some .empty) = .ok t ∧
      t.values? = some ([], []) ∧
      LinkedTape.ofInts [] [] = .error (.misuse .noCurrentCell) := by
  -- the number is never written out: its digits are only counted
  generalize hn : -(Nat.pow 10 Text.maxDigits : Int) = n
  have hsize : n.natAbs = Nat.pow 10 Text.maxDigits := by
    rw [← hn, Int.natAbs_neg, Int.natAbs_natCast]
  have hlong : Text.isWritable n = false := by
    rw [Bool.eq_false_iff, ne_eq, Text.isWritable_iff, hsize]
    exact Nat.lt_irrefl _
  refine ⟨⟨?_, if_neg (by simp [hlong]), ?_⟩, _, rfl, rfl, rfl⟩
  · have hpos : ∀ k, 0 < Nat.pow 10 k := fun k => Nat.pow_pos (by decide)
    have hneg : n < 0 := by
      have := hpos Text.maxDigits
      omega
    rw [ofInts, CellStack.ofInts_of_negative (List.find?_cons_of_pos (by simpa using hneg))]
    rfl
  · intro h
    have hfirst : Text.tooManyDigits.toList.head? = some 'E' := by decide +kernel
    rw [h, String.toList_append, List.head?_append] at hfirst
    exact absurd hfirst (by simp)

end MarkTape
