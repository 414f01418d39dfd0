import MarkTape.Tape

/-!
# The effect of a program on a tape

What the rules of a program do to a tape, apart from any machine that counts steps or keeps a
log. The effects are applied in order, up to the first rule that does not apply.

* `Token.effect`: what one token does to a tape;
* `Tape.after`: the tape after a program, or the fault that ends it;
* `Tape.failsAt`, `Tape.faultIndex`: where the first fault comes up;
* `Tape.after_ok_or_fault`: a program runs through, or it is cut at its first fault.
-/

namespace MarkTape

/-! ### Chains of results -/

@[simp] theorem ok_bind {ε α β : Type} (a : α) (f : α → Except ε β) :
    (Except.ok a >>= f) = f a := rfl

@[simp] theorem error_bind {ε α β : Type} (e : ε) (f : α → Except ε β) :
    (Except.error e >>= f) = .error e := rfl

theorem bind_eq_ok_iff {ε α β : Type} {r : Except ε α} {f : α → Except ε β} {b : β} :
    (r >>= f) = .ok b ↔ ∃ a, r = .ok a ∧ f a = .ok b := by
  cases r <;> simp

/-! ### One token -/

/-- What a token does to a tape: its rule, and nothing for the mark, which has none. -/
def Token.effect (x : Token) : Rule := x.rule?.getD .ok

namespace Token

@[simp] theorem effect_left (t : Tape) : left.effect t = t.moveLeft := rfl

@[simp] theorem effect_right (t : Tape) : right.effect t = .ok t.moveRight := rfl

@[simp] theorem effect_inc (t : Tape) : inc.effect t = .ok t.increment := rfl

@[simp] theorem effect_dec (t : Tape) : dec.effect t = t.decrement := rfl

theorem rule?_eq_effect {x : Token} (hx : x ≠ .mark) : x.rule? = some x.effect := by
  have hsome : x.rule?.isSome = true := x.isSome_rule?.trans (isInstruction_iff.2 hx)
  obtain ⟨rule, hrule⟩ := Option.isSome_iff_exists.1 hsome
  rw [effect, hrule, Option.getD_some]

/-- Only two instructions can fail: a move to the left on the leftmost cell, and a decrement
of an empty one. -/
theorem effect_eq_error_iff {x : Token} {t : Tape} {f : Fault} :
    x.effect t = .error f ↔
      (x = .left ∧ f = .underflow ∧ t.left = []) ∨
        (x = .dec ∧ f = .zeroCell ∧ t.current = .zero) := by
  obtain ⟨⟨n⟩, l, r⟩ := t
  cases x with
  | left => cases l <;> simp [eq_comm]
  | right => simp
  | inc => simp
  | dec => cases n <;> simp [Counter.zero, eq_comm]
  | mark => simp [effect, rule?]

end Token

/-! ### A program -/

namespace Tape

/-- The tape after the tokens of `p` have had their effects in order, or the first fault. -/
def after (t : Tape) (p : List Token) : Except Fault Tape := p.foldlM (fun u x => x.effect u) t

@[simp] theorem after_nil (t : Tape) : t.after [] = .ok t := rfl

@[simp] theorem after_cons (t : Tape) (x : Token) (p : List Token) :
    t.after (x :: p) = x.effect t >>= fun u => u.after p := rfl

theorem after_cons_eq_ok_iff {t u : Tape} {x : Token} {p : List Token} :
    t.after (x :: p) = .ok u ↔ ∃ v, x.effect t = .ok v ∧ v.after p = .ok u := by
  rw [after_cons, bind_eq_ok_iff]

theorem after_append (t : Tape) (p q : List Token) :
    t.after (p ++ q) = t.after p >>= fun u => u.after q := by
  simp only [after, List.foldlM_append]

/-- The first effects of a program that runs through are without fault. -/
theorem after_take_of_ok {t u : Tape} {p : List Token} (h : t.after p = .ok u) (i : Nat) :
    ∃ v, t.after (p.take i) = .ok v ∧ v.after (p.drop i) = .ok u := by
  rw [← List.take_append_drop i p, after_append] at h
  exact bind_eq_ok_iff.1 h

theorem after_take_succ {t : Tape} {p : List Token} {x : Token} {i : Nat} (hx : p[i]? = some x) :
    t.after (p.take (i + 1)) = t.after (p.take i) >>= x.effect := by
  rw [List.take_add_one, hx, Option.toList_some, after_append]
  cases t.after (p.take i) with
  | error f => rfl
  | ok u => simp only [ok_bind, after_cons, after_nil]; cases x.effect u <;> rfl

/-- A program runs through, or it is cut in two at its first fault. -/
theorem after_ok_or_fault (t : Tape) (p : List Token) :
    (∃ u, t.after p = .ok u) ∨
      ∃ q x r u f, p = q ++ x :: r ∧ t.after q = .ok u ∧ x.effect u = .error f := by
  induction p generalizing t with
  | nil => exact .inl ⟨t, rfl⟩
  | cons x p ih =>
    cases hx : x.effect t with
    | error f => exact .inr ⟨[], x, p, t, f, rfl, rfl, hx⟩
    | ok v =>
      rcases ih v with ⟨u, hu⟩ | ⟨q, y, r, u, f, rfl, hq, hy⟩
      · exact .inl ⟨u, by rw [after_cons, hx, ok_bind, hu]⟩
      · exact .inr ⟨x :: q, y, r, u, f, rfl, by rw [after_cons, hx, ok_bind, hq], hy⟩

/-! ### The first fault -/

/-- Instruction number `i` of `p` fails on the tape to which the instructions before it lead. -/
def failsAt (t : Tape) (p : List Token) (i : Nat) : Bool :=
  match p[i]?, t.after (p.take i) with
  | some x, .ok u => !(x.effect u).isOk
  | _, _ => false

/-- The number of the first instruction of `p` that fails, or the length of `p` when none does. -/
def faultIndex (t : Tape) (p : List Token) : Nat := (List.range p.length).findIdx (t.failsAt p)

theorem failsAt_eq_false_of_after {t u : Tape} {q r : List Token} (h : t.after q = .ok u)
    {i : Nat} (hi : i < q.length) : t.failsAt (q ++ r) i = false := by
  obtain ⟨v, hv, hd⟩ := after_take_of_ok h i
  rw [List.drop_eq_getElem_cons hi] at hd
  obtain ⟨w, hw, -⟩ := after_cons_eq_ok_iff.1 hd
  unfold failsAt
  rw [List.getElem?_append_left hi, List.getElem?_eq_getElem hi,
    List.take_append_of_le_length (Nat.le_of_lt hi), hv]
  simp [hw, Except.isOk, Except.toBool]

theorem faultIndex_of_ok {t u : Tape} {p : List Token} (h : t.after p = .ok u) :
    t.faultIndex p = p.length := by
  have hp : ∀ i ∈ List.range p.length, t.failsAt p i = false := by
    intro i hi
    simpa using failsAt_eq_false_of_after (r := []) h (List.mem_range.1 hi)
  rw [faultIndex, List.findIdx_eq_length_of_false hp, List.length_range]

theorem faultIndex_of_fault {t u : Tape} {q r : List Token} {x : Token} {f : Fault}
    (h : t.after q = .ok u) (hx : x.effect u = .error f) :
    t.faultIndex (q ++ x :: r) = q.length := by
  have hlen : q.length < (List.range (q ++ x :: r).length).length := by simp
  rw [faultIndex, List.findIdx_eq hlen]
  refine ⟨?_, fun i hi => ?_⟩
  · simp [failsAt, h, hx, Except.isOk, Except.toBool]
  · simpa using failsAt_eq_false_of_after (r := x :: r) h hi

theorem faultIndex_le_length (t : Tape) (p : List Token) : t.faultIndex p ≤ p.length := by
  have h : t.faultIndex p ≤ (List.range p.length).length := List.findIdx_le_length
  rwa [List.length_range] at h

theorem after_ok_of_faultIndex_eq {t : Tape} {p : List Token} (h : t.faultIndex p = p.length) :
    ∃ u, t.after p = .ok u := by
  rcases t.after_ok_or_fault p with hu | ⟨q, x, r, u, f, rfl, hq, hx⟩
  · exact hu
  · rw [faultIndex_of_fault hq hx] at h
    simp at h

/-- Up to the first fault every tape is reached. -/
theorem after_take_of_le_faultIndex {t : Tape} {p : List Token} {i : Nat}
    (hi : i ≤ t.faultIndex p) : ∃ u, t.after (p.take i) = .ok u := by
  rcases t.after_ok_or_fault p with ⟨u, hu⟩ | ⟨q, x, r, u, f, rfl, hq, hx⟩
  · obtain ⟨v, hv, -⟩ := after_take_of_ok hu i
    exact ⟨v, hv⟩
  · rw [faultIndex_of_fault hq hx] at hi
    obtain ⟨v, hv, -⟩ := after_take_of_ok hq i
    exact ⟨v, by rw [List.take_append_of_le_length hi, hv]⟩

/-- At the first fault the program is cut in two. -/
theorem exists_fault_of_faultIndex_lt {t : Tape} {p : List Token}
    (h : t.faultIndex p < p.length) :
    ∃ q x r u f, p = q ++ x :: r ∧ q.length = t.faultIndex p ∧ t.after q = .ok u ∧
      x.effect u = .error f := by
  rcases t.after_ok_or_fault p with ⟨u, hu⟩ | ⟨q, x, r, u, f, rfl, hq, hx⟩
  · rw [faultIndex_of_ok hu] at h
    exact absurd h (Nat.lt_irrefl _)
  · exact ⟨q, x, r, u, f, rfl, (faultIndex_of_fault hq hx).symm, hq, hx⟩

end Tape

end MarkTape
