import MarkTape.Proofs.Blanking
import MarkTape.Proofs.Failures

/-!
# Programs as text and back

A program can be written down by its symbols, and such a text is read back as the same program. The
symbol of the mark is also part of the openers and closers of comments, but a comment needs a slash,
and no symbol is one: so a sequence with a mark among its tokens is rejected at the first mark. The
reader and the machine agree on what a program is. In the other direction, the symbols of what was
read are the text without its comments and its white space.

* `Source.blankComments_symbols`: symbols are never taken for a comment;
* `Source.scan_symbols`, `Source.rejects_symbols`: they are read one by one, up to a mark;
* `Item.isOperator`, `textOf_operators`: what is left of a row of items without blanks and comments;
* `Token.symbols_round_trip`: token sequences as text and back.
-/

namespace MarkTape

namespace Source

/-! ### Symbols as text -/

/-- There is no comment among symbols, the mark's included. -/
theorem blankComments_symbols (ts : List Token) :
    blankComments (ts.map Token.symbol) = ts.map Token.symbol := by
  have hslash : '/' ∉ ts.map Token.symbol := by
    intro hmem
    obtain ⟨x, -, hx⟩ := List.mem_map.1 hmem
    exact symbol_ne_slash x hx
  have hfree := commentFree_nil.append_left hslash
  rw [List.append_nil] at hfree
  exact blankComments_eq_self hfree

theorem symbol_ne_newline (x : Token) : x.symbol ≠ '\n' := by
  cases x <;> decide

/-- Instructions are read from their symbols one by one, all on one line. -/
theorem scan_symbols {ts : List Token} (h : Token.mark ∉ ts) (p : Position) (cs : List Char) :
    scan p (ts.map Token.symbol ++ cs) =
      (scan ⟨p.line, p.column + ts.length⟩ cs).map (ts ++ ·) := by
  induction ts generalizing p with
  | nil =>
    show scan p cs = (scan p cs).map ([] ++ ·)
    cases scan p cs <;> rfl
  | cons x ts ih =>
    obtain ⟨hx, hts⟩ := List.ne_and_not_mem_of_not_mem_cons h
    rw [List.map_cons, List.cons_append, scan, isBlank_symbol,
      operator?_symbol (Token.isInstruction_iff.2 hx.symm),
      Position.next_of_ne p (symbol_ne_newline x), ih hts, List.length_cons, Nat.add_assoc,
      Nat.add_comm 1]
    cases scan ⟨p.line, p.column + (ts.length + 1)⟩ cs <;> rfl

/-- Symbols are rejected at the first mark. -/
theorem rejects_symbols {ts : List Token} (h : Token.mark ∈ ts) :
    Rejects (Token.symbols ts) '*' 1 (1 + ts.idxOf .mark) := by
  obtain ⟨front, rest, rfl, hfront⟩ := List.eq_append_cons_of_mem h
  have hindex : (front ++ Token.mark :: rest).idxOf .mark = front.length := by
    rw [List.idxOf_append_of_notMem hfront, List.idxOf_cons_self, Nat.add_zero]
  rw [rejects_iff_scan, Token.symbols, String.toList_ofList, blankComments_symbols, hindex,
    List.map_append, scan_symbols hfront]
  rfl

/-! ### Text without blanks and comments -/

/-- The item is the symbol of an instruction: it is neither white space nor a comment. -/
def Item.isOperator : Item → Bool
  | .operator _ _ => true
  | _ => false

/-- Without blanks and comments, the symbols of the instructions are left. -/
theorem textOf_operators (items : List Item) :
    textOf (items.filter Item.isOperator) = (tokensOf items).map Token.symbol := by
  induction items with
  | nil => rfl
  | cons i items ih =>
    cases i with
    | blank c hc => exact ih
    | operator x hx => exact congrArg (x.symbol :: ·) ih
    | line body hbody => exact ih
    | block body hbody => exact ih

end Source

/-! ### Round trips -/

/-- **Token sequences as text and back.** Without a mark, a sequence is read back from its symbols,
and running the text is running the sequence. With a mark, the text is rejected at the first one, on
the first line, and no machine starts on the sequence. And when a text is read as the sequence, the
symbols are what is left of the text without its blanks and comments, in whatever way it is a row
of items, and running them is running the text. -/
theorem Token.symbols_round_trip (ts : List Token) :
    (Token.mark ∉ ts → Source.tokenize (symbols ts) = .ok ts ∧
      ∀ o t, runText o (symbols ts) t = runTokens o ts t) ∧
    (Token.mark ∈ ts → Source.Rejects (symbols ts) '*' 1 (1 + ts.idxOf .mark) ∧
      ∀ (m : Machine) t, m.start ts t = .error (.misuse (.notInstruction .mark))) ∧
    ∀ s, Source.tokenize s = .ok ts →
      (∃ items, Source.Placed items [] ∧ Source.textOf items = s.toList) ∧
      (∀ items, Source.Placed items [] → Source.textOf items = s.toList →
        (symbols ts).toList = Source.textOf (items.filter Source.Item.isOperator)) ∧
      ∀ o t, runText o (symbols ts) t = runText o s t := by
  have hread : Token.mark ∉ ts → Source.tokenize (symbols ts) = .ok ts := fun h =>
    Source.tokenize_of_symbols h rfl
  refine ⟨fun h => ⟨hread h, fun o t => runText_of_ok (hread h) o t⟩,
    fun h => ⟨Source.rejects_symbols h, fun m t => Machine.start_of_mark_mem h⟩, fun s hs => ?_⟩
  obtain ⟨items, hplaced, htext, -⟩ := Source.exists_items_of_tokenize hs
  refine ⟨⟨items, hplaced, htext⟩, fun items' hplaced' htext' => ?_, fun o t => ?_⟩
  · have htokens : Source.tokensOf items' = ts := by
      have hs' := Source.tokenize_of_items hplaced' htext'
      rw [hs] at hs'
      exact (Except.ok.inj hs').symm
    rw [Source.textOf_operators, htokens, symbols, String.toList_ofList]
  · rw [runText_of_ok hs, runText_of_ok (hread (Source.mark_notMem_of_tokenize hs))]

/-- A sequence with two marks, one with none, and a text with blanks and comments that is read as
the latter. -/
theorem Token.symbols_round_trip_marks :
    (Token.mark ∈ [Token.inc, .mark, .dec, .mark] ∧
      Source.Rejects (symbols [.inc, .mark, .dec, .mark]) '*' 1 2) ∧
    (Token.mark ∉ [Token.inc, .dec] ∧ Source.tokenize (symbols [.inc, .dec]) = .ok [.inc, .dec]) ∧
    Source.tokenize "+ /*<*/-//>" = .ok [.inc, .dec] ∧
    (∃ items, Source.Placed items [] ∧ Source.textOf items = "+ /*<*/-//>".toList ∧
      items.length = 5 ∧
      (symbols [.inc, .dec]).toList = Source.textOf (items.filter Source.Item.isOperator)) ∧
    ∀ o t, runText o (symbols [.inc, .dec]) t = runText o "+ /*<*/-//>" t := by
  obtain ⟨items, hplaced, htext, htokens, hlength⟩ : ∃ items, Source.Placed items [] ∧
      Source.textOf items = "+ /*<*/-//>".toList ∧ Source.tokensOf items = [.inc, .dec] ∧
      items.length = 5 :=
    ⟨[.operator .inc rfl, .blank ' ' rfl, .block ['<'] (by decide), .operator .dec rfl,
      .line ['>'] (by decide)], ⟨trivial, trivial, trivial, trivial, .inl rfl, trivial⟩,
      by decide, rfl, rfl⟩
  have hread : Source.tokenize "+ /*<*/-//>" = .ok [.inc, .dec] := by
    rw [← htokens]
    exact Source.tokenize_of_items hplaced htext
  obtain ⟨-, hitems, hrun⟩ := (symbols_round_trip [.inc, .dec]).2.2 _ hread
  refine ⟨⟨by decide, ?_⟩, ⟨by decide, ?_⟩, hread,
    ⟨items, hplaced, htext, hlength, hitems items hplaced htext⟩, hrun⟩
  · exact ((symbols_round_trip _).2.1 (by decide)).1
  · exact ((symbols_round_trip _).1 (by decide)).1

end MarkTape
