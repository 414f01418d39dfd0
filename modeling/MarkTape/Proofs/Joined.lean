import MarkTape.Proofs.Offence

/-!
# Texts joined by a newline

Comments are looked for in the whole text, so a comment that is open at the end of one text might
reach into the next. It cannot when the first text is accepted by itself: then nothing is open at
its end but a line comment, and the newline ends it. So a text below an accepted one is read as if
it stood alone, and the places in it are only lower by the lines above.

* `Placed.newline`: a row of items that is a whole text may also stand before a newline;
* `Position.lower`, `Stray.lower`: the same column some lines further down;
* `scan_lower`: scanning does not depend on the line where it starts;
* `scan_blankComments_newline`, `scan_blankComments_append`: reading below a row of items, and below
  an accepted text;
* `tokenize_append_newline`: the joined text is accepted exactly when the second is, and the place
  of a rejection moves down.
-/

namespace MarkTape.Source

/-! ### The end of an accepted text -/

/-- Nothing but a line comment is open at the end of a row of items, and a newline ends it. -/
theorem Placed.newline {items : List Item} (h : Placed items []) (cs : List Char) :
    Placed items ('\n' :: cs) := by
  induction items with
  | nil => trivial
  | cons i items ih =>
    obtain ⟨hi, hitems⟩ := h
    refine ⟨?_, ih hitems⟩
    cases i with
    | blank c hc => trivial
    | operator x hx => trivial
    | block body hbody => trivial
    | line body hbody =>
      rw [List.append_nil] at hi
      rcases hi with htext | ⟨ds, htext⟩
      · exact .inr ⟨cs, by rw [htext]; rfl⟩
      · exact .inr ⟨ds ++ '\n' :: cs, by rw [htext]; rfl⟩

/-! ### Places further down -/

/-- The same column, `k` lines further down. -/
def Position.lower (k : Nat) (p : Position) : Position := ⟨p.line + k, p.column⟩

/-- The same character, `k` lines further down. -/
def Stray.lower (k : Nat) (s : Stray) : Stray := ⟨s.char, s.place.lower k⟩

theorem Position.next_lower (k : Nat) (p : Position) (c : Char) :
    (p.lower k).next c = (p.next c).lower k := by
  by_cases hc : c = '\n'
  · subst hc
    rw [next_newline, next_newline, lower, lower, Nat.add_right_comm]
  · rw [next_of_ne _ hc, next_of_ne _ hc]
    rfl

theorem Stray.lower_inj (k : Nat) (s s' : Stray) : s.lower k = s'.lower k ↔ s = s' := by
  obtain ⟨c, line, column⟩ := s
  obtain ⟨c', line', column'⟩ := s'
  simp [lower, Position.lower]

/-- Scanning does not depend on the line where it starts. -/
theorem scan_lower (k : Nat) (p : Position) (cs : List Char) :
    scan (p.lower k) cs = (scan p cs).mapError (Stray.lower k) := by
  induction cs generalizing p with
  | nil => rfl
  | cons c cs ih =>
    rw [scan, scan, Position.next_lower, ih]
    by_cases hblank : Text.isBlank c = true
    · rw [if_pos hblank, if_pos hblank]
    · rw [if_neg hblank, if_neg hblank]
      cases operator? c with
      | none => rfl
      | some x => cases scan (p.next c) cs <;> rfl

/-- Each newline leads one line down. -/
theorem Position.line_after (p : Position) (cs : List Char) :
    (p.after cs).line = p.line + cs.count '\n' := by
  induction cs generalizing p with
  | nil => rfl
  | cons c cs ih =>
    rw [after_cons, ih]
    by_cases hc : c = '\n'
    · subst hc
      rw [next_newline, List.count_cons_self]
      exact Nat.add_right_comm _ _ _
    · rw [next_of_ne p hc, List.count_cons_of_ne hc]

/-- After a newline a text starts again, below the lines before it. -/
theorem Position.after_append_newline (cs : List Char) :
    start.after (cs ++ ['\n']) = start.lower (cs.count '\n' + 1) := by
  rw [after_append]
  show (start.after cs).next '\n' = _
  rw [next_newline, line_after]
  rfl

/-! ### Reading below an accepted text -/

/-- Below a row of items and a newline, text is read as if it stood alone. -/
theorem scan_blankComments_newline {items : List Item} (h : Placed items []) (cs : List Char) :
    scan .start (blankComments (textOf items ++ '\n' :: cs)) =
      ((scan .start (blankComments cs)).mapError
        (Stray.lower ((textOf items).count '\n' + 1))).map (tokensOf items ++ ·) := by
  have hbelow : scan (Position.start.after (textOf items)) (blankComments ('\n' :: cs)) =
      scan (Position.start.after (textOf items ++ ['\n'])) (blankComments cs) := by
    rw [blankComments_of_ne (by decide), scan, if_pos Text.isBlank_newline, Position.after_append]
    rfl
  rw [scan_blankComments_items (h.newline cs), hbelow, Position.after_append_newline, scan_lower]

/-- Reading an accepted text, a newline and another text. -/
theorem scan_blankComments_append {s : String} {ts : List Token} (h : tokenize s = .ok ts)
    (t : String) :
    scan .start (blankComments (s ++ "\n" ++ t).toList) =
      ((scan .start (blankComments t.toList)).mapError
        (Stray.lower (s.toList.count '\n' + 1))).map (ts ++ ·) := by
  obtain ⟨items, hplaced, htext, rfl⟩ := exists_items_of_tokenize h
  have hjoined : (s ++ "\n" ++ t).toList = textOf items ++ '\n' :: t.toList := by
    rw [String.toList_append, String.toList_append, htext, List.append_assoc]
    rfl
  rw [hjoined, scan_blankComments_newline hplaced, htext]

/-- The joined text is accepted exactly when the second is. -/
theorem tokenize_append_ok_iff {s : String} {ts : List Token} (h : tokenize s = .ok ts)
    (t : String) (us : List Token) :
    tokenize (s ++ "\n" ++ t) = .ok us ↔ ∃ vs, tokenize t = .ok vs ∧ us = ts ++ vs := by
  simp only [tokenize_ok_iff_scan]
  rw [scan_blankComments_append h]
  cases scan .start (blankComments t.toList) with
  | error stray =>
    constructor
    · intro hus
      cases hus
    · rintro ⟨vs, hvs, -⟩
      cases hvs
  | ok vs =>
    constructor
    · intro hus
      exact ⟨vs, rfl, (Except.ok.inj hus).symm⟩
    · rintro ⟨vs', hvs, rfl⟩
      cases hvs
      rfl

/-- The place of a rejection moves down by the lines above it. -/
theorem rejects_append_iff {s : String} {ts : List Token} (h : tokenize s = .ok ts) (t : String)
    (c : Char) (line column : Nat) :
    Rejects (s ++ "\n" ++ t) c (line + s.toList.count '\n' + 1) column ↔
      Rejects t c line column := by
  rw [rejects_iff_scan, rejects_iff_scan, scan_blankComments_append h]
  cases scan .start (blankComments t.toList) with
  | ok vs =>
    constructor
    · intro hvs
      cases hvs
    · intro hvs
      cases hvs
  | error stray =>
    have hlower : stray.lower (s.toList.count '\n' + 1) =
          ⟨c, ⟨line + s.toList.count '\n' + 1, column⟩⟩ ↔ stray = ⟨c, ⟨line, column⟩⟩ :=
      Stray.lower_inj _ stray ⟨c, ⟨line, column⟩⟩
    constructor
    · intro hstray
      exact congrArg Except.error (hlower.1 (Except.error.inj hstray))
    · intro hstray
      exact congrArg Except.error (hlower.2 (Except.error.inj hstray))

/-- **A text below an accepted one.** The two texts, joined by a newline, are accepted exactly when
the second is, and then the instructions of the first come before those of the second. A rejection
of the second text becomes one of the joined text, for the same character in the same column, on a
line that is lower by the lines of the first; and every rejection of the second text is for some
character at some place. -/
theorem tokenize_append_newline {s : String} {ts : List Token} (h : tokenize s = .ok ts)
    (t : String) :
    (∀ us, tokenize (s ++ "\n" ++ t) = .ok us ↔ ∃ vs, tokenize t = .ok vs ∧ us = ts ++ vs) ∧
    (∀ c line column, Rejects t c line column ↔
      Rejects (s ++ "\n" ++ t) c (line + s.toList.count '\n' + 1) column) ∧
    ∀ r, tokenize t = .error r → ∃ c line column, Rejects t c line column := by
  refine ⟨tokenize_append_ok_iff h t, fun c line column => ?_, fun r hr => ?_⟩
  · exact (rejects_append_iff h t c line column).symm
  · exact exists_rejects_of_tokenize hr

/-- A text that ends in a line comment with an opener in it, above a text that is rejected on its
second line and above one that is accepted. -/
theorem tokenize_append_newline_open :
    tokenize "+/*\n*///*" = .ok [.inc] ∧ Rejects "<\n]" ']' 2 1 ∧
      Rejects ("+/*\n*///*" ++ "\n" ++ "<\n]") ']' 4 1 ∧
      tokenize ("+/*\n*///*" ++ "\n" ++ "<") = .ok [.inc, .left] := by
  have habove : tokenize "+/*\n*///*" = .ok [.inc] := by
    have hplaced : Placed
        [.operator .inc rfl, .block ['\n'] (by decide), .line ['*'] (by decide)] [] :=
      ⟨trivial, trivial, .inl rfl, trivial⟩
    exact tokenize_of_items hplaced (by decide)
  have hless : tokenize "<" = .ok [.left] := by
    have hplaced : Placed [.operator .left rfl] [] := ⟨trivial, trivial⟩
    exact tokenize_of_items hplaced (by decide)
  have hbelow : Rejects "<\n]" ']' 2 1 := by
    rw [rejects_iff_scan, show "<\n]".toList = ['<', '\n', ']'] from by decide,
      blankComments_of_ne (by decide), blankComments_of_ne (by decide),
      blankComments_of_ne (by decide), blankComments]
    rfl
  exact ⟨habove, hbelow, ((tokenize_append_newline habove "<\n]").2.1 ']' 2 1).1 hbelow,
    ((tokenize_append_newline habove "<").1 _).2 ⟨[.left], hless, rfl⟩⟩

end MarkTape.Source
