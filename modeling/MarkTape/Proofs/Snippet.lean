import MarkTape.Proofs.Window

/-!
# What is shown around a position

The rows around a position are written with a pen, and a pen may refuse. It is asked only for the
blanks before a caret, so only where there is a caret it can refuse to show a position, and it does
so when the column is no index number. A text that is rejected has its offending line in the window.
So there is one caret, and since no text is too long for index numbers, this is never refused.

* `HasFocus`: a caret is to be drawn;
* `contextWith_eq_pure`, `context_eq_farColumn`: what a pen writes, and what it may refuse;
* `PointsAt.exists_rows`: what is shown around a rejected character;
* `PointsAt.at_eq_ok`: a rejected character can always be shown;
* `context_eq_window`: what is shown around a position, and around a rejected character.
-/

namespace MarkTape.Source

/-! ### Columns that a caret cannot be drawn at -/

/-- The row of the line in focus is in the window, so a caret is to be drawn under it. -/
def HasFocus (lines : List String) (line margin : Int) : Prop :=
  ∃ i ∈ windowNumbers lines.length (max 1 line) margin, (i : Int) = max 1 line

theorem hasFocus_iff {lines : List String} {line margin : Int} :
    HasFocus lines line margin ↔ max 1 line ≤ lines.length ∧ 0 ≤ margin := by
  simp only [HasFocus, mem_windowNumbers]
  constructor
  · rintro ⟨i, hi, hfocus⟩
    omega
  · rintro ⟨hcount, hmargin⟩
    exact ⟨(max 1 line).toNat, by omega, by omega⟩

theorem mapM_eq_pure {m : Type → Type} [Monad m] [LawfulMonad m] {α β : Type} {f : α → m β}
    {g : α → β} {xs : List α} (h : ∀ x ∈ xs, f x = pure (g x)) :
    xs.mapM f = pure (xs.map g) := by
  induction xs with
  | nil => simp
  | cons x xs ih =>
    rw [List.mapM_cons, h x List.mem_cons_self, ih fun y hy => h y (List.mem_cons_of_mem x hy)]
    simp

/-- Where there is one way to fail, and one element does, the whole list fails that way. -/
theorem mapM_eq_error {ε α β : Type} {f : α → Except ε β} {e : ε} {xs : List α}
    (hways : ∀ x ∈ xs, f x = .error e ∨ ∃ y, f x = .ok y) (hfails : ∃ x ∈ xs, f x = .error e) :
    xs.mapM f = .error e := by
  induction xs with
  | nil =>
    obtain ⟨x, hx, -⟩ := hfails
    exact absurd hx List.not_mem_nil
  | cons x xs ih =>
    rw [List.mapM_cons]
    rcases hways x List.mem_cons_self with hx | ⟨y, hy⟩
    · rw [hx]
      rfl
    · obtain ⟨z, hz, hfail⟩ := hfails
      have hrest : z ∈ xs := by
        rcases List.mem_cons.1 hz with rfl | hz
        · cases hy.symm.trans hfail
        · exact hz
      rw [hy, ih (fun z hz => hways z (List.mem_cons_of_mem x hz)) ⟨z, hrest, hfail⟩]
      rfl

section Pens

variable {m : Type → Type} [Monad m] {pen : Pen m} {focus line column margin : Int}
  {lines : List String}

/-- A pen that writes the blanks before the caret writes the rows of a line; where there is no caret
it need not. -/
theorem rowsWith_eq_pure [LawfulMonad m] {text : String} {number : Nat}
    (h : focus - margin ≤ number ∧ (number : Int) ≤ focus + margin → (number : Int) = focus →
      pen.blanks (column - 1) = pure (Text.blanks (column - 1))) :
    rowsWith pen focus column margin text number =
      pure (rowsOf focus column margin text number) := by
  rw [rowsWith, rowsOf_eq]
  split
  · next hwindow =>
    split
    · next hfocus =>
      rw [h hwindow hfocus, pure_bind]
      rfl
    · rfl
  · rfl

/-- So it writes what is shown around a position. -/
theorem contextWith_eq_pure [LawfulMonad m]
    (h : HasFocus lines line margin → pen.blanks (column - 1) = pure (Text.blanks (column - 1))) :
    contextWith pen lines line column margin =
      pure (Text.joinLines (contextRows lines line column margin)) := by
  have hrows : ∀ p ∈ lines.zipIdx 1, rowsWith pen (max 1 line) column margin p.1 p.2 =
      pure (rowsOf (max 1 line) column margin p.1 p.2) := by
    rintro ⟨text, i⟩ hmem
    obtain ⟨hlow, hhigh, -⟩ := List.mem_zipIdx hmem
    refine rowsWith_eq_pure fun hwindow hfocus => h (hasFocus_iff.2 ?_)
    simp only at hfocus hwindow
    omega
  rw [contextWith, mapM_eq_pure hrows, pure_bind, ← List.flatMap_def]
  rfl

/-- A column that is no index number is refused where a caret is to be drawn. -/
theorem context_eq_farColumn (hfocus : HasFocus lines line margin)
    (hfar : isIndex (column - 1) = false) :
    context lines line column margin = .error .farColumn := by
  have hblanks : Pen.checked.blanks (column - 1) = .error .farColumn := if_neg (by simp [hfar])
  obtain ⟨hcount, hmargin⟩ := hasFocus_iff.1 hfocus
  have hlines : (lines.zipIdx 1).mapM
      (fun p => rowsWith .checked (max 1 line) column margin p.1 p.2) = .error .farColumn := by
    apply mapM_eq_error
    · rintro ⟨text, i⟩ -
      by_cases hi : (i : Int) = max 1 line
      · refine .inl ?_
        rw [rowsWith, if_pos (by simp only; omega), if_pos hi, hblanks]
        rfl
      · exact .inr ⟨_, rowsWith_eq_pure fun _ h => absurd h hi⟩
    · have hlt : (max 1 line).toNat - 1 < lines.length := by omega
      refine ⟨(lines[(max 1 line).toNat - 1], (max 1 line).toNat), ?_, ?_⟩
      · rw [List.mk_mem_zipIdx_iff_le_and_getElem?_sub, List.getElem?_eq_getElem hlt]
        exact ⟨by omega, rfl⟩
      · rw [rowsWith, if_pos (by simp only; omega), if_pos (by simp only; omega), hblanks]
        rfl
  rw [context, contextWith, hlines]
  rfl

end Pens

/-- A caret cannot be drawn in exactly one way, and only where one is to be drawn. -/
theorem context_cases (lines : List String) (line column margin : Int) :
    (context lines line column margin =
        .ok (Text.joinLines (contextRows lines line column margin)) ∧
      (HasFocus lines line margin →
        -9223372036854775808 ≤ column - 1 ∧ column - 1 < 9223372036854775808)) ∨
    (context lines line column margin = .error .farColumn ∧ HasFocus lines line margin ∧
      (column - 1 < -9223372036854775808 ∨ 9223372036854775808 ≤ column - 1)) := by
  by_cases h : HasFocus lines line margin ∧ isIndex (column - 1) = false
  · obtain ⟨hfocus, hfar⟩ := h
    have hrange := isIndex_iff (column - 1)
    simp only [hfar, Bool.false_eq_true, false_iff] at hrange
    exact .inr ⟨context_eq_farColumn hfocus hfar, hfocus, by omega⟩
  · have hindex : HasFocus lines line margin → isIndex (column - 1) = true := fun hfocus =>
      Bool.not_eq_false _ ▸ fun hfar => h ⟨hfocus, hfar⟩
    exact .inl ⟨contextWith_eq_pure fun hfocus => if_pos (hindex hfocus),
      fun hfocus => (isIndex_iff _).1 (hindex hfocus)⟩

theorem context_eq_ok_iff {lines : List String} {line column margin : Int} {text : String} :
    context lines line column margin = .ok text ↔
      text = Text.joinLines (contextRows lines line column margin) ∧
        (HasFocus lines line margin →
          -9223372036854775808 ≤ column - 1 ∧ column - 1 < 9223372036854775808) := by
  obtain ⟨h, hnear⟩ | ⟨h, hfocus, hfar⟩ := context_cases lines line column margin
  · rw [h]
    exact ⟨fun heq => ⟨(Except.ok.inj heq).symm, hnear⟩, fun heq => congrArg Except.ok heq.1.symm⟩
  · rw [h]
    constructor
    · intro heq
      cases heq
    · rintro ⟨-, hnear⟩
      have := hnear hfocus
      omega

theorem context_eq_error_iff {lines : List String} {line column margin : Int} {e : Misuse} :
    context lines line column margin = .error e ↔
      HasFocus lines line margin ∧
        (column - 1 < -9223372036854775808 ∨ 9223372036854775808 ≤ column - 1) ∧
        e = .farColumn := by
  obtain ⟨h, hnear⟩ | ⟨h, hfocus, hfar⟩ := context_cases lines line column margin
  · rw [h]
    constructor
    · intro heq
      cases heq
    · rintro ⟨hfocus, hfar, -⟩
      have := hnear hfocus
      omega
  · rw [h]
    exact ⟨fun heq => ⟨hfocus, hfar, (Except.error.inj heq).symm⟩,
      fun heq => congrArg Except.error heq.2.2.symm⟩

/-! ### Around a rejected character -/

theorem exists_pointsAt {s : String} {r : Rejection} (h : tokenize s = .error r) :
    ∃ c line column o, PointsAt s r c line column o := by
  obtain ⟨⟨c, p⟩, hscan, rfl⟩ := exists_scan_of_tokenize h
  obtain ⟨o, hpoints⟩ := pointsAt_of_scan hscan
  exact ⟨c, p.line, p.column, o, hpoints⟩

theorem context_of_tokenize {s : String} {r : Rejection} (h : tokenize s = .error r) :
    r.context = Text.joinLines (contextRows (Text.splitLines s) r.line r.column margin) := by
  obtain ⟨stray, -, rfl⟩ := exists_scan_of_tokenize h
  exact contextWith_eq_pure (m := Id) fun _ => rfl

/-- The rows around a rejected character: that of its line, the caret, and rows of other lines. They
are the lines of what is shown. -/
theorem PointsAt.exists_rows {s : String} {r : Rejection} {c : Char} {line column o : Nat}
    (hpoints : PointsAt s r c line column o) (h : tokenize s = .error r) :
    ∃ l before after, (Text.splitLines s)[line - 1]? = some l ∧ l.toList[column - 1]? = some c ∧
      (∀ shown ∈ before ++ after, ∃ text number, shown = row false number text) ∧
      contextRows (Text.splitLines s) r.line r.column margin =
        before ++ row true line l :: caretRow column :: after ∧
      Text.splitLines r.context = contextRows (Text.splitLines s) r.line r.column margin := by
  obtain ⟨l, hl, -, hc⟩ := hpoints.shows
  obtain ⟨before, after, hrows, hothers⟩ :=
    contextRows_of_line hpoints.line_pos hl column (show 0 ≤ margin by decide)
  rw [← hpoints.line_eq, ← hpoints.column_eq] at hrows
  refine ⟨l, before, after, hl, hc, ?_, hpoints.column_eq ▸ hrows, ?_⟩
  · intro shown hshown
    obtain ⟨text, -, number, rfl⟩ := hothers shown hshown
    exact ⟨text, number, rfl⟩
  · rw [context_of_tokenize h]
    apply Text.splitLines_joinLines
    · rw [hrows]
      simp
    · rw [hrows]
      intro shown hshown
      simp only [List.mem_append, List.mem_cons] at hshown hothers
      rcases hshown with hshown | rfl | rfl | hshown
      · obtain ⟨text, htext, number, rfl⟩ := hothers shown (.inl hshown)
        exact newline_notMem_row false number (Text.newline_notMem_of_mem_splitLines htext)
      · exact newline_notMem_row true line
          (Text.newline_notMem_of_mem_splitLines (List.mem_of_getElem? hl))
      · rw [toList_caretRow]
        exact newline_notMem_caretChars _
      · obtain ⟨text, htext, number, rfl⟩ := hothers shown (.inr hshown)
        exact newline_notMem_row false number (Text.newline_notMem_of_mem_splitLines htext)

/-- A place is not further from the start of the text than its offset. -/
theorem le_offsetOf (lines : List String) {line : Nat} (hline : line ≤ lines.length)
    (column : Nat) : line - 1 + (column - 1) ≤ offsetOf lines line column := by
  have hsum : ∀ (ls : List String) (o : Nat),
      ls.length + o ≤ ls.foldr (fun l o => l.length + 1 + o) o := by
    intro ls o
    induction ls with
    | nil => simp
    | cons l ls ih =>
      rw [List.length_cons, List.foldr_cons]
      omega
  have hbefore := hsum (lines.take (line - 1)) (column - 1)
  rw [List.length_take, Nat.min_eq_left (by omega)] at hbefore
  exact hbefore

theorem PointsAt.lt_length {s : String} {r : Rejection} {c : Char} {line column o : Nat}
    (hpoints : PointsAt s r c line column o) : line - 1 + (column - 1) < s.length := by
  have hoffset := le_offsetOf (Text.splitLines s) hpoints.line_le column
  obtain ⟨hlt, -⟩ := List.getElem?_eq_some_iff.1 hpoints.atOffset
  rw [String.length_toList] at hlt
  rw [← hpoints.offset] at hoffset
  omega

theorem isWritable_of_le {n : Nat} (h : n ≤ 9223372036854775808) :
    Text.isWritable (n : Int) = true := by
  have hlength : (Text.natural n).length ≤ 19 :=
    (Text.length_natural_le_iff (by decide) n).2 (Nat.lt_of_le_of_lt h (by decide))
  rw [Text.isWritable_iff_length, Int.natAbs_natCast]
  exact Nat.le_trans hlength (by decide)

/-- No text is so long that the column of one of its characters is no index number. -/
theorem PointsAt.context_eq_ok {s : String} {r : Rejection} {c : Char} {line column o : Nat}
    (hpoints : PointsAt s r c line column o) (h : tokenize s = .error r)
    (hlength : s.length < 9223372036854775808) :
    context (Text.splitLines s) r.line r.column margin = .ok r.context := by
  have hplace := hpoints.lt_length
  rw [context_of_tokenize h, hpoints.column_eq]
  exact context_eq_ok_iff.2 ⟨rfl, fun _ => by omega⟩

/-- **A rejected character can always be shown.** Written with a pen that may refuse, its rejection
is the same. -/
theorem PointsAt.at_eq_ok {s : String} {r : Rejection} {c : Char} {line column o : Nat}
    (hpoints : PointsAt s r c line column o) (h : tokenize s = .error r)
    (hlength : s.length < 9223372036854775808) :
    Rejection.at (String.singleton c) s line column = .ok r := by
  have hplace := hpoints.lt_length
  have hcontext := hpoints.context_eq_ok h hlength
  obtain ⟨⟨d, p⟩, hscan, rfl⟩ := exists_scan_of_tokenize h
  obtain ⟨_, hscanned⟩ := pointsAt_of_scan hscan
  obtain rfl : c = d := hpoints.char_unique hscanned
  obtain rfl : p.line = line := Int.ofNat_inj.1 hpoints.line_eq
  obtain rfl : p.column = column := Int.ofNat_inj.1 hpoints.column_eq
  have hline : Pen.checked.number p.line = .ok (Text.integer p.line) :=
    if_pos (isWritable_of_le (by omega))
  have hcolumn : Pen.checked.number p.column = .ok (Text.integer p.column) :=
    if_pos (isWritable_of_le (by omega))
  have hshown : contextWith .checked (Text.splitLines s) p.line p.column margin =
      .ok (Stray.rejection s ⟨c, p⟩).context := hcontext
  rw [Rejection.at, Rejection.write, hshown, hline, hcolumn]
  rfl

/-- The line of a rejected character is in the window around it. -/
theorem PointsAt.hasFocus {s : String} {r : Rejection} {c : Char} {line column o : Nat}
    (hpoints : PointsAt s r c line column o) : HasFocus (Text.splitLines s) r.line margin := by
  have hpos := hpoints.line_pos
  have hle := hpoints.line_le
  have hline := hpoints.line_eq
  refine ⟨line, mem_windowNumbers.2 ?_, ?_⟩
  · simp only [margin]
    omega
  · omega

/-- Among the rows of other lines, only the caret stands in a row without a number. -/
theorem countP_isCaretRow {before after : List String} {line : Nat} {l : String} {column : Int}
    (hothers : ∀ shown ∈ before ++ after, ∃ text number, shown = row false number text) :
    (before ++ row true line l :: caretRow column :: after).countP isCaretRow = 1 := by
  have hnumbered : (before ++ after).countP isCaretRow = 0 := by
    rw [List.countP_eq_zero]
    intro shown hshown
    obtain ⟨text, number, rfl⟩ := hothers shown hshown
    simp [isCaretRow_row]
  rw [List.countP_append] at hnumbered
  rw [List.countP_append, List.countP_cons_of_neg (by simp [isCaretRow_row]),
    List.countP_cons_of_pos (isCaretRow_caretRow _)]
  omega

theorem Position.after_newlines (line n : Nat) :
    Position.after ⟨line, 1⟩ (List.replicate n '\n') = ⟨line + n, 1⟩ := by
  induction n generalizing line with
  | zero => rfl
  | succ n ih =>
    rw [List.replicate_succ, Position.after_cons, Position.next_newline, ih]
    simp only [Position.mk.injEq, and_true]
    omega

/-- Empty lines before a character that does not belong: it is rejected in the line after them. -/
theorem tokenize_newlines (n : Nat) {c : Char} (hstuck : Stuck [c]) :
    tokenize (String.ofList (List.replicate n '\n' ++ [c])) =
      .error (Stray.rejection (String.ofList (List.replicate n '\n' ++ [c])) ⟨c, ⟨1 + n, 1⟩⟩) := by
  have hitems : ∀ n, Ended (List.replicate n (.blank '\n' Text.isBlank_newline)) ∧
      textOf (List.replicate n (.blank '\n' Text.isBlank_newline)) = List.replicate n '\n' := by
    intro n
    induction n with
    | zero => exact ⟨trivial, rfl⟩
    | succ n ih => exact ⟨ih.1, congrArg ('\n' :: ·) ih.2⟩
  have htext := (hitems n).2
  have hreject := tokenize_of_stuck ((hitems n).1.placed [c])
    (s := String.ofList (List.replicate n '\n' ++ [c])) (by rw [htext, String.toList_ofList]) hstuck
  rw [hreject, htext, show Position.start = ⟨1, 1⟩ from rfl, Position.after_newlines]

/-- **What is shown around a position.** It is made of the rows of the lines in the window, each
found by its number, in increasing order, and the caret stands under the line in focus, if that is
in the window. A caret can be drawn unless its column is no index number, and otherwise nothing
fails. Where a text is rejected, the offending line is in the window, so that one row is that of a
caret, and there are at most five others; and showing them does not fail. -/
theorem context_eq_window :
    (∀ (lines : List String) (line column margin : Int), ∃ groups,
      (windowNumbers lines.length (max 1 line) margin).Pairwise (· < ·) ∧
      (∀ i : Nat, i ∈ windowNumbers lines.length (max 1 line) margin ↔
        max 1 (max 1 line - margin) ≤ i ∧
          (i : Int) ≤ min (lines.length : Int) (max 1 line + margin)) ∧
      (windowNumbers lines.length (max 1 line) margin).mapM
        (rowsAt? lines (max 1 line) column) = some groups ∧
      (∀ text, context lines line column margin = .ok text ↔
        text = Text.joinLines groups.flatten ∧
          (HasFocus lines line margin →
            -9223372036854775808 ≤ column - 1 ∧ column - 1 < 9223372036854775808)) ∧
      ∀ e, context lines line column margin = .error e ↔
        HasFocus lines line margin ∧
          (column - 1 < -9223372036854775808 ∨ 9223372036854775808 ≤ column - 1) ∧
          e = .farColumn) ∧
    ∀ s r, tokenize s = .error r →
      HasFocus (Text.splitLines s) r.line margin ∧
      (windowNumbers (Text.splitLines s).length (max 1 r.line) margin).length ≤ 5 ∧
      ∃ groups, (windowNumbers (Text.splitLines s).length (max 1 r.line) margin).mapM
          (rowsAt? (Text.splitLines s) (max 1 r.line) r.column) = some groups ∧
        Text.splitLines r.context = groups.flatten ∧
        (Text.splitLines r.context).countP isCaretRow = 1 ∧
        (s.length < 9223372036854775808 →
          context (Text.splitLines s) r.line r.column margin = .ok r.context) := by
  constructor
  · intro lines line column margin
    obtain ⟨groups, hgroups, hrows⟩ := exists_groups lines line column margin
    refine ⟨groups, pairwise_windowNumbers _ _ _, fun i => mem_windowNumbers, hgroups,
      fun text => ?_, fun e => context_eq_error_iff⟩
    rw [context_eq_ok_iff, hrows]
  · intro s r h
    obtain ⟨c, line, column, o, hpoints⟩ := exists_pointsAt h
    obtain ⟨l, before, after, hl, -, hothers, hrows, hlines⟩ := hpoints.exists_rows h
    obtain ⟨groups, hgroups, hflatten⟩ :=
      exists_groups (Text.splitLines s) r.line r.column margin
    refine ⟨hpoints.hasFocus, ?_, groups, hgroups, hlines.trans hflatten, ?_,
      hpoints.context_eq_ok h⟩
    · have hlength := length_windowNumbers_le (Text.splitLines s).length (max 1 r.line) margin
      simp only [margin] at hlength ⊢
      omega
    · rw [hlines, hrows]
      exact countP_isCaretRow hothers

theorem stuck_letter : Stuck ['x'] := by
  refine ⟨by decide, by decide, [], ?_⟩
  rw [blankComments_of_ne (by decide), blankComments]

/-- A letter after three empty lines: two of them are shown, then the letter and the caret. -/
theorem context_eq_window_letter :
    ∃ r, tokenize "\n\n\nx" = .error r ∧
      r.context = "     2 | \n     3 | \n>    4 | x\n       | ^" ∧
      HasFocus (Text.splitLines "\n\n\nx") r.line margin ∧
      (Text.splitLines r.context).countP isCaretRow = 1 ∧
      context (Text.splitLines "\n\n\nx") r.line r.column margin = .ok r.context := by
  have hreject := tokenize_newlines 3 stuck_letter
  obtain ⟨hfocus, -, groups, -, -, hcaret, hshown⟩ := context_eq_window.2 _ _ hreject
  exact ⟨_, hreject, by decide, hfocus, hcaret, hshown (by decide)⟩

/-- A column so far to the left that its distance from the first is no index number. -/
theorem context_far_column :
    context ["a"] 1 (-9223372036854775808) margin = .error .farColumn ∧
      ¬ ∀ lines line column margin, ∃ text, context lines line column margin = .ok text := by
  have hfar : context ["a"] 1 (-9223372036854775808) margin = .error .farColumn := rfl
  refine ⟨hfar, fun hall => ?_⟩
  obtain ⟨text, htext⟩ := hall ["a"] 1 (-9223372036854775808) margin
  cases hfar.symm.trans htext

end MarkTape.Source
