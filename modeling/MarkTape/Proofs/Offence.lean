import MarkTape.Proofs.Grammar

/-!
# Where a text is rejected

A text that is rejected is a row of items up to the first character that starts none, and the
rejection names the line and the column of that character in the text as it was given. The place
is counted while scanning what blanking has left; since blanking moves no character, it is also
the place in the lines of the text itself.

* `offsetOf`: the offset of a line and a column;
* `exists_line_column`: the place after some characters is the line and the column of the
  character that follows them;
* `Ended`: every line comment of a row of items is ended by a newline of the row;
* `tokenize_of_stuck`, `exists_stuck_of_tokenize`: the rejection of a row of items before a
  character that starts none;
* `PointsAt`, `Offends`: what a rejection says about its character;
* `tokenize_eq_error_points`: every rejection points at the first character that does not belong;
* `Rejects`, `rejects_iff_scan`: a text is rejected for a character at its place, and scanning stops
  there.
-/

namespace MarkTape.Source

/-! ### Lines, columns and offsets -/

/-- The offset of a line and a column, both from one: the lines before, each with its newline, and
the columns before. -/
def offsetOf (lines : List String) (line column : Nat) : Nat :=
  (lines.take (line - 1)).foldr (fun l o => l.length + 1 + o) (column - 1)

theorem Position.next_newline (p : Position) : p.next '\n' = ⟨p.line + 1, 1⟩ := rfl

theorem Position.next_of_ne (p : Position) {c : Char} (hc : c ≠ '\n') :
    p.next c = ⟨p.line, p.column + 1⟩ := if_neg hc

theorem Position.after_cons (p : Position) (c : Char) (cs : List Char) :
    p.after (c :: cs) = (p.next c).after cs := rfl

/-- The place after `cs` is that of the character `c` that follows: `k` lines down, and `j`
columns from the start of its line, or from where the first line was entered. -/
theorem exists_line_column {c : Char} (hc : c ≠ '\n') (p : Position) (cs rest : List Char) :
    ∃ k j l, p.after cs = ⟨p.line + k, (if k = 0 then p.column else 1) + j⟩ ∧
      ((cs ++ c :: rest).splitOn '\n')[k]? = some l ∧ l[j]? = some c ∧
      (((cs ++ c :: rest).splitOn '\n').take k).foldr (fun l o => l.length + 1 + o) j =
        cs.length := by
  induction cs generalizing p with
  | nil =>
    obtain ⟨l, ls, hls⟩ := List.exists_cons_of_ne_nil (List.splitOn_ne_nil '\n' rest)
    refine ⟨0, 0, c :: l, rfl, ?_, rfl, rfl⟩
    simp [List.splitOn_cons_eq_if_modifyHead, hc, hls]
  | cons d cs ih =>
    obtain ⟨k, j, l, hp, hl, hj, hoffset⟩ := ih (p.next d)
    obtain ⟨top, ls, hls⟩ :=
      List.exists_cons_of_ne_nil (List.splitOn_ne_nil '\n' (cs ++ c :: rest))
    rw [hls] at hl hoffset
    by_cases hd : d = '\n'
    · -- a newline puts an empty line in front
      have hcut : ((d :: cs) ++ c :: rest).splitOn '\n' = [] :: top :: ls := by
        rw [List.cons_append, List.splitOn_cons_eq_if_modifyHead, hls, if_pos (by simp [hd])]
      rw [hcut]
      refine ⟨k + 1, j, l, ?_, hl, hj, ?_⟩
      · rw [Position.after_cons, hp, hd, Position.next_newline, ite_self,
          if_neg (Nat.succ_ne_zero k), Nat.add_assoc, Nat.add_comm 1 k]
      · rw [List.take_succ_cons, List.foldr_cons, hoffset, List.length_nil, List.length_cons]
        omega
    · -- any other character makes the first line longer
      have hcut : ((d :: cs) ++ c :: rest).splitOn '\n' = (d :: top) :: ls := by
        rw [List.cons_append, List.splitOn_cons_eq_if_modifyHead, hls, if_neg (by simp [hd]),
          List.modifyHead_cons]
      rw [hcut]
      cases k with
      | zero =>
        cases hl
        refine ⟨0, j + 1, d :: l, ?_, rfl, hj, ?_⟩
        · rw [Position.after_cons, hp, Position.next_of_ne p hd, if_pos rfl, if_pos rfl,
            Nat.add_right_comm, Nat.add_assoc]
        · rw [List.length_cons, ← hoffset]
          rfl
      | succ k =>
        refine ⟨k + 1, j, l, ?_, hl, hj, ?_⟩
        · rw [Position.after_cons, hp, Position.next_of_ne p hd, if_neg (Nat.succ_ne_zero k),
            if_neg (Nat.succ_ne_zero k)]
        · rw [List.take_succ_cons, List.foldr_cons] at hoffset ⊢
          rw [List.length_cons, List.length_cons, ← hoffset]
          omega

/-! ### The row of items before a rejected character -/

/-- Every line comment of the row is ended by a newline of the row. -/
def Ended : List Item → Prop
  | [] => True
  | .line _ _ :: items => (∃ cs, textOf items = '\n' :: cs) ∧ Ended items
  | _ :: items => Ended items

theorem Ended.placed {items : List Item} (h : Ended items) (rest : List Char) :
    Placed items rest := by
  induction items with
  | nil => trivial
  | cons i items ih =>
    cases i with
    | blank c hc => exact ⟨trivial, ih h⟩
    | operator x hx => exact ⟨trivial, ih h⟩
    | line body hbody =>
      obtain ⟨⟨cs, hcs⟩, hitems⟩ := h
      exact ⟨.inr ⟨cs ++ rest, by rw [hcs]; rfl⟩, ih hitems⟩
    | block body hbody => exact ⟨trivial, ih h⟩

theorem ended_of_placed {items : List Item} {c : Char} {rest : List Char} (hc : c ≠ '\n')
    (h : Placed items (c :: rest)) : Ended items := by
  induction items with
  | nil => trivial
  | cons i items ih =>
    obtain ⟨hi, hitems⟩ := h
    cases i with
    | blank d hd => exact ih hitems
    | operator x hx => exact ih hitems
    | line body hbody =>
      refine ⟨?_, ih hitems⟩
      -- the comment reaches up to a newline, and that is not the character after the row
      cases htext : textOf items with
      | nil =>
        rw [htext] at hi
        rcases hi with hi | ⟨cs, hi⟩
        · cases hi
        · cases hi
          exact absurd rfl hc
      | cons d cs =>
        rw [htext] at hi
        rcases hi with hi | ⟨ds, hi⟩
        · cases hi
        · cases hi
          exact ⟨cs, rfl⟩
    | block body hbody => exact ih hitems

theorem Stuck.ne_newline {c : Char} {rest : List Char} (h : Stuck (c :: rest)) : c ≠ '\n' := by
  rintro rfl
  exact absurd h.1 (by simp)

theorem Stuck.notMem_operators {c : Char} {rest : List Char} (h : Stuck (c :: rest)) :
    c ∉ ['<', '>', '+', '-'] := by
  intro hmem
  have hop := h.2.1
  simp only [List.mem_cons, List.not_mem_nil, or_false] at hmem
  rcases hmem with rfl | rfl | rfl | rfl <;> cases hop

/-- No item starts at a character that is stuck. -/
theorem Stuck.not_text_isPrefix {c : Char} {rest : List Char} (h : Stuck (c :: rest)) (i : Item) :
    ¬ i.text <+: c :: rest := by
  rintro ⟨tail, htail⟩
  obtain ⟨hblank, hop, ds, hds⟩ := h
  rw [← htail] at hds
  cases i with
  | blank d hd =>
    cases htail
    rw [hd] at hblank
    cases hblank
  | operator x hx =>
    cases htail
    rw [operator?_symbol hx] at hop
    cases hop
  | line body hbody =>
    cases htail
    rw [Item.text, List.cons_append, List.cons_append, blankComments] at hds
    cases hds
  | block body hbody =>
    cases htail
    have htext : (Item.block body hbody).text ++ tail =
        '/' :: '*' :: (body ++ '*' :: '/' :: tail) := by
      simp [Item.text]
    rw [htext, blankComments_block hbody] at hds
    cases hds

/-! ### Rejections -/

/-- A row of items before a character that starts none is rejected at that character. -/
theorem tokenize_of_stuck {s : String} {items : List Item} {c : Char} {rest : List Char}
    (hplaced : Placed items (c :: rest)) (htext : textOf items ++ c :: rest = s.toList)
    (hstuck : Stuck (c :: rest)) :
    tokenize s = .error (Stray.rejection s ⟨c, Position.start.after (textOf items)⟩) := by
  rw [tokenize, ← htext, scan_blankComments_items hplaced, scan_of_stuck hstuck]
  rfl

/-- Every rejection is of that form. -/
theorem exists_stuck_of_tokenize {s : String} {r : Rejection} (h : tokenize s = .error r) :
    ∃ items c rest, Placed items (c :: rest) ∧ textOf items ++ c :: rest = s.toList ∧
      Stuck (c :: rest) ∧ r = Stray.rejection s ⟨c, Position.start.after (textOf items)⟩ := by
  obtain ⟨items, rest, hplaced, htext, hstuck⟩ := exists_items s.toList
  cases rest with
  | nil =>
    rw [List.append_nil] at htext
    rw [tokenize, ← htext, scan_blankComments_textOf hplaced] at h
    cases h
  | cons c rest =>
    rw [tokenize_of_stuck hplaced htext hstuck] at h
    exact ⟨items, c, rest, hplaced, htext, hstuck, (Except.error.inj h).symm⟩

/-- The rejection `r` of `s` names the character `c`, and it names the place in the lines of `s`
where `c` stands; `o` is the offset of that place. -/
structure PointsAt (s : String) (r : Rejection) (c : Char) (line column o : Nat) : Prop where
  line_eq : r.line = line
  column_eq : r.column = column
  line_pos : 1 ≤ line
  line_le : line ≤ (Text.splitLines s).length
  column_pos : 1 ≤ column
  shows : ∃ l, (Text.splitLines s)[line - 1]? = some l ∧ column ≤ l.length ∧
    l.toList[column - 1]? = some c
  offset : o = offsetOf (Text.splitLines s) line column
  atOffset : s.toList[o]? = some c
  quotes : ∃ shown, r.message = "LexicalRejection: unexpected character " ++
    Text.quote (String.singleton c) ++ " (line " ++ Text.natural line ++ ", column " ++
    Text.natural column ++ ")\n" ++ shown

/-- The character `c` at the offset `o` of `s` does not belong, and it is the first: what stands
before it is a row of items, and no item starts there. -/
structure Offends (s : String) (c : Char) (o : Nat) : Prop where
  notBlank : Text.isBlank c = false
  notOperator : c ∉ ['<', '>', '+', '-']
  items : ∃ items, Ended items ∧ textOf items = s.toList.take o
  noItem : ∀ i : Item, ¬ i.text <+: s.toList.drop o

/-- Offsets in a text, with its lines as they are cut. -/
theorem offsetOf_splitLines (s : String) (k j : Nat) :
    offsetOf (Text.splitLines s) (1 + k) (1 + j) =
      ((s.toList.splitOn '\n').take k).foldr (fun l o => l.length + 1 + o) j := by
  rw [offsetOf, Nat.add_sub_cancel_left, Nat.add_sub_cancel_left, Text.splitLines, ← List.map_take,
    List.foldr_map]
  simp only [String.length_ofList]

theorem pointsAt_rejection {s : String} {cs rest : List Char} {c : Char} (hc : c ≠ '\n')
    (htext : cs ++ c :: rest = s.toList) :
    ∃ line column,
      PointsAt s (Stray.rejection s ⟨c, Position.start.after cs⟩) c line column cs.length := by
  obtain ⟨k, j, l, hp, hl, hj, hoffset⟩ := exists_line_column hc .start cs rest
  rw [htext] at hl hoffset
  have hplace : Position.start.after cs = ⟨1 + k, 1 + j⟩ := by
    rw [hp, show Position.start.column = 1 from rfl, ite_self]
    rfl
  have hlines : (Text.splitLines s)[k]? = some (String.ofList l) := by
    rw [Text.splitLines, List.getElem?_map, hl]
    rfl
  have hk : k < (Text.splitLines s).length := (List.getElem?_eq_some_iff.1 hlines).1
  have hjl : j < l.length := (List.getElem?_eq_some_iff.1 hj).1
  rw [hplace]
  refine ⟨1 + k, 1 + j, ⟨rfl, rfl, by omega, by omega, by omega, ⟨String.ofList l, ?_, ?_, ?_⟩,
    ?_, ?_, _, String.append_assoc⟩⟩
  · rw [Nat.add_sub_cancel_left, hlines]
  · rw [String.length_ofList]
    omega
  · rw [String.toList_ofList, Nat.add_sub_cancel_left, hj]
  · rw [offsetOf_splitLines, hoffset]
  · rw [← htext, List.getElem?_append_right (Nat.le_refl _), Nat.sub_self]
    rfl

/-- A rejection has one place only. -/
theorem PointsAt.offset_unique {s : String} {r : Rejection} {c c' : Char}
    {line column o line' column' o' : Nat} (h : PointsAt s r c line column o)
    (h' : PointsAt s r c' line' column' o') : o = o' := by
  have hline : line = line' := Int.ofNat_inj.1 (h.line_eq.symm.trans h'.line_eq)
  have hcolumn : column = column' := Int.ofNat_inj.1 (h.column_eq.symm.trans h'.column_eq)
  rw [h.offset, h'.offset, hline, hcolumn]

/-- A row of items at the front of a rejected text ends before the character that is named. -/
theorem PointsAt.length_textOf_le {s : String} {r : Rejection} {c : Char} {line column o : Nat}
    (h : PointsAt s r c line column o) (hr : tokenize s = .error r) {items : List Item}
    {rest : List Char} (hplaced : Placed items rest) (htext : textOf items ++ rest = s.toList) :
    (textOf items).length ≤ o := by
  -- the row goes on up to the end, which is impossible, or up to the character that is named
  obtain ⟨more, tail, hmore, hrest, hstuck⟩ := exists_items rest
  subst hrest
  have hall : Placed (items ++ more) tail := hplaced.append hmore
  rw [← List.append_assoc, ← textOf_append] at htext
  cases tail with
  | nil =>
    rw [List.append_nil] at htext
    rw [tokenize, ← htext, scan_blankComments_textOf hall] at hr
    cases hr
  | cons d tail =>
    rw [tokenize_of_stuck hall htext hstuck] at hr
    cases hr
    obtain ⟨line', column', hpoints⟩ := pointsAt_rejection hstuck.ne_newline htext
    rw [h.offset_unique hpoints, textOf_append, List.length_append]
    exact Nat.le_add_right _ _

/-- **Where a text is rejected.** A rejection points at the first character of the text that does
not belong: it stands at the line and column that are named, what stands before it is a row of
items, and no item starts at it. A row of items at the front of the text, with all its comments,
lies before it. And an opener that is never closed is rejected at its first character, wherever
it stands after a row of items and whatever follows it. -/
theorem tokenize_eq_error_points (s : String) :
    (∀ r, tokenize s = .error r → ∃ c line column o,
      PointsAt s r c line column o ∧ Offends s c o ∧
      ∀ items rest, Placed items rest → textOf items ++ rest = s.toList →
        (textOf items).length ≤ o) ∧
    ∀ items rest, Ended items → ¬ ['*', '/'] <:+: rest →
      textOf items ++ '/' :: '*' :: rest = s.toList →
      ∃ r line column, tokenize s = .error r ∧
        PointsAt s r '/' line column (textOf items).length := by
  constructor
  · intro r hr
    obtain ⟨items, c, rest, hplaced, htext, hstuck, rfl⟩ := exists_stuck_of_tokenize hr
    obtain ⟨line, column, hpoints⟩ := pointsAt_rejection hstuck.ne_newline htext
    have htake : s.toList.take (textOf items).length = textOf items := by
      rw [← htext, List.take_left]
    have hdrop : s.toList.drop (textOf items).length = c :: rest := by
      rw [← htext, List.drop_left]
    refine ⟨c, line, column, (textOf items).length, hpoints, ?_, ?_⟩
    · exact
        { notBlank := hstuck.1
          notOperator := hstuck.notMem_operators
          items := ⟨items, ended_of_placed hstuck.ne_newline hplaced, htake.symm⟩
          noItem := by rw [hdrop]; exact hstuck.not_text_isPrefix }
    · intro items' rest' hplaced' htext'
      exact hpoints.length_textOf_le hr hplaced' htext'
  · intro items rest hended hopen htext
    have hstuck : Stuck ('/' :: '*' :: rest) :=
      stuck_of_splitClose?_eq_none (splitClose?_eq_none hopen)
    obtain ⟨line, column, hpoints⟩ := pointsAt_rejection hstuck.ne_newline htext
    exact ⟨_, line, column, tokenize_of_stuck (hended.placed _) htext hstuck, hpoints⟩

/-- A block comment over two lines, a line comment right behind it, and an opener on the third line
that is never closed: the rejection is at the opener, at offset eleven. -/
theorem tokenize_eq_error_points_unclosed :
    ∃ r line column c, tokenize "+/*a\n*///*\n/*<" = .error r ∧ r.line = 3 ∧ r.column = 1 ∧
      PointsAt "+/*a\n*///*\n/*<" r '/' line column 11 ∧ Offends "+/*a\n*///*\n/*<" c 11 := by
  obtain ⟨items, hended, hitems⟩ :
      ∃ items, Ended items ∧ textOf items = "+/*a\n*///*\n".toList :=
    ⟨[.operator .inc rfl, .block ['a', '\n'] (by decide), .line ['*'] (by decide),
      .blank '\n' (by decide)], ⟨⟨[], rfl⟩, trivial⟩, by decide⟩
  have htext : textOf items ++ ['/', '*', '<'] = "+/*a\n*///*\n/*<".toList := by
    rw [hitems]
    decide
  obtain ⟨r, line, column, hr, hpoints⟩ :=
    (tokenize_eq_error_points "+/*a\n*///*\n/*<").2 items ['<'] hended (by decide) htext
  obtain ⟨c, _, _, o, hpoints', hoffends, -⟩ :=
    (tokenize_eq_error_points "+/*a\n*///*\n/*<").1 r hr
  rw [hpoints'.offset_unique hpoints] at hoffends
  have hplace := tokenize_of_stuck (hended.placed _) htext (stuck_of_splitClose?_eq_none rfl)
  rw [hitems] at hpoints hoffends hplace
  refine ⟨r, line, column, c, hr, ?_, ?_, hpoints, hoffends⟩
  all_goals
    rw [hr] at hplace
    cases hplace
    rfl

/-! ### The character a text is rejected for -/

/-- The text `s` is rejected for the character `c` at a line and a column. -/
def Rejects (s : String) (c : Char) (line column : Nat) : Prop :=
  ∃ r o, tokenize s = .error r ∧ PointsAt s r c line column o

/-- A rejection is of the character at which scanning stops. -/
theorem exists_scan_of_tokenize {s : String} {r : Rejection} (h : tokenize s = .error r) :
    ∃ stray, scan .start (blankComments s.toList) = .error stray ∧ r = stray.rejection s := by
  unfold tokenize at h
  cases hscan : scan .start (blankComments s.toList) with
  | error stray =>
    rw [hscan] at h
    cases h
    exact ⟨stray, rfl, rfl⟩
  | ok ts =>
    rw [hscan] at h
    cases h

/-- The character at which scanning stops stands in the text at the place where it stops. -/
theorem pointsAt_of_scan {s : String} {c : Char} {p : Position}
    (h : scan .start (blankComments s.toList) = .error ⟨c, p⟩) :
    ∃ o, PointsAt s (Stray.rejection s ⟨c, p⟩) c p.line p.column o := by
  obtain ⟨items, rest, hplaced, htext, hstuck⟩ := exists_items s.toList
  rw [← htext, scan_blankComments_items hplaced] at h
  cases rest with
  | nil =>
    rw [blankComments, scan] at h
    cases h
  | cons d rest =>
    rw [scan_of_stuck hstuck] at h
    cases h
    obtain ⟨line, column, hpoints⟩ := pointsAt_rejection hstuck.ne_newline htext
    have hline : (Position.start.after (textOf items)).line = line :=
      Int.ofNat_inj.1 hpoints.line_eq
    have hcolumn : (Position.start.after (textOf items)).column = column :=
      Int.ofNat_inj.1 hpoints.column_eq
    rw [hline, hcolumn]
    exact ⟨_, hpoints⟩

/-- A rejection names one character only. -/
theorem PointsAt.char_unique {s : String} {r : Rejection} {c c' : Char}
    {line column o line' column' o' : Nat} (h : PointsAt s r c line column o)
    (h' : PointsAt s r c' line' column' o') : c = c' := by
  have hc := h.atOffset
  rw [h.offset_unique h', h'.atOffset] at hc
  exact (Option.some.inj hc).symm

/-- **Where scanning stops.** A text is rejected for the character at which scanning stops, at the
place where it stops, and for no other. -/
theorem rejects_iff_scan {s : String} {c : Char} {line column : Nat} :
    Rejects s c line column ↔
      scan .start (blankComments s.toList) = .error ⟨c, ⟨line, column⟩⟩ := by
  constructor
  · rintro ⟨r, o, hr, hpoints⟩
    obtain ⟨⟨d, p⟩, hscan, rfl⟩ := exists_scan_of_tokenize hr
    obtain ⟨o', hpoints'⟩ := pointsAt_of_scan hscan
    have hline : p.line = line := Int.ofNat_inj.1 hpoints.line_eq
    have hcolumn : p.column = column := Int.ofNat_inj.1 hpoints.column_eq
    rw [hscan, hpoints.char_unique hpoints', ← hline, ← hcolumn]
  · intro hscan
    obtain ⟨o, hpoints⟩ := pointsAt_of_scan hscan
    refine ⟨_, o, ?_, hpoints⟩
    rw [tokenize, hscan]
    rfl

theorem exists_rejects_of_tokenize {s : String} {r : Rejection} (h : tokenize s = .error r) :
    ∃ c line column, Rejects s c line column := by
  obtain ⟨⟨c, p⟩, hscan, -⟩ := exists_scan_of_tokenize h
  exact ⟨c, p.line, p.column, rejects_iff_scan.2 hscan⟩

end MarkTape.Source
